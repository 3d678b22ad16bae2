import Mathlib.Data.String.Basic
import TextQuest.Proofs.Text.Utf8

namespace TextQuest.Text

theorem byte_lt_byte {m n : Nat} (small : m < 256) (other : n < 256) :
    UInt8.ofNat m < UInt8.ofNat n ↔ m < n := by
  rw [UInt8.lt_iff_toNat_lt, UInt8.toNat_ofNat', UInt8.toNat_ofNat', Nat.mod_eq_of_lt small,
    Nat.mod_eq_of_lt other]

/-! ## The bytes of a character -/

def following (code : Nat) : Nat :=
  if code ≤ 0x7f then 0 else if code ≤ 0x7ff then 1 else if code ≤ 0xffff then 2 else 3

def leadMark : Nat → Nat
  | 0 => 0
  | 1 => 0xc0
  | 2 => 0xe0
  | _ => 0xf0

def leadOf (code : Nat) : Nat := code / 64 ^ following code + leadMark (following code)

def digitBytes : Nat → Nat → List UInt8
  | 0, _ => []
  | k + 1, code => UInt8.ofNat (code / 64 ^ k % 64 + 128) :: digitBytes k code

theorem utf8EncodeChar_eq (c : Char) :
    String.utf8EncodeChar c = UInt8.ofNat (leadOf c.toNat) :: digitBytes (following c.toNat) c.toNat := by
  have valid : c.toNat < 0xd800 ∨ 0xdfff < c.toNat ∧ c.toNat < 0x110000 := c.valid
  have value : c.val.toNat = c.toNat := rfl
  generalize c.toNat = code at valid value
  simp only [String.utf8EncodeChar, value, leadOf, following]
  split
  · simp [leadMark, digitBytes]
  split
  · have lead : code / 64 % 32 = code / 64 := by omega
    simp [leadMark, digitBytes, lead]
  split
  · have lead : code / 4096 % 16 = code / 4096 := by omega
    simp [leadMark, digitBytes, lead]
  · have lead : code / 262144 % 8 = code / 262144 := by omega
    simp [leadMark, digitBytes, lead]

theorem leadOf_lt {code other : Nat} (less : code < other) (most : other < 0x110000) :
    following code < following other ∧ leadOf code < leadOf other ∨
      following code = following other ∧ leadOf code ≤ leadOf other := by
  unfold leadOf following
  (repeat' split) <;> simp [leadMark] <;> omega

theorem digitBytes_lt {k code other : Nat} (same : code / 64 ^ k = other / 64 ^ k) (less : code < other)
    (rest later : List UInt8) : digitBytes k code ++ rest < digitBytes k other ++ later := by
  induction k with
  | zero =>
    simp at same
    omega
  | succ k ih =>
    have higher (n : Nat) : n / 64 ^ (k + 1) = n / 64 ^ k / 64 := by
      rw [pow_succ, Nat.div_div_eq_div_mul]
    rw [higher, higher] at same
    have ordered : code / 64 ^ k ≤ other / 64 ^ k := Nat.div_le_div_right less.le
    rw [digitBytes, digitBytes, List.cons_append, List.cons_append, List.cons_lt_cons_iff]
    by_cases equal : code / 64 ^ k = other / 64 ^ k
    · exact .inr ⟨by rw [equal], ih equal⟩
    · left
      rw [byte_lt_byte (by omega) (by omega)]
      omega

theorem leadOf_small {code : Nat} (most : code < 0x110000) : leadOf code < 256 := by
  unfold leadOf following
  (repeat' split) <;> simp [leadMark] <;> omega

theorem utf8EncodeChar_lt {c d : Char} (less : c < d) (rest later : List UInt8) :
    String.utf8EncodeChar c ++ rest < String.utf8EncodeChar d ++ later := by
  have codes : c.toNat < d.toNat := less
  have most : d.toNat < 0x110000 := by
    have valid : d.toNat < 0xd800 ∨ 0xdfff < d.toNat ∧ d.toNat < 0x110000 := d.valid
    omega
  rw [utf8EncodeChar_eq, utf8EncodeChar_eq, List.cons_append, List.cons_append, List.cons_lt_cons_iff,
    byte_lt_byte (leadOf_small (codes.trans most)) (leadOf_small most)]
  rcases leadOf_lt codes most with ⟨-, first⟩ | ⟨length, first⟩
  · exact .inl first
  · rcases first.lt_or_eq with first | first
    · exact .inl first
    · right
      refine ⟨by rw [first], ?_⟩
      have same : c.toNat / 64 ^ following c.toNat = d.toNat / 64 ^ following d.toNat := by
        simp only [leadOf, length] at first
        rw [length]
        omega
      rw [length] at same ⊢
      exact digitBytes_lt same codes rest later

/-! ## The bytes of a text -/

theorem encode_lt_encode {s t : String} (less : s < t) : encode s < encode t := by
  rw [encode_eq_flatMap, encode_eq_flatMap]
  have chars : List.Lex (· < ·) s.toList t.toList := String.lt_iff_toList_lt.mp less
  generalize s.toList = before at chars ⊢
  generalize t.toList = after at chars ⊢
  induction chars with
  | @nil d later =>
    rw [List.flatMap_nil, List.flatMap_cons, utf8EncodeChar_eq]
    exact List.nil_lt_cons _ _
  | @rel c rest d later less =>
    rw [List.flatMap_cons, List.flatMap_cons]
    exact utf8EncodeChar_lt less _ _
  | @cons c rest later _ ih =>
    rw [List.flatMap_cons, List.flatMap_cons]
    exact List.append_left_lt ih

end TextQuest.Text
