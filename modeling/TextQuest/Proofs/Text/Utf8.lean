import Mathlib.Tactic.IntervalCases
import TextQuest.Text.Utf8

namespace TextQuest.Text

/-! ## The bytes of a text -/

theorem toList_loop (bytes : ByteArray) (i : Nat) (seen : List UInt8) :
    ByteArray.toList.loop bytes i seen = seen.reverse ++ bytes.data.toList.drop i := by
  fun_induction ByteArray.toList.loop bytes i seen with
  | case1 i seen within ih =>
    have inside : i < bytes.data.toList.length := by simpa using within
    rw [ih, List.drop_eq_getElem_cons inside]
    simp [ByteArray.get!, within]
  | case2 i seen past =>
    have outside : bytes.data.toList.length ≤ i := by simpa using past
    simp [List.drop_eq_nil_of_le outside]

theorem encode_eq_flatMap (s : String) : encode s = s.toList.flatMap String.utf8EncodeChar := by
  have bytes : s.toUTF8 = (s.toList.flatMap String.utf8EncodeChar).toByteArray :=
    String.utf8Encode_toList.symm
  rw [encode, bytes, ByteArray.toList, toList_loop]
  simp

theorem encode_append (s t : String) : encode (s ++ t) = encode s ++ encode t := by
  simp [encode_eq_flatMap, String.toList_append]

/-! ## Characters -/

theorem unitsFrom_ascii {n : Nat} (ascii : n ≤ 127) (rest : List UInt8) :
    unitsFrom none (UInt8.ofNat n :: rest) = some (Char.ofNat n) :: unitsFrom none rest := by
  have value : (UInt8.ofNat n).toNat = n := by simp; omega
  have small : UInt8.ofNat n < 0x80 := by rw [UInt8.lt_iff_toNat_lt, value]; exact Nat.lt_succ_of_le ascii
  simp [unitsFrom, readByte, readLead, small, value]

theorem unitsFrom_lead {byte : UInt8} {part : PartialChar} (high : ¬byte < 0x80)
    (leads : PartialChar.ofLead? byte = some part) (rest : List UInt8) :
    unitsFrom none (byte :: rest) = unitsFrom (some part) rest := by
  simp [unitsFrom, readByte, readLead, high, leads]

theorem unitsFrom_more {part : PartialChar} {n : Nat} (low : part.low.toNat ≤ n % 64 + 128)
    (high : n % 64 + 128 ≤ part.high.toNat) (more : 1 < part.missing) (rest : List UInt8) :
    unitsFrom (some part) (UInt8.ofNat (n % 64 + 128) :: rest) =
      unitsFrom (some ⟨part.code * 64 + n % 64, part.missing - 1, 0x80, 0xbf⟩) rest := by
  have value : (UInt8.ofNat (n % 64 + 128)).toNat = n % 64 + 128 := by simp; omega
  have within : part.low ≤ UInt8.ofNat (n % 64 + 128) ∧ UInt8.ofNat (n % 64 + 128) ≤ part.high := by
    rw [UInt8.le_iff_toNat_le, UInt8.le_iff_toNat_le, value]
    exact ⟨low, high⟩
  have digit : (n % 64 + 128) % 64 = n % 64 := by omega
  simp only [unitsFrom, readByte, within, and_self, if_true, Nat.not_le.mpr more, if_false, value, digit,
    List.nil_append]

theorem unitsFrom_last {part : PartialChar} {n : Nat} (low : part.low.toNat ≤ n % 64 + 128)
    (high : n % 64 + 128 ≤ part.high.toNat) (last : part.missing ≤ 1) (rest : List UInt8) :
    unitsFrom (some part) (UInt8.ofNat (n % 64 + 128) :: rest) =
      some (Char.ofNat (part.code * 64 + n % 64)) :: unitsFrom none rest := by
  have value : (UInt8.ofNat (n % 64 + 128)).toNat = n % 64 + 128 := by simp; omega
  have within : part.low ≤ UInt8.ofNat (n % 64 + 128) ∧ UInt8.ofNat (n % 64 + 128) ≤ part.high := by
    rw [UInt8.le_iff_toNat_le, UInt8.le_iff_toNat_le, value]
    exact ⟨low, high⟩
  have digit : (n % 64 + 128) % 64 = n % 64 := by omega
  simp only [unitsFrom, readByte, within, and_self, if_true, last, value, digit, List.cons_append,
    List.nil_append]

theorem ofLead?_two {n : Nat} (least : 2 ≤ n) (most : n < 32) :
    ¬UInt8.ofNat (n + 192) < 0x80 ∧
      PartialChar.ofLead? (UInt8.ofNat (n + 192)) = some ⟨n, 1, 0x80, 0xbf⟩ := by
  interval_cases n <;> exact ⟨by decide, rfl⟩

theorem ofLead?_three {n : Nat} (most : n < 16) :
    ¬UInt8.ofNat (n + 224) < 0x80 ∧
      PartialChar.ofLead? (UInt8.ofNat (n + 224)) =
        some ⟨n, 2, if n = 0 then 0xa0 else 0x80, if n = 13 then 0x9f else 0xbf⟩ := by
  interval_cases n <;> exact ⟨by decide, rfl⟩

theorem ofLead?_four {n : Nat} (most : n ≤ 4) :
    ¬UInt8.ofNat (n + 240) < 0x80 ∧
      PartialChar.ofLead? (UInt8.ofNat (n + 240)) =
        some ⟨n, 3, if n = 0 then 0x90 else 0x80, if n = 4 then 0x8f else 0xbf⟩ := by
  interval_cases n <;> exact ⟨by decide, rfl⟩

theorem unitsFrom_char (c : Char) (rest : List UInt8) :
    unitsFrom none (String.utf8EncodeChar c ++ rest) = some c :: unitsFrom none rest := by
  have valid : c.toNat < 0xd800 ∨ 0xdfff < c.toNat ∧ c.toNat < 0x110000 := c.valid
  have char : Char.ofNat c.toNat = c := Char.ofNat_toNat c
  have value : c.val.toNat = c.toNat := rfl
  generalize c.toNat = v at valid char value
  simp only [String.utf8EncodeChar, value]
  split
  · rename_i small
    rw [List.singleton_append, unitsFrom_ascii small, char]
  split
  · have lead : v / 64 % 32 = v / 64 := by omega
    obtain ⟨high, leads⟩ := ofLead?_two (n := v / 64) (by omega) (by omega)
    have joined : v / 64 * 64 + v % 64 = v := by omega
    rw [lead, List.cons_append, List.singleton_append, unitsFrom_lead high leads,
      unitsFrom_last (Nat.le_add_left _ _) (by simp; omega) (Nat.le_refl _), joined, char]
  split
  · have lead : v / 4096 % 16 = v / 4096 := by omega
    obtain ⟨high, leads⟩ := ofLead?_three (n := v / 4096) (by omega)
    have joined : (v / 4096 * 64 + v / 64 % 64) * 64 + v % 64 = v := by omega
    -- Bounds of the second byte keep out overlong forms and surrogates.
    have atLeast : (if v / 4096 = 0 then 0xa0 else 0x80 : UInt8).toNat ≤ v / 64 % 64 + 128 := by
      split <;> simp only [UInt8.reduceToNat] <;> omega
    have atMost : v / 64 % 64 + 128 ≤ (if v / 4096 = 13 then 0x9f else 0xbf : UInt8).toNat := by
      split <;> simp only [UInt8.reduceToNat] <;> omega
    rw [lead, List.cons_append, List.cons_append, List.singleton_append, unitsFrom_lead high leads,
      unitsFrom_more atLeast atMost (Nat.lt_succ_self 1),
      unitsFrom_last (Nat.le_add_left _ _) (by simp; omega) (Nat.le_refl _), joined, char]
  · have lead : v / 262144 % 8 = v / 262144 := by omega
    obtain ⟨high, leads⟩ := ofLead?_four (n := v / 262144) (by omega)
    have joined :
        ((v / 262144 * 64 + v / 4096 % 64) * 64 + v / 64 % 64) * 64 + v % 64 = v := by omega
    have atLeast : (if v / 262144 = 0 then 0x90 else 0x80 : UInt8).toNat ≤ v / 4096 % 64 + 128 := by
      split <;> simp only [UInt8.reduceToNat] <;> omega
    have atMost : v / 4096 % 64 + 128 ≤ (if v / 262144 = 4 then 0x8f else 0xbf : UInt8).toNat := by
      split <;> simp only [UInt8.reduceToNat] <;> omega
    rw [lead, List.cons_append, List.cons_append, List.cons_append, List.singleton_append,
      unitsFrom_lead high leads, unitsFrom_more atLeast atMost (by simp),
      unitsFrom_more (Nat.le_add_left _ _) (by simp; omega) (by simp),
      unitsFrom_last (Nat.le_add_left _ _) (by simp; omega) (by simp), joined, char]

theorem unitsFrom_chars (cs : List Char) :
    unitsFrom none (cs.flatMap String.utf8EncodeChar) = cs.map some := by
  induction cs with
  | nil => rfl
  | cons c rest ih => rw [List.flatMap_cons, unitsFrom_char, ih, List.map_cons]

theorem decode?_encode (s : String) : decode? (encode s) = some s.toList := by
  have whole (cs : List Char) : (cs.map some).mapM id = some cs := by
    induction cs with
    | nil => rfl
    | cons c rest ih => simp [ih]
  rw [decode?, encode_eq_flatMap, unitsFrom_chars, whole]

theorem mem_encode_feed {s : String} (within : 0x0a ∈ encode s) : '\n' ∈ s.toList := by
  rw [encode_eq_flatMap, List.mem_flatMap] at within
  obtain ⟨c, inside, byte⟩ := within
  have feed : c.toNat = 10 := by
    have value : c.val.toNat = c.toNat := rfl
    have number (n : Nat) (same : 0x0a = UInt8.ofNat n) : n % 256 = 10 := by
      simpa using (congrArg UInt8.toNat same).symm
    simp only [String.utf8EncodeChar, value] at byte
    grind
  have same : c = '\n' := by rw [← Char.ofNat_toNat c, feed]
  exact same ▸ inside

end TextQuest.Text
