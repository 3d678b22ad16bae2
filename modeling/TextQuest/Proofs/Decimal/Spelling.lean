import TextQuest.Decimal.Numeral
import TextQuest.Proofs.Text.Reader

namespace TextQuest.Decimal
open Text

def Digits (s : List Char) : Prop := ∀ c ∈ s, c.isDigit = true

inductive SpellsSign : Bool → List Char → Prop
  | none : SpellsSign false []
  | plus : SpellsSign false ['+']
  | minus : SpellsSign true ['-']

inductive SpellsFraction : List Char → List Char → Prop
  | none : SpellsFraction [] []
  | point (digits : List Char) : SpellsFraction digits ('.' :: digits)

inductive SpellsExponent : Int → List Char → Prop
  | none : SpellsExponent 0 []
  | marked {mark : Char} {negative : Bool} {sign digits : List Char} (known : mark = 'e' ∨ mark = 'E')
      (signed : SpellsSign negative sign) (some : digits ≠ []) (within : Digits digits) :
    SpellsExponent (if negative then -(Nat.ofDigitChars 10 digits 0 : Int) else Nat.ofDigitChars 10 digits 0)
      (mark :: (sign ++ digits))

inductive SpellsNumeral : Numeral → List Char → Prop
  | mk {negative : Bool} {exponent : Int} {sign whole fraction behind mark : List Char}
      (signed : SpellsSign negative sign) (parted : SpellsFraction fraction behind)
      (raised : SpellsExponent exponent mark) (some : whole ++ fraction ≠ [])
      (within : Digits (whole ++ fraction)) :
    SpellsNumeral ⟨negative, Nat.ofDigitChars 10 (whole ++ fraction) 0, exponent - fraction.length⟩
      (sign ++ (whole ++ (behind ++ mark)))

theorem sign_append {negative : Bool} {sign rest : List Char} (signed : SpellsSign negative sign)
    (unsigned : ∀ c t, rest = c :: t → c ≠ '+' ∧ c ≠ '-') :
    Numeral.sign (sign ++ rest) = (negative, rest) := by
  cases signed with
  | none =>
    unfold Numeral.sign
    split <;> simp_all
  | plus => rfl
  | minus => rfl

theorem digits?_of_digits {digits : List Char} (some : digits ≠ []) (within : Digits digits) :
    digits? digits = .some (Nat.ofDigitChars 10 digits 0) :=
  if_pos ⟨some, List.all_eq_true.mpr within⟩

inductive SpellsWhole : Nat → List Char → Prop
  | bare {digits : List Char} (some : digits ≠ []) (within : Digits digits) :
    SpellsWhole (Nat.ofDigitChars 10 digits 0) digits
  | plus {digits : List Char} (some : digits ≠ []) (within : Digits digits) :
    SpellsWhole (Nat.ofDigitChars 10 digits 0) ('+' :: digits)

theorem digits_of_digits? {digits : List Char} {n : Nat} (read : digits? digits = some n) :
    digits ≠ [] ∧ Digits digits ∧ n = Nat.ofDigitChars 10 digits 0 := by
  unfold digits? at read
  split at read
  · rename_i shape
    exact ⟨shape.1, List.all_eq_true.mp shape.2, (Option.some.inj read).symm⟩
  · cases read

theorem natural?_eq_some {n : Nat} {s : List Char} : natural? s = some n ↔ SpellsWhole n s := by
  constructor
  · intro read
    unfold natural? at read
    split at read
    · obtain ⟨some, within, rfl⟩ := digits_of_digits? read
      exact .plus some within
    · obtain ⟨some, within, rfl⟩ := digits_of_digits? read
      exact .bare some within
  · rintro (⟨some, within⟩ | ⟨some, within⟩)
    · unfold natural?
      split
      · exact absurd (within '+' (List.mem_cons_self ..)) (by decide)
      · exact digits?_of_digits some within
    · exact digits?_of_digits some within

theorem unsigned_digits {digits : List Char} (within : Digits digits) (c : Char) (t : List Char)
    (begins : digits = c :: t) : c ≠ '+' ∧ c ≠ '-' := by
  have digit := within c (begins ▸ List.mem_cons_self ..)
  constructor <;> rintro rfl <;> exact absurd digit (by decide)

theorem exponent?_of_spells {exponent : Int} {mark : List Char} (raised : SpellsExponent exponent mark) :
    Numeral.exponent? mark = some exponent := by
  cases raised with
  | none => rfl
  | marked known signed some within =>
    simp [Numeral.exponent?, known, sign_append signed (unsigned_digits within),
      digits?_of_digits some within]

theorem endsRun_mark {exponent : Int} {mark : List Char} (raised : SpellsExponent exponent mark) :
    EndsRun Char.isDigit mark := by
  intro c t begins
  cases raised with
  | none => cases begins
  | marked known =>
    cases begins
    rcases known with rfl | rfl <;> rfl

theorem ofChars?_of_spells {numeral : Numeral} {s : List Char} (spells : SpellsNumeral numeral s) :
    Numeral.ofChars? s = some numeral := by
  obtain ⟨signed, parted, raised, some, within⟩ := spells
  rename_i negative exponent sign whole fraction behind mark
  have wholeDigits : Digits whole := fun c inside => within c (List.mem_append_left _ inside)
  have fractionDigits : Digits fraction := fun c inside => within c (List.mem_append_right _ inside)
  have ends : EndsRun Char.isDigit (behind ++ mark) := by
    cases parted with
    | none => exact endsRun_mark raised
    | point =>
      intro c t begins
      cases begins
      rfl
  have unsigned (c : Char) (t : List Char) (begins : whole ++ (behind ++ mark) = c :: t) :
      c ≠ '+' ∧ c ≠ '-' := by
    cases whole with
    | cons d digits =>
      exact unsigned_digits wholeDigits c digits (by rw [(List.cons.inj begins).1])
    | nil =>
      cases parted with
      | none => contradiction
      | point =>
        cases begins
        decide
  obtain ⟨front, back⟩ := takeWhile_run wholeDigits ends
  unfold Numeral.ofChars?
  rw [sign_append signed unsigned]
  dsimp only
  rw [front, back]
  have digits : ¬(whole = [] ∧ fraction = []) := by simpa using some
  have finish : (if whole = [] ∧ fraction = [] then none
      else (Numeral.exponent? mark).map fun exponent =>
        (⟨negative, value (whole ++ fraction), exponent - fraction.length⟩ : Numeral)) =
      .some ⟨negative, Nat.ofDigitChars 10 (whole ++ fraction) 0, exponent - fraction.length⟩ := by
    rw [if_neg digits, exponent?_of_spells raised]
    rfl
  cases parted with
  | point =>
    obtain ⟨inside, after⟩ := takeWhile_run fractionDigits (endsRun_mark raised)
    simp only [List.cons_append, inside, after]
    exact finish
  | none =>
    cases raised with
    | none => exact finish
    | marked known => rcases known with rfl | rfl <;> exact finish

end TextQuest.Decimal
