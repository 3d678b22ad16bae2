import TextQuest.Text.Reader

namespace TextQuest.Text

theorem charOfCode?_toNat (c : Char) : charOfCode? c.toNat = some c := by
  have valid : c.toNat.isValidChar := c.valid
  simp [charOfCode?, valid]

theorem charOfCode?_half {code : Nat} (least : 0xd800 ≤ code) (most : code ≤ 0xdfff) :
    charOfCode? code = none := by
  have invalid : ¬code.isValidChar := by simp only [Nat.isValidChar]; omega
  simp [charOfCode?, invalid]

theorem expect_eq_some {wanted text rest : List Char} :
    expect wanted text = some rest ↔ text = wanted ++ rest := by
  induction wanted generalizing text with
  | nil => simp [expect]
  | cons c wanted ih =>
    cases text with
    | nil => simp [expect]
    | cons d text =>
      by_cases same : c = d
      · simp [expect, same, ih]
      · simp [expect, same, Ne.symm same]

theorem expect_append (wanted rest : List Char) : expect wanted (wanted ++ rest) = some rest :=
  expect_eq_some.mpr rfl

def EndsRun (kind : Char → Bool) (rest : List Char) : Prop := ∀ c t, rest = c :: t → kind c = false

theorem takeWhile_run {kind : Char → Bool} {run rest : List Char} (within : ∀ c ∈ run, kind c = true)
    (ends : EndsRun kind rest) :
    (run ++ rest).takeWhile kind = run ∧ (run ++ rest).dropWhile kind = rest := by
  rw [List.takeWhile_append_of_pos within, List.dropWhile_append_of_pos within]
  cases rest with
  | nil => simp
  | cons c t => simp [ends c t rfl]

end TextQuest.Text
