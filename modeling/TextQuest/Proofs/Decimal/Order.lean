import Mathlib
import TextQuest.Decimal.Binary

namespace TextQuest.Decimal
open Float.Model (UnpackedFloat)

/-- Where a number stands among the others: its class, its exponent and its significand, where larger ones of
negative numbers come first. -/
def standing : UnpackedFloat → Option (ℤ ×ₗ ℤ ×ₗ ℤ)
  | .notANumber => none
  | .infinity .negative => some (toLex (-2, toLex (0, 0)))
  | .finite .negative significand exponent _ => some (toLex (-1, toLex (-exponent, -significand)))
  | .zero _ => some (toLex (0, toLex (0, 0)))
  | .finite .positive significand exponent _ => some (toLex (1, toLex (exponent, significand)))
  | .infinity .positive => some (toLex (2, toLex (0, 0)))

theorem lt_iff_standing (a b : UnpackedFloat) :
    a.lt b = true ↔ ∃ i ∈ standing a, ∃ j ∈ standing b, i < j := by
  rcases a with (_ | _) | _ | _ | ⟨_ | _, m, e, _⟩ <;>
  rcases b with (_ | _) | _ | _ | ⟨_ | _, n, f, _⟩
  case finite.negative.finite.negative =>
    simp [UnpackedFloat.lt, UnpackedFloat.compare, standing, Prod.Lex.toLex_lt_toLex, Ordering.then_eq_gt,
      Int.compare_eq_gt, Nat.compare_eq_gt]
  case finite.positive.finite.positive =>
    simp [UnpackedFloat.lt, UnpackedFloat.compare, standing, Prod.Lex.toLex_lt_toLex, Ordering.then_eq_lt,
      Int.compare_eq_lt, Nat.compare_eq_lt]
  all_goals simp [UnpackedFloat.lt, UnpackedFloat.compare, standing, Prod.Lex.toLex_lt_toLex, compare]

theorem standing_eq_none (a : UnpackedFloat) : standing a = none ↔ a = .notANumber := by
  rcases a with (_ | _) | _ | _ | ⟨_ | _, m, e, _⟩ <;> simp [standing]

namespace Single

variable {x y z : Float32}

theorem lt_iff : x < y ↔ ∃ i ∈ standing x.toModel.unpack, ∃ j ∈ standing y.toModel.unpack, i < j := by
  rw [← lt_iff_standing]
  exact decide_eq_true_iff

theorem lt_irrefl (x : Float32) : ¬x < x := by
  rw [lt_iff]
  rintro ⟨i, stands, j, again, less⟩
  obtain rfl := Option.mem_unique stands again
  exact less.false

theorem lt_trans (first : x < y) (second : y < z) : x < z := by
  rw [lt_iff] at first second ⊢
  obtain ⟨i, before, j, stands, less⟩ := first
  obtain ⟨k, again, l, behind, more⟩ := second
  obtain rfl := Option.mem_unique stands again
  exact ⟨i, before, l, behind, less.trans more⟩

theorem isNaN_iff : x.isNaN = true ↔ x.toModel.unpack = .notANumber := UnpackedFloat.isNaN_iff

theorem exists_standing (number : x.isNaN ≠ true) : ∃ i, i ∈ standing x.toModel.unpack := by
  rw [Ne, isNaN_iff, ← standing_eq_none] at number
  exact Option.ne_none_iff_exists'.mp number

theorem lt_or_lt (less : x < z) (number : y.isNaN ≠ true) : x < y ∨ y < z := by
  obtain ⟨j, stands⟩ := exists_standing number
  rw [lt_iff] at less
  obtain ⟨i, before, k, behind, less⟩ := less
  rcases lt_or_ge i j with above | below
  · exact .inl (lt_iff.mpr ⟨i, before, j, stands, above⟩)
  · exact .inr (lt_iff.mpr ⟨j, stands, k, behind, below.trans_lt less⟩)

def lowest : Float32 := Float32.ofBits 0xff800000

theorem unpack_lowest : lowest.toModel.unpack = .infinity .negative := rfl

theorem lowest_lt_iff : lowest < x ↔ x.isNaN ≠ true ∧ x.toModel.unpack ≠ .infinity .negative := by
  rw [lt_iff, unpack_lowest, Ne, isNaN_iff]
  rcases x.toModel.unpack with (_ | _) | _ | _ | ⟨_ | _, m, e, _⟩ <;>
    simp [standing, Prod.Lex.toLex_lt_toLex]

theorem not_lt_lowest (x : Float32) : ¬x < lowest := by
  rw [lt_iff, unpack_lowest]
  rcases x.toModel.unpack with (_ | _) | _ | _ | ⟨_ | _, m, e, _⟩ <;>
    simp [standing, Prod.Lex.toLex_lt_toLex]

theorem lowest_lt_of_lt (less : x < y) : lowest < y :=
  (lt_or_lt less (by decide)).resolve_left (not_lt_lowest x)

theorem not_isNaN_of_lt (less : x < y) : y.isNaN ≠ true := (lowest_lt_iff.mp (lowest_lt_of_lt less)).1

end Single
end TextQuest.Decimal
