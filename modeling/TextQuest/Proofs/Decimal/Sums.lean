import Mathlib
import TextQuest.Proofs.Decimal.Order

/-!
Sums of singles and the shares of their terms. A sum of numbers of one sign does not vanish, however small they
are; so where the shares of a sum are numbers at all, either one of them lies above −∞ or none is NaN.
-/
namespace TextQuest.Decimal
open Float.Model (Format UnpackedFloat totalExponent)
open Float.Model.UnpackedFloat

def kept (f : UnpackedFloat) : UnpackedFloat := (Float32.Model.pack f).unpack

/-- Neither zero nor NaN, and of a given sign. -/
def Leans (s : Sign) : UnpackedFloat → Prop
  | .infinity t | .finite t _ _ _ => t = s
  | _ => False

@[simp] theorem kept_notANumber : kept .notANumber = .notANumber := rfl

@[simp] theorem kept_zero (s : Sign) : kept (.zero s) = .zero s := by cases s <;> rfl

@[simp] theorem kept_infinity (s : Sign) : kept (.infinity s) = .infinity s := by cases s <;> rfl

theorem leans_components (s : Sign) {exponent : BitVec 8} (finite : exponent ≠ -1#_) (mantissa : BitVec 23) :
    Leans s (UnpackedFloat.unpack .binary32 (packComponents .binary32 s exponent mantissa)) ∨
      exponent = 0#_ ∧ mantissa = 0#_ ∧
        UnpackedFloat.unpack .binary32 (packComponents .binary32 s exponent mantissa) = .zero s := by
  simp only [UnpackedFloat.unpack, unpackExponent_packComponents, unpackMantissa_packComponents,
    unpackSign_packComponents, finite, if_false, Sign.ofBitVec_toBitVec]
  split_ifs with least none
  · exact .inr ⟨least, none, rfl⟩
  · exact .inl rfl
  · exact .inl rfl

theorem kept_finite (s : Sign) (m : Nat) (e : Int) (positive : 0 < m) :
    Leans s (kept (.finite s m e positive)) ∨
      kept (.finite s m e positive) = .zero s ∧ (e < -149 ∨ 2 ^ 24 ≤ m) := by
  have bias : Format.binary32.exponentBias = 127 := rfl
  have width : Format.binary32.mantissaBits = 24 := rfl
  unfold kept Float32.Model.pack Float32.Model.unpack
  simp only [UnpackedFloat.pack]
  split_ifs with large leading
  · cases s <;> exact .inl rfl
  · have finite : BitVec.ofNat 8 (e + Format.binary32.exponentBias + 23).toNat ≠ -1#_ := by
      intro ones
      have ones := congrArg BitVec.toNat ones
      simp [bias] at ones large
      omega
    rcases leans_components s finite (BitVec.ofNat 23 m) with leans | ⟨least, -, zero⟩
    · exact .inl leans
    · have least := congrArg BitVec.toNat least
      simp [bias] at least large
      exact .inr ⟨zero, .inl (by omega)⟩
  · have finite : (0#8) ≠ -1#_ := by decide
    rcases leans_components s finite (BitVec.ofNat 23 m) with leans | ⟨-, none, zero⟩
    · exact .inl leans
    · have none := congrArg BitVec.toNat none
      simp at none
      have long : 23 ≤ m.log2 := (Nat.le_log2 positive.ne').mpr (by omega)
      have longer : 24 ≤ m.log2 := by omega
      exact .inr ⟨zero, .inr ((Nat.le_log2 positive.ne').mp longer)⟩

theorem mantissa_shiftRight (extended : ExtendedMantissa) (count : Nat) :
    (extended >>> count).mantissa = extended.mantissa / 2 ^ count := by
  induction count with
  | zero => exact (Nat.div_one _).symm
  | succ count ih =>
    have step : (extended >>> (count + 1)).mantissa = (extended >>> count).mantissa / 2 := rfl
    rw [step, ih, Nat.div_div_eq_div_mul, Nat.pow_succ]

theorem mantissa_ofAccuracy (mantissa : Nat) (accuracy : Accuracy) :
    (ExtendedMantissa.ofMantissaAndAccuracy mantissa accuracy).mantissa = mantissa := by
  rcases accuracy with _ | _ | _ | _ <;> rfl

theorem le_roundedMantissa (extended : ExtendedMantissa) : extended.mantissa ≤ extended.roundedMantissa := by
  unfold ExtendedMantissa.roundedMantissa
  rcases extended.accuracy with _ | _ | _ | _ <;> simp [Accuracy.roundToNearestEven]

theorem shifted_bounds {mantissa : Nat} (positive : 0 < mantissa) {exponent : Int} (least : -149 ≤ exponent)
    (accuracy : Accuracy) :
    let shifted := shiftToTargetExponent .binary32 mantissa exponent accuracy
    0 < shifted.1.mantissa ∧ shifted.1.mantissa < 2 ^ 24 ∧ -149 ≤ shifted.2 := by
  have width : Format.binary32.mantissaBits = 24 := rfl
  have bottom : Format.binary32.minExponent = -149 := rfl
  have count : (Format.binary32.targetExponent (totalExponent mantissa exponent) - exponent).toNat =
      mantissa.log2 - 23 := by
    unfold Format.targetExponent totalExponent
    omega
  have low : 2 ^ mantissa.log2 ≤ mantissa := Nat.log2_self_le positive.ne'
  have high : mantissa < 2 ^ (mantissa.log2 + 1) := Nat.lt_log2_self
  simp only [shiftToTargetExponent, shiftToExponent, mantissa_shiftRight, mantissa_ofAccuracy, count]
  refine ⟨Nat.div_pos ?_ (Nat.two_pow_pos _), ?_, by omega⟩
  · exact (Nat.pow_le_pow_right two_pos (Nat.sub_le _ _)).trans low
  · rw [Nat.div_lt_iff_lt_mul (Nat.two_pow_pos _), ← Nat.pow_add]
    exact high.trans_le (Nat.pow_le_pow_right two_pos (by omega))

theorem leans_roundWithAccuracy (s : Sign) {mantissa : Nat} (positive : 0 < mantissa) {exponent : Int}
    (least : -149 ≤ exponent) (accuracy : Accuracy) :
    Leans s (kept (roundWithAccuracy .binary32 s mantissa exponent accuracy)) := by
  obtain ⟨left, -, lower⟩ := shifted_bounds positive least accuracy
  have rounded := left.trans_le (le_roundedMantissa _)
  obtain ⟨some, fits, lowest⟩ := shifted_bounds rounded lower .exact
  unfold roundWithAccuracy
  dsimp only
  rw [dif_neg some.ne']
  exact (kept_finite s _ _ some).resolve_right fun ⟨_, beyond⟩ => by omega

theorem leans_round (s : Sign) {mantissa : Nat} (positive : 0 < mantissa) {exponent : Int}
    (least : -149 ≤ exponent) : Leans s (kept (UnpackedFloat.round .binary32 s mantissa exponent)) := by
  have aim : -149 ≤ Format.binary32.targetExponent (totalExponent mantissa exponent) := le_max_right _ _
  unfold UnpackedFloat.round decreaseExponent
  dsimp only
  refine leans_roundWithAccuracy s ?_ (by omega) .exact
  rw [Nat.shiftLeft_eq]
  exact Nat.mul_pos positive (Nat.two_pow_pos _)

theorem least_exponent (x : Float32) {s : Sign} {m : Nat} {e : Int} {positive : 0 < m}
    (parts : x.toModel.unpack = .finite s m e positive) : -149 ≤ e := by
  have bias : Format.binary32.exponentBias = 127 := rfl
  unfold Float32.Model.unpack UnpackedFloat.unpack at parts
  dsimp only at parts
  split_ifs at parts with top infinite least none
  · cases parts
    omega
  · cases parts
    have some := mt (BitVec.eq_of_toNat_eq (y := 0#_)) least
    simp at some
    omega

theorem normalize_apply (s : Sign) {mantissa : Nat} (positive : 0 < mantissa) (exponent : Int) (zero : Sign) :
    UnpackedFloat.normalize .binary32 (s.apply mantissa) exponent zero =
      UnpackedFloat.round .binary32 s mantissa exponent := by
  unfold UnpackedFloat.normalize
  cases s with
  | negative =>
    have below : compare (-(mantissa : Int)) 0 = .lt := Int.compare_eq_lt.mpr (by omega)
    simp [Sign.apply, below]
  | positive =>
    have above : compare (mantissa : Int) 0 = .gt := Int.compare_eq_gt.mpr (by omega)
    simp [Sign.apply, above]

theorem unpack_add (x y : Float32) :
    (x + y).toModel.unpack = kept (x.toModel.unpack.add .binary32 y.toModel.unpack) := rfl

theorem leans_add {s : Sign} {x y : Float32} (left : Leans s x.toModel.unpack)
    (right : Leans s y.toModel.unpack) : Leans s (x + y).toModel.unpack := by
  have leastX := @least_exponent x
  have leastY := @least_exponent y
  rw [unpack_add]
  generalize x.toModel.unpack = a at left leastX ⊢
  generalize y.toModel.unpack = b at right leastY ⊢
  rcases a with t | _ | _ | ⟨t, m, e, some⟩ <;> rcases b with u | _ | _ | ⟨u, n, f, more⟩ <;>
    cases left <;> cases right
  case finite.finite =>
    have sum (m n : Nat) : s.apply m + s.apply n = s.apply (m + n : Nat) := by
      cases s <;> (simp [Sign.apply]; try omega)
    have leastX := leastX rfl
    have leastY := leastY rfl
    simp only [UnpackedFloat.add, decreaseExponent, sum]
    have positive : 0 < m <<< (e - min e f).toNat := by
      rw [Nat.shiftLeft_eq]
      exact Nat.mul_pos some (Nat.two_pow_pos _)
    have both := Nat.add_pos_left positive (n <<< (f - min e f).toNat)
    rw [normalize_apply s both]
    exact leans_round s both (by omega)
  all_goals
    simp only [UnpackedFloat.add, beq_self_eq_true, if_true, kept_infinity]
    rfl

theorem kept_unpack (x : Float32) : kept x.toModel.unpack = x.toModel.unpack :=
  congrArg (UnpackedFloat.unpack Format.binary32) (pack_unpack_of_valid x.toModel.valid)

theorem isFinite_kept_add {a b : UnpackedFloat} (finite : (kept (a.add .binary32 b)).isFinite = true) :
    a.isFinite = true ∧ b.isFinite = true := by
  rcases a with t | _ | _ | _ <;> rcases b with u | _ | _ | _
  case infinity.infinity => cases t <;> cases u <;> cases finite
  all_goals simp_all [UnpackedFloat.add, UnpackedFloat.isFinite]

theorem isFinite_add {x y : Float32} (finite : (x + y).isFinite = true) :
    x.isFinite = true ∧ y.isFinite = true := isFinite_kept_add finite

theorem isFinite_sum {terms : List Float32} {first : Float32}
    (finite : (terms.foldl (· + ·) first).isFinite = true) :
    first.isFinite = true ∧ ∀ term ∈ terms, term.isFinite = true := by
  induction terms generalizing first with
  | nil => exact ⟨finite, nofun⟩
  | cons term later ih =>
    obtain ⟨both, rest⟩ := ih finite
    obtain ⟨before, here⟩ := isFinite_add both
    exact ⟨before, List.forall_mem_cons.mpr ⟨here, rest⟩⟩

theorem zero_add_of_leans {s t : Sign} {a : UnpackedFloat} (leans : Leans s a) :
    UnpackedFloat.add .binary32 (.zero t) a = a := by
  cases a <;> first | rfl | cases leans

theorem add_zero_of_leans {s t : Sign} {a : UnpackedFloat} (leans : Leans s a) :
    UnpackedFloat.add .binary32 a (.zero t) = a := by
  cases a <;> first | rfl | cases leans

def Sided (s : Sign) (x : Float32) : Prop := (∃ t, x.toModel.unpack = .zero t) ∨ Leans s x.toModel.unpack

theorem Sided.add {s : Sign} {x y : Float32} (left : Sided s x) (right : Sided s y) :
    Sided s (x + y) ∧ (Leans s x.toModel.unpack ∨ Leans s y.toModel.unpack → Leans s (x + y).toModel.unpack) := by
  rcases left with ⟨t, left⟩ | left <;> rcases right with ⟨u, right⟩ | right
  · refine ⟨.inl ?_, by simp [left, right, Leans]⟩
    rw [unpack_add, left, right]
    cases t <;> cases u <;> exact ⟨_, rfl⟩
  · have same : (x + y).toModel.unpack = y.toModel.unpack := by
      rw [unpack_add, left, zero_add_of_leans right, kept_unpack]
    rw [Sided, same]
    exact ⟨.inr right, fun _ => right⟩
  · have same : (x + y).toModel.unpack = x.toModel.unpack := by
      rw [unpack_add, right, add_zero_of_leans left, kept_unpack]
    rw [Sided, same]
    exact ⟨.inr left, fun _ => left⟩
  · have both := leans_add left right
    exact ⟨.inr both, fun _ => both⟩

theorem leans_sum {s : Sign} {terms : List Float32} (sided : ∀ term ∈ terms, Sided s term) {first : Float32}
    (start : Sided s first)
    (some : Leans s first.toModel.unpack ∨ ∃ term ∈ terms, Leans s term.toModel.unpack) :
    Leans s (terms.foldl (· + ·) first).toModel.unpack := by
  induction terms generalizing first with
  | nil => simpa using some
  | cons term later ih =>
    obtain ⟨here, sided⟩ := List.forall_mem_cons.mp sided
    obtain ⟨next, leans⟩ := start.add here
    refine ih sided next ?_
    rcases some with before | ⟨other, member, away⟩
    · exact .inl (leans (.inl before))
    · rcases List.mem_cons.mp member with rfl | rest
      · exact .inl (leans (.inr away))
      · exact .inr ⟨other, rest, away⟩

theorem unpack_div (x y : Float32) :
    (x / y).toModel.unpack = kept (x.toModel.unpack.div .binary32 y.toModel.unpack) := rfl

theorem kept_finite_ne_notANumber (s : Sign) (m : Nat) (e : Int) (positive : 0 < m) :
    kept (.finite s m e positive) ≠ .notANumber := by
  intro none
  rcases kept_finite s m e positive with leans | ⟨zero, -⟩
  · rw [none] at leans
    exact leans
  · cases none.symm.trans zero

theorem kept_div_infinite {a b : UnpackedFloat} (infinite : b.isFinite ≠ true) :
    (∃ t, kept (a.div .binary32 b) = .zero t) ∨ kept (a.div .binary32 b) = .notANumber := by
  rcases a with t | _ | _ | _ <;> rcases b with u | _ | _ | _ <;>
    simp_all [UnpackedFloat.div, UnpackedFloat.isFinite]

theorem kept_div_finite {a : UnpackedFloat} (finite : a.isFinite = true) (s : Sign) (m : Nat) (e : Int)
    (positive : 0 < m) : kept (a.div .binary32 (.finite s m e positive)) ≠ .notANumber := by
  rcases a with t | _ | t | ⟨t, n, f, some⟩
  case zero => simp [UnpackedFloat.div]
  case finite =>
    simp only [UnpackedFloat.div, roundWithAccuracy]
    split
    · simp
    · exact kept_finite_ne_notANumber _ _ _ _
  all_goals cases finite

theorem kept_div_zero {a : UnpackedFloat} (finite : a.isFinite = true) (s : Sign) :
    (∃ t, a = .zero t) ∧ kept (a.div .binary32 (.zero s)) = .notANumber ∨
      ∃ t, Leans t a ∧ kept (a.div .binary32 (.zero s)) = .infinity (t / s) := by
  rcases a with t | _ | t | ⟨t, m, e, _⟩
  case zero => exact .inl ⟨⟨t, rfl⟩, kept_notANumber⟩
  case finite => exact .inr ⟨t, rfl, kept_infinity _⟩
  all_goals cases finite

theorem leans_of_lowest_share {a : UnpackedFloat} (finite : a.isFinite = true) {s : Sign}
    (lowest : kept (a.div .binary32 (.zero s)) = .infinity .negative) : Leans (-s) a := by
  rcases kept_div_zero finite s with ⟨-, none⟩ | ⟨t, leans, share⟩
  · cases none.symm.trans lowest
  · have same := share.symm.trans lowest
    have opposite : t = -s := by cases t <;> cases s <;> first | rfl | cases same
    exact opposite ▸ leans

theorem total_ne_zero {terms : List Float32} {total : Float32} (sums : terms.foldl (· + ·) 0 = total)
    (each : ∀ term ∈ terms, term.isFinite = true)
    (low : ∀ term ∈ terms, (term / total).isNaN ≠ true → (term / total).toModel.unpack = .infinity .negative)
    {one : Float32} (member : one ∈ terms) (number : (one / total).isNaN ≠ true) (s : Sign) :
    total.toModel.unpack ≠ .zero s := by
  intro whole
  have lowest {term : Float32} (member : term ∈ terms) (number : (term / total).isNaN ≠ true) :
      Leans (-s) term.toModel.unpack := by
    have share := low term member number
    rw [unpack_div, whole] at share
    exact leans_of_lowest_share (each term member) share
  have sided : ∀ term ∈ terms, Sided (-s) term := by
    intro term member
    by_cases none : (term / total).isNaN = true
    · rw [Single.isNaN_iff, unpack_div, whole] at none
      rcases kept_div_zero (each term member) s with ⟨zero, -⟩ | ⟨t, -, share⟩
      · exact .inl zero
      · cases share.symm.trans none
    · exact .inr (lowest member none)
  have sum : Leans (-s) total.toModel.unpack := by
    rw [← sums]
    exact leans_sum sided (.inl ⟨_, rfl⟩) (.inr ⟨one, member, lowest member number⟩)
  rw [whole] at sum
  exact sum

theorem number_of_low_shares {terms : List Float32} {total : Float32} (sums : terms.foldl (· + ·) 0 = total)
    (low : ∀ term ∈ terms, ¬Single.lowest < term / total) {one other : Float32} (member : one ∈ terms)
    (among : other ∈ terms) (number : (one / total).isNaN ≠ true) : (other / total).isNaN ≠ true := by
  have lowest : ∀ term ∈ terms,
      (term / total).isNaN ≠ true → (term / total).toModel.unpack = .infinity .negative := by
    intro term member number
    by_contra above
    exact low term member (Single.lowest_lt_iff.mpr ⟨number, above⟩)
  by_cases finite : total.toModel.unpack.isFinite = true
  · have each : ∀ term ∈ terms, term.isFinite = true := by
      rw [← sums] at finite
      exact (isFinite_sum finite).2
    cases whole : total.toModel.unpack with
    | notANumber => simp [whole, UnpackedFloat.isFinite] at finite
    | infinity s => simp [whole, UnpackedFloat.isFinite] at finite
    | zero s => exact absurd whole (total_ne_zero sums each lowest member number s)
    | finite s m e positive =>
      rw [Ne, Single.isNaN_iff, unpack_div, whole]
      exact kept_div_finite (each other among) s m e positive
  · -- A total without bound leaves zeros and NaN, but there is a share of −∞.
    have infinite := lowest one member number
    rw [unpack_div] at infinite
    rcases kept_div_infinite finite with ⟨t, zero⟩ | none
    · cases zero.symm.trans infinite
    · cases none.symm.trans infinite

end TextQuest.Decimal
