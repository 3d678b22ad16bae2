import TextQuest.Proofs.Decimal.Bits

namespace TextQuest.Decimal

theorem scaled_snd_pos (factor : Nat) {base : Nat} (positive : 0 < base) (exponent : Int) :
    0 < (scaled factor base exponent).2 := by
  unfold scaled
  split
  · exact Nat.one_pos
  · exact Nat.pow_pos positive

theorem scaled_ratio (factor base : Nat) (exponent : Int) :
    ((scaled factor base exponent).1 : ℚ) / (scaled factor base exponent).2 =
      factor * (base : ℚ) ^ exponent := by
  unfold scaled
  split
  · rename_i natural
    obtain ⟨n, rfl⟩ := Int.eq_ofNat_of_zero_le natural
    simp
  · rename_i negative
    obtain ⟨n, rfl⟩ : ∃ n : Nat, exponent = -n := ⟨(-exponent).toNat, by omega⟩
    simp [div_eq_mul_inv]

structure Between (low high : ℚ) (closed : Prop) (x : ℚ) : Prop where
  low_le : low ≤ x
  le_high : x ≤ high
  inside : closed ∨ low < x ∧ x < high

theorem roundDiv_eq {num den n : Nat} (positive : 0 < den)
    (near : Between (n - 1 / 2) (n + 1 / 2) (n % 2 = 0) (num / den : ℚ)) : roundDiv num den = n := by
  have size : (0 : ℚ) < den := by exact_mod_cast positive
  have low : (2 * n : ℚ) * den ≤ 2 * num + den := by
    have := (le_div_iff₀ size).mp near.low_le
    linarith
  have high : (2 * num : ℚ) ≤ 2 * n * den + den := by
    have := (div_le_iff₀ size).mp near.le_high
    linarith
  have inside : n % 2 = 0 ∨ 2 * n * den < 2 * num + den ∧ 2 * num < 2 * n * den + den := by
    refine near.inside.imp_right fun ⟨low, high⟩ => ?_
    rw [lt_div_iff₀ size] at low
    rw [div_lt_iff₀ size] at high
    constructor
    · have : (2 * n * den : ℚ) < 2 * num + den := by linarith
      exact_mod_cast this
    · have : (2 * num : ℚ) < 2 * n * den + den := by linarith
      exact_mod_cast this
  replace low : 2 * n * den ≤ 2 * num + den := by exact_mod_cast low
  replace high : 2 * num ≤ 2 * n * den + den := by exact_mod_cast high
  have parts : den * (num / den) + num % den = num := Nat.div_add_mod num den
  have rest := Nat.mod_lt num positive
  generalize quotient : num / den = q at parts
  generalize remainder : num % den = r at parts rest
  have apart (a b : Nat) (less : a < b) : den * a + den ≤ den * b := Nat.mul_le_mul_left den less
  have sides : n = q ∨ n = q + 1 := by
    have := apart n q
    have := apart (q + 1) n
    grind
  unfold roundDiv
  rw [quotient, remainder]
  rcases sides with rfl | rfl
  · have : 2 * r ≤ den := by grind
    grind
  · have : den ≤ 2 * r := by grind
    grind

theorem log2_bounds {n : Nat} (some : n ≠ 0) : (2 : ℚ) ^ (n.log2 : ℤ) ≤ n ∧ (n : ℚ) < 2 ^ (n.log2 + 1 : ℤ) := by
  constructor
  · have := Nat.log2_self_le some
    rw [zpow_natCast]
    exact_mod_cast this
  · have : n < 2 ^ (n.log2 + 1) := Nat.lt_log2_self
    have power : (2 : ℚ) ^ (n.log2 + 1 : ℤ) = 2 ^ (n.log2 + 1) := by
      rw [← zpow_natCast]
      push_cast
      rfl
    rw [power]
    exact_mod_cast this

/-- The exponent at which a number is rounded: its significand has 24 binary digits there, unless the
exponent is the least one. -/
structure RoundedAt (x : ℚ) (exponent : Int) : Prop where
  least : -149 ≤ exponent
  below : x < 2 ^ (exponent + 24)
  reaches : exponent = -149 ∨ (2 : ℚ) ^ (exponent + 23) ≤ x

theorem ratio_bounds {num den : Nat} (some : num ≠ 0) (positive : den ≠ 0) :
    (2 : ℚ) ^ (num.log2 - den.log2 - 1 : ℤ) ≤ num / den ∧
      (num / den : ℚ) < 2 ^ (num.log2 - den.log2 + 1 : ℤ) := by
  obtain ⟨lowNum, highNum⟩ := log2_bounds some
  obtain ⟨lowDen, highDen⟩ := log2_bounds positive
  have size : (0 : ℚ) < den := by exact_mod_cast Nat.pos_of_ne_zero positive
  constructor
  · rw [le_div_iff₀ size]
    calc (2 : ℚ) ^ (num.log2 - den.log2 - 1 : ℤ) * den
        ≤ 2 ^ (num.log2 - den.log2 - 1 : ℤ) * 2 ^ (den.log2 + 1 : ℤ) := by gcongr
      _ = 2 ^ (num.log2 : ℤ) := by rw [← zpow_add₀ two_ne_zero]; congr 1; omega
      _ ≤ num := lowNum
  · rw [div_lt_iff₀ size]
    calc (num : ℚ) < 2 ^ (num.log2 + 1 : ℤ) := highNum
      _ = 2 ^ (num.log2 - den.log2 + 1 : ℤ) * 2 ^ (den.log2 : ℤ) := by
        rw [← zpow_add₀ two_ne_zero]; congr 1; omega
      _ ≤ 2 ^ (num.log2 - den.log2 + 1 : ℤ) * den := by gcongr

theorem nearestSingle_assembles {num den : Nat} (some : num ≠ 0) (positive : den ≠ 0) :
    ∃ (exponent : Int) (n d : Nat), RoundedAt (num / den) exponent ∧ 0 < d ∧
      (n / d : ℚ) = num / den * 2 ^ (-exponent) ∧
      nearestSingle num den = assembleSingle (roundDiv n d) exponent := by
  let guess : Int := (num.log2 : Int) - den.log2 - 24
  let quotient (exponent : Int) : Nat × Nat :=
    (num * (scaled 1 2 (-exponent)).1, den * (scaled 1 2 (-exponent)).2)
  have ratio (exponent : Int) :
      ((quotient exponent).1 / (quotient exponent).2 : ℚ) = num / den * 2 ^ (-exponent) := by
    have power := scaled_ratio 1 2 (-exponent)
    simp only [Nat.cast_one, Nat.cast_ofNat, one_mul] at power
    simp only [quotient, Nat.cast_mul, mul_div_mul_comm, power]
  have whole (exponent : Int) : 0 < (quotient exponent).2 :=
    Nat.mul_pos (Nat.pos_of_ne_zero positive) (scaled_snd_pos 1 (by decide) _)
  have reaches : Nat.pow 2 24 ≤ (quotient guess).1 / (quotient guess).2 ↔
      (2 : ℚ) ^ (guess + 24) ≤ num / den := by
    have size : (0 : ℚ) < (quotient guess).2 := by exact_mod_cast whole guess
    have unit : (0 : ℚ) < 2 ^ guess := by positivity
    rw [Nat.le_div_iff_mul_le (whole guess), ← Nat.cast_le (α := ℚ), Nat.cast_mul, ← le_div_iff₀ size,
      ratio, zpow_neg, ← div_eq_mul_inv, le_div_iff₀ unit, zpow_add₀ two_ne_zero, mul_comm]
    norm_num
  obtain ⟨low, high⟩ := ratio_bounds some positive
  let leading := if Nat.pow 2 24 ≤ (quotient guess).1 / (quotient guess).2 then guess + 1 else guess
  have bounds : (2 : ℚ) ^ (leading + 23) ≤ num / den ∧ (num / den : ℚ) < 2 ^ (leading + 24) := by
    by_cases above : Nat.pow 2 24 ≤ (quotient guess).1 / (quotient guess).2
    · simp only [leading, if_pos above]
      exact ⟨by convert reaches.mp above using 2; omega, by convert high using 2; omega⟩
    · simp only [leading, if_neg above]
      rw [reaches, not_le] at above
      exact ⟨by convert low using 2; omega, above⟩
  refine ⟨max leading (-149), _, _, ?_, whole _, ratio _, ?_⟩
  · rcases Int.le_total leading (-149) with less | more
    · rw [Int.max_eq_right less]
      refine ⟨Int.le_refl _, bounds.2.trans_le ?_, .inl rfl⟩
      exact zpow_le_zpow_right₀ one_le_two (by omega)
    · rw [Int.max_eq_left more]
      exact ⟨more, bounds.2, .inr bounds.1⟩
  · rw [nearestSingle, if_neg some]

def lowEnd (significand : Nat) (exponent : Int) : ℚ :=
  (significand - if significand = 2 ^ 23 ∧ -149 < exponent then 1 / 4 else 1 / 2) * 2 ^ exponent

def highEnd (significand : Nat) (exponent : Int) : ℚ := (significand + 1 / 2) * 2 ^ exponent

theorem lowEnd_ge (significand : Nat) (exponent : Int) :
    (significand - 1 / 2 : ℚ) * 2 ^ exponent ≤ lowEnd significand exponent := by
  unfold lowEnd
  gcongr
  split <;> norm_num

theorem exponent_near {significand : Nat} {exponent place : Int}
    (standard : Standard significand exponent) {x : ℚ} (rounded : RoundedAt x place)
    (low : lowEnd significand exponent ≤ x) (high : x ≤ highEnd significand exponent) :
    place = exponent ∨ place = exponent - 1 ∧ significand = 2 ^ 23 ∧ -149 < exponent := by
  have unit : (0 : ℚ) < 2 ^ exponent := by positivity
  rcases Int.lt_trichotomy place exponent with less | same | more
  · have above : -149 < exponent := Int.lt_of_le_of_lt rounded.least less
    have leading : (2 ^ 23 : ℚ) ≤ significand := by
      exact_mod_cast standard.leading.resolve_left (by omega)
    have reached := (lowEnd_ge significand exponent).trans low
    have next : place = exponent - 1 := by
      by_contra other
      have short : x < 2 ^ (exponent + 22) :=
        rounded.below.trans_le (zpow_le_zpow_right₀ one_le_two (by omega))
      rw [zpow_add₀ two_ne_zero] at short
      nlinarith
    refine .inr ⟨next, ?_, above⟩
    by_contra other
    have larger : (2 ^ 23 + 1 : ℚ) ≤ significand := by
      have : 2 ^ 23 < significand := by
        have : 2 ^ 23 ≤ significand := by exact_mod_cast leading
        omega
      exact_mod_cast this
    have short : x < 2 ^ (exponent + 23) := by
      convert rounded.below using 2
      omega
    rw [zpow_add₀ two_ne_zero] at short
    nlinarith
  · exact .inl same
  · exfalso
    have reached := rounded.reaches.resolve_left (by have := standard.least; omega)
    have long : (2 : ℚ) ^ (exponent + 24) ≤ x :=
      (zpow_le_zpow_right₀ one_le_two (by omega)).trans reached
    have small : (significand : ℚ) ≤ 2 ^ 24 - 1 := by
      have : significand + 1 ≤ 2 ^ 24 := standard.below
      have : (significand + 1 : ℚ) ≤ 2 ^ 24 := by exact_mod_cast this
      linarith
    rw [zpow_add₀ two_ne_zero] at long
    unfold highEnd at high
    nlinarith

theorem nearestSingle_finite {num den significand : Nat} {exponent : Int} (some : num ≠ 0)
    (positive : den ≠ 0) (standard : Standard significand exponent)
    (near : Between (lowEnd significand exponent) (highEnd significand exponent)
      (significand % 2 = 0) (num / den)) :
    nearestSingle num den = assembleSingle significand exponent := by
  obtain ⟨place, n, d, rounded, size, ratio, assembled⟩ := nearestSingle_assembles some positive
  rw [assembled]
  rcases exponent_near standard rounded near.low_le near.le_high with rfl | ⟨rfl, rfl, above⟩
  · suffices same : roundDiv n d = significand by rw [same]
    have unit : (0 : ℚ) < 2 ^ place := by positivity
    have units : (num / den : ℚ) = n / d * 2 ^ place := by
      rw [ratio, mul_assoc, ← zpow_add₀ two_ne_zero]
      simp
    obtain ⟨low, high, inside⟩ := near
    rw [units] at low high inside
    refine roundDiv_eq size ⟨?_, le_of_mul_le_mul_right high unit, ?_⟩
    · exact le_of_mul_le_mul_right ((lowEnd_ge significand place).trans low) unit
    · refine inside.imp_right fun ⟨low, high⟩ => ⟨?_, lt_of_mul_lt_mul_right high unit.le⟩
      exact lt_of_mul_lt_mul_right ((lowEnd_ge significand place).trans_lt low) unit.le
  · have top : roundDiv n d = 2 ^ 24 := by
      have unit : (0 : ℚ) < 2 ^ exponent := by positivity
      have units : (n / d : ℚ) * 2 ^ exponent = num / den * 2 := by
        rw [ratio, mul_assoc, ← zpow_add₀ two_ne_zero]
        simp
      have low := near.low_le
      rw [lowEnd, if_pos ⟨rfl, above⟩] at low
      have short : (num / den : ℚ) < 2 ^ (exponent + 23) := by
        convert rounded.below using 2
        omega
      rw [zpow_add₀ two_ne_zero] at short
      refine roundDiv_eq size ⟨?_, ?_, .inl rfl⟩
      · refine le_of_mul_le_mul_right ?_ unit
        push_cast at low ⊢
        linarith
      · refine le_of_mul_le_mul_right ?_ unit
        push_cast
        norm_num at short
        linarith
    rw [top]
    have next : exponent - 1 + 1 = exponent := by omega
    simp only [assembleSingle, next]
    rfl

theorem le_roundDiv {num den n : Nat} (positive : 0 < den) (least : (n : ℚ) ≤ num / den) :
    n ≤ roundDiv num den := by
  have size : (0 : ℚ) < den := by exact_mod_cast positive
  have quotient : n ≤ num / den := by
    rw [Nat.le_div_iff_mul_le positive]
    exact_mod_cast (le_div_iff₀ size).mp least
  unfold roundDiv
  grind

theorem nearestSingle_infinite {num den : Nat} (some : num ≠ 0) (positive : den ≠ 0)
    (beyond : (2 ^ 24 - 1 / 2 : ℚ) * 2 ^ (104 : Int) ≤ num / den) :
    nearestSingle num den = 255 * 2 ^ 23 := by
  obtain ⟨place, n, d, rounded, size, ratio, assembled⟩ := nearestSingle_assembles some positive
  have unit : (0 : ℚ) < 2 ^ place := by positivity
  have units : (n / d : ℚ) * 2 ^ place = num / den := by
    rw [ratio, mul_assoc, ← zpow_add₀ two_ne_zero]
    simp
  rw [assembled]
  rcases Int.lt_trichotomy place 104 with less | rfl | more
  · have short : (num / den : ℚ) < 2 ^ (103 + 24 : Int) :=
      rounded.below.trans_le (zpow_le_zpow_right₀ one_le_two (by omega))
    norm_num at short beyond
    linarith
  · have top : roundDiv n d = 2 ^ 24 := by
      have below := rounded.below
      rw [zpow_add₀ two_ne_zero] at below
      refine roundDiv_eq size ⟨?_, ?_, .inl rfl⟩
      · refine le_of_mul_le_mul_right ?_ unit
        push_cast
        linarith
      · refine le_of_mul_le_mul_right ?_ unit
        push_cast
        norm_num at below ⊢
        linarith
    rw [top]
    rfl
  · have long : 2 ^ 23 ≤ roundDiv n d := by
      have reached := rounded.reaches.resolve_left (by omega)
      rw [add_comm, zpow_add₀ two_ne_zero, ← units] at reached
      exact le_roundDiv size (by exact_mod_cast le_of_mul_le_mul_right reached unit)
    simp only [assembleSingle, Nat.pow_eq]
    rw [if_neg (by omega)]
    split <;> exact if_pos (by omega)

namespace Numeral

def magnitude (number : Numeral) : ℚ := number.digits * 10 ^ number.place

/-- The single of the same sign that is nearest; of two that are equally near the one with an even
significand. From half way above the largest one on it is an infinite one. -/
def RoundsTo (number : Numeral) (x : Float32) : Prop :=
  match Binary.ofSingle x with
  | .nan => False
  | .infinite negative =>
    number.negative = negative ∧ (2 ^ 24 - 1 / 2) * 2 ^ (104 : Int) ≤ number.magnitude
  | .finite negative significand exponent =>
    number.negative = negative ∧
      Between (lowEnd significand exponent) (highEnd significand exponent) (significand % 2 = 0)
        number.magnitude

theorem magnitude_bounds {number : Numeral} (some : number.digits ≠ 0) :
    (10 : ℚ) ^ ((toString number.digits).length + number.place - 1 : Int) ≤ number.magnitude ∧
      number.magnitude < 10 ^ ((toString number.digits).length + number.place : Int) := by
  obtain ⟨count, length⟩ : ∃ count, number.digits.repr.length = count + 1 :=
    Nat.exists_eq_add_one.mpr Nat.length_repr_pos
  have high : number.digits < 10 ^ (count + 1) := (Nat.length_repr_le_iff (by omega)).mp length.le
  have low : 10 ^ count ≤ number.digits := by
    by_contra less
    rcases Nat.eq_zero_or_pos count with rfl | positive
    · omega
    · have := (Nat.length_repr_le_iff positive).mpr (Nat.lt_of_not_le less)
      omega
  have shown : (toString number.digits).length = count + 1 := length
  have lowest : (10 : ℚ) ^ count ≤ number.digits := by exact_mod_cast low
  have highest : (number.digits : ℚ) < 10 ^ (count + 1) := by exact_mod_cast high
  have unit : (0 : ℚ) < 10 ^ number.place := by positivity
  rw [shown, magnitude]
  constructor
  · have exponent : (count + 1 : Nat) + number.place - 1 = count + number.place := by omega
    rw [exponent, zpow_add₀ (by norm_num), zpow_natCast]
    gcongr
  · rw [zpow_add₀ (by norm_num), zpow_natCast]
    gcongr

def magnitudeBits (number : Numeral) : Nat :=
  let top : Int := (toString number.digits).length + number.place
  if number.digits = 0 ∨ top < -60 then 0
  else if 60 < top then 255 * 2 ^ 23
  else nearestSingle (scaled number.digits 10 number.place).1 (scaled number.digits 10 number.place).2

theorem magnitudeBits_cases (number : Numeral) :
    number.magnitude < 2 ^ (-150 : Int) ∧ number.magnitudeBits = 0 ∨
    2 ^ (128 : Int) < number.magnitude ∧ number.magnitudeBits = 255 * 2 ^ 23 ∨
    ∃ num den : Nat, num ≠ 0 ∧ den ≠ 0 ∧ number.magnitude = num / den ∧
      number.magnitudeBits = nearestSingle num den := by
  unfold magnitudeBits
  by_cases none : number.digits = 0
  · exact .inl ⟨by simp [magnitude, none], if_pos (.inl none)⟩
  obtain ⟨low, high⟩ := magnitude_bounds none
  dsimp only
  split_ifs with tiny huge
  · refine .inl ⟨high.trans_le ?_, rfl⟩
    calc (10 : ℚ) ^ ((toString number.digits).length + number.place) ≤ 10 ^ (-61 : Int) :=
          zpow_le_zpow_right₀ (by norm_num) (by have := tiny.resolve_left none; omega)
      _ ≤ 2 ^ (-150 : Int) := by norm_num
  · refine .inr (.inl ⟨lt_of_lt_of_le ?_ low, rfl⟩)
    calc (2 : ℚ) ^ (128 : Int) < 10 ^ (60 : Int) := by norm_num
      _ ≤ 10 ^ ((toString number.digits).length + number.place - 1) :=
          zpow_le_zpow_right₀ (by norm_num) (by omega)
  · have size := scaled_snd_pos number.digits (show 0 < 10 by decide) number.place
    have ratio := scaled_ratio number.digits 10 number.place
    refine .inr (.inr ⟨_, _, ?_, Nat.ne_of_gt size, by simpa [magnitude] using ratio.symm, rfl⟩)
    intro zero
    have unit : (0 : ℚ) < 10 ^ number.place := by positivity
    rw [zero] at ratio
    exact absurd ratio (by simp [none, unit.ne'])

theorem magnitudeBits_finite {number : Numeral} {significand : Nat} {exponent : Int}
    (standard : Standard significand exponent)
    (near : Between (lowEnd significand exponent) (highEnd significand exponent)
      (significand % 2 = 0) number.magnitude) :
    number.magnitudeBits = assembleSingle significand exponent := by
  rcases number.magnitudeBits_cases with ⟨tiny, bits⟩ | ⟨huge, -⟩ | ⟨num, den, some, positive, ratio, bits⟩
  · have zero : significand = 0 := by
      by_contra other
      have one : (1 : ℚ) ≤ significand := by exact_mod_cast Nat.pos_of_ne_zero other
      have half : (1 / 2 : ℚ) ≤ significand - 1 / 2 := by linarith
      refine absurd tiny (not_lt.mpr ?_)
      calc (2 : ℚ) ^ (-150 : Int) = 1 / 2 * 2 ^ (-149 : Int) := by norm_num
        _ ≤ 1 / 2 * 2 ^ exponent := by gcongr; exacts [one_le_two, standard.least]
        _ ≤ (significand - 1 / 2) * 2 ^ exponent := by gcongr
        _ ≤ number.magnitude := (lowEnd_ge significand exponent).trans near.low_le
    rw [bits, zero]
    rfl
  · have high := near.le_high
    have small : (significand : ℚ) + 1 / 2 ≤ 2 ^ 24 := by
      have : (significand + 1 : ℚ) ≤ 2 ^ 24 := by exact_mod_cast standard.below
      linarith
    have unit_le : (2 : ℚ) ^ exponent ≤ 2 ^ (104 : Int) := zpow_le_zpow_right₀ one_le_two standard.most
    have most : highEnd significand exponent ≤ 2 ^ (128 : Int) :=
      calc highEnd significand exponent ≤ 2 ^ 24 * 2 ^ (104 : Int) := by unfold highEnd; gcongr
        _ = 2 ^ (128 : Int) := by norm_num
    linarith
  · rw [bits]
    exact nearestSingle_finite some positive standard (ratio ▸ near)

theorem magnitudeBits_infinite {number : Numeral}
    (beyond : (2 ^ 24 - 1 / 2) * 2 ^ (104 : Int) ≤ number.magnitude) :
    number.magnitudeBits = 255 * 2 ^ 23 := by
  rcases number.magnitudeBits_cases with ⟨tiny, -⟩ | ⟨-, bits⟩ | ⟨num, den, some, positive, ratio, bits⟩
  · norm_num at tiny beyond
    linarith
  · exact bits
  · rw [bits]
    exact nearestSingle_infinite some positive (ratio ▸ beyond)

theorem toSingle_of_rounds {number : Numeral} {x : Float32} (rounds : number.RoundsTo x) :
    number.toSingle = x := by
  have read : number.toSingle = Float32.ofBits (UInt32.ofNat
      (if number.negative then Nat.pow 2 31 + number.magnitudeBits else number.magnitudeBits)) := rfl
  suffices bits : (if number.negative then Nat.pow 2 31 + number.magnitudeBits
      else number.magnitudeBits) = x.toBits.toNat by
    rw [read, bits, UInt32.ofNat_toNat, Float32.ofBits_toBits]
  unfold RoundsTo at rounds
  cases parts : Binary.ofSingle x with
  | nan => simp [parts] at rounds
  | infinite negative =>
    rw [parts] at rounds
    obtain ⟨rfl, beyond⟩ := rounds
    rw [toBits_infinite parts, magnitudeBits_infinite beyond]
    cases number.negative <;> simp
  | finite negative significand exponent =>
    rw [parts] at rounds
    obtain ⟨rfl, near⟩ := rounds
    obtain ⟨standard, bits⟩ := toBits_finite parts
    rw [bits, magnitudeBits_finite standard near]
    cases number.negative <;> simp

end Numeral

end TextQuest.Decimal
