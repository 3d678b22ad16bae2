import TextQuest.Decimal.Shortest
import TextQuest.Proofs.Decimal.Rounding
import TextQuest.Proofs.Decimal.Spelling

namespace TextQuest.Decimal

theorem compareDecimal_eq (a : Nat) (exponent : Int) (b : Nat) (place : Int) :
    compareDecimal a exponent b place = compare (a * 2 ^ exponent : ℚ) (b * 10 ^ place) := by
  have binary := scaled_ratio a 2 exponent
  have decimal := scaled_ratio b 10 place
  have binaryDen : (0 : ℚ) < (scaled a 2 exponent).2 := by exact_mod_cast scaled_snd_pos a (by decide) exponent
  have decimalDen : (0 : ℚ) < (scaled b 10 place).2 := by exact_mod_cast scaled_snd_pos b (by decide) place
  push_cast at binary decimal
  have meant : compareDecimal a exponent b place =
      compare ((scaled a 2 exponent).1 * (scaled b 10 place).2)
        ((scaled b 10 place).1 * (scaled a 2 exponent).2) := rfl
  rw [← binary, ← decimal, meant, eq_comm, compare_iff]
  generalize scaled a 2 exponent = left at *
  generalize scaled b 10 place = right at *
  cases order : compare (left.1 * right.2) (right.1 * left.2) with
  | lt =>
    rw [Nat.compare_eq_lt] at order
    rw [Ordering.compares_lt, div_lt_div_iff₀ binaryDen decimalDen]
    exact_mod_cast order
  | eq =>
    rw [Nat.compare_eq_eq] at order
    rw [Ordering.compares_eq, div_eq_div_iff binaryDen.ne' decimalDen.ne']
    exact_mod_cast order
  | gt =>
    rw [Nat.compare_eq_gt] at order
    rw [Ordering.compares_gt, gt_iff_lt, div_lt_div_iff₀ decimalDen binaryDen]
    exact_mod_cast order

namespace Rounding

variable {r : Rounding} {place : Int}

theorem between_of_contains {digits : Nat} (held : r.contains digits place = true) :
    Between (r.low * 2 ^ r.exponent) (r.high * 2 ^ r.exponent) (r.closed = true) (digits * 10 ^ place) := by
  simp only [contains, compareDecimal_eq, Bool.and_eq_true, Bool.or_eq_true, decide_eq_true_eq,
    compare_lt_iff_lt, compare_gt_iff_gt, compare_eq_iff_eq] at held
  obtain ⟨low, high⟩ := held
  refine ⟨?_, ?_, ?_⟩
  · exact low.elim le_of_lt fun ⟨_, same⟩ => same.le
  · exact high.elim le_of_lt fun ⟨_, same⟩ => same.ge
  · grind

theorem contains_of_inside {digits : Nat} (low : (r.low * 2 ^ r.exponent : ℚ) < digits * 10 ^ place)
    (high : (digits * 10 ^ place : ℚ) < r.high * 2 ^ r.exponent) : r.contains digits place = true := by
  simp [contains, compareDecimal_eq, compare_lt_iff_lt.mpr low, compare_gt_iff_gt.mpr high]

def down (r : Rounding) (place : Int) : Nat :=
  (scaled r.value 2 r.exponent).1 * (scaled 1 10 place).2 /
    ((scaled r.value 2 r.exponent).2 * (scaled 1 10 place).1)

theorem digitsAt?_eq (r : Rounding) (place : Int) :
    r.digitsAt? place =
      match r.contains (r.down place) place, r.contains (r.down place + 1) place with
      | false, false => none
      | true, false => some (r.down place)
      | false, true => some (r.down place + 1)
      | true, true =>
        match compareDecimal (2 * r.value) r.exponent (2 * r.down place + 1) place with
        | .lt => some (r.down place)
        | .gt => some (r.down place + 1)
        | .eq => some (if r.evenTies then r.down place + r.down place % 2 else r.down place + 1) := rfl

theorem contains_of_digitsAt? {digits : Nat} (found : r.digitsAt? place = some digits) :
    r.contains digits place = true := by
  rw [digitsAt?_eq] at found
  generalize r.down place = down at found
  have parity := Nat.mod_two_eq_zero_or_one down
  grind

theorem isSome_digitsAt? (held : r.contains (r.down place) place = true) : (r.digitsAt? place).isSome := by
  rw [digitsAt?_eq, held]
  grind

theorem down_bounds (r : Rounding) (place : Int) :
    (r.down place * 10 ^ place : ℚ) ≤ r.value * 2 ^ r.exponent ∧
      (r.value * 2 ^ r.exponent : ℚ) < (r.down place + 1) * 10 ^ place := by
  have value := scaled_ratio r.value 2 r.exponent
  have power := scaled_ratio 1 10 place
  have unit : (0 : ℚ) < 10 ^ place := by positivity
  have positive : (0 : ℚ) ≤ r.value * 2 ^ r.exponent / 10 ^ place := by positivity
  push_cast at value power
  rw [one_mul] at power
  have floor : r.down place = ⌊(r.value * 2 ^ r.exponent : ℚ) / 10 ^ place⌋₊ := by
    rw [← value, ← power, div_div_div_eq, down, ← Nat.floor_div_eq_div (K := ℚ)]
    push_cast
    rfl
  rw [← le_div_iff₀ unit, ← div_lt_iff₀ unit, floor]
  exact ⟨Nat.floor_le positive, Nat.lt_floor_add_one _⟩

theorem contains_search {tries : Nat} {k : Nat} (less : k < tries)
    (hit : (r.digitsAt? (place - k)).isSome) :
    r.contains (r.search tries place).1 (r.search tries place).2 = true := by
  induction tries generalizing place k with
  | zero => omega
  | succ tries ih =>
    unfold search
    cases found : r.digitsAt? place with
    | some digits => exact contains_of_digitsAt? found
    | none =>
      cases k with
      | zero => simp [found] at hit
      | succ k =>
        refine ih (k := k) (by omega) ?_
        convert hit using 3
        omega

theorem isSome_digitsAt?_of_fine (fine : (r.low * 2 ^ r.exponent + 10 ^ place : ℚ) ≤ r.value * 2 ^ r.exponent)
    (below : r.value < r.high) : (r.digitsAt? place).isSome := by
  obtain ⟨low, high⟩ := r.down_bounds place
  have unit : (0 : ℚ) < 2 ^ r.exponent := by positivity
  have less : (r.value * 2 ^ r.exponent : ℚ) < r.high * 2 ^ r.exponent := by gcongr
  exact isSome_digitsAt? (contains_of_inside (by linarith) (low.trans_lt less))

end Rounding

theorem ten_zpow_le {place exponent : Int} (up : 0 ≤ place → 4 * place ≤ exponent)
    (down : place < 0 → 3 * place ≤ exponent) : (10 : ℚ) ^ place ≤ 2 ^ exponent := by
  rcases lt_or_ge place 0 with negative | positive
  · obtain ⟨n, rfl⟩ : ∃ n : Nat, place = -n := ⟨(-place).toNat, by omega⟩
    calc (10 : ℚ) ^ (-n : Int) = (10 ^ n)⁻¹ := by simp
      _ ≤ (8 ^ n)⁻¹ := by gcongr; norm_num
      _ = 2 ^ (3 * -n : Int) := by rw [zpow_mul]; norm_num
      _ ≤ 2 ^ exponent := zpow_le_zpow_right₀ one_le_two (down negative)
  · obtain ⟨n, rfl⟩ := Int.eq_ofNat_of_zero_le positive
    calc (10 : ℚ) ^ (n : Int) ≤ 16 ^ (n : Int) := zpow_le_zpow_left₀ positive (by norm_num) (by norm_num)
      _ = 2 ^ (4 * n : Int) := by rw [zpow_mul]; norm_num
      _ ≤ 2 ^ exponent := zpow_le_zpow_right₀ one_le_two (up positive)

theorem units_quarter (exponent : Int) : (2 : ℚ) ^ exponent = 4 * 2 ^ (exponent - 2) := by
  rw [zpow_sub₀ two_ne_zero]
  norm_num
  ring

theorem low_of {significand : Nat} (exponent : Int) (positive : 0 < significand) :
    ((Rounding.of 23 (-149) false significand exponent).low * 2 ^ (exponent - 2) : ℚ) =
      lowEnd significand exponent := by
  rw [lowEnd, units_quarter exponent, Rounding.of]
  split <;> rename_i power
  · rw [if_pos (by simpa using power), Nat.cast_sub (by omega)]
    push_cast
    ring
  · rw [if_neg (by simpa using power), Nat.cast_sub (by omega)]
    push_cast
    ring

theorem value_of (significand : Nat) (exponent : Int) :
    ((Rounding.of 23 (-149) false significand exponent).value * 2 ^ (exponent - 2) : ℚ) =
      significand * 2 ^ exponent := by
  rw [units_quarter exponent, Rounding.of]
  push_cast
  ring

theorem high_of (significand : Nat) (exponent : Int) :
    ((Rounding.of 23 (-149) false significand exponent).high * 2 ^ (exponent - 2) : ℚ) =
      highEnd significand exponent := by
  rw [highEnd, units_quarter exponent, Rounding.of]
  push_cast
  ring

theorem lowEnd_quarter_le (significand : Nat) (exponent : Int) :
    lowEnd significand exponent + 2 ^ (exponent - 2) ≤ significand * 2 ^ exponent := by
  have unit : (0 : ℚ) < 2 ^ (exponent - 2) := by positivity
  rw [lowEnd, units_quarter exponent]
  split <;> linarith

/-- The shortest decimal of a finite single lies in its interval. -/
theorem shortest_near {significand : Nat} {exponent : Int} (standard : Standard significand exponent)
    {digits : Nat} {place : Int}
    (shortest : (Rounding.of 23 (-149) false significand exponent).shortest = (digits, place)) :
    Between (lowEnd significand exponent) (highEnd significand exponent) (significand % 2 = 0)
      (digits * 10 ^ place) := by
  rcases Nat.eq_zero_or_pos significand with rfl | positive
  · have unit : (0 : ℚ) < 2 ^ exponent := by positivity
    obtain ⟨rfl, rfl⟩ := Prod.mk.inj shortest
    refine ⟨?_, ?_, .inl rfl⟩
    · simp [lowEnd, unit.le]
    · simp [highEnd, unit.le]
  · let r := Rounding.of 23 (-149) false significand exponent
    let first := placeAbove r.value r.exponent
    have some : r.value ≠ 0 := by
      have : r.value = 4 * significand := rfl
      omega
    have small : r.value.log2 < 26 := by
      have := standard.below
      have : r.value = 4 * significand := rfl
      rw [Nat.log2_lt some]
      omega
    have power : (10 : ℚ) ^ (first - 23) ≤ 2 ^ (exponent - 2) := by
      have least := standard.least
      have most := standard.most
      have above : first = (r.value.log2 + 1 + (exponent - 2)) * 30103 / 100000 + 1 := rfl
      exact ten_zpow_le (by omega) (by omega)
    have fine : (r.low * 2 ^ (exponent - 2) + 10 ^ (first - 23) : ℚ) ≤ r.value * 2 ^ (exponent - 2) := by
      rw [low_of exponent positive, value_of]
      exact le_trans (by gcongr) (lowEnd_quarter_le significand exponent)
    have below : r.value < r.high := Nat.lt_add_of_pos_right (by decide)
    have held := Rounding.contains_search (show 23 < 24 by decide)
      (Rounding.isSome_digitsAt?_of_fine fine below)
    have found : r.shortest = r.search 24 first := if_neg some
    rw [← found, shortest] at held
    have near : Between (r.low * 2 ^ (exponent - 2)) (r.high * 2 ^ (exponent - 2))
      (decide (significand % 2 = 0) = true) (digits * 10 ^ place) := Rounding.between_of_contains held
    rwa [low_of exponent positive, high_of, decide_eq_true_eq] at near

theorem digits_toDigits (n : Nat) : Digits (Nat.toDigits 10 n) :=
  fun _ => Nat.isDigit_of_mem_toDigits (by decide) (by decide)

theorem toList_toString (n : Nat) : (toString n).toList = Nat.toDigits 10 n := Nat.toList_repr

theorem exists_pointed (digits : Nat) (place : Int) :
    ∃ whole fraction, (positional digits place).toList = whole ++ '.' :: fraction ∧
      whole ≠ [] ∧ Digits (whole ++ fraction) ∧
      (Nat.ofDigitChars 10 (whole ++ fraction) 0 * 10 ^ (-fraction.length : Int) : ℚ) =
        digits * 10 ^ place := by
  unfold positional
  split
  · rename_i natural
    obtain ⟨n, rfl⟩ := Int.eq_ofNat_of_zero_le natural
    refine ⟨Nat.toDigits 10 (digits * 10 ^ n), ['0'], ?_, Nat.toDigits_ne_nil, ?_, ?_⟩
    · rw [String.toList_append, toList_toString]
      rfl
    · intro c inside
      rcases List.mem_append.mp inside with front | last
      · exact digits_toDigits _ c front
      · rw [List.mem_singleton.mp last]
        rfl
    · simp [Nat.ofDigitChars_append, Nat.ofDigitChars_ten_toDigits, Nat.ofDigitChars_cons]
      ring
  · rename_i negative
    obtain ⟨n, rfl⟩ : ∃ n : Nat, place = -n := ⟨(-place).toNat, by omega⟩
    have size : (-(-n : Int)).toNat = n := by omega
    simp only [size, toList_toString]
    generalize shown : List.replicate (n + 1 - (Nat.toDigits 10 digits).length) '0' ++
      Nat.toDigits 10 digits = text
    have long : n + 1 ≤ text.length := by
      rw [← shown, List.length_append, List.length_replicate]
      omega
    refine ⟨text.take (text.length - n), text.drop (text.length - n), String.toList_ofList, ?_, ?_, ?_⟩
    · exact List.ne_nil_of_length_pos (by rw [List.length_take]; omega)
    · rw [List.take_append_drop, ← shown]
      intro c inside
      rcases List.mem_append.mp inside with front | last
      · rw [List.eq_of_mem_replicate front]
        rfl
      · exact digits_toDigits _ c last
    · have length : (text.drop (text.length - n)).length = n := by rw [List.length_drop]; omega
      rw [List.take_append_drop, length, ← shown, Nat.ofDigitChars_append, Nat.ofDigitChars_replicate_zero,
        Nat.mul_zero, Nat.ofDigitChars_ten_toDigits]

theorem exists_spells_shortest {x : Float32} {negative : Bool} {significand : Nat} {exponent : Int}
    (parts : Binary.ofSingle x = .finite negative significand exponent) :
    ∃ numeral, SpellsNumeral numeral (shortestSingle x).toList ∧ numeral.RoundsTo x := by
  obtain ⟨standard, -⟩ := toBits_finite parts
  cases shortest : (Rounding.of 23 (-149) false significand exponent).shortest with
  | mk digits place =>
    obtain ⟨whole, fraction, text, some, within, value⟩ := exists_pointed digits place
    refine ⟨⟨negative, Nat.ofDigitChars 10 (whole ++ fraction) 0, 0 - fraction.length⟩, ?_, ?_⟩
    · have shown : (shortestSingle x).toList =
          (if negative then ['-'] else []) ++ (whole ++ ('.' :: fraction ++ [])) := by
        unfold shortestSingle withShortest
        rw [parts]
        simp only [shortest, String.toList_append, text, List.append_nil]
        cases negative <;> rfl
      have signed : SpellsSign negative (if negative then ['-'] else []) := by
        cases negative
        · exact .none
        · exact .minus
      rw [shown]
      exact .mk signed (.point fraction) .none (by simp [some]) within
    · have near := shortest_near standard shortest
      rw [← value] at near
      unfold Numeral.RoundsTo
      rw [parts]
      refine ⟨rfl, ?_⟩
      unfold Numeral.magnitude
      simpa using near

end TextQuest.Decimal
