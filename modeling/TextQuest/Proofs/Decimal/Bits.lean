import Mathlib
import TextQuest.Decimal.Single

namespace TextQuest.Decimal
open Float.Model (Format UnpackedFloat)
open Float.Model.UnpackedFloat

theorem exists_parts (x : Float32) :
    ∃ (negative : Bool) (exponent fraction : Nat), exponent < 256 ∧ fraction < 2 ^ 23 ∧
      x.toBits.toNat = (if negative then 2 ^ 31 else 0) + exponent * 2 ^ 23 + fraction ∧
      Binary.ofSingle x =
        if exponent = 255 then if fraction = 0 then .infinite negative else .nan
        else if exponent = 0 then .finite negative fraction (-149)
        else .finite negative (2 ^ 23 + fraction) (exponent - 150) := by
  have bound := x.toBits.toNat_lt
  refine ⟨x.toBits.toNat / 2 ^ 31 % 2 = 1, x.toBits.toNat / 2 ^ 23 % 2 ^ 8, x.toBits.toNat % 2 ^ 23,
    by omega, by omega, ?_, ?_⟩
  · simp only [decide_eq_true_eq]
    split <;> omega
  · simp only [Binary.ofSingle, Binary.ofBits, Nat.pow_eq]
    have place (n : Nat) : (2 - ((2 ^ (8 - 1) : Nat) : Int) - (23 : Nat) + (n - 1)) = n - 150 := by omega
    rw [place]
    rfl

structure Standard (significand : Nat) (exponent : Int) : Prop where
  below : significand < 2 ^ 24
  least : -149 ≤ exponent
  most : exponent ≤ 104
  leading : exponent = -149 ∨ 2 ^ 23 ≤ significand

theorem isNaN_of_nan {x : Float32} (parts : Binary.ofSingle x = .nan) : x.isNaN = true := by
  obtain ⟨negative, exponent, fraction, -, small, bits, shown⟩ := exists_parts x
  rw [parts] at shown
  split_ifs at shown with top some
  have ones : @unpackExponent .binary32 x.toBits.toBitVec = -1#_ := by
    apply BitVec.eq_of_toNat_eq
    simp [unpackExponent]
    split at bits <;> omega
  have other : @unpackMantissa .binary32 x.toBits.toBitVec ≠ 0#_ := by
    intro zeros
    have none := congrArg BitVec.toNat zeros
    simp [unpackMantissa] at none
    split at bits <;> omega
  have unpacked : UnpackedFloat.unpack .binary32 x.toBits.toBitVec = .notANumber := by
    simp only [UnpackedFloat.unpack, ones, other, if_true, if_false]
  unfold Float32.isNaN Float32.Model.isNaN Float32.Model.unpack
  exact congrArg UnpackedFloat.isNaN unpacked

theorem toBits_infinite {x : Float32} {negative : Bool} (parts : Binary.ofSingle x = .infinite negative) :
    x.toBits.toNat = (if negative then 2 ^ 31 else 0) + 255 * 2 ^ 23 := by
  obtain ⟨sign, exponent, fraction, -, -, bits, shown⟩ := exists_parts x
  rw [parts] at shown
  split_ifs at shown with top rest
  cases shown
  simp [bits, top, rest]

theorem toBits_finite {x : Float32} {negative : Bool} {significand : Nat} {exponent : Int}
    (parts : Binary.ofSingle x = .finite negative significand exponent) :
    Standard significand exponent ∧
      x.toBits.toNat = (if negative then 2 ^ 31 else 0) + assembleSingle significand exponent := by
  obtain ⟨sign, biased, fraction, small, rest, bits, shown⟩ := exists_parts x
  rw [parts] at shown
  simp only [assembleSingle, Nat.pow_eq]
  split_ifs at shown with top full least
  · cases shown
    refine ⟨⟨by omega, by omega, by omega, .inl rfl⟩, ?_⟩
    rw [if_pos rest]
    omega
  · cases shown
    refine ⟨⟨by omega, by omega, by omega, .inr (by omega)⟩, ?_⟩
    have long : ¬2 ^ 23 + fraction < 2 ^ 23 := by omega
    have short : 2 ^ 23 + fraction ≠ 2 ^ 24 := by omega
    have finite : ¬(105 : Int) ≤ biased - 150 := by omega
    simp only [long, short, finite, if_false]
    omega

end TextQuest.Decimal
