import TextQuest.Decimal.Fixed
import TextQuest.Neural.Scalar

namespace TextQuest.Neural

instance : Scalar Float32 where
  zero := 0
  one := 1
  ofNat := Float32.ofNat
  fraction word := Float32.ofNat (word >>> 8).toNat * Float32.ofBits 0x33800000
  sqrt := Float32.sqrt
  exp := Float32.exp
  ln := Float32.log
  larger a b := if a.isNaN then b else if b.isNaN then a else if a < b then b else a
  less a b := a < b
  lowest := Float32.ofBits 0xff800000
  leastPositive := Float32.ofBits 0x00800000
  shown x := Decimal.padded ' ' 5 (Decimal.fixed 2 (.ofSingle x))

end TextQuest.Neural
