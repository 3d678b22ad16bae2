import TextQuest.Failure
import TextQuest.Neural.Scalar

namespace TextQuest.Neural

structure Config (R : Type) where
  featureDim : Nat
  learningRate : R
  gamma : R
  entropyCoef : R
  valueCoef : R
  updateFrequency : Nat
  /-- Over how many decisions averages are logged; zero for never. -/
  logFrequency : Nat
  seed : UInt64

/-- The settings unless others are given: rates of 0.05, 0.9, 0.01 and 0.5. -/
def Config.standard : Config Float32 where
  featureDim := 16384
  learningRate := Float32.ofBits 0x3d4ccccd
  gamma := Float32.ofBits 0x3f666666
  entropyCoef := Float32.ofBits 0x3c23d70a
  valueCoef := Float32.ofBits 0x3f000000
  updateFrequency := 10
  logFrequency := 1000
  seed := 20181012

/-- How many weights of a kind have addresses, with four bytes each. -/
def weightLimit : Nat := 2305843009213693951

def Config.validate {R : Type} (config : Config R) : Except AgentError Unit :=
  if config.featureDim = 0 then .error .noFeatures else .ok ()

end TextQuest.Neural
