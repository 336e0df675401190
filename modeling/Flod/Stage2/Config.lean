import Flod.Lib.Arith

/-! Operator settings of the enforcement, with the defaults a saved file is merged over. -/

namespace Flod.Stage2
open Flod.Lib

structure EnforcementConfig (F : Type) where
  dominantIpRatioBlockThreshold : F
  dominantIpRatioExtremeThreshold : F
  blockRateFloorPps : F
  ratelimitRateFloorPps : F
  blockSigmaMultiplier : F
  blockHysteresisWindows : Nat
  blockDurationSeconds : Nat
  ratelimitDurationSeconds : Nat

variable {F : Type} [Arith F]

/-- `DEFAULT_ENFORCEMENT_CONFIG`. -/
def EnforcementConfig.default : EnforcementConfig F where
  dominantIpRatioBlockThreshold := 0.40
  dominantIpRatioExtremeThreshold := 0.75
  blockRateFloorPps := 300.0
  ratelimitRateFloorPps := 50.0
  blockSigmaMultiplier := 10.0
  blockHysteresisWindows := 2
  blockDurationSeconds := 3600
  ratelimitDurationSeconds := 3600

end Flod.Stage2
