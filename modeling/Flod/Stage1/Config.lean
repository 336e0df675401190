import Flod.Lib.Arith
import Flod.Net.Address

/-! Runtime parameters of the analysis thread and the addresses it protects. -/

namespace Flod.Stage1
open Flod.Lib Flod.Net

/-- Monotonic clock readings, in nanoseconds. -/
abbrev Instant := Nat

/-- `duration_since` saturates at zero when the clock went back. -/
def secondsSince {F : Type} [Arith F] (now earlier : Instant) : F :=
  ((now - earlier : Nat) : F) / 1e9

inductive VictimTargets where
  | list (addresses : List IpAddr)
  | subnet (ip : IpAddr) (bits : Nat)
  deriving DecidableEq, Repr

/-- Whole octets first, then the high bits of the octet the prefix length cuts. -/
def prefixMatches (net target : List Byte) (bits : Nat) : Bool :=
  let bytes := bits / 8
  let extraBits := bits % 8
  let mask : Byte := 0xff <<< (8 - extraBits)
  net.take bytes == target.take bytes &&
    (extraBits == 0 || net.getD bytes 0 &&& mask == target.getD bytes 0 &&& mask)

def VictimTargets.contains : VictimTargets → IpAddr → Bool
  | .list addresses, target => addresses.contains target
  | .subnet (.v4 net) bits, .v4 target =>
      bits ≤ 32 && prefixMatches (octets 4 net) (octets 4 target) bits
  | .subnet (.v6 net) bits, .v6 target =>
      bits ≤ 128 && prefixMatches (octets 16 net) (octets 16 target) bits
  | .subnet _ _, _ => false

structure AnalysisConfig (F : Type) where
  k : F
  ewmaAlpha : F
  victimTargets : Option VictimTargets
  excludeIps : List IpAddr
  egressEnabled : Bool
  entropySigmaFloor : F
  entropySigmaCeiling : F
  rateSigmaFloor : F
  rateSigmaFloorRatio : F
  distributedDominance : F
  entropyMinPackets : Nat
  maxTrackedFlows : Nat
  emergencyVolumeSigma : F
  entropyKFallback : F
  rateSigmaCeilingRatio : F
  rateSigmaCeilingFloor : F
  outlierSigma : F
  rateMeanCap : F
  cooldownWindows : Nat
  cooldownKFactor : F
  peacetimeEwmaWeight : F
  maxBaselineFreezeWindows : Nat

namespace AnalysisConfig

variable {F : Type} [Arith F]

/-- `Default for AnalysisConfig`. -/
def default : AnalysisConfig F where
  k := 2.0
  ewmaAlpha := 0.125
  victimTargets := none
  excludeIps := []
  egressEnabled := false
  entropySigmaFloor := 0.05
  entropySigmaCeiling := 0.15
  rateSigmaFloor := 50.0
  rateSigmaFloorRatio := 0.24
  distributedDominance := 0.40
  entropyMinPackets := 100
  maxTrackedFlows := 8192
  emergencyVolumeSigma := 10.0
  entropyKFallback := 0.8
  rateSigmaCeilingRatio := 0.2
  rateSigmaCeilingFloor := 10000.0
  outlierSigma := 5.0
  rateMeanCap := 10000.0
  cooldownWindows := 10
  cooldownKFactor := 0.5
  peacetimeEwmaWeight := 0.001
  maxBaselineFreezeWindows := 400

/-- What `parse_positive` and `parse_positive_u64` guarantee of every tuning value
given on the command line. `k` and `alpha` are parsed without a bound. -/
structure Tuned (cfg : AnalysisConfig F) : Prop where
  entropySigmaFloor : 0 < cfg.entropySigmaFloor
  entropySigmaCeiling : 0 < cfg.entropySigmaCeiling
  rateSigmaFloor : 0 < cfg.rateSigmaFloor
  rateSigmaFloorRatio : 0 < cfg.rateSigmaFloorRatio
  distributedDominance : 0 < cfg.distributedDominance
  emergencyVolumeSigma : 0 < cfg.emergencyVolumeSigma
  entropyKFallback : 0 < cfg.entropyKFallback
  rateSigmaCeilingRatio : 0 < cfg.rateSigmaCeilingRatio
  rateSigmaCeilingFloor : 0 < cfg.rateSigmaCeilingFloor
  outlierSigma : 0 < cfg.outlierSigma
  rateMeanCap : 0 < cfg.rateMeanCap
  cooldownWindows : 0 < cfg.cooldownWindows
  cooldownKFactor : 0 < cfg.cooldownKFactor
  peacetimeEwmaWeight : 0 < cfg.peacetimeEwmaWeight
  maxBaselineFreezeWindows : 0 < cfg.maxBaselineFreezeWindows

theorem default_tuned : (default : AnalysisConfig F).Tuned := by
  constructor <;> norm_num [default]

/-- Matching the configured targets, or none being configured, and not excluded. -/
def isEffectivelyProtected (cfg : AnalysisConfig F) (addr : IpAddr) : Bool :=
  let matchesTargets := match cfg.victimTargets with
    | some targets => targets.contains addr
    | none => true
  matchesTargets && !cfg.excludeIps.contains addr

end AnalysisConfig

end Flod.Stage1
