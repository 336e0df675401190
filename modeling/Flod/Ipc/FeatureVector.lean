import Flod.Net.Address

/-! The vector handed from Stage 1 to Stage 2 and its 216 bytes on the wire. The
number type is a parameter: exact numbers for the statistics, 64-bit words for the
wire, where an `f64` is eight opaque bytes. -/

namespace Flod.Ipc
open Flod.Net

structure FeatureVector (F : Type) where
  entropy : F
  ewmaRate : F
  meanH : F
  meanR : F
  sigmaH : F
  sigmaR : F
  protoRatio : F
  dominantIpRatio : F
  timestamp : F
  protoTcp : F
  protoUdp : F
  protoIcmp : F
  protoSctp : F
  protoGre : F
  protoEsp : F
  kMultiplier : F
  cooldownCounter : F
  egressRate : F
  dropRatio : F
  sourcePortEntropy : F
  ttlVariance : F
  fingerprintDiversity : F
  isWarmup : F
  dominantIp : IpAddr
  victimIp : IpAddr

/-- The numbers in the order they are written. -/
def FeatureVector.numbers {F : Type} (fv : FeatureVector F) : List F :=
  [fv.entropy, fv.ewmaRate, fv.meanH, fv.meanR, fv.sigmaH, fv.sigmaR, fv.protoRatio,
    fv.dominantIpRatio, fv.timestamp, fv.protoTcp, fv.protoUdp, fv.protoIcmp, fv.protoSctp,
    fv.protoGre, fv.protoEsp, fv.kMultiplier, fv.cooldownCounter, fv.egressRate, fv.dropRatio,
    fv.sourcePortEntropy, fv.ttlVariance, fv.fingerprintDiversity, fv.isWarmup]

def featureVectorBytes : Nat := 216

/-- `write_f64::<LittleEndian>`. -/
def littleEndian (word : BitVec 64) : List Byte := (octets 8 word).reverse

def FeatureVector.toBytes (fv : FeatureVector (BitVec 64)) : List Byte :=
  fv.numbers.flatMap littleEndian ++ octets 16 fv.dominantIp.slot ++ octets 16 fv.victimIp.slot

theorem FeatureVector.toBytes_length (fv : FeatureVector (BitVec 64)) :
    fv.toBytes.length = featureVectorBytes := by
  have words : ∀ word, (littleEndian word).length = 8 := by
    intro word
    simp [littleEndian]
  simp [toBytes, numbers, words, featureVectorBytes]

/-- The same number in every field, for concrete runs. -/
def uniformVector {F : Type} (x : F) : FeatureVector F :=
  ⟨x, x, x, x, x, x, x, x, x, x, x, x, x, x, x, x, x, x, x, x, x, x, x, .v4 0, .v4 0⟩

end Flod.Ipc
