import Flod.Ipc.FeatureVector
import Flod.Net.AddressText
import Mathlib.Tactic.Ring

/-! Stage 2's reading of the 216 bytes. `struct.unpack` splits them by the codes of a
format, and the receiver takes each value into a variable by its position. -/

namespace Flod.Ipc
open Flod.Net

theorem octets_succ (count : Nat) {w : Nat} (bits : BitVec w) :
    octets (count + 1) bits = bits.extractLsb' (8 * count) 8 :: octets count bits := by
  simp only [octets, List.range_succ_eq_map, List.map_cons, List.map_map]
  congr 1
  apply List.map_congr_left
  intro i _
  simp only [Function.comp_apply]
  congr 2
  omega

theorem foldl_octets {w : Nat} (bits : BitVec w) (count acc : Nat) :
    (octets count bits).foldl (fun acc byte => 256 * acc + byte.toNat) acc =
      256 ^ count * acc + bits.toNat % 256 ^ count := by
  induction count generalizing acc with
  | zero => simp [octets, Nat.mod_one]
  | succ count ih =>
    have top : (bits.extractLsb' (8 * count) 8).toNat = bits.toNat / 256 ^ count % 256 := by
      rw [BitVec.extractLsb'_toNat, Nat.shiftRight_eq_div_pow, pow_mul]
      rfl
    rw [octets_succ, List.foldl_cons, ih, top, Nat.mod_pow_succ]
    ring

theorem ofOctets_octets {w : Nat} (count : Nat) (width : w = 8 * count) (bits : BitVec w) :
    ofOctets w (octets count bits) = bits := by
  have size : 256 ^ count = 2 ^ w := by rw [width, pow_mul]; rfl
  rw [ofOctets, foldl_octets, size, Nat.mod_eq_of_lt bits.isLt]
  simp

/-- The codes of a `struct` format that the feature vector uses. -/
inductive FormatCode where
  | double
  | bytes (count : Nat)
  deriving DecidableEq, Repr

inductive Value where
  | double (word : BitVec 64)
  | bytes (content : List Byte)
  deriving DecidableEq, Repr

def FormatCode.size : FormatCode → Nat
  | .double => 8
  | .bytes count => count

def FormatCode.read : FormatCode → List Byte → Value
  | .double, field => .double (ofOctets 64 field.reverse)
  | .bytes _, field => .bytes field

def calcsize (format : List FormatCode) : Nat := (format.map FormatCode.size).sum

/-- `struct.unpack` in little-endian order without padding. Bytes missing or left over
are an error. -/
def unpack : List FormatCode → List Byte → Option (List Value)
  | [], [] => some []
  | [], _ :: _ => none
  | code :: format, buffer =>
      if buffer.length < code.size then none
      else (unpack format (buffer.drop code.size)).map (code.read (buffer.take code.size) :: ·)

/-- `"<23d16s16s"`. -/
def featureVectorFormat : List FormatCode := List.replicate 23 .double ++ [.bytes 16, .bytes 16]

/-- The variables of `run_ipc_receiver` as first read: no sentinel is converted and the
victim is not resolved to a configured name yet. -/
structure Received where
  entropy : BitVec 64
  ewmaRate : BitVec 64
  meanH : BitVec 64
  meanR : BitVec 64
  sigmaH : BitVec 64
  sigmaR : BitVec 64
  protoRatio : BitVec 64
  dominantIpRatio : BitVec 64
  timestamp : BitVec 64
  protoTcp : BitVec 64
  protoUdp : BitVec 64
  protoIcmp : BitVec 64
  protoSctp : BitVec 64
  protoGre : BitVec 64
  protoEsp : BitVec 64
  kMultiplier : BitVec 64
  cooldownCounter : BitVec 64
  egressRate : BitVec 64
  dropRatio : BitVec 64
  sourcePortEntropy : BitVec 64
  ttlVariance : BitVec 64
  fingerprintDiversity : BitVec 64
  isWarmup : BitVec 64
  ipStr : String
  victimIpStr : String
  deriving DecidableEq, Repr

def doubleAt (unpacked : List Value) (i : Nat) : Option (BitVec 64) :=
  match unpacked[i]? with
  | some (.double word) => some word
  | _ => none

/-- `decode_ip` on the bytes of a slot. `IPv6Address` raises unless there are sixteen. -/
def decodeIpBytes (content : List Byte) : String :=
  if content.length = 16 then decodeIp (ofOctets 128 content) else "Unknown"

def addressAt (unpacked : List Value) (i : Nat) : Option String :=
  match unpacked[i]? with
  | some (.bytes content) => some (decodeIpBytes content)
  | _ => none

def receive (unpacked : List Value) : Option Received := do
  let entropy ← doubleAt unpacked 0
  let ewmaRate ← doubleAt unpacked 1
  let meanH ← doubleAt unpacked 2
  let meanR ← doubleAt unpacked 3
  let sigmaH ← doubleAt unpacked 4
  let sigmaR ← doubleAt unpacked 5
  let protoRatio ← doubleAt unpacked 6
  let dominantIpRatio ← doubleAt unpacked 7
  let timestamp ← doubleAt unpacked 8
  let protoTcp ← doubleAt unpacked 9
  let protoUdp ← doubleAt unpacked 10
  let protoIcmp ← doubleAt unpacked 11
  let protoSctp ← doubleAt unpacked 12
  let protoGre ← doubleAt unpacked 13
  let protoEsp ← doubleAt unpacked 14
  let kMultiplier ← doubleAt unpacked 15
  let cooldownCounter ← doubleAt unpacked 16
  let egressRate ← doubleAt unpacked 17
  let dropRatio ← doubleAt unpacked 18
  let sourcePortEntropy ← doubleAt unpacked 19
  let ttlVariance ← doubleAt unpacked 20
  let fingerprintDiversity ← doubleAt unpacked 21
  let isWarmup ← doubleAt unpacked 22
  let ipStr ← addressAt unpacked 23
  let victimIpStr ← addressAt unpacked 24
  return { entropy, ewmaRate, meanH, meanR, sigmaH, sigmaR, protoRatio, dominantIpRatio, timestamp,
           protoTcp, protoUdp, protoIcmp, protoSctp, protoGre, protoEsp, kMultiplier,
           cooldownCounter, egressRate, dropRatio, sourcePortEntropy, ttlVariance,
           fingerprintDiversity, isWarmup, ipStr, victimIpStr }

/-- Every number arrives in the variable named after the field it was written from. -/
structure SameNumbers (fv : FeatureVector (BitVec 64)) (r : Received) : Prop where
  entropy : r.entropy = fv.entropy
  ewmaRate : r.ewmaRate = fv.ewmaRate
  meanH : r.meanH = fv.meanH
  meanR : r.meanR = fv.meanR
  sigmaH : r.sigmaH = fv.sigmaH
  sigmaR : r.sigmaR = fv.sigmaR
  protoRatio : r.protoRatio = fv.protoRatio
  dominantIpRatio : r.dominantIpRatio = fv.dominantIpRatio
  timestamp : r.timestamp = fv.timestamp
  protoTcp : r.protoTcp = fv.protoTcp
  protoUdp : r.protoUdp = fv.protoUdp
  protoIcmp : r.protoIcmp = fv.protoIcmp
  protoSctp : r.protoSctp = fv.protoSctp
  protoGre : r.protoGre = fv.protoGre
  protoEsp : r.protoEsp = fv.protoEsp
  kMultiplier : r.kMultiplier = fv.kMultiplier
  cooldownCounter : r.cooldownCounter = fv.cooldownCounter
  egressRate : r.egressRate = fv.egressRate
  dropRatio : r.dropRatio = fv.dropRatio
  sourcePortEntropy : r.sourcePortEntropy = fv.sourcePortEntropy
  ttlVariance : r.ttlVariance = fv.ttlVariance
  fingerprintDiversity : r.fingerprintDiversity = fv.fingerprintDiversity
  isWarmup : r.isWarmup = fv.isWarmup

theorem unpack_double (format : List FormatCode) (word : BitVec 64) (buffer : List Byte) :
    unpack (.double :: format) (littleEndian word ++ buffer) =
      (unpack format buffer).map (.double word :: ·) := by
  have length : (littleEndian word).length = 8 := by simp [littleEndian]
  have fits : ¬ (littleEndian word ++ buffer).length < 8 := by simp [length]
  have value : ofOctets 64 (littleEndian word).reverse = word := by
    rw [littleEndian, List.reverse_reverse]
    exact ofOctets_octets 8 rfl word
  rw [unpack, FormatCode.size, if_neg fits, ← length, List.drop_left, List.take_left, FormatCode.read, value]

theorem unpack_bytes (format : List FormatCode) (field buffer : List Byte) :
    unpack (.bytes field.length :: format) (field ++ buffer) =
      (unpack format buffer).map (.bytes field :: ·) := by
  have fits : ¬ (field ++ buffer).length < field.length := by simp
  rw [unpack, FormatCode.size, if_neg fits, List.drop_left, List.take_left, FormatCode.read]

/-- The doubles of a format take the words written for them, in order. -/
theorem unpack_doubles (words : List (BitVec 64)) (format : List FormatCode) (buffer : List Byte) :
    unpack (List.replicate words.length .double ++ format) (words.flatMap littleEndian ++ buffer) =
      (unpack format buffer).map (words.map .double ++ ·) := by
  induction words with
  | nil => simp
  | cons word rest ih =>
    simp only [List.length_cons, List.replicate_succ, List.cons_append, List.flatMap_cons,
      List.append_assoc, unpack_double, ih, Option.map_map, List.map_cons]
    rfl

theorem unpack_toBytes (fv : FeatureVector (BitVec 64)) :
    unpack featureVectorFormat fv.toBytes =
      some (fv.numbers.map .double ++
        [.bytes (octets 16 fv.dominantIp.slot), .bytes (octets 16 fv.victimIp.slot)]) := by
  have slots : unpack [.bytes 16, .bytes 16] (octets 16 fv.dominantIp.slot ++ octets 16 fv.victimIp.slot) =
      some [.bytes (octets 16 fv.dominantIp.slot), .bytes (octets 16 fv.victimIp.slot)] := by
    have first := unpack_bytes [.bytes 16] (octets 16 fv.dominantIp.slot) (octets 16 fv.victimIp.slot)
    have second := unpack_bytes [] (octets 16 fv.victimIp.slot) []
    rw [octets_length] at first second
    rw [List.append_nil] at second
    rw [first, second]
    rfl
  have all := unpack_doubles fv.numbers [.bytes 16, .bytes 16]
    (octets 16 fv.dominantIp.slot ++ octets 16 fv.victimIp.slot)
  rw [slots, ← List.append_assoc] at all
  exact all

theorem decodeIpBytes_slot {a : IpAddr} (unmapped : a.Unmapped) :
    decodeIpBytes (octets 16 a.slot) = a.text := by
  rw [decodeIpBytes, if_pos (octets_length 16 a.slot), ofOctets_octets 16 rfl, decodeIp_slot unmapped]

/-- What Stage 1 wrote is what Stage 2 reads: every number under its own name, and for
an unmapped address a text that is its own and no other's. -/
theorem receive_toBytes (fv : FeatureVector (BitVec 64)) :
    fv.toBytes.length = 216 ∧ calcsize featureVectorFormat = 216 ∧
      ∃ unpacked r, unpack featureVectorFormat fv.toBytes = some unpacked ∧ receive unpacked = some r ∧
        SameNumbers fv r ∧
        (fv.dominantIp.Unmapped → ∀ a : IpAddr, a.text = r.ipStr ↔ a = fv.dominantIp) ∧
        (fv.victimIp.Unmapped → ∀ a : IpAddr, a.text = r.victimIpStr ↔ a = fv.victimIp) := by
  have names : ∀ a b : IpAddr, b.Unmapped → (a.text = decodeIpBytes (octets 16 b.slot) ↔ a = b) := by
    intro a b unmapped
    rw [decodeIpBytes_slot unmapped]
    exact ⟨IpAddr.text_injective, congrArg IpAddr.text⟩
  refine ⟨fv.toBytes_length, by decide, _, _, unpack_toBytes fv, rfl, ?_, ?_, ?_⟩
  · constructor <;> rfl
  · exact fun unmapped a => names a _ unmapped
  · exact fun unmapped a => names a _ unmapped

def mixedVector : FeatureVector (BitVec 64) :=
  { uniformVector 0x3ff0000000000000 with
    dominantIp := .v4 0xc6336409
    victimIp := .v6 0x20010db8000000000000000000000001 }

theorem receive_toBytes_mixed :
    ∃ unpacked r, unpack featureVectorFormat mixedVector.toBytes = some unpacked ∧
      receive unpacked = some r ∧ r.dropRatio = 0x3ff0000000000000 ∧
      (IpAddr.v4 0xc6336409).text = r.ipStr ∧
      (IpAddr.v6 0x20010db8000000000000000000000001).text = r.victimIpStr := by
  obtain ⟨_, _, unpacked, r, split, read, numbers, dominant, victim⟩ := receive_toBytes mixedVector
  have plain : mixedVector.victimIp.Unmapped := by decide
  exact ⟨unpacked, r, split, read, numbers.dropRatio, (dominant trivial _).mpr rfl, (victim plain _).mpr rfl⟩

end Flod.Ipc
