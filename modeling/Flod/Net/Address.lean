import Mathlib.Data.List.Basic
import Mathlib.Data.BitVec

/-! Addresses as both stages hold them: Rust's `IpAddr`, the sixteen octets put on
the wire, and the text Python prints for those octets. -/

namespace Flod.Net

abbrev Byte := BitVec 8

inductive IpAddr where
  | v4 (bits : BitVec 32)
  | v6 (bits : BitVec 128)
  deriving DecidableEq, Repr

/-- Octets of a word, most significant first. -/
def octets (count : Nat) {w : Nat} (bits : BitVec w) : List Byte :=
  (List.range count).map (fun i => bits.extractLsb' (8 * (count - 1 - i)) 8)

/-- The word with the given octets, most significant first. -/
def ofOctets (w : Nat) (bytes : List Byte) : BitVec w :=
  BitVec.ofNat w (bytes.foldl (fun acc byte => 256 * acc + byte.toNat) 0)

@[simp] theorem octets_length (count : Nat) {w : Nat} (bits : BitVec w) :
    (octets count bits).length = count := by
  simp [octets]

def toIpv6Mapped (bits : BitVec 32) : BitVec 128 := (0xffff : BitVec 96) ++ bits

/-- The 128 bits written to an address slot of the feature vector. -/
def IpAddr.slot : IpAddr → BitVec 128
  | .v4 bits => toIpv6Mapped bits
  | .v6 bits => bits

def ipv4Mapped (bits : BitVec 128) : Option (BitVec 32) :=
  if bits >>> 32 = 0xffff then some (bits.setWidth 32) else none

/-- `0.0.0.0`, which Stage 1 writes when a window has no dominant source. -/
def unspecified : IpAddr := .v4 0

def dottedQuad (bits : BitVec 32) : String :=
  ".".intercalate ((octets 4 bits).map (fun octet => toString octet.toNat))

def hextets (bits : BitVec 128) : List Nat :=
  (List.range 8).map (fun i => (bits.extractLsb' (16 * (7 - i)) 16).toNat)

/-- Length of the run of zeros at the head of the hextets. -/
def zeroRun : List Nat → Nat
  | 0 :: rest => zeroRun rest + 1
  | _ => 0

/-- Start and length of the first longest run of zeros. -/
def longestZeroRun (groups : List Nat) : Nat × Nat :=
  (List.range groups.length).foldl (fun best start =>
    let length := zeroRun (groups.drop start)
    if best.2 < length then (start, length) else best) (0, 0)

def hex (n : Nat) : String := String.ofList (Nat.toDigits 16 n)

/-- Python's text of an IPv6 address: the longest run of two or more zero groups
is written `::`. -/
def ipv6Text (bits : BitVec 128) : String :=
  let groups := hextets bits
  let (start, length) := longestZeroRun groups
  if 1 < length then
    ":".intercalate ((groups.take start).map hex) ++ "::" ++
      ":".intercalate ((groups.drop (start + length)).map hex)
  else ":".intercalate (groups.map hex)

/-- `decode_ip`: sixteen octets always parse, so its error branch is unreachable. -/
def decodeIp (bits : BitVec 128) : String :=
  match ipv4Mapped bits with
  | some v4 => dottedQuad v4
  | none => ipv6Text bits

/-- The texts Stage 2 reads as naming no address. -/
def sentinelTexts : List String := ["Unknown", "0.0.0.0", "::"]

theorem decodeIp_unspecified : decodeIp unspecified.slot = "0.0.0.0" := by decide +kernel

example : (decodeIp 1, decodeIp 0, decodeIp 0x20010db8000000000000ff0000428329) =
    ("::1", "::", "2001:db8::ff00:42:8329") := by decide +kernel

theorem decodeIp_ne_empty (bits : BitVec 128) : decodeIp bits ≠ "" := by
  intro empty
  have length := congrArg String.length empty
  unfold decodeIp at length
  split at length
  · simp [dottedQuad, octets, List.range_succ] at length
  · simp only [ipv6Text] at length
    split at length
    · simp at length
    · simp [hextets, List.range_succ] at length

end Flod.Net
