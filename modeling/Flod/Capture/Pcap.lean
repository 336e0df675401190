import Flod.Kernel.Parse

/-! The libpcap path: a frame cut at the snap length, sliced by `etherparse`, and turned
into the record sent to the analysis thread. -/

namespace Flod.Capture
open Flod.Net Flod.Stage1 Flod.Kernel

/-- The parts of an IP header the capture thread reads. -/
structure NetSlice where
  source : IpAddr
  destination : IpAddr
  protocol : Byte
  ttl : Byte
  deriving DecidableEq, Repr

/-- A transport header with ports, and the bytes from its start on. -/
inductive Transport where
  | tcp (segment : List Byte)
  | udp (datagram : List Byte)
  deriving DecidableEq, Repr

structure Sliced where
  net : Option NetSlice
  transport : Option Transport
  deriving DecidableEq, Repr

inductive TcpOptionElement where
  | maximumSegmentSize
  | windowScale
  | selectiveAcknowledgementPermitted
  | selectiveAcknowledgement
  | timestamp
  | noop
  deriving DecidableEq, Repr

/-- The first option and its length, if its kind is known, its length correct and all of
it there. -/
def knownOption (options : List Byte) : Option (TcpOptionElement × Nat) :=
  let kind := byteAt options 0
  let len := (byteAt options 1).toNat
  if options = [] then none
  else if kind = 1 then some (.noop, 1)
  else if kind = 2 ∧ len = 4 ∧ 4 ≤ options.length then some (.maximumSegmentSize, 4)
  else if kind = 3 ∧ len = 3 ∧ 3 ≤ options.length then some (.windowScale, 3)
  else if kind = 4 ∧ len = 2 ∧ 2 ≤ options.length then some (.selectiveAcknowledgementPermitted, 2)
  else if kind = 5 ∧ (len = 10 ∨ len = 18 ∨ len = 26 ∨ len = 34) ∧ len ≤ options.length then
    some (.selectiveAcknowledgement, len)
  else if kind = 8 ∧ len = 10 ∧ 10 ≤ options.length then some (.timestamp, 10)
  else none

/-- The options up to the end of the list, or to the first one that is unknown or
malformed. -/
def knownOptions : Nat → List Byte → List TcpOptionElement
  | 0, _ => []
  | fuel + 1, options =>
      match knownOption options with
      | none => []
      | some (element, len) => element :: knownOptions fuel (options.drop len)

/-- The transport header behind an IP header, if the packet goes on that far: a TCP
header with all its options, or a UDP header, inside the IP payload. -/
def transport (firstFragments : Bool) (payloadEnd : Nat) (frame : Frame) (u : Upper) : Option Transport :=
  let payload := (frame.take payloadEnd).drop u.offset
  if u.fragment = .later ∨ (u.fragment = .first ∧ firstFragments = false) then none
  else if u.protocol = ipProtoTcp then
    if tcpHdrLen ≤ payload.length ∧ 5 ≤ doff payload ∧ 4 * doff payload ≤ payload.length then
      some (.tcp payload)
    else none
  else if u.protocol = ipProtoUdp then
    if udpHdrLen ≤ payload.length then some (.udp payload) else none
  else none

/-- `etherparse`, by what it documents of frames with a complete IP header. Where the
length fields say the IP payload ends, and whether the first fragment of a datagram is
looked into, is left open. -/
structure Etherparse where
  slice : Frame → Option Sliced
  options : List Byte → List TcpOptionElement
  firstFragments : Bool
  payloadEnd : Frame → Nat
  slices : ∀ frame h, ipHeader frame = some h →
    slice frame = some
      { net := some ⟨h.source frame, h.destination frame, h.protocol frame, h.ttl frame⟩
        transport := (h.upper frame).bind (transport firstFragments (payloadEnd frame) frame) }
  iterates : ∀ bytes, options bytes = knownOptions bytes.length bytes

/-- The presence bit of an option. -/
def presenceOf : TcpOptionElement → Byte
  | .maximumSegmentSize => optMss
  | .windowScale => optWscale
  | .selectiveAcknowledgementPermitted | .selectiveAcknowledgement => optSack
  | .timestamp => optTimestamp
  | .noop => 0

def optionBytes (segment : List Byte) : List Byte := (segment.take (4 * doff segment)).drop tcpHdrLen

def fingerprintBucket (e : Etherparse) (segment : List Byte) : Byte :=
  let presence := (e.options (optionBytes segment)).foldl (fun acc o => acc ||| presenceOf o) 0
  presence ||| windowBucket (fieldAt 16 segment 14) <<< 4

def snaplen : Nat := 256

/-- One turn of the capture loop. None is a frame that is counted and skipped. -/
def capture (e : Etherparse) (direction : Direction) (frame : Frame) : Option PacketMeta :=
  match e.slice (frame.take snaplen) with
  | none => none
  | some sliced =>
      match sliced.net with
      | none => none
      | some net =>
          let (dstPort, sourcePort, fingerprint) := match sliced.transport with
            | some (.tcp segment) =>
                (fieldAt 16 segment 2, fieldAt 16 segment 0,
                  if isSyn segment then some (fingerprintBucket e segment) else none)
            | some (.udp datagram) => (fieldAt 16 datagram 2, fieldAt 16 datagram 0, none)
            | none => (0, 0, none)
          some
            { direction := direction
              srcIp := net.source
              dstIp := net.destination
              protocol := Protocol.ofNumber net.protocol
              dstPort := dstPort
              sourcePort := sourcePort
              ttl := net.ttl
              fingerprintBucket := fingerprint }

end Flod.Capture
