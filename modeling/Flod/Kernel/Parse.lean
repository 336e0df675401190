import Flod.Kernel.Targets
import Flod.Net.Frame
import Flod.Stage1.Target

/-! What the eBPF programs read off a frame, every read checked against its end: the
addresses behind at most two VLAN tags, the ports at a fixed distance behind the IP
header, and the fingerprint of a SYN. -/

namespace Flod.Kernel
open Flod.Net Flod.Stage1

/-- The bounds check of `ptr_at`. -/
def inBounds (frame : Frame) (offset size : Nat) : Bool := offset + size ≤ frame.length

def readByte (frame : Frame) (offset : Nat) : Option Byte :=
  if inBounds frame offset 1 then some (byteAt frame offset) else none

theorem readByte_of_lt {frame : Frame} {offset : Nat} (inside : offset < frame.length) :
    readByte frame offset = some (byteAt frame offset) :=
  if_pos (decide_eq_true inside)

def readU16 (frame : Frame) (offset : Nat) : Option (BitVec 16) :=
  if inBounds frame offset 2 then some (fieldAt 16 frame offset) else none

structure Parsed where
  source : Addr
  dest : Addr
  proto : Byte
  l4Offset : Nat
  ttl : Byte
  deriving DecidableEq, Repr

def ethHdrLen : Nat := 14

def vlanHdrLen : Nat := 4

def maxVlanDepth : Nat := 2

def ipv4HdrLen : Nat := 20

def ipv6HdrLen : Nat := 40

def tcpHdrLen : Nat := 20

def udpHdrLen : Nat := 8

def ipProtoTcp : Byte := 6

def ipProtoUdp : Byte := 17

/-- The walk over stacked tags: the ethertype behind them and where it ends. -/
def walkTags (frame : Frame) : Nat → BitVec 16 → Nat → Option (BitVec 16 × Nat)
  | 0, etherType, offset => some (etherType, offset)
  | depth + 1, etherType, offset =>
      if isTag etherType then
        match readU16 frame (offset + 2) with
        | none => none
        | some inner => walkTags frame depth inner (offset + vlanHdrLen)
      else some (etherType, offset)

def parse (frame : Frame) : Option Parsed := do
  let outer ← readU16 frame (ethHdrLen - 2)
  let (etherType, offset) ← walkTags frame maxVlanDepth outer ethHdrLen
  if etherType = ethIpv4 then
    if inBounds frame offset ipv4HdrLen then
      some
        { source := toIpv6Mapped (fieldAt 32 frame (offset + 12))
          dest := toIpv6Mapped (fieldAt 32 frame (offset + 16))
          proto := byteAt frame (offset + 9)
          l4Offset := offset + ipv4HdrLen
          ttl := byteAt frame (offset + 8) }
    else none
  else if etherType = ethIpv6 then
    if inBounds frame offset ipv6HdrLen then
      some
        { source := fieldAt 128 frame (offset + 8)
          dest := fieldAt 128 frame (offset + 24)
          proto := byteAt frame (offset + 6)
          l4Offset := offset + ipv6HdrLen
          ttl := byteAt frame (offset + 7) }
    else none
  else none

/-- A port of the transport header, or 0 for protocols that have none. -/
def portAt (frame : Frame) (p : Parsed) (within : Nat) : BitVec 16 :=
  if p.proto = ipProtoTcp then
    if inBounds frame p.l4Offset tcpHdrLen then fieldAt 16 frame (p.l4Offset + within) else 0
  else if p.proto = ipProtoUdp then
    if inBounds frame p.l4Offset udpHdrLen then fieldAt 16 frame (p.l4Offset + within) else 0
  else 0

def sourcePort (frame : Frame) (p : Parsed) : BitVec 16 := portAt frame p 0

def destPort (frame : Frame) (p : Parsed) : BitVec 16 := portAt frame p 2

/-! The fingerprint bucket: four bits for the options present, two for the range the
window size is in. -/

def optMss : Byte := 1

def optWscale : Byte := 2

def optSack : Byte := 4

def optTimestamp : Byte := 8

def windowBucket (window : BitVec 16) : Byte :=
  if window.toNat = 0 then 0 else if window.toNat ≤ 8192 then 1 else if window.toNat ≤ 32768 then 2 else 3

def maxTcpOptionSteps : Nat := 10

/-- The option walk. The length byte is read only for SACK and for kinds not listed, and
may lie past the options as long as it is in the frame. -/
def walkOptions (frame : Frame) (optsEnd : Nat) : Nat → Nat → Byte → Byte
  | 0, _, presence => presence
  | steps + 1, pos, presence =>
      if optsEnd ≤ pos then presence
      else
        match readByte frame pos with
        | none => presence
        | some kind =>
            if kind = 0 then presence
            else if kind = 1 then walkOptions frame optsEnd steps (pos + 1) presence
            else if kind = 2 then walkOptions frame optsEnd steps (pos + 4) (presence ||| optMss)
            else if kind = 3 then walkOptions frame optsEnd steps (pos + 3) (presence ||| optWscale)
            else if kind = 4 then walkOptions frame optsEnd steps (pos + 2) (presence ||| optSack)
            else if kind = 8 then walkOptions frame optsEnd steps (pos + 10) (presence ||| optTimestamp)
            else
              match readByte frame (pos + 1) with
              | none => presence
              | some len =>
                  walkOptions frame optsEnd steps (pos + max len.toNat 2)
                    (if kind = 5 then presence ||| optSack else presence)

/-- The header length of a TCP segment in words. -/
def doff (segment : List Byte) : Nat := (byteAt segment 12).toNat / 16

def isSyn (segment : List Byte) : Bool := (byteAt segment 13).getLsbD 1

def fingerprintBucket (frame : Frame) (p : Parsed) : Option Byte :=
  if p.proto ≠ ipProtoTcp then none
  else if inBounds frame p.l4Offset tcpHdrLen = false then none
  else
    let tcp := frame.drop p.l4Offset
    if isSyn tcp = false then none
    else
      let presence := walkOptions frame (p.l4Offset + doff tcp * 4) maxTcpOptionSteps (p.l4Offset + tcpHdrLen) 0
      some (presence ||| windowBucket (fieldAt 16 tcp 14) <<< 4)

/-- The walk ends at the ethertype of the frame's IP header. -/
theorem walkTags_ipHeaderBehind {frame : Frame} {h : IpHeader} (depth offset : Nat)
    (found : ipHeaderBehind frame depth offset = some h) :
    ∃ etherType, walkTags frame depth (fieldAt 16 frame (offset - 2)) offset = some (etherType, h.offset) ∧
      ipHeaderAt frame etherType h.offset = some h ∧ offset ≤ h.offset ∧ h.offset ≤ frame.length := by
  have here : ∀ {etherType : BitVec 16} {start : Nat}, ipHeaderAt frame etherType start = some h →
      h.offset = start ∧ start ≤ frame.length := by
    intro etherType start announced
    rcases ipHeaderAt_cases announced with ⟨_, rfl, _, fits⟩ | ⟨_, rfl, fits⟩
    · exact ⟨rfl, by omega⟩
    · exact ⟨rfl, by omega⟩
  induction depth generalizing offset with
  | zero =>
    obtain ⟨same, fits⟩ := here found
    exact ⟨_, by rw [walkTags, same], by rw [same]; exact found, same.ge, same.le.trans fits⟩
  | succ depth ih =>
    rw [ipHeaderBehind] at found
    by_cases tagged : isTag (fieldAt 16 frame (offset - 2)) = true
    · rw [if_pos tagged] at found
      obtain ⟨etherType, walked, announced, beyond, fits⟩ := ih (offset + 4) found
      have room : inBounds frame (offset + 2) 2 = true := decide_eq_true (by omega)
      refine ⟨etherType, ?_, announced, by omega, fits⟩
      simp only [walkTags, tagged, if_true, readU16, room]
      exact walked
    · rw [if_neg tagged] at found
      obtain ⟨same, fits⟩ := here found
      refine ⟨fieldAt 16 frame (offset - 2), ?_, by rw [same]; exact found, same.ge, same.le.trans fits⟩
      rw [walkTags, if_neg tagged, same]

/-- The transport header as the programs look for it: right behind the fixed part of the
IP header. -/
def fixedEnd (h : IpHeader) : Nat :=
  match h.family with
  | .v4 => h.offset + ipv4HdrLen
  | .v6 => h.offset + ipv6HdrLen

/-- On every frame with a complete IP header the programs read its addresses, protocol
and TTL. -/
theorem parse_eq {frame : Frame} {h : IpHeader} (found : ipHeader frame = some h) :
    parse frame = some
      { source := toAddr (h.source frame)
        dest := toAddr (h.destination frame)
        proto := h.protocol frame
        l4Offset := fixedEnd h
        ttl := h.ttl frame } := by
  obtain ⟨etherType, walked, announced, beyond, fits⟩ := walkTags_ipHeaderBehind 2 14 found
  have outer : readU16 frame (ethHdrLen - 2) = some (fieldAt 16 frame 12) := by
    have room : inBounds frame 12 2 = true := decide_eq_true (by omega)
    simp [readU16, ethHdrLen, room]
  have tags : walkTags frame maxVlanDepth (fieldAt 16 frame 12) ethHdrLen = some (etherType, h.offset) := walked
  unfold parse
  simp only [outer, tags, Option.bind_eq_bind, Option.bind_some]
  rcases ipHeaderAt_cases announced with ⟨rfl, same, most, room⟩ | ⟨rfl, same, room⟩
  · have bounds : inBounds frame h.offset ipv4HdrLen = true := decide_eq_true (by unfold ipv4HdrLen; omega)
    rw [if_pos rfl, if_pos bounds]
    rw [same]
    rfl
  · have bounds : inBounds frame h.offset ipv6HdrLen = true := decide_eq_true room
    have other : ethIpv6 ≠ ethIpv4 := by decide
    rw [if_neg other, if_pos rfl, if_pos bounds]
    rw [same]
    rfl

end Flod.Kernel
