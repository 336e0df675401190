import Flod.Capture.Pcap

/-! The two header parsers side by side. Addresses, TTL and protocol come from the same
bytes. The ports come from wherever each parser takes the transport header to start. -/

namespace Flod.Capture
open Flod.Net Flod.Stage1 Flod.Kernel

/-- Where the eBPF programs find ports. -/
def fixedTransport (frame : Frame) (h : IpHeader) : Option Nat :=
  if (h.protocol frame = ipProtoTcp ∧ inBounds frame (fixedEnd h) tcpHdrLen = true) ∨
      (h.protocol frame = ipProtoUdp ∧ inBounds frame (fixedEnd h) udpHdrLen = true) then
    some (fixedEnd h)
  else none

/-- Where the capture thread finds ports. -/
def slicedTransport (e : Etherparse) (frame : Frame) (h : IpHeader) : Option Nat :=
  (h.upper frame).bind (fun u =>
    (transport e.firstFragments (e.payloadEnd frame) frame u).map (fun _ => u.offset))

/-- Source and destination port at an offset, both 0 if there is no header. -/
def portsAt (frame : Frame) : Option Nat → BitVec 16 × BitVec 16
  | some offset => (fieldAt 16 frame offset, fieldAt 16 frame (offset + 2))
  | none => (0, 0)

theorem fixed_ports (frame : Frame) (h : IpHeader) {p : Parsed} (proto : p.proto = h.protocol frame)
    (l4 : p.l4Offset = fixedEnd h) :
    (sourcePort frame p, destPort frame p) = portsAt frame (fixedTransport frame h) := by
  have udpIsNotTcp : ipProtoUdp ≠ ipProtoTcp := by decide
  unfold sourcePort destPort portAt fixedTransport
  rw [proto, l4]
  by_cases tcp : h.protocol frame = ipProtoTcp
  · rw [if_pos tcp, if_pos tcp]
    by_cases room : inBounds frame (fixedEnd h) tcpHdrLen = true
    · rw [if_pos room, if_pos room, if_pos (Or.inl ⟨tcp, room⟩)]
      rfl
    · have absent : ¬ ((h.protocol frame = ipProtoTcp ∧ inBounds frame (fixedEnd h) tcpHdrLen = true) ∨
          (h.protocol frame = ipProtoUdp ∧ inBounds frame (fixedEnd h) udpHdrLen = true)) := by
        rintro (⟨_, fits⟩ | ⟨udp, _⟩)
        · exact room fits
        · exact udpIsNotTcp (udp.symm.trans tcp)
      rw [if_neg room, if_neg room, if_neg absent]
      rfl
  · rw [if_neg tcp, if_neg tcp]
    by_cases udp : h.protocol frame = ipProtoUdp
    · rw [if_pos udp, if_pos udp]
      by_cases room : inBounds frame (fixedEnd h) udpHdrLen = true
      · rw [if_pos room, if_pos room, if_pos (Or.inr ⟨udp, room⟩)]
        rfl
      · rw [if_neg room, if_neg room, if_neg (by simp [tcp, room])]
        rfl
    · rw [if_neg udp, if_neg udp, if_neg (by simp [tcp, udp])]
      rfl

/-- A transport header that is found is one of the two kinds, and in the payload. -/
theorem transport_cases {firstFragments : Bool} {payloadEnd : Nat} {frame : Frame} {u : Upper} {t : Transport}
    (found : transport firstFragments payloadEnd frame u = some t) :
    let payload := (frame.take payloadEnd).drop u.offset
    (u.protocol = ipProtoTcp ∧ tcpHdrLen ≤ payload.length ∧ t = .tcp payload) ∨
      (u.protocol = ipProtoUdp ∧ udpHdrLen ≤ payload.length ∧ t = .udp payload) := by
  unfold transport at found
  dsimp only at found ⊢
  split at found
  · cases found
  · split at found
    next tcp =>
      split at found
      next complete =>
        cases found
        exact Or.inl ⟨tcp, complete.1, rfl⟩
      next => cases found
    next =>
      split at found
      next udp =>
        split at found
        next complete =>
          cases found
          exact Or.inr ⟨udp, complete, rfl⟩
        next => cases found
      next => cases found

theorem payload_length_le (frame : Frame) (payloadEnd offset : Nat) :
    ((frame.take payloadEnd).drop offset).length ≤ frame.length - offset := by
  rw [List.length_drop, List.length_take]
  omega

/-- Both kinds of transport header hold their ports in the first four bytes. -/
theorem transport_ports {firstFragments : Bool} {payloadEnd : Nat} {frame : Frame} {u : Upper} {t : Transport}
    (found : transport firstFragments payloadEnd frame u = some t) :
    u.offset + 8 ≤ frame.length ∧
      (t = .tcp ((frame.take payloadEnd).drop u.offset) ∨ t = .udp ((frame.take payloadEnd).drop u.offset)) ∧
      ∀ within ≤ 2, fieldAt 16 ((frame.take payloadEnd).drop u.offset) within =
        fieldAt 16 frame (u.offset + within) := by
  have cases := transport_cases found
  have long : 8 ≤ ((frame.take payloadEnd).drop u.offset).length := by
    unfold tcpHdrLen udpHdrLen at cases
    omega
  refine ⟨?_, cases.imp (·.2.2) (·.2.2), ?_⟩
  · have most := payload_length_le frame payloadEnd u.offset
    omega
  · intro within small
    rw [List.length_drop, List.length_take] at long
    rw [fieldAt_drop, fieldAt_take (by omega)]

theorem transport_inBounds {firstFragments : Bool} {payloadEnd : Nat} {frame : Frame} {u : Upper}
    (found : (transport firstFragments payloadEnd frame u).isSome = true) :
    (u.protocol = ipProtoTcp ∧ u.offset + tcpHdrLen ≤ frame.length) ∨
      (u.protocol = ipProtoUdp ∧ u.offset + udpHdrLen ≤ frame.length) := by
  obtain ⟨t, header⟩ := Option.isSome_iff_exists.mp found
  have most := payload_length_le frame payloadEnd u.offset
  have cases := transport_cases header
  unfold tcpHdrLen udpHdrLen at *
  refine cases.imp ?_ ?_
  · exact fun tcp => ⟨tcp.1, by omega⟩
  · exact fun udp => ⟨udp.1, by omega⟩

theorem capture_eq (e : Etherparse) (direction : Direction) {frame : Frame} {h : IpHeader}
    (found : ipHeader frame = some h) :
    ∃ m, capture e direction frame = some m ∧ m.srcIp = h.source frame ∧ m.dstIp = h.destination frame ∧
      m.ttl = h.ttl frame ∧ m.protocol = Protocol.ofNumber (h.protocol frame) ∧
      (m.sourcePort, m.dstPort) = portsAt frame (slicedTransport e (frame.take snaplen) h) := by
  have near : h.offset ≤ 22 := ipHeaderBehind_le 2 14 found
  have cut : ipHeader (frame.take snaplen) = some h := ipHeaderBehind_take 2 14 (by decide) found
  obtain ⟨source, destination, protocol, ttl⟩ :=
    h.fields_take frame (by unfold snaplen; omega : h.offset + 40 ≤ snaplen)
  have sliced := e.slices (frame.take snaplen) h cut
  rw [source, destination, protocol, ttl] at sliced
  unfold capture slicedTransport
  rw [sliced]
  cases upper : h.upper (frame.take snaplen) with
  | none => exact ⟨_, rfl, rfl, rfl, rfl, rfl, rfl⟩
  | some u =>
    simp only [Option.bind_some]
    cases header : transport e.firstFragments (e.payloadEnd (frame.take snaplen)) (frame.take snaplen) u with
    | none => exact ⟨_, rfl, rfl, rfl, rfl, rfl, rfl⟩
    | some t =>
      obtain ⟨inside, kind, read⟩ := transport_ports header
      rw [List.length_take] at inside
      have ports : ∀ within ≤ 2, fieldAt 16
          ((((frame.take snaplen).take (e.payloadEnd (frame.take snaplen))).drop u.offset)) within =
            fieldAt 16 frame (u.offset + within) := by
        intro within small
        rw [read within small, fieldAt_take (by omega)]
      have first := ports 0 (by decide)
      have second := ports 2 (by decide)
      rcases kind with rfl | rfl
      · exact ⟨_, rfl, rfl, rfl, rfl, rfl, Prod.ext first second⟩
      · exact ⟨_, rfl, rfl, rfl, rfl, rfl, Prod.ext first second⟩

/-- Both parsers obtained the same packet. Addresses are compared in the form the maps
hold them in. -/
structure SameReading (frame : Frame) (p : Parsed) (m : PacketMeta) : Prop where
  source : toAddr m.srcIp = p.source
  destination : toAddr m.dstIp = p.dest
  ttl : m.ttl = p.ttl
  protocol : m.protocol = Protocol.ofNumber p.proto
  sourcePort : m.sourcePort = sourcePort frame p
  destinationPort : m.dstPort = destPort frame p

/-- Both parsers find a transport header in the same place, or neither finds one. -/
def SamePlace (e : Etherparse) (frame : Frame) (h : IpHeader) : Prop :=
  fixedTransport frame h = slicedTransport e (frame.take snaplen) h

instance (e : Etherparse) (frame : Frame) (h : IpHeader) : Decidable (SamePlace e frame h) :=
  inferInstanceAs (Decidable (_ = _))

/-- No option or extension header stands before the transport header, and the packet is
not a fragment. -/
def Direct (frame : Frame) (h : IpHeader) : Prop :=
  match h.family with
  | .v4 => ihl frame h.offset = 5 ∧ (fieldAt 16 frame (h.offset + 6)).toNat % 2 ^ 14 = 0
  | .v6 => ¬ isExtension (h.protocol frame)

/-- The transport header is in the captured payload with all its options, or cut for both
parsers. -/
structure HeaderWhole (e : Etherparse) (frame : Frame) (h : IpHeader) : Prop where
  tcp : h.protocol frame = ipProtoTcp → frame.length < fixedEnd h + tcpHdrLen ∨
    (transport e.firstFragments (e.payloadEnd (frame.take snaplen)) (frame.take snaplen)
      ⟨ipProtoTcp, fixedEnd h, .whole⟩).isSome = true
  udp : h.protocol frame = ipProtoUdp → frame.length < fixedEnd h + udpHdrLen ∨
    (transport e.firstFragments (e.payloadEnd (frame.take snaplen)) (frame.take snaplen)
      ⟨ipProtoUdp, fixedEnd h, .whole⟩).isSome = true

theorem upper_of_direct {frame : Frame} {h : IpHeader} (direct : Direct frame h) {count : Nat}
    (room : h.offset + 40 ≤ count) :
    h.upper (frame.take count) = some ⟨h.protocol frame, fixedEnd h, .whole⟩ := by
  have protocol := (h.fields_take frame room).2.2.1
  rcases h with ⟨family, offset⟩
  cases family with
  | v4 =>
    have words : ihl (frame.take count) offset = 5 := by
      rw [ihl, byteAt_take (by dsimp only at room; omega)]
      exact direct.1
    have fragment : (fieldAt 16 (frame.take count) (offset + 6)).toNat % 2 ^ 14 = 0 := by
      rw [fieldAt_take (by dsimp only at room; omega)]
      exact direct.2
    have start : (fieldAt 16 (frame.take count) (offset + 6)).toNat % 2 ^ 13 = 0 := by omega
    have more : ¬ (fieldAt 16 (frame.take count) (offset + 6)).toNat / 2 ^ 13 % 2 = 1 := by omega
    simp only [IpHeader.upper, protocol, words, start, more, Fragment.of]
    rfl
  | v6 =>
    simp only [IpHeader.upper, protocol]
    exact extensions_of_not direct _ _ _

theorem samePlace_of_direct {e : Etherparse} {frame : Frame} {h : IpHeader} (found : ipHeader frame = some h)
    (direct : Direct frame h) (complete : HeaderWhole e frame h) : SamePlace e frame h := by
  have near : h.offset ≤ 22 := ipHeaderBehind_le 2 14 found
  have upper := upper_of_direct direct (by unfold snaplen; omega : h.offset + 40 ≤ snaplen)
  rw [SamePlace, slicedTransport, upper, Option.bind_some, fixedTransport]
  cases header : transport e.firstFragments (e.payloadEnd (frame.take snaplen)) (frame.take snaplen)
      ⟨h.protocol frame, fixedEnd h, .whole⟩ with
  | some t =>
    have inside := transport_inBounds (by rw [header]; rfl :
      (transport e.firstFragments (e.payloadEnd (frame.take snaplen)) (frame.take snaplen)
        ⟨h.protocol frame, fixedEnd h, .whole⟩).isSome = true)
    simp only [List.length_take] at inside
    refine if_pos (inside.imp ?_ ?_)
    · exact fun tcp => ⟨tcp.1, decide_eq_true (by omega)⟩
    · exact fun udp => ⟨udp.1, decide_eq_true (by omega)⟩
  | none =>
    refine if_neg ?_
    rintro (⟨tcp, room⟩ | ⟨udp, room⟩)
    · have fits := of_decide_eq_true room
      rw [tcp] at header
      rcases complete.tcp tcp with cut | some
      · omega
      · simp [header] at some
    · have fits := of_decide_eq_true room
      rw [udp] at header
      rcases complete.udp udp with cut | some
      · omega
      · simp [header] at some

/-- Without ports there is nothing to look for behind an IPv4 header, whatever its length. -/
theorem samePlace_of_portless {e : Etherparse} {frame : Frame} {h : IpHeader} (found : ipHeader frame = some h)
    (family : h.family = .v4) (tcp : h.protocol frame ≠ ipProtoTcp) (udp : h.protocol frame ≠ ipProtoUdp) :
    SamePlace e frame h := by
  have near : h.offset ≤ 22 := ipHeaderBehind_le 2 14 found
  have protocol := (h.fields_take frame (by unfold snaplen; omega : h.offset + 40 ≤ snaplen)).2.2.1
  have fixed : fixedTransport frame h = none := if_neg (by simp [tcp, udp])
  rw [SamePlace, fixed, eq_comm, slicedTransport, Option.bind_eq_none_iff]
  intro u upper
  have same : u.protocol = h.protocol frame := by
    simp only [IpHeader.upper, family, Option.some.injEq] at upper
    rw [← protocol, ← upper]
  rw [Option.map_eq_none_iff, Option.eq_none_iff_forall_ne_some]
  intro t header
  rcases transport_cases header with ⟨is, -⟩ | ⟨is, -⟩
  · exact tcp (same.symm.trans is)
  · exact udp (same.symm.trans is)

/-- `etherparse` by its documentation alone, reading as far as the frame goes. -/
def documented : Etherparse where
  slice frame := (ipHeader frame).map (fun h =>
    { net := some ⟨h.source frame, h.destination frame, h.protocol frame, h.ttl frame⟩
      transport := (h.upper frame).bind (transport false frame.length frame) })
  options bytes := knownOptions bytes.length bytes
  firstFragments := false
  payloadEnd frame := frame.length
  slices frame h found := by rw [found]; rfl
  iterates _ := rfl

/-- An IPv4 packet from 198.51.100.9 to 10.0.0.1 with the given header length, fragment
field and protocol, behind two VLAN tags. -/
def taggedIpv4 (words : Byte) (fragment : Byte) (protocol : Byte) (rest : List Byte) : Frame :=
  List.replicate 12 0 ++ [0x88, 0xa8, 0, 5, 0x81, 0x00, 0, 7, 0x08, 0x00] ++
    [0x40 ||| words, 0, 0, 40, 0, 0, 0, fragment, 64, protocol, 0, 0, 198, 51, 100, 9, 10, 0, 0, 1] ++ rest

/-- A TCP header from port 51000 to port 443. -/
def tcpHeader : List Byte := [199, 56, 1, 187, 0, 0, 0, 0, 0, 0, 0, 0, 0x50, 0x10, 1, 0, 0, 0, 0, 0]

/-- One word of options that holds the same bytes as the ports behind it. -/
def echoedPorts : Frame := taggedIpv4 6 0 6 ([199, 56, 1, 187] ++ tcpHeader)

-- Looking in different places, the parsers may still read equal bytes by chance.
example : ¬ SamePlace documented echoedPorts ⟨.v4, 22⟩ ∧
    (parse echoedPorts).map (fun p => (sourcePort echoedPorts p, destPort echoedPorts p)) =
      (capture documented .ingress echoedPorts).map (fun m => (m.sourcePort, m.dstPort)) := by
  decide +kernel

end Flod.Capture
