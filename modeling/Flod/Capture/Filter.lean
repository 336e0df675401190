import Flod.Capture.Pcap

/-! The filter the capture threads hand to libpcap. It passes the frames of IPv4 packets
to the protected addresses, plain or behind one VLAN tag. -/

namespace Flod.Capture
open Flod.Lib Flod.Net Flod.Stage1 Flod.Kernel

structure CaptureConfig where
  interface : String
  bpfFilter : String
  snaplen : Nat
  timeoutMs : Nat
  promiscuous : Bool
  direction : Direction
  deriving DecidableEq, Repr

/-- `CaptureConfig::for_targets`, given how the standard library writes an address. -/
def forTargets (display : IpAddr → String) (interface : String) (targets : VictimTargets)
    (direction : Direction) : CaptureConfig :=
  let filter := match targets with
    | .list ips =>
        let hosts := " or ".intercalate (ips.map fun ip => s!"dst host {display ip}")
        s!"(({hosts}) and ip) or (vlan and ({hosts}) and ip)"
    | .subnet ip bits =>
        let net := s!"{display ip}/{bits}"
        s!"(dst net {net} and ip) or (vlan and dst net {net} and ip)"
  { interface := interface
    bpfFilter := filter
    snaplen := 256
    timeoutMs := 100
    promiscuous := true
    direction := direction }

/-- The part of libpcap's filter language in use. -/
inductive Filter where
  | ip
  | vlan
  | dstHosts (hosts : List IpAddr)
  | dstNet (net : IpAddr) (bits : Nat)
  | and (first second : Filter)
  | or (first second : Filter)
  deriving DecidableEq, Repr

namespace Filter

def text (display : IpAddr → String) : Filter → String
  | .ip => "ip"
  | .vlan => "vlan"
  | .dstHosts hosts => "(" ++ " or ".intercalate (hosts.map fun ip => "dst host " ++ display ip) ++ ")"
  | .dstNet net bits => "dst net " ++ display net ++ "/" ++ toString bits
  | .and first second => first.text display ++ " and " ++ second.text display
  | .or first second => "(" ++ first.text display ++ ") or (" ++ second.text display ++ ")"

/-- The test for the destination. -/
def destined : VictimTargets → Filter
  | .list ips => .dstHosts ips
  | .subnet net bits => .dstNet net bits

def ofTargets (targets : VictimTargets) : Filter :=
  .or (.and (destined targets) .ip) (.and (.and .vlan (destined targets)) .ip)

theorem text_ofTargets (display : IpAddr → String) (interface : String) (targets : VictimTargets)
    (direction : Direction) :
    (ofTargets targets).text display = (forTargets display interface targets direction).bpfFilter := by
  apply String.toList_inj.mp
  cases targets with
  | list ips => simp [ofTargets, destined, text, forTargets, String.toList_append, toString]
  | subnet net bits => simp [ofTargets, destined, text, forTargets, String.toList_append, toString]

end Filter

/-- The ethertype a frame has behind so many VLAN tags. -/
def etherTypeBehind (frame : Frame) (tags : Nat) : BitVec 16 := fieldAt 16 frame (12 + 4 * tags)

/-- The destination of the IP packet behind so many VLAN tags. -/
def destinationBehind (frame : Frame) (tags : Nat) : Option IpAddr :=
  let offset := ethHdrLen + vlanHdrLen * tags
  if etherTypeBehind frame tags = ethIpv4 ∧ inBounds frame offset ipv4HdrLen = true then
    some (.v4 (fieldAt 32 frame (offset + 16)))
  else if etherTypeBehind frame tags = ethIpv6 ∧ inBounds frame offset ipv6HdrLen = true then
    some (.v6 (fieldAt 128 frame (offset + 24)))
  else none

/-- The network of a prefix length contains an address. -/
def InNet : IpAddr → Nat → IpAddr → Prop
  | .v4 net, bits, .v4 addr => bits ≤ 32 ∧ AgreeTo bits net addr
  | .v6 net, bits, .v6 addr => bits ≤ 128 ∧ AgreeTo bits net addr
  | _, _, _ => False

instance : (net : IpAddr) → (bits : Nat) → (addr : IpAddr) → Decidable (InNet net bits addr)
  | .v4 net, bits, .v4 addr => inferInstanceAs (Decidable (bits ≤ 32 ∧ AgreeTo bits net addr))
  | .v6 net, bits, .v6 addr => inferInstanceAs (Decidable (bits ≤ 128 ∧ AgreeTo bits net addr))
  | .v4 _, _, .v6 _ | .v6 _, _, .v4 _ => isFalse id

/-- libpcap by what it documents of its tests, each made as many tags into the frame as
the expression has said `vlan` before. What `vlan` makes of other ethertypes, and
`dst host` of other packets, is left open. -/
structure Libpcap where
  ip : Frame → Nat → Bool
  vlan : Frame → Nat → Bool
  dstHost : IpAddr → Frame → Nat → Bool
  dstNet : IpAddr → Nat → Frame → Nat → Bool
  ip_iff : ∀ frame tags, inBounds frame (12 + 4 * tags) 2 = true →
    (ip frame tags = true ↔ etherTypeBehind frame tags = ethIpv4)
  vlan_of_tag : ∀ frame tags, inBounds frame (12 + 4 * tags) 2 = true →
    isTag (etherTypeBehind frame tags) = true → vlan frame tags = true
  dstHost_iff : ∀ host frame tags addr, destinationBehind frame tags = some addr →
    (dstHost host frame tags = true ↔ addr = host)
  dstNet_iff : ∀ net bits frame tags addr, destinationBehind frame tags = some addr →
    (dstNet net bits frame tags = true ↔ InNet net bits addr)

/-- How many tags into the frame the tests behind an expression are made. -/
def Filter.tags : Filter → Nat → Nat
  | .vlan, tags => tags + 1
  | .and first second, tags | .or first second, tags => second.tags (first.tags tags)
  | .ip, tags | .dstHosts _, tags | .dstNet _ _, tags => tags

def Filter.accepts (l : Libpcap) (frame : Frame) : Filter → Nat → Bool
  | .ip, tags => l.ip frame tags
  | .vlan, tags => l.vlan frame tags
  | .dstHosts hosts, tags => hosts.any (fun host => l.dstHost host frame tags)
  | .dstNet net bits, tags => l.dstNet net bits frame tags
  | .and first second, tags => first.accepts l frame tags && second.accepts l frame (first.tags tags)
  | .or first second, tags => first.accepts l frame tags || second.accepts l frame (first.tags tags)

/-- How many VLAN tags the programs walk over. -/
def tagCount (frame : Frame) : Nat :=
  if isTag (etherTypeBehind frame 0) then if isTag (etherTypeBehind frame 1) then 2 else 1 else 0

theorem readU16_some {frame : Frame} {offset : Nat} {value : BitVec 16} (read : readU16 frame offset = some value) :
    inBounds frame offset 2 = true ∧ value = fieldAt 16 frame offset := by
  unfold readU16 at read
  split at read
  next room =>
    cases read
    exact ⟨room, rfl⟩
  next => cases read

theorem walkTags_tagCount {frame : Frame} {etherType : BitVec 16} {offset : Nat}
    (walked : walkTags frame maxVlanDepth (etherTypeBehind frame 0) ethHdrLen = some (etherType, offset)) :
    etherType = etherTypeBehind frame (tagCount frame) ∧ offset = ethHdrLen + vlanHdrLen * tagCount frame := by
  unfold tagCount
  unfold maxVlanDepth walkTags at walked
  split at walked
  next outer =>
    split at walked
    next => cases walked
    next inner read =>
      obtain ⟨_, rfl⟩ := readU16_some read
      change walkTags frame 1 (etherTypeBehind frame 1) (ethHdrLen + vlanHdrLen) = _ at walked
      unfold walkTags at walked
      rw [if_pos outer]
      split at walked
      next second =>
        split at walked
        next => cases walked
        next innermost read =>
          obtain ⟨_, rfl⟩ := readU16_some read
          cases walked
          rw [if_pos second]
          exact ⟨rfl, rfl⟩
      next plain =>
        cases walked
        rw [if_neg plain]
        exact ⟨rfl, rfl⟩
  next plain =>
    cases walked
    rw [if_neg plain]
    exact ⟨rfl, rfl⟩

/-- The destination the programs read is the one behind the tags they walk over. -/
theorem parse_destination {frame : Frame} {p : Parsed} (parsed : parse frame = some p) :
    ∃ addr, destinationBehind frame (tagCount frame) = some addr ∧ p.dest = toAddr addr := by
  unfold parse at parsed
  obtain ⟨outer, read, parsed⟩ := Option.bind_eq_some_iff.mp parsed
  obtain ⟨_, rfl⟩ := readU16_some read
  obtain ⟨⟨etherType, offset⟩, walked, parsed⟩ := Option.bind_eq_some_iff.mp parsed
  obtain ⟨rfl, rfl⟩ := walkTags_tagCount walked
  dsimp only at parsed
  unfold destinationBehind
  dsimp only
  split at parsed
  next ipv4 =>
    split at parsed
    next room =>
      cases parsed
      exact ⟨_, if_pos ⟨ipv4, room⟩, rfl⟩
    next => cases parsed
  next other =>
    rw [if_neg (fun both => other both.1)]
    split at parsed
    next ipv6 =>
      split at parsed
      next room =>
        cases parsed
        exact ⟨_, if_pos ⟨ipv6, room⟩, rfl⟩
      next => cases parsed
    next => cases parsed

theorem inNet_of_contains {net : IpAddr} {bits : Nat} {addr : IpAddr}
    (contained : (VictimTargets.subnet net bits).contains addr = true) : InNet net bits addr := by
  cases net with
  | v4 net =>
    cases addr with
    | v4 addr =>
      simp only [VictimTargets.contains, Bool.and_eq_true, decide_eq_true_eq] at contained
      exact ⟨contained.1, (prefixMatches_iff 4 net addr contained.1).mp contained.2⟩
    | v6 addr => cases contained
  | v6 net =>
    cases addr with
    | v4 addr => cases contained
    | v6 addr =>
      simp only [VictimTargets.contains, Bool.and_eq_true, decide_eq_true_eq] at contained
      exact ⟨contained.1, (prefixMatches_iff 16 net addr contained.1).mp contained.2⟩

theorem destined_accepts (l : Libpcap) {targets : VictimTargets} {frame : Frame} {tags : Nat} {addr : IpAddr}
    (found : destinationBehind frame tags = some addr) (contained : targets.contains addr = true) :
    (Filter.destined targets).accepts l frame tags = true := by
  cases targets with
  | list ips =>
    have member : addr ∈ ips := by simpa [VictimTargets.contains] using contained
    exact List.any_eq_true.mpr ⟨addr, member, (l.dstHost_iff addr frame tags addr found).mpr rfl⟩
  | subnet net bits => exact (l.dstNet_iff net bits frame tags addr found).mpr (inNet_of_contains contained)

theorem destinationBehind_ipv4 {frame : Frame} {tags : Nat} {addr : IpAddr}
    (found : destinationBehind frame tags = some addr) (ipv4 : etherTypeBehind frame tags = ethIpv4) :
    addr.Unmapped ∧ 34 + 4 * tags ≤ frame.length := by
  have other : ethIpv4 ≠ ethIpv6 := by decide
  unfold destinationBehind at found
  dsimp only at found
  split at found
  next both =>
    cases found
    have room := of_decide_eq_true both.2
    unfold ethHdrLen vlanHdrLen ipv4HdrLen at room
    exact ⟨trivial, by omega⟩
  next =>
    rw [if_neg (fun both => other (ipv4.symm.trans both.1))] at found
    cases found

variable {F : Type}

/-- Every IPv4 frame with at most one VLAN tag that the programs would count passes the
filter set up for the same targets. -/
theorem forTargets_accepts (l : Libpcap) (display : IpAddr → String) (interface : String) (direction : Direction)
    (cfg : AnalysisConfig F) (targets : VictimTargets) (configured : cfg.victimTargets = some targets)
    (frame : Frame) (p : Parsed) (parsed : parse frame = some p)
    (isProtected : cfg.isEffectivelyProtected (fromAddr p.dest) = true)
    (ipv4 : etherTypeBehind frame (tagCount frame) = ethIpv4) (few : tagCount frame ≤ 1) :
    (Filter.ofTargets targets).text display = (forTargets display interface targets direction).bpfFilter ∧
      (Filter.ofTargets targets).accepts l frame 0 = true := by
  refine ⟨Filter.text_ofTargets display interface targets direction, ?_⟩
  obtain ⟨addr, found, dest⟩ := parse_destination parsed
  obtain ⟨unmapped, room⟩ := destinationBehind_ipv4 found ipv4
  rw [dest, fromAddr_toAddr unmapped] at isProtected
  have contained := ((isEffectivelyProtected_iff configured addr).mp isProtected).1
  have destination := destined_accepts l found contained
  have ip := (l.ip_iff frame (tagCount frame) (decide_eq_true (by omega))).mpr ipv4
  have same : (Filter.destined targets).tags = id := by cases targets <;> rfl
  simp only [Filter.ofTargets, Filter.accepts, Filter.tags, same, id, Bool.or_eq_true, Bool.and_eq_true]
  by_cases tagged : isTag (etherTypeBehind frame 0) = true
  · have one : tagCount frame = 1 := by
      unfold tagCount at few ⊢
      rw [if_pos tagged] at few ⊢
      split at few
      · omega
      next plain => rw [if_neg plain]
    rw [one] at destination ip
    have tag := l.vlan_of_tag frame 0 (decide_eq_true (by omega)) tagged
    exact Or.inr ⟨⟨tag, destination⟩, ip⟩
  · have none : tagCount frame = 0 := if_neg tagged
    rw [none] at destination ip
    exact Or.inl ⟨destination, ip⟩

/-- libpcap by its documentation alone. -/
def pcapFilter : Libpcap where
  ip frame tags := etherTypeBehind frame tags == ethIpv4
  vlan frame tags := isTag (etherTypeBehind frame tags)
  dstHost host frame tags := destinationBehind frame tags == some host
  dstNet net bits frame tags := (destinationBehind frame tags).any (fun addr => InNet net bits addr)
  ip_iff frame tags _ := beq_iff_eq
  vlan_of_tag frame tags _ tagged := tagged
  dstHost_iff host frame tags addr found := by rw [found, beq_iff_eq, Option.some.injEq]
  dstNet_iff net bits frame tags addr found := by rw [found, Option.any_some, decide_eq_true_iff]

/-- A packet to 10.0.0.1 behind the given tags. -/
def ipv4Behind (tags : List Byte) : Frame :=
  List.replicate 12 0 ++ tags ++ [0x08, 0x00, 0x45, 0, 0, 20, 0, 0, 0, 0, 64, 17, 0, 0, 198, 51, 100, 9, 10, 0, 0, 1]

/-- A packet to 2001:db8::1. -/
def ipv6Frame : Frame :=
  List.replicate 12 0 ++ [0x86, 0xdd, 0x60, 0, 0, 0, 0, 0, 59, 64] ++ List.replicate 16 0 ++
    [0x20, 0x01, 0x0d, 0xb8] ++ List.replicate 11 0 ++ [1]

def protecting (targets : VictimTargets) : AnalysisConfig ℚ :=
  { AnalysisConfig.default with victimTargets := some targets }

theorem forTargets_accepts_tagged :
    (Filter.ofTargets (.subnet (.v4 0x0a000000) 24)).accepts pcapFilter (ipv4Behind [0x81, 0x00, 0, 7]) 0 = true := by
  let p : Parsed := ⟨toIpv6Mapped 0xc6336409, toIpv6Mapped 0x0a000001, 17, 38, 64⟩
  exact (forTargets_accepts pcapFilter IpAddr.text "br0" .ingress (protecting (.subnet (.v4 0x0a000000) 24)) _ rfl
    (ipv4Behind [0x81, 0x00, 0, 7]) p (by decide +kernel) (by decide +kernel) (by decide +kernel)
    (by decide +kernel)).2

/-- The programs count a packet to a protected IPv6 address, and one to 10.0.0.1 behind
two tags. The filters for these targets drop both. -/
theorem filter_drops :
    (∃ p, parse ipv6Frame = some p ∧
      (protecting (.subnet (.v6 0x20010db8000000000000000000000000) 32)).isEffectivelyProtected
        (fromAddr p.dest) = true ∧
      (Filter.ofTargets (.subnet (.v6 0x20010db8000000000000000000000000) 32)).accepts pcapFilter ipv6Frame 0 =
        false) ∧
    ∃ p, parse (ipv4Behind [0x88, 0xa8, 0, 5, 0x81, 0x00, 0, 7]) = some p ∧
      (protecting (.list [.v4 0x0a000001])).isEffectivelyProtected (fromAddr p.dest) = true ∧
      (Filter.ofTargets (.list [.v4 0x0a000001])).accepts pcapFilter
        (ipv4Behind [0x88, 0xa8, 0, 5, 0x81, 0x00, 0, 7]) 0 = false := by
  let first : Parsed := ⟨0, 0x20010db8000000000000000000000001, 59, 54, 64⟩
  let second : Parsed := ⟨toIpv6Mapped 0xc6336409, toIpv6Mapped 0x0a000001, 17, 42, 64⟩
  exact ⟨⟨first, by decide +kernel, by decide +kernel, by decide +kernel⟩,
    ⟨second, by decide +kernel, by decide +kernel, by decide +kernel⟩⟩

end Flod.Capture
