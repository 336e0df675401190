import Flod.Kernel.Drain

/-! What a window counts, as one function from figures to numbers. Both backends only
ever add to it, so packets, samples and pending map entries become summands. -/

namespace Flod.Kernel
open Flod.Lib Flod.Net Flod.Stage1

/-- The figures of a window that both backends keep for a host. -/
inductive Feature where
  | source (ip : IpAddr)
  | ipCount (ip : IpAddr)
  | port (port : BitVec 16)
  | fingerprint (bucket : BitVec 8)
  | sourcePackets
  | portPackets
  | fingerprintPackets
  | windowPackets
  | egressPackets
  | protocol (protocol : Protocol)

abbrev Tally := Feature → Nat

variable {F : Type} {cpus : Nat}

/-- Packets of other protocols have no counter of their own. -/
def tally (ts : TargetState F) : Tally
  | .source ip => ts.entropy.counts.getD ip 0
  | .ipCount ip => ts.ipCounts.getD ip 0
  | .port port => ts.portEntropy.counts.getD port 0
  | .fingerprint bucket => ts.fingerprintEntropy.counts.getD bucket 0
  | .sourcePackets => ts.entropy.packetCount
  | .portPackets => ts.portEntropy.packetCount
  | .fingerprintPackets => ts.fingerprintEntropy.packetCount
  | .windowPackets => ts.windowPacketCount
  | .egressPackets => ts.egressPacketCount
  | .protocol .tcp => ts.tcpCount
  | .protocol .udp => ts.udpCount
  | .protocol .icmp => ts.icmpCount
  | .protocol .sctp => ts.sctpCount
  | .protocol .gre => ts.greCount
  | .protocol .esp => ts.espCount
  | .protocol .other => 0

/-- A packet as both backends are given it, once parsed. -/
structure Packet where
  direction : Direction
  srcIp : IpAddr
  dstIp : IpAddr
  proto : BitVec 8
  dstPort : BitVec 16
  sourcePort : BitVec 16
  ttl : BitVec 8
  fingerprintBucket : Option (BitVec 8)
  deriving DecidableEq, Repr

/-- What the capture thread sends down the channel. -/
def Packet.toMeta (p : Packet) : PacketMeta where
  direction := p.direction
  srcIp := p.srcIp
  dstIp := p.dstIp
  protocol := Protocol.ofNumber p.proto
  dstPort := p.dstPort
  sourcePort := p.sourcePort
  ttl := p.ttl
  fingerprintBucket := p.fingerprintBucket

/-- What the eBPF programs hold of it. -/
def Packet.observed (p : Packet) : Observed where
  source := toAddr p.srcIp
  dest := toAddr p.dstIp
  proto := p.proto
  destPort := p.dstPort
  sourcePort := p.sourcePort
  ttl := p.ttl
  fingerprintBucket := p.fingerprintBucket

/-- What one ingress packet adds to the window of its destination. -/
def ingressTally (p : Packet) : Tally
  | .source ip => if p.srcIp = ip then 1 else 0
  | .ipCount ip => if p.srcIp = ip then 1 else 0
  | .port port => if p.sourcePort = port then 1 else 0
  | .fingerprint bucket => if p.fingerprintBucket = some bucket then 1 else 0
  | .sourcePackets => 1
  | .portPackets => 1
  | .fingerprintPackets => if p.fingerprintBucket.isSome then 1 else 0
  | .windowPackets => 1
  | .egressPackets => 0
  | .protocol .other => 0
  | .protocol protocol => if Protocol.ofNumber p.proto = protocol then 1 else 0

def egressTally : Tally
  | .egressPackets => 1
  | _ => 0

def Packet.tally (p : Packet) : Tally :=
  match p.direction with
  | .ingress => ingressTally p
  | .egress => egressTally

section Accumulators

variable {K : Type} [DecidableEq K]

theorem addPackets_counts (acc : EntropyAccumulator K) (key other : K) (count : Nat) :
    (acc.addPackets key count).counts.getD other 0 =
      acc.counts.getD other 0 + if key = other then count else 0 := by
  unfold EntropyAccumulator.addPackets
  by_cases none : count = 0
  · simp [none]
  · rw [if_neg none, Dict.getD_set]
    split
    next same => rw [same]
    next => rfl

theorem addPackets_packetCount (acc : EntropyAccumulator K) (key : K) (count : Nat) :
    (acc.addPackets key count).packetCount = acc.packetCount + count := by
  unfold EntropyAccumulator.addPackets
  split
  next none => simp [none]
  next => rfl

/-- The number stored for a key, over all entries. -/
def countIn (entries : List (K × Nat)) (key : K) : Nat :=
  (entries.map (fun e => if e.1 = key then e.2 else 0)).sum

theorem foldl_addPackets (entries : List (K × Nat)) (small : ∀ e ∈ entries, e.2 < 2 ^ 32)
    (acc : EntropyAccumulator K) :
    (∀ key, (entries.foldl (fun acc e => acc.addPackets e.1 (asU32 e.2)) acc).counts.getD key 0 =
      acc.counts.getD key 0 + countIn entries key) ∧
    (entries.foldl (fun acc e => acc.addPackets e.1 (asU32 e.2)) acc).packetCount =
      acc.packetCount + (entries.map Prod.snd).sum := by
  induction entries generalizing acc with
  | nil => simp [countIn]
  | cons e rest ih =>
    have whole : asU32 e.2 = e.2 := Nat.mod_eq_of_lt (small e List.mem_cons_self)
    obtain ⟨counts, packets⟩ := ih (fun e member => small e (List.mem_cons_of_mem _ member))
      (acc.addPackets e.1 (asU32 e.2))
    refine ⟨fun key => ?_, ?_⟩
    · rw [List.foldl_cons, counts key, addPackets_counts, whole]
      simp [countIn, Nat.add_assoc]
    · rw [List.foldl_cons, packets, addPackets_packetCount, whole]
      simp [Nat.add_assoc]

theorem foldl_counts (entries : List (K × Nat)) (small : ∀ e ∈ entries, e.2 < 2 ^ 32) (d : Dict K Nat)
    (key : K) :
    (entries.foldl (fun acc e => acc.set e.1 (acc.getD e.1 0 + asU32 e.2)) d).getD key 0 =
      d.getD key 0 + countIn entries key := by
  induction entries generalizing d with
  | nil => simp [countIn]
  | cons e rest ih =>
    have whole : asU32 e.2 = e.2 := Nat.mod_eq_of_lt (small e List.mem_cons_self)
    have later : ∀ e ∈ rest, e.2 < 2 ^ 32 := fun e member => small e (List.mem_cons_of_mem _ member)
    rw [List.foldl_cons, ih later, Dict.getD_set, whole]
    by_cases same : e.1 = key
    · subst same
      simp [countIn, Nat.add_assoc]
    · simp [countIn, same]

end Accumulators

theorem addPacket_of_read (acc : EntropyAccumulator Byte) (read : Option Byte) :
    let seen := match read with
      | some bucket => acc.addPacket bucket
      | none => acc
    (∀ bucket, seen.counts.getD bucket 0 = acc.counts.getD bucket 0 + if read = some bucket then 1 else 0) ∧
      seen.packetCount = acc.packetCount + if read.isSome then 1 else 0 := by
  cases read with
  | none => simp
  | some seen => simp [EntropyAccumulator.addPacket, addPackets_counts, addPackets_packetCount]

variable [Arith F]

theorem recordIngress_tally (ts : TargetState F) (p : Packet) :
    tally (ts.recordIngress p.toMeta) = tally ts + ingressTally p := by
  have fingerprints := addPacket_of_read ts.fingerprintEntropy p.fingerprintBucket
  have sources : ∀ ip, (ts.ipCounts.set p.srcIp (ts.ipCounts.getD p.srcIp 0 + 1)).getD ip 0 =
      ts.ipCounts.getD ip 0 + if p.srcIp = ip then 1 else 0 := by
    intro ip
    rw [Dict.getD_set]
    split
    next same => rw [same]
    next => rfl
  funext feature
  simp only [TargetState.recordIngress, Packet.toMeta]
  cases named : Protocol.ofNumber p.proto <;> cases feature with
  | source ip => exact addPackets_counts _ _ _ _
  | ipCount ip => exact sources ip
  | port port => exact addPackets_counts _ _ _ _
  | fingerprint bucket => exact fingerprints.1 bucket
  | sourcePackets => exact addPackets_packetCount _ _ _
  | portPackets => exact addPackets_packetCount _ _ _
  | fingerprintPackets => exact fingerprints.2
  | windowPackets => rfl
  | egressPackets => rfl
  | protocol protocol => cases protocol <;> simp [tally, ingressTally, named]

omit [Arith F] in
theorem recordEgress_tally (ts : TargetState F) : tally ts.recordEgress = tally ts + egressTally := by
  funext feature
  cases feature with
  | protocol protocol => cases protocol <;> rfl
  | _ => rfl

/-- What a drained sample adds. -/
def sampleTally (s : WindowSample) : Tally
  | .source ip => countIn s.sources ip
  | .ipCount ip => countIn s.sources ip
  | .port port => countIn s.ports port
  | .fingerprint bucket => countIn s.fingerprints bucket
  | .sourcePackets => (s.sources.map Prod.snd).sum
  | .portPackets => (s.ports.map Prod.snd).sum
  | .fingerprintPackets => (s.fingerprints.map Prod.snd).sum
  | .windowPackets => s.ingressPackets
  | .egressPackets => s.egressPackets
  | .protocol .tcp => s.tcp
  | .protocol .udp => s.udp
  | .protocol .icmp => s.icmp
  | .protocol .sctp => s.sctp
  | .protocol .gre => s.gre
  | .protocol .esp => s.esp
  | .protocol .other => 0

/-- No count of a sample exceeds the width of the accumulators. -/
structure Small (s : WindowSample) : Prop where
  sources : ∀ e ∈ s.sources, e.2 < 2 ^ 32
  ports : ∀ e ∈ s.ports, e.2 < 2 ^ 32
  fingerprints : ∀ e ∈ s.fingerprints, e.2 < 2 ^ 32
  tcp : s.tcp < 2 ^ 32
  udp : s.udp < 2 ^ 32
  icmp : s.icmp < 2 ^ 32
  sctp : s.sctp < 2 ^ 32
  gre : s.gre < 2 ^ 32
  esp : s.esp < 2 ^ 32

instance (s : WindowSample) : Decidable (Small s) :=
  decidable_of_iff
    ((∀ e ∈ s.sources, e.2 < 2 ^ 32) ∧ (∀ e ∈ s.ports, e.2 < 2 ^ 32) ∧
      (∀ e ∈ s.fingerprints, e.2 < 2 ^ 32) ∧ s.tcp < 2 ^ 32 ∧ s.udp < 2 ^ 32 ∧ s.icmp < 2 ^ 32 ∧
      s.sctp < 2 ^ 32 ∧ s.gre < 2 ^ 32 ∧ s.esp < 2 ^ 32)
    ⟨fun ⟨a, b, c, d, e, f, g, h, i⟩ => ⟨a, b, c, d, e, f, g, h, i⟩,
      fun ⟨a, b, c, d, e, f, g, h, i⟩ => ⟨a, b, c, d, e, f, g, h, i⟩⟩

theorem recordSample_tally (ts : TargetState F) {s : WindowSample} (small : Small s) :
    tally (ts.recordSample s) = tally ts + sampleTally s := by
  have sources := foldl_addPackets s.sources small.sources ts.entropy
  have ports := foldl_addPackets s.ports small.ports ts.portEntropy
  have fingerprints := foldl_addPackets s.fingerprints small.fingerprints ts.fingerprintEntropy
  funext feature
  cases feature with
  | source ip => exact sources.1 ip
  | ipCount ip => exact foldl_counts s.sources small.sources ts.ipCounts ip
  | port port => exact ports.1 port
  | fingerprint bucket => exact fingerprints.1 bucket
  | sourcePackets => exact sources.2
  | portPackets => exact ports.2
  | fingerprintPackets => exact fingerprints.2
  | windowPackets => rfl
  | egressPackets => rfl
  | protocol protocol =>
    cases protocol with
    | tcp => exact congrArg (ts.tcpCount + ·) (Nat.mod_eq_of_lt small.tcp)
    | udp => exact congrArg (ts.udpCount + ·) (Nat.mod_eq_of_lt small.udp)
    | icmp => exact congrArg (ts.icmpCount + ·) (Nat.mod_eq_of_lt small.icmp)
    | sctp => exact congrArg (ts.sctpCount + ·) (Nat.mod_eq_of_lt small.sctp)
    | gre => exact congrArg (ts.greCount + ·) (Nat.mod_eq_of_lt small.gre)
    | esp => exact congrArg (ts.espCount + ·) (Nat.mod_eq_of_lt small.esp)
    | other => rfl

/-- What the maps hold for a host and a drain would add. -/
def pending (maps : Maps cpus) (host : IpAddr) : Tally
  | .source ip => maps.sources.weight id (fun k => fromAddr k.victim = host ∧ fromAddr k.source = ip)
  | .ipCount ip => maps.sources.weight id (fun k => fromAddr k.victim = host ∧ fromAddr k.source = ip)
  | .port port => maps.portHist.weight id (fun k => fromAddr k.victim = host ∧ k.port = port)
  | .fingerprint bucket =>
      maps.fingerprintHist.weight id (fun k => fromAddr k.victim = host ∧ k.bucket = bucket)
  | .sourcePackets => maps.sources.weight id (fun k => fromAddr k.victim = host)
  | .portPackets => maps.portHist.weight id (fun k => fromAddr k.victim = host)
  | .fingerprintPackets => maps.fingerprintHist.weight id (fun k => fromAddr k.victim = host)
  | .windowPackets => maps.counters.weight Counters.ingressPackets (fun k => fromAddr k = host)
  | .egressPackets => maps.counters.weight Counters.egressPackets (fun k => fromAddr k = host)
  | .protocol .tcp => maps.counters.weight Counters.tcp (fun k => fromAddr k = host)
  | .protocol .udp => maps.counters.weight Counters.udp (fun k => fromAddr k = host)
  | .protocol .icmp => maps.counters.weight Counters.icmp (fun k => fromAddr k = host)
  | .protocol .sctp => maps.counters.weight Counters.sctp (fun k => fromAddr k = host)
  | .protocol .gre => maps.counters.weight Counters.gre (fun k => fromAddr k = host)
  | .protocol .esp => maps.counters.weight Counters.esp (fun k => fromAddr k = host)
  | .protocol .other => 0

theorem sum_hostEntries {K V : Type} (m : PerCpuMap cpus K V) (victim : K → Addr) (host : IpAddr)
    (g : V → Nat) :
    ((hostEntries m victim host).map (fun e => ∑ cpu, g (e.2 cpu))).sum =
      m.weight g (fun k => fromAddr (victim k) = host) :=
  sum_filter m.slots.entries (fun e => fromAddr (victim e.1) = host) (fun e => ∑ cpu, g (e.2 cpu))

theorem countIn_hostEntries {K A : Type} [DecidableEq A] (m : PerCpuMap cpus K Nat) (victim : K → Addr)
    (host : IpAddr) (under : K → A) (a : A) :
    countIn ((hostEntries m victim host).map (fun e => (under e.1, ∑ cpu, e.2 cpu))) a =
      m.weight id (fun k => fromAddr (victim k) = host ∧ under k = a) := by
  rw [countIn, List.map_map, PerCpuMap.weight]
  have filtered := sum_filter m.slots.entries (fun e => fromAddr (victim e.1) = host)
    (fun e => if under e.1 = a then ∑ cpu, e.2 cpu else 0)
  refine filtered.trans ?_
  simp only [ite_and, id]

theorem total_hostEntries {K A : Type} (m : PerCpuMap cpus K Nat) (victim : K → Addr) (host : IpAddr)
    (under : K → A) :
    (((hostEntries m victim host).map (fun e => (under e.1, ∑ cpu, e.2 cpu))).map Prod.snd).sum =
      m.weight id (fun k => fromAddr (victim k) = host) := by
  rw [List.map_map]
  exact sum_hostEntries m victim host id

theorem sampleTally_sampleOf (maps : Maps cpus) (host : IpAddr) :
    sampleTally (sampleOf maps host) = pending maps host := by
  funext feature
  cases feature with
  | source ip => exact countIn_hostEntries maps.sources SourceKey.victim host (fun k => fromAddr k.source) ip
  | ipCount ip => exact countIn_hostEntries maps.sources SourceKey.victim host (fun k => fromAddr k.source) ip
  | port port => exact countIn_hostEntries maps.portHist PortKey.victim host PortKey.port port
  | fingerprint bucket =>
    exact countIn_hostEntries maps.fingerprintHist FingerprintKey.victim host FingerprintKey.bucket bucket
  | sourcePackets => exact total_hostEntries maps.sources SourceKey.victim host (fun k => fromAddr k.source)
  | portPackets => exact total_hostEntries maps.portHist PortKey.victim host PortKey.port
  | fingerprintPackets =>
    exact total_hostEntries maps.fingerprintHist FingerprintKey.victim host FingerprintKey.bucket
  | windowPackets => exact sum_hostEntries maps.counters id host Counters.ingressPackets
  | egressPackets => exact sum_hostEntries maps.counters id host Counters.egressPackets
  | protocol protocol =>
    cases protocol with
    | tcp => exact sum_hostEntries maps.counters id host Counters.tcp
    | udp => exact sum_hostEntries maps.counters id host Counters.udp
    | icmp => exact sum_hostEntries maps.counters id host Counters.icmp
    | sctp => exact sum_hostEntries maps.counters id host Counters.sctp
    | gre => exact sum_hostEntries maps.counters id host Counters.gre
    | esp => exact sum_hostEntries maps.counters id host Counters.esp
    | other => rfl

theorem pending_cleared (maps : Maps cpus) (host : IpAddr) : pending maps.cleared host = 0 := by
  funext feature
  cases feature with
  | protocol protocol => cases protocol <;> rfl
  | _ => rfl

theorem not_saw_cleared (maps : Maps cpus) (host : IpAddr) : ¬ maps.cleared.Saw host := by
  simp [Maps.Saw, Maps.cleared, PerCpuMap.keys, PerCpuMap.empty, Dict.keys, Dict.empty]

/-- One of the two programs, by the interface the packet crosses. -/
def observe (tries : Tries) (maps : Maps cpus) (cpu : Fin cpus) (p : Packet) : Maps cpus :=
  match p.direction with
  | .ingress => observeIngress tries maps cpu p.observed
  | .egress => observeEgress tries maps cpu p.observed

/-- No map the packet is counted into is full, or it holds the packet's key already. -/
structure Room (maps : Maps cpus) (p : Packet) : Prop where
  counters : maps.counters.Admits (toAddr p.dstIp)
  sources : maps.sources.Admits ⟨toAddr p.dstIp, toAddr p.srcIp⟩
  flows : maps.flows.Admits ⟨toAddr p.srcIp, toAddr p.dstIp, p.dstPort, p.proto⟩
  portHist : maps.portHist.Admits ⟨toAddr p.dstIp, p.sourcePort⟩
  ttlHist : maps.ttlHist.Admits ⟨toAddr p.dstIp, p.ttl⟩
  fingerprintHist : ∀ bucket ∈ p.fingerprintBucket,
    maps.fingerprintHist.Admits ⟨toAddr p.dstIp, bucket⟩

instance (maps : Maps cpus) (p : Packet) : Decidable (Room maps p) :=
  decidable_of_iff
    (maps.counters.Admits (toAddr p.dstIp) ∧ maps.sources.Admits ⟨toAddr p.dstIp, toAddr p.srcIp⟩ ∧
      maps.flows.Admits ⟨toAddr p.srcIp, toAddr p.dstIp, p.dstPort, p.proto⟩ ∧
      maps.portHist.Admits ⟨toAddr p.dstIp, p.sourcePort⟩ ∧ maps.ttlHist.Admits ⟨toAddr p.dstIp, p.ttl⟩ ∧
      ∀ bucket ∈ p.fingerprintBucket, maps.fingerprintHist.Admits ⟨toAddr p.dstIp, bucket⟩)
    ⟨fun ⟨a, b, c, d, e, f⟩ => ⟨a, b, c, d, e, f⟩, fun ⟨a, b, c, d, e, f⟩ => ⟨a, b, c, d, e, f⟩⟩

theorem Counters.count_ingress (proto : BitVec 8) (c : Counters) :
    c.count proto true =
      { ingressPackets := c.ingressPackets + 1
        egressPackets := c.egressPackets
        tcp := c.tcp + if Protocol.ofNumber proto = .tcp then 1 else 0
        udp := c.udp + if Protocol.ofNumber proto = .udp then 1 else 0
        icmp := c.icmp + if Protocol.ofNumber proto = .icmp then 1 else 0
        sctp := c.sctp + if Protocol.ofNumber proto = .sctp then 1 else 0
        gre := c.gre + if Protocol.ofNumber proto = .gre then 1 else 0
        esp := c.esp + if Protocol.ofNumber proto = .esp then 1 else 0
        other := c.other + if Protocol.ofNumber proto = .other then 1 else 0 } := by
  rw [Counters.count, if_pos rfl, Protocol.ofNumber]
  split <;> simp [*]

theorem weight_bump {K : Type} [DecidableEq K] {m : PerCpuMap cpus K Nat} {key : K} (admits : m.Admits key)
    (cpu : Fin cpus) (P : K → Prop) [DecidablePred P] :
    (m.upsert cpu key (· + 1)).weight id P = m.weight id P + if P key then 1 else 0 :=
  PerCpuMap.weight_upsert admits cpu (g := id) (fun _ => rfl) rfl P

theorem weight_count {counters : PerCpuMap cpus Addr Counters} {destination : IpAddr}
    (admits : counters.Admits (toAddr destination)) (unmapped : destination.Unmapped) (cpu : Fin cpus)
    (host : IpAddr) {proto : BitVec 8} {ingressSide : Bool} (g : Counters → Nat) {change : Nat}
    (adds : ∀ c : Counters, g (c.count proto ingressSide) = g c + change) (zero : g 0 = 0) :
    (counters.upsert cpu (toAddr destination) (Counters.count proto ingressSide)).weight g
        (fun k => fromAddr k = host) =
      counters.weight g (fun k => fromAddr k = host) + if destination = host then change else 0 := by
  rw [PerCpuMap.weight_upsert admits cpu adds zero, fromAddr_toAddr unmapped]

theorem weight_fingerprint {m : PerCpuMap cpus FingerprintKey Nat} {victim : Addr} {read : Option (BitVec 8)}
    (admits : ∀ bucket ∈ read, m.Admits ⟨victim, bucket⟩) (cpu : Fin cpus) (P : FingerprintKey → Prop)
    [DecidablePred P] :
    (match read with
      | some bucket => m.upsert cpu ⟨victim, bucket⟩ (· + 1)
      | none => m).weight id P =
      m.weight id P + if ∃ bucket, read = some bucket ∧ P ⟨victim, bucket⟩ then 1 else 0 := by
  cases read with
  | none => simp
  | some bucket => simpa using weight_bump (admits bucket rfl) cpu P

theorem observeIngress_pending {tries : Tries} {maps : Maps cpus} {p : Packet}
    (kept : tries.isProtected (toAddr p.dstIp) = true) (room : Room maps p) (source : p.srcIp.Unmapped)
    (destination : p.dstIp.Unmapped) (cpu : Fin cpus) (host : IpAddr) :
    pending (observeIngress tries maps cpu p.observed) host =
      pending maps host + if p.dstIp = host then ingressTally p else 0 := by
  have back := fromAddr_toAddr destination
  have counted (g : Counters → Nat) {change : Nat}
      (adds : ∀ c : Counters, g (c.count p.proto true) = g c + change) :=
    weight_count room.counters destination cpu host g adds
  have sourced (ip : IpAddr) :
      (maps.sources.upsert cpu ⟨toAddr p.dstIp, toAddr p.srcIp⟩ (· + 1)).weight id
          (fun k => fromAddr k.victim = host ∧ fromAddr k.source = ip) =
        maps.sources.weight id (fun k => fromAddr k.victim = host ∧ fromAddr k.source = ip) +
          if p.dstIp = host then if p.srcIp = ip then 1 else 0 else 0 := by
    rw [weight_bump room.sources, back, fromAddr_toAddr source, ite_and]
  have printed := weight_fingerprint room.fingerprintHist cpu
  rw [observeIngress_protected (p := p.observed) kept]
  funext feature
  rw [Pi.add_apply, ite_apply]
  cases feature with
  | source ip => exact sourced ip
  | ipCount ip => exact sourced ip
  | port port =>
    have added := weight_bump room.portHist cpu (fun k => fromAddr k.victim = host ∧ k.port = port)
    simp only [back, ite_and] at added
    exact added
  | fingerprint bucket =>
    have added := printed (fun k => fromAddr k.victim = host ∧ k.bucket = bucket)
    have same : (∃ read, p.fingerprintBucket = some read ∧ p.dstIp = host ∧ read = bucket) ↔
        p.dstIp = host ∧ p.fingerprintBucket = some bucket := by
      constructor
      · rintro ⟨_, read, here, rfl⟩
        exact ⟨here, read⟩
      · rintro ⟨here, read⟩
        exact ⟨bucket, read, here, rfl⟩
    simp only [back, same, ite_and] at added
    exact added
  | sourcePackets =>
    have added := weight_bump room.sources cpu (fun k => fromAddr k.victim = host)
    simp only [back] at added
    exact added
  | portPackets =>
    have added := weight_bump room.portHist cpu (fun k => fromAddr k.victim = host)
    simp only [back] at added
    exact added
  | fingerprintPackets =>
    have added := printed (fun k => fromAddr k.victim = host)
    have same : (∃ read, p.fingerprintBucket = some read ∧ p.dstIp = host) ↔
        p.dstIp = host ∧ p.fingerprintBucket.isSome = true := by
      rw [exists_and_right, and_comm, Option.isSome_iff_exists]
    simp only [back, same, ite_and] at added
    exact added
  | windowPackets => exact counted _ (fun c => by rw [c.count_ingress]; rfl) rfl
  | egressPackets => exact counted _ (fun c => by rw [c.count_ingress]; rfl) rfl
  | protocol protocol =>
    cases protocol with
    | other => simp [pending, ingressTally]
    | _ => exact counted _ (fun c => by rw [c.count_ingress]; rfl) rfl

theorem observeEgress_protected {tries : Tries} {p : Observed} (kept : tries.isProtected p.dest = true)
    (maps : Maps cpus) (cpu : Fin cpus) :
    observeEgress tries maps cpu p =
      { maps with counters := maps.counters.upsert cpu p.dest (Counters.count p.proto false) } := by
  rw [observeEgress, if_pos kept, bumpCounters_eq_upsert]

theorem observeEgress_pending {tries : Tries} {maps : Maps cpus} {p : Packet}
    (kept : tries.isProtected (toAddr p.dstIp) = true) (room : maps.counters.Admits (toAddr p.dstIp))
    (destination : p.dstIp.Unmapped) (cpu : Fin cpus) (host : IpAddr) :
    pending (observeEgress tries maps cpu p.observed) host =
      pending maps host + if p.dstIp = host then egressTally else 0 := by
  have counted (g : Counters → Nat) {change : Nat}
      (adds : ∀ c : Counters, g (c.count p.proto false) = g c + change) :=
    weight_count room destination cpu host g adds
  rw [observeEgress_protected (p := p.observed) kept]
  funext feature
  rw [Pi.add_apply, ite_apply]
  cases feature with
  | windowPackets => exact counted _ (fun c => rfl) rfl
  | egressPackets => exact counted _ (fun c => rfl) rfl
  | protocol protocol =>
    cases protocol with
    | other => simp [pending, egressTally]
    | _ => exact counted _ (fun c => rfl) rfl
  | _ => simp [pending, egressTally]

theorem observe_pending {tries : Tries} {maps : Maps cpus} {p : Packet}
    (kept : tries.isProtected (toAddr p.dstIp) = true) (room : Room maps p) (source : p.srcIp.Unmapped)
    (destination : p.dstIp.Unmapped) (cpu : Fin cpus) (host : IpAddr) :
    pending (observe tries maps cpu p) host = pending maps host + if p.dstIp = host then p.tally else 0 := by
  unfold observe Packet.tally
  cases p.direction with
  | ingress => exact observeIngress_pending kept room source destination cpu host
  | egress => exact observeEgress_pending kept room.counters destination cpu host

theorem observe_unprotected {tries : Tries} {p : Packet}
    (ignored : tries.isProtected (toAddr p.dstIp) ≠ true) (maps : Maps cpus) (cpu : Fin cpus) :
    observe tries maps cpu p = maps := by
  unfold observe
  cases p.direction with
  | ingress => exact if_neg ignored
  | egress => exact if_neg ignored

theorem exists_keys_upsert {K V : Type} [DecidableEq K] [Zero V] {m : PerCpuMap cpus K V} {key : K}
    (admits : m.Admits key) (cpu : Fin cpus) (f : V → V) (P : K → Prop) :
    (∃ k ∈ (m.upsert cpu key f).keys, P k) ↔ (∃ k ∈ m.keys, P k) ∨ P key := by
  simp only [PerCpuMap.mem_keys_upsert admits, or_and_right, exists_or, exists_eq_left]
  exact or_comm

theorem observe_saw {tries : Tries} {maps : Maps cpus} {p : Packet}
    (kept : tries.isProtected (toAddr p.dstIp) = true) (room : Room maps p) (destination : p.dstIp.Unmapped)
    (cpu : Fin cpus) (host : IpAddr) :
    (observe tries maps cpu p).Saw host ↔ maps.Saw host ∨ p.dstIp = host := by
  have back := fromAddr_toAddr destination
  have counted (side : Bool) := exists_keys_upsert room.counters cpu (Counters.count p.proto side)
    (fun k => fromAddr k = host)
  simp only [back] at counted
  unfold observe
  cases p.direction with
  | ingress =>
    have sourced := exists_keys_upsert room.sources cpu (· + 1) (fun k => fromAddr k.victim = host)
    have flowed := exists_keys_upsert room.flows cpu (· + 1) (fun k => fromAddr k.victim = host)
    have ported := exists_keys_upsert room.portHist cpu (· + 1) (fun k => fromAddr k.victim = host)
    have timed := exists_keys_upsert room.ttlHist cpu (· + 1) (fun k => fromAddr k.victim = host)
    simp only [back] at sourced flowed ported timed
    rw [observeIngress_protected (p := p.observed) kept]
    simp only [Maps.Saw, Packet.observed, counted, sourced, flowed, ported, timed]
    cases read : p.fingerprintBucket with
    | none => by_cases here : p.dstIp = host <;> simp only [here, or_true, true_or, or_false]
    | some bucket =>
      have printed := exists_keys_upsert (room.fingerprintHist bucket read) cpu (· + 1)
        (fun k => fromAddr k.victim = host)
      simp only [back] at printed
      simp only [printed]
      by_cases here : p.dstIp = host <;> simp only [here, or_true, or_false]
  | egress =>
    rw [observeEgress_protected (p := p.observed) kept]
    exact (or_congr_left (counted false)).trans or_right_comm

end Flod.Kernel
