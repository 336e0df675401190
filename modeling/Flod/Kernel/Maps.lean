import Flod.Kernel.Targets
import Flod.Lib.PerCpu
import Flod.Stage1.Analysis

/-! The maps both eBPF programs count into, and the drain that turns them into one
sample per host. A packet runs its map operations without interruption here, and so
does a drain. -/

namespace Flod.Kernel
open Flod.Lib Flod.Net Flod.Stage1

structure Counters where
  ingressPackets : Nat
  egressPackets : Nat
  tcp : Nat
  udp : Nat
  icmp : Nat
  sctp : Nat
  gre : Nat
  esp : Nat
  other : Nat
  deriving DecidableEq, Repr

instance : Zero Counters := ⟨⟨0, 0, 0, 0, 0, 0, 0, 0, 0⟩⟩

structure SourceKey where
  victim : Addr
  source : Addr
  deriving DecidableEq, Repr

structure FlowKey where
  source : Addr
  victim : Addr
  dstPort : BitVec 16
  proto : BitVec 8
  deriving DecidableEq, Repr

@[ext] structure PortKey where
  victim : Addr
  port : BitVec 16
  deriving DecidableEq, Repr

@[ext] structure TtlKey where
  victim : Addr
  ttl : BitVec 8
  deriving DecidableEq, Repr

@[ext] structure FingerprintKey where
  victim : Addr
  bucket : BitVec 8
  deriving DecidableEq, Repr

structure MapSizes where
  sources : Nat
  flows : Nat
  protectedHosts : Nat

def MapSizes.default : MapSizes := ⟨65536, 8192, 256⟩

def portHistEntries : Nat := 65536

def ttlHistEntries : Nat := 256

def fingerprintHistEntries : Nat := 64

structure Maps (cpus : Nat) where
  counters : PerCpuMap cpus Addr Counters
  sources : PerCpuMap cpus SourceKey Nat
  flows : PerCpuMap cpus FlowKey Nat
  portHist : PerCpuMap cpus PortKey Nat
  ttlHist : PerCpuMap cpus TtlKey Nat
  fingerprintHist : PerCpuMap cpus FingerprintKey Nat

/-- The maps as loaded. The three histograms have no size option. -/
def Maps.empty (cpus : Nat) (sizes : MapSizes) : Maps cpus where
  counters := .empty sizes.protectedHosts
  sources := .empty sizes.sources
  flows := .empty sizes.flows
  portHist := .empty portHistEntries
  ttlHist := .empty ttlHistEntries
  fingerprintHist := .empty fingerprintHistEntries

/-- What the programs read off one packet. -/
structure Observed where
  source : Addr
  dest : Addr
  proto : BitVec 8
  destPort : BitVec 16
  sourcePort : BitVec 16
  ttl : BitVec 8
  fingerprintBucket : Option (BitVec 8)
  deriving DecidableEq, Repr

variable {cpus : Nat}

/-- The in-place update of `bump_counters`. -/
def Counters.count (proto : BitVec 8) (ingressSide : Bool) (c : Counters) : Counters :=
  if ingressSide then
    let counted := { c with ingressPackets := c.ingressPackets + 1 }
    match proto.toNat with
    | 6 => { counted with tcp := c.tcp + 1 }
    | 17 => { counted with udp := c.udp + 1 }
    | 1 | 58 => { counted with icmp := c.icmp + 1 }
    | 132 => { counted with sctp := c.sctp + 1 }
    | 47 => { counted with gre := c.gre + 1 }
    | 50 => { counted with esp := c.esp + 1 }
    | _ => { counted with other := c.other + 1 }
  else { c with egressPackets := c.egressPackets + 1 }

/-- The entry is seeded with zeros on first sight, then updated through a pointer. -/
def bumpCounters (maps : Maps cpus) (cpu : Fin cpus) (victim : Addr) (proto : BitVec 8)
    (ingressSide : Bool) : Maps cpus :=
  let seeded :=
    if (maps.counters.get cpu victim).isNone then maps.counters.insert cpu victim 0
    else some maps.counters
  { maps with
    counters := (seeded.map (fun m => m.modify cpu victim (Counters.count proto ingressSide))).getD
      maps.counters }

/-- The shape of every histogram update: read, then write one more. -/
def bumpIn {K : Type} [DecidableEq K] (m : PerCpuMap cpus K Nat) (cpu : Fin cpus) (key : K) :
    PerCpuMap cpus K Nat :=
  let next := match m.get cpu key with
    | some n => n + 1
    | none => 1
  (m.insert cpu key next).getD m

def bump (maps : Maps cpus) (cpu : Fin cpus) (key : SourceKey) : Maps cpus :=
  { maps with sources := bumpIn maps.sources cpu key }

def bumpFlow (maps : Maps cpus) (cpu : Fin cpus) (key : FlowKey) : Maps cpus :=
  { maps with flows := bumpIn maps.flows cpu key }

def bumpPort (maps : Maps cpus) (cpu : Fin cpus) (key : PortKey) : Maps cpus :=
  { maps with portHist := bumpIn maps.portHist cpu key }

def bumpTtl (maps : Maps cpus) (cpu : Fin cpus) (key : TtlKey) : Maps cpus :=
  { maps with ttlHist := bumpIn maps.ttlHist cpu key }

def bumpFingerprint (maps : Maps cpus) (cpu : Fin cpus) (key : FingerprintKey) : Maps cpus :=
  { maps with fingerprintHist := bumpIn maps.fingerprintHist cpu key }

/-- Only a SYN has a fingerprint bucket. -/
def observeIngress (tries : Tries) (maps : Maps cpus) (cpu : Fin cpus) (p : Observed) : Maps cpus :=
  if tries.isProtected p.dest then
    let counted := bumpCounters maps cpu p.dest p.proto true
    let sourced := bump counted cpu ⟨p.dest, p.source⟩
    let flowed := bumpFlow sourced cpu ⟨p.source, p.dest, p.destPort, p.proto⟩
    let ported := bumpPort flowed cpu ⟨p.dest, p.sourcePort⟩
    let timed := bumpTtl ported cpu ⟨p.dest, p.ttl⟩
    match p.fingerprintBucket with
    | some bucket => bumpFingerprint timed cpu ⟨p.dest, bucket⟩
    | none => timed
  else maps

def observeEgress (tries : Tries) (maps : Maps cpus) (cpu : Fin cpus) (p : Observed) : Maps cpus :=
  if tries.isProtected p.dest then bumpCounters maps cpu p.dest p.proto false else maps

theorem bumpIn_eq_upsert {K : Type} [DecidableEq K] (m : PerCpuMap cpus K Nat) (cpu : Fin cpus)
    (key : K) : bumpIn m cpu key = m.upsert cpu key (· + 1) := by
  unfold bumpIn PerCpuMap.upsert
  cases m.get cpu key <;> rfl

theorem bumpCounters_eq_upsert (maps : Maps cpus) (cpu : Fin cpus) (victim : Addr) (proto : BitVec 8)
    (ingressSide : Bool) :
    bumpCounters maps cpu victim proto ingressSide =
      { maps with counters := maps.counters.upsert cpu victim (Counters.count proto ingressSide) } := by
  unfold bumpCounters
  dsimp only
  rw [PerCpuMap.seed_modify]

/-- The six updates of one packet, side by side. -/
theorem observeIngress_protected {tries : Tries} {p : Observed} (kept : tries.isProtected p.dest = true) (maps : Maps cpus)
    (cpu : Fin cpus) :
    observeIngress tries maps cpu p =
      { counters := maps.counters.upsert cpu p.dest (Counters.count p.proto true)
        sources := maps.sources.upsert cpu ⟨p.dest, p.source⟩ (· + 1)
        flows := maps.flows.upsert cpu ⟨p.source, p.dest, p.destPort, p.proto⟩ (· + 1)
        portHist := maps.portHist.upsert cpu ⟨p.dest, p.sourcePort⟩ (· + 1)
        ttlHist := maps.ttlHist.upsert cpu ⟨p.dest, p.ttl⟩ (· + 1)
        fingerprintHist := match p.fingerprintBucket with
          | some bucket => maps.fingerprintHist.upsert cpu ⟨p.dest, bucket⟩ (· + 1)
          | none => maps.fingerprintHist } := by
  cases printed : p.fingerprintBucket <;>
    simp [observeIngress, kept, printed, bump, bumpFlow, bumpPort, bumpTtl, bumpFingerprint,
      bumpIn_eq_upsert, bumpCounters_eq_upsert]

/-- `out.entry(victim).or_default()`, changed in place. -/
def entry (out : Dict IpAddr WindowSample) (victim : IpAddr) (f : WindowSample → WindowSample) :
    Dict IpAddr WindowSample :=
  out.set victim (f (out.getD victim WindowSample.default))

def addCounters (perCpu : Fin cpus → Counters) (sample : WindowSample) : WindowSample :=
  { sample with
    ingressPackets := sample.ingressPackets + ∑ cpu, (perCpu cpu).ingressPackets
    egressPackets := sample.egressPackets + ∑ cpu, (perCpu cpu).egressPackets
    tcp := sample.tcp + ∑ cpu, (perCpu cpu).tcp
    udp := sample.udp + ∑ cpu, (perCpu cpu).udp
    icmp := sample.icmp + ∑ cpu, (perCpu cpu).icmp
    sctp := sample.sctp + ∑ cpu, (perCpu cpu).sctp
    gre := sample.gre + ∑ cpu, (perCpu cpu).gre
    esp := sample.esp + ∑ cpu, (perCpu cpu).esp }

def drainCounters (maps : Maps cpus) (out : Dict IpAddr WindowSample) :
    Dict IpAddr WindowSample × Maps cpus :=
  let drained := maps.counters.drain
  (drained.1.foldl (fun out e => entry out (fromAddr e.1) (addCounters e.2)) out,
    { maps with counters := drained.2 })

/-- The shape of the five histogram drains: sum over the processors and store the total
in the sample of the victim. -/
def drainHistogram {K : Type} [DecidableEq K] (m : PerCpuMap cpus K Nat) (victim : K → Addr)
    (store : K → Nat → WindowSample → WindowSample) (out : Dict IpAddr WindowSample) :
    Dict IpAddr WindowSample × PerCpuMap cpus K Nat :=
  let drained := m.drain
  (drained.1.foldl (fun out e => entry out (fromAddr (victim e.1)) (store e.1 (∑ cpu, e.2 cpu))) out,
    drained.2)

def storeSource (key : SourceKey) (total : Nat) (sample : WindowSample) : WindowSample :=
  { sample with sources := Dict.putIn (fromAddr key.source) total sample.sources }

def storeFlow (key : FlowKey) (total : Nat) (sample : WindowSample) : WindowSample :=
  { sample with
    flows := Dict.putIn (fromAddr key.source, fromAddr key.victim, key.dstPort, key.proto) total sample.flows }

def storePort (key : PortKey) (total : Nat) (sample : WindowSample) : WindowSample :=
  { sample with ports := Dict.putIn key.port total sample.ports }

def storeTtl (key : TtlKey) (total : Nat) (sample : WindowSample) : WindowSample :=
  { sample with ttls := Dict.putIn key.ttl total sample.ttls }

def storeFingerprint (key : FingerprintKey) (total : Nat) (sample : WindowSample) : WindowSample :=
  { sample with fingerprints := Dict.putIn key.bucket total sample.fingerprints }

def drainSources (maps : Maps cpus) (out : Dict IpAddr WindowSample) :
    Dict IpAddr WindowSample × Maps cpus :=
  let drained := drainHistogram maps.sources SourceKey.victim storeSource out
  (drained.1, { maps with sources := drained.2 })

def drainFlows (maps : Maps cpus) (out : Dict IpAddr WindowSample) :
    Dict IpAddr WindowSample × Maps cpus :=
  let drained := drainHistogram maps.flows FlowKey.victim storeFlow out
  (drained.1, { maps with flows := drained.2 })

def drainPorts (maps : Maps cpus) (out : Dict IpAddr WindowSample) :
    Dict IpAddr WindowSample × Maps cpus :=
  let drained := drainHistogram maps.portHist PortKey.victim storePort out
  (drained.1, { maps with portHist := drained.2 })

def drainTtls (maps : Maps cpus) (out : Dict IpAddr WindowSample) :
    Dict IpAddr WindowSample × Maps cpus :=
  let drained := drainHistogram maps.ttlHist TtlKey.victim storeTtl out
  (drained.1, { maps with ttlHist := drained.2 })

def drainFingerprints (maps : Maps cpus) (out : Dict IpAddr WindowSample) :
    Dict IpAddr WindowSample × Maps cpus :=
  let drained := drainHistogram maps.fingerprintHist FingerprintKey.victim storeFingerprint out
  (drained.1, { maps with fingerprintHist := drained.2 })

/-- One sample per host that saw traffic, and the maps cleared. -/
def drain (maps : Maps cpus) : Dict IpAddr WindowSample × Maps cpus :=
  let counted := drainCounters maps Dict.empty
  let sourced := drainSources counted.2 counted.1
  let flowed := drainFlows sourced.2 sourced.1
  let ported := drainPorts flowed.2 flowed.1
  let timed := drainTtls ported.2 ported.1
  drainFingerprints timed.2 timed.1

/-- The two processors of concrete runs. -/
def cpu0 : Fin 2 := 0

def cpu1 : Fin 2 := 1

end Flod.Kernel
