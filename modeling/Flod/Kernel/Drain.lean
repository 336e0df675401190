import Flod.Kernel.Maps

/-! What a drain returns: for every host one sample, field by field the entries of the
maps that name the host. -/

namespace Flod.Kernel
open Flod.Lib Flod.Net Flod.Stage1

variable {cpus : Nat}

/-- The entries of a map whose key names a host. -/
def hostEntries {K V : Type} (m : PerCpuMap cpus K V) (victim : K → Addr) (host : IpAddr) :
    List (K × (Fin cpus → V)) :=
  m.slots.entries.filter (fun e => decide (fromAddr (victim e.1) = host))

theorem getD_entry (out : Dict IpAddr WindowSample) (victim host : IpAddr)
    (f : WindowSample → WindowSample) :
    (entry out victim f).getD host WindowSample.default =
      if victim = host then f (out.getD host WindowSample.default)
      else out.getD host WindowSample.default := by
  unfold entry
  by_cases same : victim = host
  · subst same
    simp [Dict.getD]
  · simp [Dict.getD, Dict.get?_set, same]

/-- Each entry changes the sample of its own host and no other. -/
theorem getD_foldl_entry {E : Type} (victim : E → IpAddr) (f : E → WindowSample → WindowSample)
    (es : List E) (out : Dict IpAddr WindowSample) (host : IpAddr) :
    (es.foldl (fun out e => entry out (victim e) (f e)) out).getD host WindowSample.default =
      (es.filter (fun e => decide (victim e = host))).foldl (fun s e => f e s)
        (out.getD host WindowSample.default) := by
  induction es generalizing out with
  | nil => rfl
  | cons e es ih =>
    rw [List.foldl_cons, ih, getD_entry]
    by_cases same : victim e = host <;> simp [same]

theorem mem_keys_foldl_entry {E : Type} (victim : E → IpAddr) (f : E → WindowSample → WindowSample)
    (es : List E) (out : Dict IpAddr WindowSample) (host : IpAddr) :
    host ∈ (es.foldl (fun out e => entry out (victim e) (f e)) out).keys ↔
      host ∈ out.keys ∨ ∃ e ∈ es, victim e = host := by
  induction es generalizing out with
  | nil => simp
  | cons e es ih =>
    rw [List.foldl_cons, ih, entry, Dict.mem_keys_set]
    simp only [List.mem_cons, exists_eq_or_imp, @eq_comm _ host (victim e)]
    tauto

theorem foldl_addCounters (es : List (Addr × (Fin cpus → Counters))) (s : WindowSample) :
    es.foldl (fun s e => addCounters e.2 s) s =
      { s with
        ingressPackets := s.ingressPackets + (es.map (fun e => ∑ cpu, (e.2 cpu).ingressPackets)).sum
        egressPackets := s.egressPackets + (es.map (fun e => ∑ cpu, (e.2 cpu).egressPackets)).sum
        tcp := s.tcp + (es.map (fun e => ∑ cpu, (e.2 cpu).tcp)).sum
        udp := s.udp + (es.map (fun e => ∑ cpu, (e.2 cpu).udp)).sum
        icmp := s.icmp + (es.map (fun e => ∑ cpu, (e.2 cpu).icmp)).sum
        sctp := s.sctp + (es.map (fun e => ∑ cpu, (e.2 cpu).sctp)).sum
        gre := s.gre + (es.map (fun e => ∑ cpu, (e.2 cpu).gre)).sum
        esp := s.esp + (es.map (fun e => ∑ cpu, (e.2 cpu).esp)).sum } := by
  induction es generalizing s with
  | nil => rfl
  | cons e es ih =>
    rw [List.foldl_cons, ih]
    simp [addCounters, Nat.add_assoc]

/-- A list of totals inside a sample. -/
structure Totals (A : Type) where
  get : WindowSample → List (A × Nat)
  put : List (A × Nat) → WindowSample → WindowSample
  get_put : ∀ l s, get (put l s) = l
  put_put : ∀ l l' s, put l (put l' s) = put l s
  put_get : ∀ s, put (get s) s = s

def sourceTotals : Totals IpAddr :=
  ⟨(·.sources), fun l s => { s with sources := l }, fun _ _ => rfl, fun _ _ _ => rfl, fun _ => rfl⟩

def flowTotals : Totals Stage1.FlowKey :=
  ⟨(·.flows), fun l s => { s with flows := l }, fun _ _ => rfl, fun _ _ _ => rfl, fun _ => rfl⟩

def portTotals : Totals (BitVec 16) :=
  ⟨(·.ports), fun l s => { s with ports := l }, fun _ _ => rfl, fun _ _ _ => rfl, fun _ => rfl⟩

def ttlTotals : Totals (BitVec 8) :=
  ⟨(·.ttls), fun l s => { s with ttls := l }, fun _ _ => rfl, fun _ _ _ => rfl, fun _ => rfl⟩

def fingerprintTotals : Totals (BitVec 8) :=
  ⟨(·.fingerprints), fun l s => { s with fingerprints := l }, fun _ _ => rfl, fun _ _ _ => rfl, fun _ => rfl⟩

/-- Storing totals into one list of a sample, whatever the list. The keys stored under
are distinct, so none overwrites another. -/
theorem foldl_store {K A : Type} [DecidableEq A] (under : K → A) (totals : Totals A)
    (store : K → Nat → WindowSample → WindowSample)
    (stores : ∀ key total s, store key total s = totals.put (Dict.putIn (under key) total (totals.get s)) s)
    (es : List (K × (Fin cpus → Nat))) (s : WindowSample) (nothing : totals.get s = [])
    (distinct : (es.map (fun e => under e.1)).Nodup) :
    es.foldl (fun s e => store e.1 (∑ cpu, e.2 cpu) s) s =
      totals.put (es.map (fun e => (under e.1, ∑ cpu, e.2 cpu))) s := by
  have loop : ∀ (es : List (K × (Fin cpus → Nat))) (s : WindowSample),
      es.foldl (fun s e => store e.1 (∑ cpu, e.2 cpu) s) s =
        totals.put ((es.map (fun e => (under e.1, ∑ cpu, e.2 cpu))).foldl
          (fun entries e => Dict.putIn e.1 e.2 entries) (totals.get s)) s := by
    intro es
    induction es with
    | nil => exact fun s => (totals.put_get s).symm
    | cons e es ih =>
      intro s
      rw [List.foldl_cons, ih, stores, totals.get_put, totals.put_put]
      rfl
  have keys : ((es.map (fun e => (under e.1, ∑ cpu, e.2 cpu))).map Prod.fst).Nodup := by
    simpa [Function.comp_def] using distinct
  rw [loop, nothing, Dict.foldl_putIn _ [] (by simpa using keys), List.nil_append]

/-- Two keys that name one host and are stored under one key are equal. -/
theorem nodup_hostEntries {K V A : Type} (m : PerCpuMap cpus K V) (victim : K → Addr) (under : K → A)
    (host : IpAddr) (separates : ∀ k k', victim k = victim k' → under k = under k' → k = k') :
    ((hostEntries m victim host).map (fun e => under e.1)).Nodup := by
  have keys : ((hostEntries m victim host).map Prod.fst).Nodup :=
    m.slots.nodup.sublist (List.filter_sublist.map _)
  have split : (hostEntries m victim host).map (fun e => under e.1) =
      ((hostEntries m victim host).map Prod.fst).map under := by
    simp
  have named : ∀ k ∈ (hostEntries m victim host).map Prod.fst, fromAddr (victim k) = host := by
    intro k member
    obtain ⟨e, inside, rfl⟩ := List.mem_map.mp member
    simpa using (List.mem_filter.mp inside).2
  rw [split]
  refine keys.map_on ?_
  intro k first k' second same
  exact separates k k' (fromAddr_injective ((named k first).trans (named k' second).symm)) same

/-- The sample of one host in closed form. -/
def sampleOf (maps : Maps cpus) (host : IpAddr) : WindowSample where
  ingressPackets := ((hostEntries maps.counters id host).map (fun e => ∑ cpu, (e.2 cpu).ingressPackets)).sum
  egressPackets := ((hostEntries maps.counters id host).map (fun e => ∑ cpu, (e.2 cpu).egressPackets)).sum
  tcp := ((hostEntries maps.counters id host).map (fun e => ∑ cpu, (e.2 cpu).tcp)).sum
  udp := ((hostEntries maps.counters id host).map (fun e => ∑ cpu, (e.2 cpu).udp)).sum
  icmp := ((hostEntries maps.counters id host).map (fun e => ∑ cpu, (e.2 cpu).icmp)).sum
  sctp := ((hostEntries maps.counters id host).map (fun e => ∑ cpu, (e.2 cpu).sctp)).sum
  gre := ((hostEntries maps.counters id host).map (fun e => ∑ cpu, (e.2 cpu).gre)).sum
  esp := ((hostEntries maps.counters id host).map (fun e => ∑ cpu, (e.2 cpu).esp)).sum
  sources := (hostEntries maps.sources SourceKey.victim host).map (fun e => (fromAddr e.1.source, ∑ cpu, e.2 cpu))
  flows := (hostEntries maps.flows FlowKey.victim host).map (fun e =>
    ((fromAddr e.1.source, fromAddr e.1.victim, e.1.dstPort, e.1.proto), ∑ cpu, e.2 cpu))
  ports := (hostEntries maps.portHist PortKey.victim host).map (fun e => (e.1.port, ∑ cpu, e.2 cpu))
  ttls := (hostEntries maps.ttlHist TtlKey.victim host).map (fun e => (e.1.ttl, ∑ cpu, e.2 cpu))
  fingerprints := (hostEntries maps.fingerprintHist FingerprintKey.victim host).map (fun e =>
    (e.1.bucket, ∑ cpu, e.2 cpu))

/-- The maps with every entry removed. -/
def Maps.cleared (maps : Maps cpus) : Maps cpus where
  counters := .empty maps.counters.capacity
  sources := .empty maps.sources.capacity
  flows := .empty maps.flows.capacity
  portHist := .empty maps.portHist.capacity
  ttlHist := .empty maps.ttlHist.capacity
  fingerprintHist := .empty maps.fingerprintHist.capacity

theorem drain_maps (maps : Maps cpus) : (drain maps).2 = maps.cleared := by
  simp only [drain, drainCounters, drainSources, drainFlows, drainPorts, drainTtls, drainFingerprints,
    drainHistogram, PerCpuMap.drain_eq, Maps.cleared]

theorem getD_drainHistogram {K : Type} [DecidableEq K] (m : PerCpuMap cpus K Nat) (victim : K → Addr)
    (store : K → Nat → WindowSample → WindowSample) (out : Dict IpAddr WindowSample) (host : IpAddr) :
    (drainHistogram m victim store out).1.getD host WindowSample.default =
      (hostEntries m victim host).foldl (fun s e => store e.1 (∑ cpu, e.2 cpu) s)
        (out.getD host WindowSample.default) := by
  simp only [drainHistogram, PerCpuMap.drain_eq]
  exact getD_foldl_entry (fun e : K × (Fin cpus → Nat) => fromAddr (victim e.1))
    (fun e s => store e.1 (∑ cpu, e.2 cpu) s) m.slots.entries out host

theorem drain_getD (maps : Maps cpus) (host : IpAddr) :
    (drain maps).1.getD host WindowSample.default = sampleOf maps host := by
  have counted : (drainCounters maps Dict.empty).1.getD host WindowSample.default =
      (hostEntries maps.counters id host).foldl (fun s e => addCounters e.2 s) WindowSample.default := by
    simp only [drainCounters, PerCpuMap.drain_eq]
    exact getD_foldl_entry (fun e : Addr × (Fin cpus → Counters) => fromAddr e.1)
      (fun e s => addCounters e.2 s) maps.counters.slots.entries Dict.empty host
  have sourced := nodup_hostEntries maps.sources SourceKey.victim (fun k => fromAddr k.source) host
    (by rintro ⟨v, a⟩ ⟨v', a'⟩ rfl same; cases fromAddr_injective same; rfl)
  have flowed := nodup_hostEntries maps.flows FlowKey.victim
    (fun k => (fromAddr k.source, fromAddr k.victim, k.dstPort, k.proto)) host
    (by
      rintro ⟨a, v, d, q⟩ ⟨a', v', d', q'⟩ rfl same
      simp only [Prod.mk.injEq] at same
      obtain ⟨source, -, rfl, rfl⟩ := same
      cases fromAddr_injective source
      rfl)
  have ported := nodup_hostEntries maps.portHist PortKey.victim PortKey.port host
    (fun _ _ => PortKey.ext)
  have timed := nodup_hostEntries maps.ttlHist TtlKey.victim TtlKey.ttl host
    (fun _ _ => TtlKey.ext)
  have printed := nodup_hostEntries maps.fingerprintHist FingerprintKey.victim FingerprintKey.bucket host
    (fun _ _ => FingerprintKey.ext)
  simp only [drain, drainSources, drainFlows, drainPorts, drainTtls, drainFingerprints,
    getD_drainHistogram, counted, foldl_addCounters]
  -- Draining the counters leaves the histograms alone.
  change (hostEntries maps.fingerprintHist FingerprintKey.victim host).foldl _
    ((hostEntries maps.ttlHist TtlKey.victim host).foldl _
      ((hostEntries maps.portHist PortKey.victim host).foldl _
        ((hostEntries maps.flows FlowKey.victim host).foldl _
          ((hostEntries maps.sources SourceKey.victim host).foldl _ _)))) = _
  rw [foldl_store (fun k : SourceKey => fromAddr k.source) sourceTotals storeSource (fun _ _ _ => rfl) _ _ rfl sourced,
    foldl_store (fun k : FlowKey => (fromAddr k.source, fromAddr k.victim, k.dstPort, k.proto)) flowTotals storeFlow
      (fun _ _ _ => rfl) _ _ rfl flowed,
    foldl_store PortKey.port portTotals storePort (fun _ _ _ => rfl) _ _ rfl ported,
    foldl_store TtlKey.ttl ttlTotals storeTtl (fun _ _ _ => rfl) _ _ rfl timed,
    foldl_store FingerprintKey.bucket fingerprintTotals storeFingerprint (fun _ _ _ => rfl) _ _ rfl printed]
  simp [sampleOf, WindowSample.default, sourceTotals, flowTotals, portTotals, ttlTotals, fingerprintTotals]

/-- Some map holds an entry of the host. -/
def Maps.Saw (maps : Maps cpus) (host : IpAddr) : Prop :=
  (∃ k ∈ maps.counters.keys, fromAddr k = host) ∨ (∃ k ∈ maps.sources.keys, fromAddr k.victim = host) ∨
    (∃ k ∈ maps.flows.keys, fromAddr k.victim = host) ∨ (∃ k ∈ maps.portHist.keys, fromAddr k.victim = host) ∨
    (∃ k ∈ maps.ttlHist.keys, fromAddr k.victim = host) ∨
    (∃ k ∈ maps.fingerprintHist.keys, fromAddr k.victim = host)

theorem mem_keys_drainHistogram {K : Type} [DecidableEq K] (m : PerCpuMap cpus K Nat) (victim : K → Addr)
    (store : K → Nat → WindowSample → WindowSample) (out : Dict IpAddr WindowSample) (host : IpAddr) :
    host ∈ (drainHistogram m victim store out).1.keys ↔
      host ∈ out.keys ∨ ∃ k ∈ m.keys, fromAddr (victim k) = host := by
  simp only [drainHistogram, PerCpuMap.drain_eq]
  rw [mem_keys_foldl_entry (fun e : K × (Fin cpus → Nat) => fromAddr (victim e.1))
    (fun e s => store e.1 (∑ cpu, e.2 cpu) s)]
  simp [PerCpuMap.keys, Dict.keys]

theorem mem_keys_drain (maps : Maps cpus) (host : IpAddr) :
    host ∈ (drain maps).1.keys ↔ maps.Saw host := by
  have counted : host ∈ (drainCounters maps Dict.empty).1.keys ↔
      ∃ k ∈ maps.counters.keys, fromAddr k = host := by
    simp only [drainCounters, PerCpuMap.drain_eq]
    rw [mem_keys_foldl_entry (fun e : Addr × (Fin cpus → Counters) => fromAddr e.1)
      (fun e s => addCounters e.2 s)]
    simp [PerCpuMap.keys, Dict.keys, Dict.empty]
  simp only [drain, drainSources, drainFlows, drainPorts, drainTtls, drainFingerprints,
    mem_keys_drainHistogram, counted]
  simp only [drainCounters, Maps.Saw, or_assoc]

end Flod.Kernel
