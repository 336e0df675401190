import Flod.Kernel.Drain

/-! The three value histograms between two drains. All hosts share one bounded map per
histogram, so a host's counts are exact for every host if and only if the distinct pairs
of host and value fit the map. -/

namespace Flod.Kernel
open Flod.Lib Flod.Net Flod.Stage1

variable {cpus : Nat}

/-- A drained histogram holds exactly the values that occurred, each with its count. -/
def ExactHistogram {A : Type} [DecidableEq A] (drained : List (A × Nat)) (values : List A) : Prop :=
  ∀ a n, (a, n) ∈ drained ↔ 0 < n ∧ values.count a = n

section Histogram

variable {K A : Type} [DecidableEq K] [DecidableEq A] (victim : K → Addr) (value : K → A)

/-- What a drain stores for a host from one histogram map. -/
def drainedFor (m : PerCpuMap cpus K Nat) (host : Addr) : List (A × Nat) :=
  (hostEntries m victim (fromAddr host)).map (fun e => (value e.1, ∑ cpu, e.2 cpu))

/-- The values of a host among the keys counted. -/
def valuesOf (seen : List K) (host : Addr) : List A :=
  (seen.filter (fun k => decide (victim k = host))).map value

variable {victim value} (separates : ∀ k k', victim k = victim k' → value k = value k' → k = k')

omit [DecidableEq K] [DecidableEq A] in
theorem mem_drainedFor {m : PerCpuMap cpus K Nat} {host : Addr} {a : A} {n : Nat} :
    (a, n) ∈ drainedFor victim value m host ↔
      ∃ e ∈ m.slots.entries, victim e.1 = host ∧ value e.1 = a ∧ ∑ cpu, e.2 cpu = n := by
  simp only [drainedFor, hostEntries, List.mem_map, List.mem_filter, decide_eq_true_eq,
    fromAddr_injective.eq_iff, Prod.mk.injEq]
  constructor
  · rintro ⟨e, ⟨member, named⟩, stored, total⟩
    exact ⟨e, member, named, stored, total⟩
  · rintro ⟨e, member, named, stored, total⟩
    exact ⟨e, ⟨member, named⟩, stored, total⟩

include separates

theorem count_valuesOf (seen : List K) (k : K) :
    (valuesOf victim value seen (victim k)).count (value k) = seen.count k := by
  rw [valuesOf, List.count, List.countP_map, List.countP_filter, List.count]
  apply List.countP_congr
  intro other _
  simp only [Function.comp_apply, Bool.and_eq_true, beq_iff_eq, decide_eq_true_eq]
  constructor
  · rintro ⟨stored, named⟩
    exact separates other k named stored
  · rintro rfl
    exact ⟨rfl, rfl⟩

theorem exact_of_tallies {m : PerCpuMap cpus K Nat} {seen : List K} (tallies : m.Tallies seen)
    (host : Addr) : ExactHistogram (drainedFor victim value m host) (valuesOf victim value seen host) := by
  intro a n
  rw [mem_drainedFor]
  constructor
  · rintro ⟨⟨k, perCpu⟩, member, rfl, rfl, rfl⟩
    have known : k ∈ seen := (tallies.keys k).mp (List.mem_map.mpr ⟨_, member, rfl⟩)
    have total := tallies.counts _ member
    rw [count_valuesOf separates, total]
    exact ⟨List.count_pos_iff.mpr known, rfl⟩
  · rintro ⟨positive, counted⟩
    have occurs : a ∈ valuesOf victim value seen host := List.count_pos_iff.mp (by omega)
    obtain ⟨k, inside, rfl⟩ := List.mem_map.mp occurs
    obtain ⟨known, named⟩ := List.mem_filter.mp inside
    obtain rfl : victim k = host := by simpa using named
    obtain ⟨perCpu, found⟩ := Dict.get?_of_mem_keys ((tallies.keys k).mpr known)
    have member := (Dict.get?_eq_some_iff _ _ _).mp found
    refine ⟨(k, perCpu), member, rfl, rfl, ?_⟩
    rw [tallies.counts _ member, ← counted, count_valuesOf separates]

theorem mem_keys_of_exact {m : PerCpuMap cpus K Nat} {seen : List K} {k : K} (known : k ∈ seen)
    (histogram : ExactHistogram (drainedFor victim value m (victim k))
      (valuesOf victim value seen (victim k))) : k ∈ m.keys := by
  have counted : 0 < seen.count k := List.count_pos_iff.mpr known
  have stored := (histogram (value k) (seen.count k)).mpr ⟨counted, count_valuesOf separates seen k⟩
  obtain ⟨e, member, named, same, _⟩ := mem_drainedFor.mp stored
  rw [← separates e.1 k named same]
  exact List.mem_map.mpr ⟨e, member, rfl⟩

/-- Over the hosts that receive traffic, exact histograms are a matter of room. -/
theorem exact_iff_card_le (updates : List (Fin cpus × K)) (capacity : Nat) (hosts : Addr → Prop)
    (addressed : ∀ e ∈ updates, hosts (victim e.2)) :
    (∀ host, hosts host → ExactHistogram
      (drainedFor victim value (updates.foldl (fun m e => m.upsert e.1 e.2 (· + 1)) (.empty capacity)) host)
      (valuesOf victim value (updates.map Prod.snd) host)) ↔
      (updates.map Prod.snd).toFinset.card ≤ capacity := by
  constructor
  · intro all
    have held : ∀ k ∈ updates.map Prod.snd,
        k ∈ (updates.foldl (fun m e => m.upsert e.1 e.2 (· + 1))
          (.empty capacity : PerCpuMap cpus K Nat)).keys := by
      intro k known
      obtain ⟨e, member, rfl⟩ := List.mem_map.mp known
      exact mem_keys_of_exact separates known (all _ (addressed e member))
    have fits := PerCpuMap.card_le_capacity held
    rwa [PerCpuMap.foldl_upsert_capacity] at fits
  · intro room host _
    exact exact_of_tallies separates (PerCpuMap.tallies_foldl updates room) host

end Histogram

/-- The maps after some ingress traffic. -/
def observeAll (tries : Tries) (maps : Maps cpus) (traffic : List (Fin cpus × Observed)) : Maps cpus :=
  traffic.foldl (fun maps e => observeIngress tries maps e.1 e.2) maps

/-- The keys a histogram is asked to count, in order. A packet may have none. -/
def updatesOf {K : Type} (tries : Tries) (key : Observed → Option K)
    (traffic : List (Fin cpus × Observed)) : List (Fin cpus × K) :=
  (traffic.filter (fun e => tries.isProtected e.2.dest)).filterMap (fun e =>
    (key e.2).map (fun k => (e.1, k)))

def portKey (p : Observed) : Option PortKey := some ⟨p.dest, p.sourcePort⟩

def ttlKey (p : Observed) : Option TtlKey := some ⟨p.dest, p.ttl⟩

def fingerprintKey (p : Observed) : Option FingerprintKey :=
  p.fingerprintBucket.map (fun bucket => ⟨p.dest, bucket⟩)

/-- The packets sent to a host. -/
def packetsTo (traffic : List (Fin cpus × Observed)) (host : Addr) : List Observed :=
  (traffic.map Prod.snd).filter (fun p => decide (p.dest = host))

/-- The distinct pairs of protected host and value fit each histogram. -/
def HistogramsFit (tries : Tries) (traffic : List (Fin cpus × Observed)) : Prop :=
  ((updatesOf tries portKey traffic).map Prod.snd).toFinset.card ≤ portHistEntries ∧
    ((updatesOf tries ttlKey traffic).map Prod.snd).toFinset.card ≤ ttlHistEntries ∧
    ((updatesOf tries fingerprintKey traffic).map Prod.snd).toFinset.card ≤ fingerprintHistEntries

instance (tries : Tries) (traffic : List (Fin cpus × Observed)) : Decidable (HistogramsFit tries traffic) :=
  inferInstanceAs (Decidable (_ ∧ _ ∧ _))

variable {tries : Tries}

section Histogram

variable {K A : Type} [DecidableEq K]

/-- A histogram of the maps after some traffic is its keys counted one by one. -/
theorem observeAll_histogram (histogram : Maps cpus → PerCpuMap cpus K Nat) (key : Observed → Option K)
    (counts : ∀ (maps : Maps cpus) (cpu : Fin cpus) (p : Observed), tries.isProtected p.dest = true →
      histogram (observeIngress tries maps cpu p) =
        (key p).elim (histogram maps) (fun k => (histogram maps).upsert cpu k (· + 1)))
    (traffic : List (Fin cpus × Observed)) (maps : Maps cpus) :
    histogram (observeAll tries maps traffic) =
      (updatesOf tries key traffic).foldl (fun m e => m.upsert e.1 e.2 (· + 1)) (histogram maps) := by
  induction traffic generalizing maps with
  | nil => rfl
  | cons e rest ih =>
    rw [observeAll, List.foldl_cons]
    by_cases kept : tries.isProtected e.2.dest = true
    · refine (ih _).trans ?_
      rw [counts maps e.1 e.2 kept]
      cases found : key e.2 <;> simp [updatesOf, kept, found]
    · rw [observeIngress, if_neg kept]
      refine (ih _).trans ?_
      simp [updatesOf, kept]

omit [DecidableEq K] in
theorem valuesOf_updatesOf {victim : K → Addr} (value : K → A) {key : Observed → Option K}
    (named : ∀ p k, key p = some k → victim k = p.dest) {host : Addr}
    (kept : tries.isProtected host = true) (traffic : List (Fin cpus × Observed)) :
    valuesOf victim value ((updatesOf tries key traffic).map Prod.snd) host =
      (packetsTo traffic host).filterMap (fun p => (key p).map value) := by
  induction traffic with
  | nil => rfl
  | cons e rest ih =>
    rcases e with ⟨cpu, p⟩
    by_cases sent : p.dest = host
    · subst sent
      cases found : key p with
      | none => simpa [updatesOf, packetsTo, kept, found] using ih
      | some k => simpa [updatesOf, packetsTo, valuesOf, kept, found, named p k found] using ih
    · have elsewhere : ∀ k, key p = some k → victim k ≠ host := by
        intro k found
        rwa [named p k found]
      by_cases inside : tries.isProtected p.dest = true
      · cases found : key p with
        | none => simpa [updatesOf, packetsTo, inside, sent, found] using ih
        | some k => simpa [updatesOf, packetsTo, valuesOf, inside, sent, found, elsewhere k found] using ih
      · simpa [updatesOf, packetsTo, inside, sent] using ih

end Histogram

theorem observeIngress_fingerprintHist (tries : Tries) (maps : Maps cpus) (cpu : Fin cpus) (p : Observed)
    (kept : tries.isProtected p.dest = true) :
    (observeIngress tries maps cpu p).fingerprintHist =
      (fingerprintKey p).elim maps.fingerprintHist (fun k => maps.fingerprintHist.upsert cpu k (· + 1)) := by
  rw [observeIngress_protected kept, fingerprintKey]
  cases p.fingerprintBucket <;> rfl

theorem observeAll_fingerprintHist (traffic : List (Fin cpus × Observed)) (maps : Maps cpus) :
    (observeAll tries maps traffic).fingerprintHist =
      (updatesOf tries fingerprintKey traffic).foldl (fun m e => m.upsert e.1 e.2 (· + 1)) maps.fingerprintHist :=
  observeAll_histogram (·.fingerprintHist) fingerprintKey (observeIngress_fingerprintHist tries) traffic maps

theorem mem_updatesOf {K : Type} {key : Observed → Option K} {traffic : List (Fin cpus × Observed)}
    {e : Fin cpus × K} (member : e ∈ updatesOf tries key traffic) :
    ∃ p, tries.isProtected p.dest = true ∧ key p = some e.2 := by
  obtain ⟨sent, inside, made⟩ := List.mem_filterMap.mp member
  obtain ⟨k, found, rfl⟩ := Option.map_eq_some_iff.mp made
  exact ⟨sent.2, (List.mem_filter.mp inside).2, found⟩

/-- One histogram of all hosts, drained after some traffic from empty maps, is exact
just when its distinct keys fit. -/
theorem drained_exact_iff {K A : Type} [DecidableEq K] [DecidableEq A] (victim : K → Addr) (value : K → A)
    (histogram : Maps cpus → PerCpuMap cpus K Nat) (key : Observed → Option K) (capacity : Nat)
    (maps : Maps cpus) (start : histogram maps = .empty capacity)
    (separates : ∀ k k', victim k = victim k' → value k = value k' → k = k')
    (named : ∀ p k, key p = some k → victim k = p.dest)
    (counts : ∀ (maps : Maps cpus) (cpu : Fin cpus) (p : Observed), tries.isProtected p.dest = true →
      histogram (observeIngress tries maps cpu p) =
        (key p).elim (histogram maps) (fun k => (histogram maps).upsert cpu k (· + 1)))
    (traffic : List (Fin cpus × Observed)) :
    (∀ host, tries.isProtected host = true →
      ExactHistogram (drainedFor victim value (histogram (observeAll tries maps traffic)) host)
        ((packetsTo traffic host).filterMap (fun p => (key p).map value))) ↔
      ((updatesOf tries key traffic).map Prod.snd).toFinset.card ≤ capacity := by
  have addressed : ∀ e ∈ updatesOf tries key traffic, tries.isProtected (victim e.2) = true := by
    intro e member
    obtain ⟨p, kept, found⟩ := mem_updatesOf member
    rwa [named p e.2 found]
  rw [observeAll_histogram histogram key counts, start,
    ← exact_iff_card_le separates (updatesOf tries key traffic) capacity
      (fun host => tries.isProtected host = true) addressed]
  refine forall_congr' fun host => forall_congr' fun kept => ?_
  rw [valuesOf_updatesOf value named kept]

/-- The histograms drained for a host. -/
structure HostHistograms where
  ports : List (BitVec 16 × Nat)
  ttls : List (BitVec 8 × Nat)
  fingerprints : List (BitVec 8 × Nat)

def drainedHistograms (maps : Maps cpus) (host : Addr) : HostHistograms :=
  let sample := (drain maps).1.getD (fromAddr host) WindowSample.default
  ⟨sample.ports, sample.ttls, sample.fingerprints⟩

/-- Each histogram of a host holds exactly the counts of the packets sent to it. -/
structure HostHistograms.Exact (h : HostHistograms) (packets : List Observed) : Prop where
  ports : ExactHistogram h.ports (packets.map (·.sourcePort))
  ttls : ExactHistogram h.ttls (packets.map (·.ttl))
  fingerprints : ExactHistogram h.fingerprints (packets.filterMap (·.fingerprintBucket))

theorem drainedHistograms_eq (maps : Maps cpus) (host : Addr) :
    drainedHistograms maps host =
      ⟨drainedFor PortKey.victim PortKey.port maps.portHist host,
        drainedFor TtlKey.victim TtlKey.ttl maps.ttlHist host,
        drainedFor FingerprintKey.victim FingerprintKey.bucket maps.fingerprintHist host⟩ := by
  rw [drainedHistograms, drain_getD]
  rfl

theorem exact_iff_histogramsFit (tries : Tries) (sizes : MapSizes) (traffic : List (Fin cpus × Observed)) :
    (∀ host, tries.isProtected host = true →
      (drainedHistograms (observeAll tries (Maps.empty cpus sizes) traffic) host).Exact
        (packetsTo traffic host)) ↔ HistogramsFit tries traffic := by
  have ports := drained_exact_iff PortKey.victim PortKey.port (·.portHist) portKey portHistEntries
    (Maps.empty cpus sizes) rfl (fun _ _ => PortKey.ext) (by rintro p k ⟨⟩; rfl)
    (fun maps cpu p (kept : tries.isProtected p.dest = true) => by rw [observeIngress_protected kept]; rfl)
    traffic
  have ttls := drained_exact_iff TtlKey.victim TtlKey.ttl (·.ttlHist) ttlKey ttlHistEntries
    (Maps.empty cpus sizes) rfl (fun _ _ => TtlKey.ext) (by rintro p k ⟨⟩; rfl)
    (fun maps cpu p (kept : tries.isProtected p.dest = true) => by rw [observeIngress_protected kept]; rfl)
    traffic
  have fingerprints := drained_exact_iff FingerprintKey.victim FingerprintKey.bucket (·.fingerprintHist)
    fingerprintKey fingerprintHistEntries (Maps.empty cpus sizes) rfl (fun _ _ => FingerprintKey.ext)
    (by
      intro p k found
      obtain ⟨bucket, _, rfl⟩ := Option.map_eq_some_iff.mp found
      rfl)
    (observeIngress_fingerprintHist tries) traffic
  have portValues : (fun p : Observed => (portKey p).map PortKey.port) = fun p => some p.sourcePort := rfl
  have ttlValues : (fun p : Observed => (ttlKey p).map TtlKey.ttl) = fun p => some p.ttl := rfl
  have buckets : (fun p : Observed => (fingerprintKey p).map FingerprintKey.bucket) =
      fun p => p.fingerprintBucket := by
    funext p
    simp [fingerprintKey, Function.comp_def]
  rw [portValues, List.filterMap_eq_map'] at ports
  rw [ttlValues, List.filterMap_eq_map'] at ttls
  rw [buckets] at fingerprints
  rw [HistogramsFit, ← ports, ← ttls, ← fingerprints]
  simp only [drainedHistograms_eq]
  constructor
  · intro all
    exact ⟨fun host kept => (all host kept).ports, fun host kept => (all host kept).ttls,
      fun host kept => (all host kept).fingerprints⟩
  · rintro ⟨first, second, third⟩ host kept
    exact ⟨first host kept, second host kept, third host kept⟩

/-- The same entries, whatever order the drain met them in. -/
structure HostHistograms.Same (h h' : HostHistograms) : Prop where
  ports : ∀ e, e ∈ h.ports ↔ e ∈ h'.ports
  ttls : ∀ e, e ∈ h.ttls ↔ e ∈ h'.ttls
  fingerprints : ∀ e, e ∈ h.fingerprints ↔ e ∈ h'.fingerprints

theorem HostHistograms.Exact.same {h h' : HostHistograms} {packets : List Observed} (first : h.Exact packets)
    (second : h'.Exact packets) : h.Same h' where
  ports e := (first.ports e.1 e.2).trans (second.ports e.1 e.2).symm
  ttls e := (first.ttls e.1 e.2).trans (second.ttls e.1 e.2).symm
  fingerprints e := (first.fingerprints e.1 e.2).trans (second.fingerprints e.1 e.2).symm

/-- Between two drains every protected host gets exactly its own counts just when the
pairs of host and value in the whole traffic fit the maps, and then what other hosts
receive changes nothing for it. -/
theorem histograms_exact_iff_fit (tries : Tries) (sizes : MapSizes) :
    (∀ traffic : List (Fin cpus × Observed),
      (∀ host, tries.isProtected host = true →
        (drainedHistograms (observeAll tries (Maps.empty cpus sizes) traffic) host).Exact
          (packetsTo traffic host)) ↔ HistogramsFit tries traffic) ∧
    (∀ (traffic other : List (Fin cpus × Observed)) (host : Addr), tries.isProtected host = true →
      HistogramsFit tries traffic → HistogramsFit tries other →
      packetsTo traffic host = packetsTo other host →
      (drainedHistograms (observeAll tries (Maps.empty cpus sizes) traffic) host).Same
        (drainedHistograms (observeAll tries (Maps.empty cpus sizes) other) host)) := by
  refine ⟨exact_iff_histogramsFit tries sizes, ?_⟩
  intro traffic other host kept fits fits' agree
  have first := (exact_iff_histogramsFit tries sizes traffic).mpr fits host kept
  have second := (exact_iff_histogramsFit tries sizes other).mpr fits' host kept
  rw [← agree] at second
  exact first.same second

/-- Two protected hosts. -/
def twoHostTries : Tries :=
  ⟨⟨256, [(128, toAddr (.v4 0x0a000001)), (128, toAddr (.v4 0x0a000002))]⟩, ⟨256, []⟩⟩

example : load 256 (.list [.v4 0x0a000001, .v4 0x0a000002]) [] = some twoHostTries := rfl

/-- A SYN to one of them. -/
def synTo (host : IpAddr) (bucket : BitVec 8) : Observed :=
  ⟨toAddr (.v4 0xc6336409), toAddr host, 6, 443, 51000, 64, some bucket⟩

theorem histograms_exact_pair :
    (drainedHistograms (observeAll twoHostTries (Maps.empty 2 MapSizes.default)
      [(cpu0, synTo (.v4 0x0a000001) 7), (cpu1, synTo (.v4 0x0a000002) 9), (cpu1, synTo (.v4 0x0a000001) 7)])
      (toAddr (.v4 0x0a000001))).Exact
        [synTo (.v4 0x0a000001) 7, synTo (.v4 0x0a000001) 7] :=
  ((histograms_exact_iff_fit twoHostTries MapSizes.default).1
    [(cpu0, synTo (.v4 0x0a000001) 7), (cpu1, synTo (.v4 0x0a000002) 9), (cpu1, synTo (.v4 0x0a000001) 7)]).mpr
    (by decide +kernel) (toAddr (.v4 0x0a000001)) (by decide +kernel)

/-- Every fingerprint bucket once to the second host, then one SYN to the first. -/
def crowded : List (Fin 2 × Observed) :=
  (List.range 64).map (fun bucket => (cpu1, synTo (.v4 0x0a000002) (BitVec.ofNat 8 bucket))) ++
    [(cpu0, synTo (.v4 0x0a000001) 7)]

/-- The second host's buckets fill the map, and the first host's SYN is not counted. -/
theorem crowded_loses_fingerprint :
    twoHostTries.isProtected (toAddr (.v4 0x0a000001)) = true ∧
      packetsTo crowded (toAddr (.v4 0x0a000001)) = [synTo (.v4 0x0a000001) 7] ∧
      (drainedHistograms (observeAll twoHostTries (Maps.empty 2 MapSizes.default) crowded)
        (toAddr (.v4 0x0a000001))).fingerprints = [] ∧
      (drainedHistograms (observeAll twoHostTries (Maps.empty 2 MapSizes.default)
        [(cpu0, synTo (.v4 0x0a000001) 7)]) (toAddr (.v4 0x0a000001))).fingerprints = [(7, 1)] := by
  have first : twoHostTries.isProtected (toAddr (.v4 0x0a000001)) = true := by decide +kernel
  have second : twoHostTries.isProtected (toAddr (.v4 0x0a000002)) = true := by decide +kernel
  have kept : ∀ e ∈ crowded, twoHostTries.isProtected e.2.dest = true := by
    intro e member
    rcases List.mem_append.mp member with many | one
    · obtain ⟨bucket, _, rfl⟩ := List.mem_map.mp many
      exact second
    · rw [List.mem_singleton.mp one]
      exact first
  refine ⟨first, by decide +kernel, ?_, by decide +kernel⟩
  -- only the one histogram is run, not the maps beside it
  rw [drainedHistograms_eq]
  dsimp only
  rw [observeAll_fingerprintHist, updatesOf, List.filter_eq_self.mpr kept]
  decide +kernel

end Flod.Kernel
