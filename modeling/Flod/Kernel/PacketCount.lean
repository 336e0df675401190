import Flod.Kernel.Equivalence

/-! Two counts of one window's packets on the kernel backend. The loop works with the
packets of the source histogram; the host's counter counts the same packets in another
map. They stay level as long as the two maps admit the same packets. -/

namespace Flod.Kernel
open Flod.Lib Flod.Net Flod.Stage1

variable {F : Type} [Arith F] {cpus : Nat} {cfg : AnalysisConfig F}
  {persisted : Option (PersistedState F)}

/-- An ingress packet of a protected host is counted in both maps or in neither, and no
source's count has outgrown 32 bits when a drain reads it. -/
def CountedTogether (tries : Tries) (s : Maps cpus × AnalysisState F) : Event F cpus → Prop
  | .packet _ _ p => p.direction = .ingress → tries.isProtected (toAddr p.dstIp) = true →
      (s.1.sources.Admits ⟨toAddr p.dstIp, toAddr p.srcIp⟩ ↔ s.1.counters.Admits (toAddr p.dstIp))
  | .tick _ _ _ => ∀ e ∈ (drain s.1).1.entries, ∀ source ∈ e.2.sources, source.2 < 2 ^ 32

instance (tries : Tries) (s : Maps cpus × AnalysisState F) :
    (e : Event F cpus) → Decidable (CountedTogether tries s e)
  | .packet _ _ p => inferInstanceAs (Decidable (p.direction = .ingress → _ → (_ ↔ _)))
  | .tick _ _ _ => inferInstanceAs (Decidable (∀ e ∈ (drain s.1).1.entries, ∀ source ∈ e.2.sources, source.2 < 2 ^ 32))

/-- The maps hold as many packets per source as per host. -/
def Level (maps : Maps cpus) : Prop :=
  ∀ host, pending maps host .sourcePackets = pending maps host .windowPackets

theorem observe_level {tries : Tries} {maps : Maps cpus} (level : Level maps) (cpu : Fin cpus) {p : Packet}
    (together : p.direction = .ingress → tries.isProtected (toAddr p.dstIp) = true →
      (maps.sources.Admits ⟨toAddr p.dstIp, toAddr p.srcIp⟩ ↔ maps.counters.Admits (toAddr p.dstIp))) :
    Level (observe tries maps cpu p) := by
  by_cases kept : tries.isProtected (toAddr p.dstIp) = true
  · intro host
    have before : maps.sources.weight id (fun k => fromAddr k.victim = host) =
        maps.counters.weight Counters.ingressPackets (fun k => fromAddr k = host) := level host
    unfold observe
    cases direction : p.direction with
    | ingress =>
      have same := together direction kept
      rw [observeIngress_protected (p := p.observed) kept]
      change (maps.sources.upsert cpu ⟨toAddr p.dstIp, toAddr p.srcIp⟩ (· + 1)).weight id
          (fun k => fromAddr k.victim = host) =
        (maps.counters.upsert cpu (toAddr p.dstIp) (Counters.count p.proto true)).weight
          Counters.ingressPackets (fun k => fromAddr k = host)
      by_cases admits : maps.counters.Admits (toAddr p.dstIp)
      · rw [weight_bump (same.mpr admits), PerCpuMap.weight_upsert admits cpu
          (fun c => by rw [c.count_ingress]) rfl, before]
      · rw [PerCpuMap.upsert_of_refused admits, PerCpuMap.upsert_of_refused (fun other => admits (same.mp other)),
          before]
    | egress =>
      rw [observeEgress_protected (p := p.observed) kept]
      change maps.sources.weight id (fun k => fromAddr k.victim = host) =
        (maps.counters.upsert cpu (toAddr p.dstIp) (Counters.count p.proto false)).weight
          Counters.ingressPackets (fun k => fromAddr k = host)
      by_cases admits : maps.counters.Admits (toAddr p.dstIp)
      · rw [PerCpuMap.weight_upsert admits cpu (g := Counters.ingressPackets) (f := Counters.count p.proto false)
          (fun _ => (Nat.add_zero _).symm) rfl, before, ite_self, Nat.add_zero]
      · rw [PerCpuMap.upsert_of_refused admits, before]
  · rwa [observe_unprotected kept]

theorem sampleOf_level {maps : Maps cpus} (level : Level maps) {e : IpAddr × WindowSample}
    (member : e ∈ (drain maps).1.entries) : (e.2.sources.map Prod.snd).sum = e.2.ingressPackets := by
  have found := (Dict.get?_eq_some_iff (drain maps).1 e.1 e.2).mpr member
  have sample : e.2 = sampleOf maps e.1 := by
    rw [← drain_getD, Dict.getD, found]
    rfl
  have tallied := sampleTally_sampleOf maps e.1
  rw [sample]
  calc ((sampleOf maps e.1).sources.map Prod.snd).sum = pending maps e.1 .sourcePackets :=
        congrFun tallied .sourcePackets
    _ = pending maps e.1 .windowPackets := level e.1
    _ = (sampleOf maps e.1).ingressPackets := (congrFun tallied .windowPackets).symm

/-- Both counts of every tracked window are equal. -/
def WindowsLevel (st : AnalysisState F) : Prop :=
  ∀ victim ts, st.targetsMap.get? victim = some ts → ts.entropy.packetCount = ts.windowPacketCount

omit [Arith F] in
theorem WindowsLevel.set {st : AnalysisState F} (level : WindowsLevel st) {victim : IpAddr}
    {ts : TargetState F} (counted : ts.entropy.packetCount = ts.windowPacketCount) :
    WindowsLevel { st with targetsMap := st.targetsMap.set victim ts } := by
  intro other state found
  rw [Dict.get?_set] at found
  split at found
  · cases found
    exact counted
  · exact level other state found

theorem admitVictim_level {now : Instant} {st st' : AnalysisState F} {victim : IpAddr}
    {record : TargetState F → TargetState F} {seen : Bool} (level : WindowsLevel st)
    (adds : ∀ ts, ts.entropy.packetCount = ts.windowPacketCount →
      (record ts).entropy.packetCount = (record ts).windowPacketCount)
    (admitted : admitVictim cfg persisted now st victim record = some (st', seen)) : WindowsLevel st' := by
  rcases admitVictim_cases admitted with ⟨_, rfl, _⟩ | ⟨_, _, rfl, _⟩ | ⟨ts, _, ensured, rfl, _⟩
  · exact level
  · exact level
  · refine level.set (adds ts ?_)
    rcases ensureTarget_some ensured with found | ⟨_, created⟩
    · exact level victim ts found
    · have empty := new_tally created
      exact (congrFun empty .sourcePackets).trans (congrFun empty .windowPackets).symm

theorem admitSamples_level {now : Instant} {samples : List (IpAddr × WindowSample)}
    {st st' : AnalysisState F} (level : WindowsLevel st)
    (sampled : ∀ e ∈ samples, (e.2.sources.map Prod.snd).sum = e.2.ingressPackets)
    (small : ∀ e ∈ samples, ∀ source ∈ e.2.sources, source.2 < 2 ^ 32)
    (admitted : admitSamples cfg persisted now st samples = some st') : WindowsLevel st' := by
  induction samples generalizing st with
  | nil =>
    simp only [admitSamples, Option.some.injEq] at admitted
    exact admitted ▸ level
  | cons e rest ih =>
    obtain ⟨flows, mid, seen, taken, admitted⟩ := admitSamples_cons admitted
    refine ih ?_ (fun e member => sampled e (List.mem_cons_of_mem _ member))
      (fun e member => small e (List.mem_cons_of_mem _ member)) admitted
    refine admitVictim_level ?_ ?_ taken
    · exact level
    · intro ts counted
      have sources := (foldl_addPackets e.2.sources (small e List.mem_cons_self) ts.entropy).2
      change (e.2.sources.foldl _ ts.entropy).packetCount = ts.windowPacketCount + e.2.ingressPackets
      rw [sources, counted, sampled e List.mem_cons_self]

/-- The window was checked, rated and split among its sources on the number of ingress
packets counted for its host. -/
def FullyCounted (w : ClosedWindow F) : Prop :=
  w.before.entropy.packetCount = w.before.windowPacketCount ∧ w.stats.packetCount = w.before.windowPacketCount

theorem closeVictim_level {reading : Reading F} {st st' : AnalysisState F} {victim : IpAddr}
    {windows : List (ClosedWindow F)} (level : WindowsLevel st)
    (closed : closeVictim cfg reading st victim = some (st', windows)) :
    WindowsLevel st' ∧ ∀ w ∈ windows, FullyCounted w := by
  unfold closeVictim at closed
  cases found : st.targetsMap.get? victim with
  | none =>
    simp only [found, Option.some.injEq, Prod.mk.injEq] at closed
    obtain ⟨rfl, rfl⟩ := closed
    exact ⟨level, by simp⟩
  | some ts =>
    simp only [found] at closed
    obtain ⟨⟨after, w⟩, taken, same⟩ := Option.map_eq_some_iff.mp closed
    cases same
    have closes := (closeWindow_spec taken).1
    have cleared := closeWindow_tally taken
    have counted := level victim ts found
    refine ⟨?_, ?_⟩
    · exact level.set ((congrFun cleared .sourcePackets).trans (congrFun cleared .windowPackets).symm)
    · intro w' member
      rw [List.mem_singleton.mp member, FullyCounted, closes.before, closes.stats]
      exact ⟨counted, counted⟩

theorem kernelStep_level {tries : Tries} {s mid : Maps cpus × AnalysisState F} {e : Event F cpus}
    {windows : List (ClosedWindow F)} (maps : Level s.1) (targets : WindowsLevel s.2)
    (together : CountedTogether tries s e) (stepped : kernelStep tries cfg persisted s e = some (mid, windows)) :
    Level mid.1 ∧ WindowsLevel mid.2 ∧ ∀ w ∈ windows, FullyCounted w := by
  cases e with
  | packet now cpu p =>
    simp only [kernelStep, Option.some.injEq, Prod.mk.injEq] at stepped
    obtain ⟨rfl, rfl⟩ := stepped
    exact ⟨observe_level maps cpu together, targets, by simp⟩
  | tick reading samples closing =>
    simp only [kernelStep] at stepped
    cases admitted : admitSamples cfg persisted reading.now s.2 (samples.order (drain s.1).1.entries) with
    | none => simp [admitted] at stepped
    | some drained =>
      simp only [admitted] at stepped
      obtain ⟨⟨after, closed⟩, ran, same⟩ := Option.map_eq_some_iff.mp stepped
      cases same
      have start := admitSamples_level targets (fun e member => sampleOf_level maps (samples.mem_order.mp member))
        (fun e member => together e (samples.mem_order.mp member)) admitted
      have ended := run_history
        (I := fun past st => WindowsLevel st ∧ ∀ w ∈ past.flatten, FullyCounted w)
        (by
          intro past st victim mid o inv taken
          obtain ⟨level, here⟩ := closeVictim_level inv.1 taken
          refine ⟨level, ?_⟩
          intro w member
          rw [List.flatten_append, List.flatten_singleton, List.mem_append] at member
          exact member.elim (inv.2 w) (here w))
        closing [] drained after closed ⟨start, by simp⟩ ran
      refine ⟨?_, ended.1, ended.2⟩
      intro host
      rw [drain_maps, pending_cleared]
      rfl

/-- As long as both maps admit the same packets, every window is closed on the number of
ingress packets counted for its host. -/
theorem packetCount_eq_windowPacketCount (persisted : Option (PersistedState F)) (tries : Tries)
    (sizes : MapSizes) (now : Instant) (events : List (Event F cpus))
    (together : Always (kernelStep tries cfg persisted) (fun s e _ _ => CountedTogether tries s e)
      (Maps.empty cpus sizes, .start now) events)
    {final : Maps cpus × AnalysisState F} {windows : List (List (ClosedWindow F))}
    (ran : run (kernelStep tries cfg persisted) (Maps.empty cpus sizes, .start now) events =
      some (final, windows)) :
    ∀ w ∈ windows.flatten, FullyCounted w := by
  have kept := run_history_of_always
    (I := fun past s => (Level s.1 ∧ WindowsLevel s.2) ∧ ∀ w ∈ past.flatten, FullyCounted w)
    (by
      intro past s e mid o inv taken meets
      obtain ⟨maps, targets, here⟩ := kernelStep_level inv.1.1 inv.1.2 meets taken
      refine ⟨⟨maps, targets⟩, ?_⟩
      intro w member
      rw [List.flatten_append, List.flatten_singleton, List.mem_append] at member
      exact member.elim (inv.2 w) (here w))
    events [] (Maps.empty cpus sizes, .start now) final windows ?_ together ran
  · exact kept.2
  · refine ⟨⟨?_, ?_⟩, by simp⟩
    · intro host
      rfl
    · intro victim ts found
      cases found

/-- One address per window is all the source map can hold. -/
def tightSizes : MapSizes := { MapSizes.default with sources := 1 }

/-- Twice the same source: the window is closed on both packets. -/
theorem packetCount_eq_windowPacketCount_spread :
    ∃ final windows,
      run (kernelStep oneTargetTries oneTarget none) (Maps.empty 2 tightSizes, .start 0) spreadPackets =
        some (final, windows) ∧
      windows.flatten.map (fun w => w.before.windowPacketCount) = [2] ∧
      ∀ w ∈ windows.flatten, FullyCounted w := by
  have ran : ∃ final windows, run (kernelStep oneTargetTries oneTarget none)
      (Maps.empty 2 tightSizes, .start 0) spreadPackets = some (final, windows) ∧
        windows.flatten.map (fun w => w.before.windowPacketCount) = [2] := by
    decide +kernel
  obtain ⟨final, windows, kernel, closed⟩ := ran
  refine ⟨final, windows, kernel, closed, ?_⟩
  exact packetCount_eq_windowPacketCount none oneTargetTries tightSizes 0 spreadPackets (by decide +kernel) kernel

/-- Three packets of three sources, a drain and a second later the close. -/
def threeSources : List (Event ℚ 2) :=
  [.packet 0 cpu0 (packetTo .ingress (.v4 0xc6336401) (.v4 0x0a000001)),
    .packet 0 cpu1 (packetTo .ingress (.v4 0xc6336402) (.v4 0x0a000001)),
    .packet 0 cpu1 (packetTo .ingress (.v4 0xc6336403) (.v4 0x0a000001)),
    .tick (readingAt 100000000) .inserted [], .tick (readingAt 1100000000) .inserted [.v4 0x0a000001]]

/-- The window is closed, and its rate taken, on one packet of the three counted. -/
theorem threeSources_undercounted :
    (run (kernelStep oneTargetTries oneTarget none) (Maps.empty 2 tightSizes, .start 0) threeSources).map
      (fun r => r.2.flatten.map (fun w => (w.stats.packetCount, w.before.entropy.packetCount,
        w.before.windowPacketCount))) = some [(1, 1, 3)] := by
  decide +kernel

end Flod.Kernel
