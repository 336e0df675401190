import Flod.Lib.Unwinding
import Flod.Stage1.AnalysisRun

/-! Egress packets and detection. An egress packet adds to one counter that only the egress
figures read, unless it is the first packet of its host: then it also starts the host's
window clock and takes a place under the cap on targets. -/

namespace Flod.Stage1
open Flod.Lib Flod.Net Flod.Ipc

variable {F : Type} [Arith F]

/-! What is left when the egress measurement is taken out. -/

def TargetState.ingressOnly (ts : TargetState F) : TargetState F := { ts with egressPacketCount := 0 }

def WindowStats.ingressOnly (stats : WindowStats F) : WindowStats F :=
  { stats with egressRate := 0, dropRatio := 0 }

def FeatureVector.ingressOnly (fv : FeatureVector F) : FeatureVector F :=
  { fv with egressRate := 0, dropRatio := 0 }

def ClosedWindow.ingressOnly (w : ClosedWindow F) : ClosedWindow F :=
  { w with
    before := w.before.ingressOnly
    stats := w.stats.ingressOnly
    sent := w.sent.map FeatureVector.ingressOnly }

def Effect.ingressOnly : Effect F → Effect F
  | .windowClosed w => .windowClosed w.ingressOnly
  | other => other

def AnalysisState.ingressOnly (st : AnalysisState F) : AnalysisState F :=
  { st with targetsMap := st.targetsMap.mapValues TargetState.ingressOnly }

theorem closedOf_ingressOnly (victim : IpAddr) (effects : List (Effect F)) :
    closedOf victim (effects.map Effect.ingressOnly) =
      (closedOf victim effects).map ClosedWindow.ingressOnly := by
  induction effects with
  | nil => rfl
  | cons effect rest ih =>
    cases effect with
    | flowsWritten flows timestamp => exact ih
    | baselineSaved saved => exact ih
    | windowClosed w =>
      by_cases own : w.victim = victim
      · simpa [closedOf, closedWindows, Effect.ingressOnly, ClosedWindow.ingressOnly, own] using ih
      · simpa [closedOf, closedWindows, Effect.ingressOnly, ClosedWindow.ingressOnly, own] using ih

/-! Closing a window. -/

theorem closeEvaluated_ingressOnly (cfg : AnalysisConfig F) (reading : Reading F) (victim : IpAddr)
    (before measured : TargetState F) (stats : WindowStats F) (vd : Verdict F) :
    (closeEvaluated cfg reading victim before measured stats vd).map TargetState.ingressOnly
        ClosedWindow.ingressOnly =
      (closeEvaluated cfg reading victim before.ingressOnly measured stats.ingressOnly vd).map
        TargetState.ingressOnly ClosedWindow.ingressOnly := by
  have sameAbsorb : absorb cfg measured stats.ingressOnly vd = absorb cfg measured stats vd := rfl
  simp only [closeEvaluated, sameAbsorb]
  by_cases report : reports reading (absorb cfg measured stats vd).lastSentTime vd
  · rw [if_pos report, if_pos report]
    rfl
  · rw [if_neg report, if_neg report]
    rfl

/-- The egress counter reaches nothing of a close but the two egress figures. -/
theorem closeWindow_ingressOnly (cfg : AnalysisConfig F) (reading : Reading F) (victim : IpAddr)
    (ts : TargetState F) :
    shown TargetState.ingressOnly ClosedWindow.ingressOnly (closeWindow cfg reading victim ts) =
      shown TargetState.ingressOnly ClosedWindow.ingressOnly
        (closeWindow cfg reading victim ts.ingressOnly) := by
  have cleared : (measure cfg reading victim ts.ingressOnly).2 = (measure cfg reading victim ts).2 := rfl
  have figures : (measure cfg reading victim ts.ingressOnly).1.ingressOnly =
      (measure cfg reading victim ts).1.ingressOnly := rfl
  have judged : evaluate cfg (measure cfg reading victim ts).2 (measure cfg reading victim ts.ingressOnly).1 =
      evaluate cfg (measure cfg reading victim ts).2 (measure cfg reading victim ts).1 := rfl
  simp only [closeWindow, cleared, judged]
  cases warm : (measure cfg reading victim ts).2.isWarm with
  | true =>
    simp only [if_true, shown, Option.map_map]
    congr 1
    funext vd
    have one := closeEvaluated_ingressOnly cfg reading victim ts (measure cfg reading victim ts).2
      (measure cfg reading victim ts).1 vd
    have other := closeEvaluated_ingressOnly cfg reading victim ts.ingressOnly
      (measure cfg reading victim ts).2 (measure cfg reading victim ts.ingressOnly).1 vd
    rw [figures] at other
    exact one.trans other.symm
  | false => rfl

theorem settle_ingressOnly (reading : Reading F) (st : AnalysisState F) (victim : IpAddr)
    (after : TargetState F) (w : ClosedWindow F) :
    ((settle reading st victim after w).1.ingressOnly,
        (settle reading st victim after w).2.map Effect.ingressOnly) =
      settle reading st.ingressOnly victim after.ingressOnly w.ingressOnly := by
  have targets : st.ingressOnly.targetsMap.set victim after.ingressOnly =
      (st.targetsMap.set victim after).mapValues TargetState.ingressOnly :=
    (Dict.mapValues_set _ _ _ _).symm
  have saved : snapshot ((st.targetsMap.set victim after).mapValues TargetState.ingressOnly)
      reading.timestamp = snapshot (st.targetsMap.set victim after) reading.timestamp := by
    simp only [snapshot, Dict.mapValues_mapValues]
    rfl
  have due : savesBaseline reading st.ingressOnly.lastBaselineSave w.ingressOnly =
      savesBaseline reading st.lastBaselineSave w := rfl
  have reported : st.ingressOnly.lastFlowWrite = st.lastFlowWrite := rfl
  simp only [settle, targets, due, reported, saved, List.map_append]
  split <;> split <;> rfl

/-- What a check shows depends on the state only through what the state shows. -/
theorem shown_checkVictim (cfg : AnalysisConfig F) (reading : Reading F) (victim : IpAddr)
    (st : AnalysisState F) :
    shown AnalysisState.ingressOnly (List.map Effect.ingressOnly) (checkVictim cfg reading st victim) =
      match st.ingressOnly.targetsMap.get? victim with
      | none => some (st.ingressOnly, [])
      | some ts =>
          if shouldClose reading.now ts then
            (shown TargetState.ingressOnly ClosedWindow.ingressOnly
              (closeWindow cfg reading victim ts)).map (fun closed =>
                settle reading st.ingressOnly victim closed.1 closed.2)
          else some (st.ingressOnly, []) := by
  have found : st.ingressOnly.targetsMap.get? victim =
      (st.targetsMap.get? victim).map TargetState.ingressOnly := Dict.get?_mapValues _ _ _
  rw [found]
  unfold checkVictim
  cases st.targetsMap.get? victim with
  | none => rfl
  | some ts =>
    have due : shouldClose reading.now ts.ingressOnly = shouldClose reading.now ts := rfl
    simp only [Option.map_some, due, ← closeWindow_ingressOnly]
    split
    · simp only [shown, Option.map_map, Function.comp_def, settle_ingressOnly]
    · rfl

theorem checkVictim_respects (cfg : AnalysisConfig F) (reading : Reading F) (victim : IpAddr) :
    Respects (checkVictim cfg reading) AnalysisState.ingressOnly (List.map Effect.ingressOnly) victim := by
  intro st st' same
  rw [shown_checkVictim, shown_checkVictim, same]

/-! Arrivals. -/

/-- Counting that treats targets alike up to their egress counters. -/
def IgnoresEgress (record : TargetState F → TargetState F) : Prop :=
  ∀ ts, (record ts).ingressOnly = (record ts.ingressOnly).ingressOnly

theorem recordIngress_ignoresEgress (packet : PacketMeta) :
    IgnoresEgress (fun ts : TargetState F => ts.recordIngress packet) := by
  intro ts
  unfold TargetState.recordIngress
  cases packet.protocol <;> rfl

omit [Arith F] in
theorem recordEgress_ignoresEgress : IgnoresEgress (TargetState.recordEgress (F := F)) := fun _ => rfl

theorem recordSample_ignoresEgress (sample : WindowSample) :
    IgnoresEgress (fun ts : TargetState F => ts.recordSample sample) := fun _ => rfl

variable {cfg : AnalysisConfig F} {persisted : Option (PersistedState F)}

theorem ensureTarget_ingressOnly (now : Instant) (targetsMap : Dict IpAddr (TargetState F))
    (victim : IpAddr) :
    ensureTarget cfg persisted now (targetsMap.mapValues TargetState.ingressOnly) victim =
      (ensureTarget cfg persisted now targetsMap victim).map (Option.map TargetState.ingressOnly) := by
  unfold ensureTarget
  rw [Dict.get?_mapValues, Dict.size_mapValues]
  cases targetsMap.get? victim with
  | some ts => rfl
  | none =>
    dsimp only [Option.map_none]
    split
    · rfl
    · unfold TargetState.new
      cases EwmaState.withAlpha cfg.ewmaAlpha with
      | none => rfl
      | some ewma =>
        cases lookup persisted victim with
        | none => rfl
        | some saved => rfl

theorem shown_admitVictim (now : Instant) (st : AnalysisState F) (victim : IpAddr)
    {record : TargetState F → TargetState F} (ignores : IgnoresEgress record) :
    shown AnalysisState.ingressOnly id (admitVictim cfg persisted now st victim record) =
      shown AnalysisState.ingressOnly id (admitVictim cfg persisted now st.ingressOnly victim record) := by
  have unchanged : st.ingressOnly.ingressOnly = st.ingressOnly := by
    simp only [AnalysisState.ingressOnly, Dict.mapValues_mapValues]
    rfl
  unfold admitVictim
  split
  · rw [show st.ingressOnly.targetsMap = st.targetsMap.mapValues TargetState.ingressOnly from rfl,
      ensureTarget_ingressOnly]
    cases ensureTarget cfg persisted now st.targetsMap victim with
    | none => rfl
    | some target =>
      cases target with
      | none => simp [shown, unchanged]
      | some ts =>
        simp only [shown, Option.map_some, AnalysisState.ingressOnly, Dict.mapValues_set,
          Dict.mapValues_mapValues, ← ignores ts]
        rfl
  · simp [shown, unchanged]

omit [Arith F] in
theorem keys_ingressOnly (st : AnalysisState F) : st.ingressOnly.targetsMap.keys = st.targetsMap.keys :=
  Dict.keys_mapValues _ _

omit [Arith F] in
theorem withFlows_congr {st st' : AnalysisState F} (same : st.ingressOnly = st'.ingressOnly)
    (track : Dict FlowKey Nat → Dict FlowKey Nat) :
    ({ st with flowCounts := track st.flowCounts } : AnalysisState F).ingressOnly =
      ({ st' with flowCounts := track st'.flowCounts } : AnalysisState F).ingressOnly := by
  have flows : st.ingressOnly.flowCounts = st'.ingressOnly.flowCounts := by rw [same]
  calc ({ st with flowCounts := track st.flowCounts } : AnalysisState F).ingressOnly
      = { st.ingressOnly with flowCounts := track st.ingressOnly.flowCounts } := rfl
    _ = { st'.ingressOnly with flowCounts := track st'.ingressOnly.flowCounts } := by rw [same]

section Arrivals

variable (cfg persisted) (now : Instant) {st st' : AnalysisState F}
  (same : st.ingressOnly = st'.ingressOnly)
include same

theorem admitVictim_congr (victim : IpAddr) {record : TargetState F → TargetState F}
    (ignores : IgnoresEgress record) :
    shown AnalysisState.ingressOnly id (admitVictim cfg persisted now st victim record) =
      shown AnalysisState.ingressOnly id (admitVictim cfg persisted now st' victim record) := by
  rw [shown_admitVictim now st victim ignores, shown_admitVictim now st' victim ignores, same]

theorem admitPacket_congr (packet : PacketMeta) :
    shown AnalysisState.ingressOnly id (admitPacket cfg persisted now st packet) =
      shown AnalysisState.ingressOnly id (admitPacket cfg persisted now st' packet) := by
  unfold admitPacket
  cases packet.direction with
  | ingress =>
    apply admitVictim_congr cfg persisted now _ packet.dstIp (recordIngress_ignoresEgress packet)
    exact withFlows_congr same (fun flows => trackFlow cfg flows _ 1)
  | egress =>
    have noted := congrArg (Option.map (fun r => (r.1, false)))
      (admitVictim_congr cfg persisted now same packet.dstIp recordEgress_ignoresEgress)
    simpa [shown, Function.comp_def] using noted

theorem admitSample_congr (victim : IpAddr) (sample : WindowSample) :
    (admitSample cfg persisted now st victim sample).map AnalysisState.ingressOnly =
      (admitSample cfg persisted now st' victim sample).map AnalysisState.ingressOnly := by
  have flows := withFlows_congr same (fun flows =>
    if cfg.isEffectivelyProtected victim then
      sample.flows.foldl (fun flows e => trackFlow cfg flows e.1 (asU32 e.2)) flows
    else flows)
  have counted := congrArg (Option.map Prod.fst)
    (admitVictim_congr cfg persisted now flows victim (recordSample_ignoresEgress sample))
  simpa [shown, admitSample, Function.comp_def] using counted

theorem admitSamples_congr (samples : List (IpAddr × WindowSample)) :
    (admitSamples cfg persisted now st samples).map AnalysisState.ingressOnly =
      (admitSamples cfg persisted now st' samples).map AnalysisState.ingressOnly := by
  induction samples generalizing st st' with
  | nil => simpa [admitSamples] using same
  | cons entry rest ih =>
    rcases entry with ⟨victim, sample⟩
    have first := admitSample_congr cfg persisted now same victim sample
    simp only [admitSamples]
    cases taken : admitSample cfg persisted now st victim sample with
    | none =>
      cases taken' : admitSample cfg persisted now st' victim sample with
      | none => rfl
      | some mid' => simp [taken, taken'] at first
    | some mid =>
      cases taken' : admitSample cfg persisted now st' victim sample with
      | none => simp [taken, taken'] at first
      | some mid' =>
        apply ih
        simpa [taken, taken'] using first

omit now in
/-- An arrival has the same victims checked, whatever the egress counters hold. -/
theorem arrive_congr (it : Iteration F) :
    shown AnalysisState.ingressOnly id (arrive cfg persisted st it) =
      shown AnalysisState.ingressOnly id (arrive cfg persisted st' it) := by
  unfold arrive
  cases it.arrival with
  | timeout =>
    have keys : st.targetsMap.keys = st'.targetsMap.keys := by
      rw [← keys_ingressOnly st, same, keys_ingressOnly]
    simp [shown, same, keys]
  | packet packet =>
    have listed := congrArg (Option.map (fun r => (r.1, if r.2 then [packet.dstIp] else [])))
      (admitPacket_congr cfg persisted it.reading.now same packet)
    simpa [shown, Function.comp_def] using listed
  | drained samples =>
    have drained := congrArg (Option.map (fun view => (view, it.reading.hosts.order view.targetsMap.keys)))
      (admitSamples_congr cfg persisted it.reading.now same samples)
    simpa [shown, Function.comp_def, keys_ingressOnly] using drained

end Arrivals

/-- A turn of the loop sees the egress counters only in the egress figures it reports. -/
theorem iterate_respects (it : Iteration F) :
    Respects (iterate cfg persisted) AnalysisState.ingressOnly (List.map Effect.ingressOnly) it := by
  intro st st' same
  have arrivals := arrive_congr cfg persisted same it
  unfold iterate
  cases arrived : arrive cfg persisted st it with
  | none =>
    cases arrived' : arrive cfg persisted st' it with
    | none => rfl
    | some result' => simp [shown, arrived, arrived'] at arrivals
  | some result =>
    cases arrived' : arrive cfg persisted st' it with
    | none => simp [shown, arrived, arrived'] at arrivals
    | some result' =>
      simp only [shown, arrived, arrived', Option.map_some, id_eq, Option.some.injEq, Prod.mk.injEq]
        at arrivals
      have checked := run_respects result.2
        (fun victim _ => checkVictim_respects cfg it.reading victim) arrivals.1
      rw [arrivals.2] at checked
      dsimp only
      rw [arrivals.2]
      simpa [shown, Function.comp_def, List.map_flatten, List.flatMap_def] using checked

/-! Egress packets that arrive after an ingress packet to the same host. -/

/-- The destination of an ingress packet. -/
def Arrival.ingressTo : Arrival → Option IpAddr
  | .packet p => if p.direction = .ingress then some p.dstIp else none
  | _ => none

/-- The destination of an egress packet. -/
def Arrival.egressTo : Arrival → Option IpAddr
  | .packet p => if p.direction = .egress then some p.dstIp else none
  | _ => none

def notEgress (it : Iteration F) : Bool := it.arrival.egressTo.isNone

/-- An egress packet to a protected host comes after an ingress packet to it. -/
def FollowsIngress (cfg : AnalysisConfig F) (past : List (Iteration F)) (it : Iteration F) : Prop :=
  ∀ victim ∈ it.arrival.egressTo, cfg.isEffectivelyProtected victim = true →
    ∃ earlier ∈ past, earlier.arrival.ingressTo = some victim

instance (cfg : AnalysisConfig F) (past : List (Iteration F)) (it : Iteration F) :
    Decidable (FollowsIngress cfg past it) :=
  inferInstanceAs (Decidable (∀ victim ∈ it.arrival.egressTo, _))

/-- The host is tracked, or the cap on targets keeps it from ever being. -/
def Placed (cfg : AnalysisConfig F) (st : AnalysisState F) (victim : IpAddr) : Prop :=
  victim ∈ st.targetsMap.keys ∨
    (cfg.victimTargets.isNone ∧ maxDynamicTargets ≤ st.targetsMap.size)

omit [Arith F] in
theorem Placed.mono {st st' : AnalysisState F} {victim : IpAddr} (placed : Placed cfg st victim)
    (grows : st.targetsMap.keys ⊆ st'.targetsMap.keys) : Placed cfg st' victim := by
  rcases placed with tracked | ⟨dynamic, full⟩
  · exact Or.inl (grows tracked)
  · exact Or.inr ⟨dynamic, full.trans (Dict.size_le_of_keys_subset grows)⟩

theorem Admits.keys_subset {now : Instant} {before after : Dict IpAddr (TargetState F)}
    (admits : Admits cfg persisted now before after) : before.keys ⊆ after.keys := by
  intro victim tracked
  obtain ⟨ts, found⟩ := Dict.get?_of_mem_keys tracked
  obtain ⟨ts', found', _⟩ := admits.kept victim ts found
  exact Dict.mem_keys_of_get? found'

theorem checks_keys_subset {reading : Reading F} {victims : List IpAddr} {mid st' : AnalysisState F}
    {outs : List (List (Effect F))}
    (checked : run (checkVictim cfg reading) mid victims = some (st', outs)) :
    mid.targetsMap.keys ⊆ st'.targetsMap.keys := by
  refine run_history (I := fun _ s => mid.targetsMap.keys ⊆ s.targetsMap.keys) ?_ victims [] mid st' outs
    (List.Subset.refl _) checked
  intro past s victim s' effects within taken
  rcases checkVictim_cases taken with ⟨rfl, -, -⟩ | ⟨ts, after, w, _, _, _, rfl, -⟩
  · exact within
  · intro v tracked
    rw [settle_targetsMap, Dict.mem_keys_set]
    exact Or.inr (within tracked)

/-- After an ingress packet to a protected host, the host is tracked or capped. -/
theorem arrive_placed {st mid : AnalysisState F} {it : Iteration F} {victims : List IpAddr}
    {victim : IpAddr} (sent : it.arrival.ingressTo = some victim)
    (guarded : cfg.isEffectivelyProtected victim = true)
    (arrived : arrive cfg persisted st it = some (mid, victims)) : Placed cfg mid victim := by
  unfold arrive at arrived
  cases kind : it.arrival with
  | timeout => simp [Arrival.ingressTo, kind] at sent
  | drained samples => simp [Arrival.ingressTo, kind] at sent
  | packet p =>
    simp only [Arrival.ingressTo, kind, Option.ite_none_right_eq_some, Option.some.injEq] at sent
    obtain ⟨inbound, rfl⟩ := sent
    simp only [kind] at arrived
    obtain ⟨⟨mid', seen⟩, admitted, pair⟩ := Option.map_eq_some_iff.mp arrived
    simp only [Prod.mk.injEq] at pair
    obtain ⟨rfl, -⟩ := pair
    simp only [admitPacket, inbound] at admitted
    rcases admitVictim_cases admitted with ⟨open', -, -⟩ | ⟨-, capped, rfl, -⟩ | ⟨ts, -, -, rfl, -⟩
    · exact absurd guarded open'
    · exact Or.inr (ensureTarget_capped capped).2
    · left
      rw [Dict.mem_keys_set]
      exact Or.inl rfl

/-- Every protected host that has had an ingress packet is placed. -/
def AllPlaced (cfg : AnalysisConfig F) (past : List (Iteration F)) (st : AnalysisState F) : Prop :=
  ∀ earlier ∈ past, ∀ victim ∈ earlier.arrival.ingressTo,
    cfg.isEffectivelyProtected victim = true → Placed cfg st victim

theorem AllPlaced.iterate {past : List (Iteration F)} {st st' : AnalysisState F} {it : Iteration F}
    {effects : List (Effect F)} (placed : AllPlaced cfg past st)
    (iterated : iterate cfg persisted st it = some (st', effects)) : AllPlaced cfg (past ++ [it]) st' := by
  obtain ⟨mid, victims, outs, arrived, checked, -⟩ := iterate_cases iterated
  have later := checks_keys_subset checked
  intro earlier member victim sent guarded
  rcases List.mem_append.mp member with before | now
  · have grows := (arrive_spec arrived).1.keys_subset
    exact (placed earlier before victim sent guarded).mono (List.Subset.trans grows later)
  · cases List.mem_singleton.mp now
    exact (arrive_placed sent guarded arrived).mono later

omit [Arith F] in
theorem ingressOnly_set {st : AnalysisState F} {victim : IpAddr} {ts : TargetState F}
    (found : st.targetsMap.get? victim = some ts) :
    ({ st with targetsMap := st.targetsMap.set victim ts.recordEgress } : AnalysisState F).ingressOnly =
      st.ingressOnly := by
  have kept : (st.targetsMap.set victim ts.recordEgress).mapValues TargetState.ingressOnly =
      st.targetsMap.mapValues TargetState.ingressOnly := by
    rw [Dict.mapValues_set]
    exact Dict.set_of_get? (by rw [Dict.get?_mapValues, found]; rfl)
  simp only [AnalysisState.ingressOnly, kept]

theorem admitVictim_egress (persisted : Option (PersistedState F)) (now : Instant) {st : AnalysisState F}
    {victim : IpAddr} (known : cfg.isEffectivelyProtected victim = true → Placed cfg st victim) :
    ∃ st' seen, admitVictim cfg persisted now st victim TargetState.recordEgress = some (st', seen) ∧
      st'.ingressOnly = st.ingressOnly := by
  unfold admitVictim
  split
  · next guarded =>
    unfold ensureTarget
    cases found : st.targetsMap.get? victim with
    | some ts => exact ⟨_, true, rfl, ingressOnly_set found⟩
    | none =>
      have capped : cfg.victimTargets.isNone ∧ maxDynamicTargets ≤ st.targetsMap.size := by
        rcases known guarded with tracked | capped
        · simp [Dict.mem_keys_iff, found] at tracked
        · exact capped
      refine ⟨st, false, ?_, rfl⟩
      simp only [if_pos capped]
  · exact ⟨st, false, rfl, rfl⟩

/-- An egress packet to a host that is placed, or not protected, only adds to its counter. -/
theorem iterate_silent (persisted : Option (PersistedState F)) {st : AnalysisState F} {it : Iteration F}
    (egress : notEgress it = false) (placed : ∀ victim ∈ it.arrival.egressTo, cfg.isEffectivelyProtected victim = true →
      Placed cfg st victim) :
    ∃ st', iterate cfg persisted st it = some (st', []) ∧ st'.ingressOnly = st.ingressOnly := by
  cases kind : it.arrival with
  | timeout => simp [notEgress, Arrival.egressTo, kind] at egress
  | drained samples => simp [notEgress, Arrival.egressTo, kind] at egress
  | packet p =>
    have outbound : p.direction = .egress := by
      by_contra inbound
      simp [notEgress, Arrival.egressTo, kind, inbound] at egress
    have known : cfg.isEffectivelyProtected p.dstIp = true → Placed cfg st p.dstIp := by
      apply placed
      simp [Arrival.egressTo, kind, outbound]
    obtain ⟨st', seen, taken, same⟩ := admitVictim_egress persisted it.reading.now known
    refine ⟨st', ?_, same⟩
    simp only [iterate, arrive, kind, admitPacket, outbound]
    simp [taken, run]

/-- Two packet streams with the same ingress packets, timeouts and times, in which no host's
egress packets come before its first ingress packet: the same windows close for every
victim, and they differ in nothing but the egress measurement. -/
theorem egress_leaves_windows_alone (cfg : AnalysisConfig F) (persisted : Option (PersistedState F))
    (began : Instant) (its its' : List (Iteration F))
    (same : its.filter notEgress = its'.filter notEgress)
    (follows : Throughout (FollowsIngress cfg) its) (follows' : Throughout (FollowsIngress cfg) its')
    (final : AnalysisState F) (outs : List (List (Effect F)))
    (ran : run (iterate cfg persisted) (AnalysisState.start began) its = some (final, outs)) :
    ∃ final' outs', run (iterate cfg persisted) (AnalysisState.start began) its' = some (final', outs') ∧
      final.ingressOnly = final'.ingressOnly ∧
      ∀ victim, (closedOf victim outs.flatten).map ClosedWindow.ingressOnly =
        (closedOf victim outs'.flatten).map ClosedWindow.ingressOnly := by
  have silent : ∀ past st it, notEgress it = false → AllPlaced cfg past st → FollowsIngress cfg past it →
      ∃ st' effects, iterate cfg persisted st it = some (st', effects) ∧
        st'.ingressOnly = st.ingressOnly ∧ effects.map Effect.ingressOnly = [] := by
    intro past st it egress placed after
    have known : ∀ victim ∈ it.arrival.egressTo, cfg.isEffectivelyProtected victim = true →
        Placed cfg st victim := by
      intro victim sent guarded
      obtain ⟨earlier, member, first⟩ := after victim sent guarded
      exact placed earlier member victim first guarded
    obtain ⟨st', taken, unseen⟩ := iterate_silent persisted egress known
    exact ⟨st', [], taken, unseen, rfl⟩
  have alike : shown AnalysisState.ingressOnly (List.flatMap (List.map Effect.ingressOnly))
        (run (iterate cfg persisted) (AnalysisState.start began) its) =
      shown AnalysisState.ingressOnly (List.flatMap (List.map Effect.ingressOnly))
        (run (iterate cfg persisted) (AnalysisState.start began) its') :=
    run_noninterference (I := AllPlaced cfg) (fun _ _ _ _ _ placed iterated => placed.iterate iterated)
      (fun it _ => iterate_respects it) silent (by simp [AllPlaced]) follows follows' same
  rw [ran] at alike
  cases ran' : run (iterate cfg persisted) (AnalysisState.start began) its' with
  | none => simp [shown, ran'] at alike
  | some result =>
    rcases result with ⟨final', outs'⟩
    simp only [shown, ran', Option.map_some, Option.some.injEq, Prod.mk.injEq] at alike
    refine ⟨final', outs', rfl, alike.1, ?_⟩
    intro victim
    rw [← closedOf_ingressOnly, ← closedOf_ingressOnly, List.map_flatten, List.map_flatten,
      ← List.flatMap_def, ← List.flatMap_def, alike.2]

/-- Ingress at 0.6 s, a timeout at 1.2 s. -/
def lateArrival : List (Iteration ℚ) := [packetAt 600000000 0xC0000201 0x0A000001, tickAt 1200000000]

/-- The sensor's settings with an egress interface. -/
def egressConfig : AnalysisConfig ℚ := { AnalysisConfig.default with egressEnabled := true }

/-- An egress packet between the two, or none, and the same windows. -/
theorem reply_leaves_windows_alone :
    ∃ final outs, run (iterate egressConfig none) (AnalysisState.start 0)
        (lateArrival ++ [seenAt .egress 1300000000 0xC0000201 0x0A000001, tickAt 2000000000]) =
          some (final, outs) ∧
      (closedOf (.v4 0x0A000001) outs.flatten).length = 1 ∧
      ∃ final' outs', run (iterate egressConfig none) (AnalysisState.start 0)
          (lateArrival ++ [tickAt 2000000000]) = some (final', outs') ∧
        final.ingressOnly = final'.ingressOnly ∧
        ∀ victim, (closedOf victim outs.flatten).map ClosedWindow.ingressOnly =
          (closedOf victim outs'.flatten).map ClosedWindow.ingressOnly := by
  have ran : ∃ final outs, run (iterate egressConfig none) (AnalysisState.start 0)
      (lateArrival ++ [seenAt .egress 1300000000 0xC0000201 0x0A000001, tickAt 2000000000]) =
        some (final, outs) ∧ (closedOf (.v4 0x0A000001) outs.flatten).length = 1 := by
    decide +kernel
  obtain ⟨final, outs, reached, closed⟩ := ran
  have same : (lateArrival ++ [seenAt .egress 1300000000 0xC0000201 0x0A000001, tickAt 2000000000]).filter
      notEgress = (lateArrival ++ [tickAt 2000000000]).filter notEgress := rfl
  exact ⟨final, outs, reached, closed,
    egress_leaves_windows_alone egressConfig none 0 _ _ same (by decide) (by decide) final outs reached⟩

/-- An egress packet at 0.1 s, before the host has had any ingress, starts its window clock:
the timeout at 1.2 s then closes a window that stays open without it. -/
theorem early_reply_closes_window :
    (seenAt .egress 100000000 0xC0000201 0x0A000001 :: lateArrival).filter notEgress =
        lateArrival.filter notEgress ∧
      ∃ final outs final' outs',
        run (iterate egressConfig none) (AnalysisState.start 0) lateArrival = some (final, outs) ∧
        run (iterate egressConfig none) (AnalysisState.start 0)
          (seenAt .egress 100000000 0xC0000201 0x0A000001 :: lateArrival) = some (final', outs') ∧
        (closedOf (.v4 0x0A000001) outs.flatten).length = 0 ∧
        (closedOf (.v4 0x0A000001) outs'.flatten).length = 1 := by
  have late : ∃ final outs, run (iterate egressConfig none) (AnalysisState.start 0) lateArrival =
      some (final, outs) ∧ (closedOf (.v4 0x0A000001) outs.flatten).length = 0 := by
    decide +kernel
  have early : ∃ final outs, run (iterate egressConfig none) (AnalysisState.start 0)
      (seenAt .egress 100000000 0xC0000201 0x0A000001 :: lateArrival) = some (final, outs) ∧
        (closedOf (.v4 0x0A000001) outs.flatten).length = 1 := by
    decide +kernel
  obtain ⟨final, outs, reached, none⟩ := late
  obtain ⟨final', outs', reached', one⟩ := early
  exact ⟨rfl, final, outs, final', outs', reached, reached', none, one⟩

end Flod.Stage1
