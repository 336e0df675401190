import Flod.Stage1.Histogram

/-! Where the addresses in the loop's tables come from. A source is counted for a victim,
kept as a flow or called dominant only if an arrival, a packet or a drain, showed it
sending to that victim. -/

namespace Flod.Stage1
open Flod.Lib Flod.Net Flod.Ipc

variable {F : Type} [Arith F] {cfg : AnalysisConfig F} {persisted : Option (PersistedState F)}

/-- The arrival shows the source sending to the victim. -/
def Arrival.Shows (source victim : IpAddr) : Arrival → Prop
  | .timeout => False
  | .packet p => p.direction = .ingress ∧ p.srcIp = source ∧ p.dstIp = victim
  | .drained samples => ∃ e ∈ samples, (e.1 = victim ∧ source ∈ e.2.sources.map Prod.fst) ∨
      ∃ flow ∈ e.2.flows, flow.1.1 = source ∧ flow.1.2.1 = victim

/-- Some arrival of the iterations shows it. -/
def Shown (its : List (Iteration F)) (source victim : IpAddr) : Prop :=
  ∃ it ∈ its, it.arrival.Shows source victim

/-- Every flow of a table is between addresses related by `R`. -/
def FlowsWithin (R : IpAddr → IpAddr → Prop) (flows : Dict FlowKey Nat) : Prop :=
  ∀ key ∈ flows.keys, R key.1 key.2.1

def SourcesWithin (R : IpAddr → IpAddr → Prop) (victim : IpAddr) (ts : TargetState F) : Prop :=
  ∀ ip ∈ ts.ipCounts.keys, R ip victim

/-- Every source counted for a victim, and both ends of every flow, are related by `R`. -/
structure Sighted (R : IpAddr → IpAddr → Prop) (st : AnalysisState F) : Prop where
  sources : ∀ v ts, st.targetsMap.get? v = some ts → SourcesWithin R v ts
  flows : FlowsWithin R st.flowCounts

def Effect.Sighted (R : IpAddr → IpAddr → Prop) : Effect F → Prop
  | .flowsWritten flows _ => FlowsWithin R flows
  | .windowClosed w => SourcesWithin R w.victim w.before
  | .baselineSaved _ => True

variable {R : IpAddr → IpAddr → Prop}

section Counting

omit [Arith F] in
theorem FlowsWithin.trackFlow {flows : Dict FlowKey Nat} (within : FlowsWithin R flows) {key : FlowKey}
    (related : R key.1 key.2.1) (count : Nat) : FlowsWithin R (trackFlow cfg flows key count) := by
  have added : ∀ n, FlowsWithin R (flows.set key n) := by
    intro n other member
    rcases (Dict.mem_keys_set _ _ _ _).mp member with rfl | before
    · exact related
    · exact within other before
  unfold Stage1.trackFlow
  split
  · exact added _
  · split
    · exact within
    · exact added _

omit [Arith F] in
theorem FlowsWithin.foldl {flows : Dict FlowKey Nat} (within : FlowsWithin R flows)
    {more : List (FlowKey × Nat)} (related : ∀ e ∈ more, R e.1.1 e.1.2.1) :
    FlowsWithin R (more.foldl (fun flows e => Stage1.trackFlow cfg flows e.1 (asU32 e.2)) flows) := by
  induction more generalizing flows with
  | nil => exact within
  | cons e more ih =>
    exact ih (within.trackFlow (related e List.mem_cons_self) _)
      (fun e member => related e (List.mem_cons_of_mem _ member))

variable {victim : IpAddr} {ts : TargetState F}

theorem SourcesWithin.recordIngress (within : SourcesWithin R victim ts) {packet : PacketMeta}
    (related : R packet.srcIp victim) : SourcesWithin R victim (ts.recordIngress packet) := by
  intro ip member
  rw [(recordIngress_entropy ts packet).2] at member
  rcases (Dict.mem_keys_set _ _ _ _).mp member with rfl | before
  · exact related
  · exact within ip before

theorem mem_keys_foldl_sources {ip : IpAddr} (sources : List (IpAddr × Nat)) {counts : Dict IpAddr Nat}
    (member : ip ∈ (sources.foldl (fun acc e => acc.set e.1 (acc.getD e.1 0 + asU32 e.2)) counts).keys) :
    ip ∈ counts.keys ∨ ip ∈ sources.map Prod.fst := by
  induction sources generalizing counts with
  | nil => exact Or.inl member
  | cons e sources ih =>
    rcases ih member with before | later
    · rcases (Dict.mem_keys_set _ _ _ _).mp before with rfl | earlier
      · exact Or.inr List.mem_cons_self
      · exact Or.inl earlier
    · exact Or.inr (List.mem_cons_of_mem _ later)

theorem SourcesWithin.recordSample (within : SourcesWithin R victim ts) {sample : WindowSample}
    (related : ∀ ip ∈ sample.sources.map Prod.fst, R ip victim) :
    SourcesWithin R victim (ts.recordSample sample) := by
  intro ip member
  rcases mem_keys_foldl_sources sample.sources member with before | sampled
  · exact within ip before
  · exact related ip sampled

theorem SourcesWithin.of_cleared (cleared : ts.counts = WindowCounts.cleared) : SourcesWithin R victim ts := by
  have emptied : ts.ipCounts = Dict.empty := congrArg WindowCounts.ipCounts cleared
  intro ip member
  rw [emptied] at member
  cases member

end Counting

section Arriving

variable {st st' : AnalysisState F} {victim : IpAddr}

omit [Arith F] in
theorem Sighted.set (sighted : Sighted R st) {ts : TargetState F} (within : SourcesWithin R victim ts) :
    Sighted R { st with targetsMap := st.targetsMap.set victim ts } := by
  refine ⟨fun v other found => ?_, sighted.flows⟩
  rw [Dict.get?_set] at found
  split at found
  · next same =>
    cases found
    exact same ▸ within
  · exact sighted.sources v other found

omit [Arith F] in
theorem Sighted.withFlows (sighted : Sighted R st) {flows : Dict FlowKey Nat} (within : FlowsWithin R flows) :
    Sighted R { st with flowCounts := flows } :=
  ⟨sighted.sources, within⟩

/-- Whatever is counted for a victim, the rest of the loop keeps its tables. -/
theorem Sighted.admits {now : Instant} {record : TargetState F → TargetState F} {seen : Bool}
    (sighted : Sighted R st)
    (records : ∀ ts, SourcesWithin R victim ts → SourcesWithin R victim (record ts))
    (admitted : admitVictim cfg persisted now st victim record = some (st', seen)) : Sighted R st' := by
  rcases admitVictim_cases admitted with ⟨-, rfl, -⟩ | ⟨-, -, rfl, -⟩ | ⟨ts, -, ensured, rfl, -⟩
  · exact sighted
  · exact sighted
  · refine sighted.set (records ts ?_)
    rcases ensureTarget_some ensured with found | ⟨-, created⟩
    · exact sighted.sources victim ts found
    · exact .of_cleared (new_counts created)

theorem Sighted.admitSamples {now : Instant} {samples : List (IpAddr × WindowSample)} (sighted : Sighted R st)
    (shows : ∀ source v, (Arrival.drained samples).Shows source v → R source v)
    (admitted : admitSamples cfg persisted now st samples = some st') : Sighted R st' := by
  induction samples generalizing st with
  | nil =>
    simp only [Stage1.admitSamples, Option.some.injEq] at admitted
    exact admitted ▸ sighted
  | cons entry rest ih =>
    simp only [Stage1.admitSamples] at admitted
    cases first : admitSample cfg persisted now st entry.1 entry.2 with
    | none => simp [first] at admitted
    | some mid =>
      simp only [first] at admitted
      have flows : ∀ e ∈ entry.2.flows, R e.1.1 e.1.2.1 := by
        intro e member
        exact shows _ _ ⟨entry, List.mem_cons_self, Or.inr ⟨e, member, rfl, rfl⟩⟩
      have sources : ∀ ip ∈ entry.2.sources.map Prod.fst, R ip entry.1 := by
        intro ip member
        exact shows _ _ ⟨entry, List.mem_cons_self, Or.inl ⟨rfl, member⟩⟩
      have within : FlowsWithin R (if cfg.isEffectivelyProtected entry.1 then
          entry.2.flows.foldl (fun flows e => trackFlow cfg flows e.1 (asU32 e.2)) st.flowCounts
          else st.flowCounts) := by
        split
        · exact sighted.flows.foldl flows
        · exact sighted.flows
      obtain ⟨⟨mid', seen⟩, taken, rfl⟩ := Option.map_eq_some_iff.mp first
      refine ih ((sighted.withFlows within).admits (fun ts within => within.recordSample sources) taken) ?_ admitted
      rintro source v ⟨e, member, shown⟩
      exact shows source v ⟨e, List.mem_cons_of_mem _ member, shown⟩

theorem Sighted.arrive {mid : AnalysisState F} {it : Iteration F} {victims : List IpAddr} (sighted : Sighted R st)
    (shows : ∀ source v, it.arrival.Shows source v → R source v)
    (arrived : arrive cfg persisted st it = some (mid, victims)) : Sighted R mid := by
  unfold Stage1.arrive at arrived
  cases kind : it.arrival with
  | timeout =>
    simp only [kind, Option.some.injEq, Prod.mk.injEq] at arrived
    exact arrived.1 ▸ sighted
  | drained samples =>
    simp only [kind] at arrived
    obtain ⟨final, admitted, pair⟩ := Option.map_eq_some_iff.mp arrived
    cases pair
    exact sighted.admitSamples (kind ▸ shows) admitted
  | packet packet =>
    rw [kind] at shows
    simp only [kind] at arrived
    obtain ⟨⟨mid', seen⟩, admitted, pair⟩ := Option.map_eq_some_iff.mp arrived
    cases pair
    unfold admitPacket at admitted
    cases way : packet.direction with
    | ingress =>
      simp only [way] at admitted
      have related : R packet.srcIp packet.dstIp := shows _ _ ⟨way, rfl, rfl⟩
      exact (sighted.withFlows (sighted.flows.trackFlow related 1)).admits
        (fun ts within => within.recordIngress related) admitted
    | egress =>
      simp only [way] at admitted
      obtain ⟨⟨final, seen'⟩, taken, pair⟩ := Option.map_eq_some_iff.mp admitted
      cases pair
      exact sighted.admits (fun ts (within : SourcesWithin R packet.dstIp ts.recordEgress) => within) taken

end Arriving

theorem Sighted.settle {st : AnalysisState F} {reading : Reading F} {victim : IpAddr} {ts after : TargetState F}
    {w : ClosedWindow F} (sighted : Sighted R st) (found : st.targetsMap.get? victim = some ts)
    (closing : closeWindow cfg reading victim ts = some (after, w)) :
    Sighted R (settle reading st victim after w).1 ∧
      ∀ effect ∈ (settle reading st victim after w).2, effect.Sighted R := by
  have closes := (closeWindow_spec closing).1
  have counted := sighted.sources victim ts found
  have emptied : after.ipCounts = Dict.empty := by
    rcases closeWindow_cases closing with ⟨-, -, rfl⟩ | ⟨vd, sentAt, -, -, -, rfl⟩
    · rfl
    · have same := absorb_counts cfg (measure cfg reading victim ts).2 w.stats vd
      exact congrArg WindowCounts.ipCounts same
  have within : SourcesWithin R victim after := by
    intro ip member
    rw [emptied] at member
    cases member
  constructor
  · refine ⟨(sighted.set within).sources, ?_⟩
    simp only [Stage1.settle]
    split
    · intro key member
      cases member
    · exact sighted.flows
  · intro effect member
    simp only [Stage1.settle, List.mem_append] at member
    rcases member with (flows | closed) | saved
    · split at flows
      · rw [List.mem_singleton.mp flows]
        exact sighted.flows
      · cases flows
    · rw [List.mem_singleton.mp closed]
      change SourcesWithin R w.victim w.before
      rw [closes.named, closes.before]
      exact counted
    · split at saved
      · rw [List.mem_singleton.mp saved]
        trivial
      · cases saved

theorem Sighted.iterate {past : List (Effect F)} {st st' : AnalysisState F} {it : Iteration F}
    {effects : List (Effect F)} (sighted : Sighted R st) (before : ∀ effect ∈ past, effect.Sighted R)
    (shows : ∀ source v, it.arrival.Shows source v → R source v)
    (iterated : iterate cfg persisted st it = some (st', effects)) :
    Sighted R st' ∧ ∀ effect ∈ past ++ effects, effect.Sighted R := by
  obtain ⟨mid, victims, outs, arrived, checked, rfl⟩ := iterate_cases iterated
  refine run_history (I := fun more s => Sighted R s ∧ ∀ effect ∈ past ++ more.flatten, effect.Sighted R)
    ?_ victims [] mid st' outs ⟨sighted.arrive shows arrived, by simpa using before⟩ checked
  rintro more s v s' out ⟨inv, told⟩ taken
  rcases checkVictim_cases taken with ⟨rfl, rfl, -⟩ | ⟨ts, after, w, found, -, closing, rfl, rfl⟩
  · exact ⟨inv, by simpa using told⟩
  · obtain ⟨next, here⟩ := inv.settle found closing
    refine ⟨next, fun effect member => ?_⟩
    rw [List.flatten_append, List.flatten_singleton, ← List.append_assoc, List.mem_append] at member
    exact member.elim (told effect) (here effect)

/-- Throughout a run, everything counted and everything handed on was shown by an arrival. -/
theorem loop_sighted {its : List (Iteration F)} {began : Instant} {final : AnalysisState F}
    {outs : List (List (Effect F))}
    (ran : run (iterate cfg persisted) (AnalysisState.start began) its = some (final, outs)) :
    Sighted (Shown its) final ∧ ∀ effect ∈ outs.flatten, effect.Sighted (Shown its) := by
  have start : Sighted (Shown its) (AnalysisState.start began : AnalysisState F) :=
    ⟨fun v ts found => by simp [AnalysisState.start] at found, fun key member => nomatch member⟩
  have done := run_history_of_always (I := fun past s => Sighted (Shown its) s ∧
      ∀ effect ∈ past.flatten, effect.Sighted (Shown its))
    (C := fun _ it _ _ => it ∈ its ∧ True) ?_ its [] _ final outs ⟨start, by simp⟩
    ((always_true its _).and_events fun it member => member) ran
  · simpa using done
  · rintro past s it mid effects ⟨inv, told⟩ iterated ⟨member, -⟩
    simpa using inv.iterate told (fun source v shown => ⟨it, member, shown⟩) iterated

/-- The dominant source of a closed window, if it names one, was shown sending to the victim. -/
theorem dominant_shown {reading : Reading F} {victim : IpAddr} {ts after : TargetState F} {w : ClosedWindow F}
    {fv : FeatureVector F} (closing : closeWindow cfg reading victim ts = some (after, w))
    (sent : w.sent = some fv) (within : SourcesWithin R w.victim w.before) :
    fv.dominantIp = unspecified ∨ R fv.dominantIp fv.victimIp := by
  obtain ⟨closes, outcome⟩ := closeWindow_spec closing
  rcases outcome with warmup | ⟨vd, evaluated⟩
  · exact Or.inl (warmup.dominant fv sent)
  · have named : fv.dominantIp = (dominantSource (reading.sources victim) w.before.ipCounts).1 := by
      rw [evaluated.dominant fv sent, closes.stats, closes.before]
      rfl
    rw [named, closes.addressed fv sent]
    rcases dominantSource_cases (reading.sources victim) w.before.ipCounts with ⟨-, none⟩ | ⟨entry, -⟩
    · rw [none]
      exact Or.inl rfl
    · rw [closes.named] at within
      exact Or.inr (within _ (List.mem_map_of_mem entry))

end Flod.Stage1
