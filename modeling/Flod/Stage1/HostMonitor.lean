import Mathlib.Data.List.Dedup
import Mathlib.Data.List.Perm.Subperm
import Flod.Stage1.TargetRun

/-! The loop keeps all hosts in one map and serves them in turn. To each protected host it is
a monitor of that host alone, fed with what is addressed to it and with the moments at which
the loop looks at it; hosts meet only at the cap on dynamic targets. -/

namespace Flod.Stage1
open Flod.Lib Flod.Net

variable {F : Type} [Arith F]

/-- What the loop does about one host. -/
inductive Sight (F : Type) where
  | counted (now : Instant) (c : Counted)
  | looked (now : Instant) (timestamp : F) (sendOk : Bool) (sources : Walk (IpAddr × Nat))

/-- The monitor of one host, which has no state before the first thing counted. None is a panic. -/
def monitor (cfg : AnalysisConfig F) (saved : Option (PersistedBaseline F)) (v : IpAddr) :
    Option (TargetState F) → Sight F → Option (Option (TargetState F) × Option (ClosedWindow F))
  | none, .counted now c => (TargetState.new cfg.ewmaAlpha saved now).map (fun ts => (some (ts.count c), none))
  | some ts, .counted _ c => some (some (ts.count c), none)
  | none, .looked _ _ _ _ => some (none, none)
  | some ts, .looked now timestamp sendOk sources =>
      if shouldClose now ts then
        (closeWindow cfg ⟨now, timestamp, fun _ => sendOk, .inserted, fun _ => sources⟩ v ts).map
          (fun closed => (some closed.1, some closed.2))
      else some (some ts, none)

def Counted.ofPacket (p : PacketMeta) : Counted :=
  match p.direction with
  | .ingress => .ingress p
  | .egress => .egress

/-- The loop looks at a host with what the iteration gets from outside. -/
def Iteration.looks (it : Iteration F) (v : IpAddr) : Sight F :=
  .looked it.reading.now it.reading.timestamp (it.reading.sendOk v) (it.reading.sources v)

/-- The part of an iteration that is about one host. -/
def Iteration.about (v : IpAddr) (it : Iteration F) : List (Sight F) :=
  match it.arrival with
  | .timeout => [it.looks v]
  | .packet p =>
      if p.dstIp = v then
        .counted it.reading.now (.ofPacket p) :: if p.direction = .ingress then [it.looks v] else []
      else []
  | .drained samples =>
      (samples.filter (fun e => decide (e.1 = v))).map (fun e => .counted it.reading.now (.sample e.2)) ++
        [it.looks v]

/-- The hosts an arrival brings something for. -/
def Arrival.hosts : Arrival → List IpAddr
  | .timeout => []
  | .packet p => [p.dstIp]
  | .drained samples => samples.map Prod.fst

/-- The protected hosts a run of the loop hears of. -/
def protectedHosts (cfg : AnalysisConfig F) (its : List (Iteration F)) : List IpAddr :=
  ((its.flatMap (fun it => it.arrival.hosts)).filter (fun h => cfg.isEffectivelyProtected h)).dedup

/-- Without a list of targets, no more protected hosts than the loop will track. -/
def Roomy (cfg : AnalysisConfig F) (its : List (Iteration F)) : Prop :=
  cfg.victimTargets.isNone = true → (protectedHosts cfg its).length ≤ maxDynamicTargets

instance (cfg : AnalysisConfig F) (its : List (Iteration F)) : Decidable (Roomy cfg its) :=
  inferInstanceAs (Decidable (_ → _))

variable {cfg : AnalysisConfig F} {persisted : Option (PersistedState F)} {v : IpAddr}

omit [Arith F] in
theorem mem_protectedHosts {its : List (Iteration F)} {h : IpAddr} :
    h ∈ protectedHosts cfg its ↔
      (∃ it ∈ its, h ∈ it.arrival.hosts) ∧ cfg.isEffectivelyProtected h = true := by
  simp [protectedHosts]

omit [Arith F] in
theorem listed_of_heard (its : List (Iteration F)) : ∀ it ∈ its, ∀ h ∈ it.arrival.hosts,
    cfg.isEffectivelyProtected h = true → h ∈ protectedHosts cfg its :=
  fun it member _ heard guarded => mem_protectedHosts.mpr ⟨⟨it, member, heard⟩, guarded⟩

section Arrivals

variable {hosts : List IpAddr} {now : Instant} {st st' : AnalysisState F} {victim : IpAddr} {c : Counted}
  {seen : Bool}

/-- A host among those there is room for is never turned away. -/
theorem not_capped (persisted : Option (PersistedState F)) (now : Instant)
    (room : cfg.victimTargets.isNone = true → hosts.length ≤ maxDynamicTargets)
    (within : st.targetsMap.keys ⊆ hosts) (listed : v ∈ hosts) :
    ensureTarget cfg persisted now st.targetsMap v ≠ some none := by
  intro capped
  obtain ⟨absent, dynamic, full⟩ := ensureTarget_capped capped
  have unknown : v ∉ st.targetsMap.keys := by simp [Dict.mem_keys_iff, absent]
  have distinct : (v :: st.targetsMap.keys).Nodup := List.nodup_cons.mpr ⟨unknown, st.targetsMap.nodup⟩
  have fits : (v :: st.targetsMap.keys).length ≤ hosts.length :=
    (distinct.subperm (List.cons_subset.mpr ⟨listed, within⟩)).length_le
  have size : st.targetsMap.keys.length = st.targetsMap.size := by simp [Dict.keys, Dict.size]
  have bound := room dynamic
  rw [List.length_cons, size] at fits
  omega

theorem admitVictim_other
    (admitted : admitVictim cfg persisted now st victim (·.count c) = some (st', seen)) (other : victim ≠ v) :
    st'.targetsMap.get? v = st.targetsMap.get? v := by
  rcases admitVictim_cases admitted with ⟨-, rfl, -⟩ | ⟨-, -, rfl, -⟩ | ⟨ts, -, -, rfl, -⟩
  · rfl
  · rfl
  · exact Dict.get?_set_of_ne _ _ (Ne.symm other)

/-- What is counted for the host is counted by its monitor, and leads to a look at it. -/
theorem admitVictim_own (admitted : admitVictim cfg persisted now st v (·.count c) = some (st', seen))
    (guarded : cfg.isEffectivelyProtected v = true)
    (room : ensureTarget cfg persisted now st.targetsMap v ≠ some none) :
    monitor cfg (lookup persisted v) v (st.targetsMap.get? v) (.counted now c) =
      some (st'.targetsMap.get? v, none) ∧ seen = true := by
  rcases admitVictim_cases admitted with ⟨unguarded, -⟩ | ⟨-, capped, -⟩ | ⟨ts, -, ensured, rfl, rfl⟩
  · exact absurd guarded unguarded
  · exact absurd capped room
  · rw [Dict.get?_set_self]
    rcases ensureTarget_some ensured with found | ⟨absent, created⟩
    · simp [found, monitor]
    · simp [absent, monitor, created]

theorem admitVictim_within
    (admitted : admitVictim cfg persisted now st victim (·.count c) = some (st', seen))
    (within : st.targetsMap.keys ⊆ hosts) (listed : cfg.isEffectivelyProtected victim = true → victim ∈ hosts) :
    st'.targetsMap.keys ⊆ hosts := by
  rcases admitVictim_cases admitted with ⟨-, rfl, -⟩ | ⟨-, -, rfl, -⟩ | ⟨ts, guarded, -, rfl, -⟩
  · exact within
  · exact within
  · intro h tracked
    rcases (Dict.mem_keys_set _ _ _ _).mp tracked with rfl | before
    · exact listed guarded
    · exact within before

/-- A packet counts one thing for its destination, and only ingress has it looked at. -/
theorem admitPacket_counts {p : PacketMeta}
    (admitted : admitPacket cfg persisted now st p = some (st', seen)) :
    ∃ flows tracked, admitVictim cfg persisted now { st with flowCounts := flows } p.dstIp
        (·.count (.ofPacket p)) = some (st', tracked) ∧ seen = (tracked && decide (p.direction = .ingress)) := by
  unfold admitPacket at admitted
  cases way : p.direction with
  | ingress =>
    simp only [way] at admitted
    refine ⟨trackFlow cfg st.flowCounts (p.srcIp, p.dstIp, p.dstPort, protoNum p.protocol) 1, seen, ?_, by simp⟩
    simp only [Counted.ofPacket, way]
    exact admitted
  | egress =>
    simp only [way] at admitted
    obtain ⟨⟨mid, tracked⟩, taken, pair⟩ := Option.map_eq_some_iff.mp admitted
    cases pair
    refine ⟨st.flowCounts, tracked, ?_, by simp⟩
    simp only [Counted.ofPacket, way]
    exact taken

variable {samples : List (IpAddr × WindowSample)}

theorem admitSamples_within (within : st.targetsMap.keys ⊆ hosts)
    (listed : ∀ h ∈ samples.map Prod.fst, cfg.isEffectivelyProtected h = true → h ∈ hosts)
    (admitted : admitSamples cfg persisted now st samples = some st') : st'.targetsMap.keys ⊆ hosts := by
  induction samples generalizing st with
  | nil =>
    cases admitted
    exact within
  | cons entry rest ih =>
    obtain ⟨flows, mid, seen, taken, admitted⟩ := admitSamples_cons admitted
    have recorded : mid.targetsMap.keys ⊆ hosts :=
      admitVictim_within (c := .sample entry.2) taken within (listed entry.1 List.mem_cons_self)
    exact ih recorded (fun h member => listed h (List.mem_cons_of_mem _ member)) admitted

/-- The samples of a drain that are the host's own, in their order. -/
theorem admitSamples_about (guarded : cfg.isEffectivelyProtected v = true)
    (room : cfg.victimTargets.isNone = true → hosts.length ≤ maxDynamicTargets)
    (within : st.targetsMap.keys ⊆ hosts)
    (listed : ∀ h ∈ samples.map Prod.fst, cfg.isEffectivelyProtected h = true → h ∈ hosts)
    (admitted : admitSamples cfg persisted now st samples = some st') :
    ∃ outs, run (monitor cfg (lookup persisted v) v) (st.targetsMap.get? v)
        ((samples.filter (fun e => decide (e.1 = v))).map (fun e => .counted now (.sample e.2))) =
          some (st'.targetsMap.get? v, outs) ∧ outs.reduceOption = [] := by
  induction samples generalizing st with
  | nil =>
    cases admitted
    exact ⟨[], rfl, rfl⟩
  | cons entry rest ih =>
    obtain ⟨flows, mid, seen, taken, admitted⟩ := admitSamples_cons admitted
    have recorded : mid.targetsMap.keys ⊆ hosts :=
      admitVictim_within (c := .sample entry.2) taken within (listed entry.1 List.mem_cons_self)
    obtain ⟨outs, ran, none⟩ :=
      ih recorded (fun h member => listed h (List.mem_cons_of_mem _ member)) admitted
    by_cases own : entry.1 = v
    · subst own
      have free := not_capped persisted now room within
        (listed entry.1 List.mem_cons_self guarded)
      have counts := (admitVictim_own (c := .sample entry.2) taken guarded free).1
      refine ⟨.none :: outs, ?_, by simpa using none⟩
      rw [List.filter_cons_of_pos (by simp), List.map_cons]
      simp only [run, counts, ran]
    · have kept := admitVictim_other (c := .sample entry.2) taken own
      dsimp only at kept
      rw [List.filter_cons_of_neg (by simp [own]), ← kept]
      exact ⟨outs, ran, none⟩

end Arrivals

section Checks

/-- The host's monitor looks, and closes the given windows. -/
def LookedAt (cfg : AnalysisConfig F) (saved : Option (PersistedBaseline F)) (v : IpAddr) (reading : Reading F)
    (st st' : AnalysisState F) (closed : List (ClosedWindow F)) : Prop :=
  ∃ o, monitor cfg saved v (st.targetsMap.get? v)
      (.looked reading.now reading.timestamp (reading.sendOk v) (reading.sources v)) =
    some (st'.targetsMap.get? v, o) ∧ o.toList = closed

variable {reading : Reading F} {st st' : AnalysisState F} {u : IpAddr} {effects : List (Effect F)}

theorem checkVictim_other (other : u ≠ v) (checked : checkVictim cfg reading st u = some (st', effects)) :
    st'.targetsMap.get? v = st.targetsMap.get? v ∧ closedOf v effects = [] := by
  rcases checkVictim_cases checked with ⟨rfl, rfl, -⟩ | ⟨ts, after, w, found, due, closing, rfl, rfl⟩
  · exact ⟨rfl, rfl⟩
  · refine ⟨Dict.get?_set_of_ne _ _ (Ne.symm other), ?_⟩
    have none := closedOf_settle reading st u v after w []
    rw [(closeWindow_spec closing).1.named, if_neg other] at none
    simpa [closedOf, closedWindows] using none

/-- A check of the host is a look of its monitor. -/
theorem checkVictim_own (checked : checkVictim cfg reading st v = some (st', effects))
    (saved : Option (PersistedBaseline F)) :
    LookedAt cfg saved v reading st st' (closedOf v effects) := by
  rcases checkVictim_cases checked with ⟨rfl, rfl, early⟩ | ⟨ts, after, w, found, due, closing, rfl, rfl⟩
  · refine ⟨none, ?_, rfl⟩
    cases found : st'.targetsMap.get? v with
    | none => rfl
    | some ts => simp [monitor, early ts found]
  · refine ⟨some w, ?_, ?_⟩
    · have same : closeWindow cfg ⟨reading.now, reading.timestamp, fun _ => reading.sendOk v, .inserted,
          fun _ => reading.sources v⟩ v ts = closeWindow cfg reading v ts := rfl
      rw [found, settle_targetsMap, Dict.get?_set_self]
      simp [monitor, due, same, closing]
    · have one := closedOf_settle reading st v v after w []
      rw [(closeWindow_spec closing).1.named, if_pos rfl] at one
      simpa [closedOf, closedWindows] using one.symm

variable {victims : List IpAddr} {outs : List (List (Effect F))}

theorem checks_other (absent : v ∉ victims)
    (checked : run (checkVictim cfg reading) st victims = some (st', outs)) :
    st'.targetsMap.get? v = st.targetsMap.get? v ∧ closedOf v outs.flatten = [] := by
  induction victims generalizing st outs with
  | nil =>
    cases checked
    exact ⟨rfl, rfl⟩
  | cons u rest ih =>
    obtain ⟨mid, effects, outs', first, later, rfl⟩ := run_cons checked
    obtain ⟨other, others⟩ := not_or.mp (mt List.mem_cons.mpr absent)
    obtain ⟨kept, none⟩ := checkVictim_other (Ne.symm other) first
    obtain ⟨kept', none'⟩ := ih others later
    refine ⟨kept'.trans kept, ?_⟩
    rw [List.flatten_cons, closedOf, closedWindows_append, List.filter_append]
    exact List.append_eq_nil_iff.mpr ⟨none, none'⟩

/-- A round of checks in which the host comes up once, or has no state to look at. -/
theorem checks_look (distinct : victims.Nodup) (unlisted : v ∉ victims → st.targetsMap.get? v = none)
    (checked : run (checkVictim cfg reading) st victims = some (st', outs))
    (saved : Option (PersistedBaseline F)) :
    LookedAt cfg saved v reading st st' (closedOf v outs.flatten) := by
  induction victims generalizing st outs with
  | nil =>
    cases checked
    refine ⟨none, ?_, rfl⟩
    rw [unlisted List.not_mem_nil]
    rfl
  | cons u rest ih =>
    obtain ⟨mid, effects, outs', first, later, rfl⟩ := run_cons checked
    obtain ⟨once, distinct⟩ := List.nodup_cons.mp distinct
    have both : closedOf v (effects :: outs').flatten = closedOf v effects ++ closedOf v outs'.flatten := by
      rw [List.flatten_cons, closedOf, closedWindows_append, List.filter_append]
      rfl
    by_cases own : u = v
    · subst own
      obtain ⟨kept, none⟩ := checks_other once later
      obtain ⟨o, looks, closed⟩ := checkVictim_own first saved
      refine ⟨o, by rw [looks, kept], ?_⟩
      rw [both, none, List.append_nil, closed]
    · obtain ⟨kept, none⟩ := checkVictim_other own first
      have still : v ∉ rest → mid.targetsMap.get? v = .none := by
        intro absent
        rw [kept]
        exact unlisted (List.not_mem_cons_of_ne_of_not_mem (Ne.symm own) absent)
      obtain ⟨o, looks, closed⟩ := ih distinct still later
      refine ⟨o, by rw [← kept, looks], ?_⟩
      rw [both, none, List.nil_append, closed]

/-- A tick checks every host with a state once, in whatever order. -/
theorem checks_tick (v : IpAddr) (walk : Walk IpAddr)
    (checked : run (checkVictim cfg reading) st (walk.order st.targetsMap.keys) = some (st', outs))
    (saved : Option (PersistedBaseline F)) :
    LookedAt cfg saved v reading st st' (closedOf v outs.flatten) := by
  have distinct : (walk.order st.targetsMap.keys).Nodup := (walk.perm _).nodup_iff.mpr st.targetsMap.nodup
  refine checks_look distinct (fun unlisted => ?_) checked saved
  simpa [Dict.mem_keys_iff] using unlisted

end Checks

section Loop

variable {hosts : List IpAddr} {st st' : AnalysisState F} {it : Iteration F} {effects : List (Effect F)}

theorem iterate_within (within : st.targetsMap.keys ⊆ hosts)
    (listed : ∀ h ∈ it.arrival.hosts, cfg.isEffectivelyProtected h = true → h ∈ hosts)
    (iterated : iterate cfg persisted st it = some (st', effects)) : st'.targetsMap.keys ⊆ hosts := by
  obtain ⟨mid, victims, outs, arrived, checked, -⟩ := iterate_cases iterated
  have recorded : mid.targetsMap.keys ⊆ hosts := by
    unfold arrive at arrived
    cases kind : it.arrival with
    | timeout =>
      rw [kind] at arrived
      cases arrived
      exact within
    | packet p =>
      rw [kind] at arrived listed
      obtain ⟨⟨mid', seen⟩, admitted, pair⟩ := Option.map_eq_some_iff.mp arrived
      cases pair
      obtain ⟨flows, tracked, taken, -⟩ := admitPacket_counts admitted
      exact admitVictim_within taken within (listed p.dstIp List.mem_cons_self)
    | drained samples =>
      rw [kind] at arrived listed
      obtain ⟨mid', admitted, pair⟩ := Option.map_eq_some_iff.mp arrived
      cases pair
      exact admitSamples_within within listed admitted
  refine run_history (I := fun _ s => s.targetsMap.keys ⊆ hosts) ?_ victims [] mid st' outs recorded checked
  intro past s u s' out inv taken
  rcases checkVictim_cases taken with ⟨rfl, -, -⟩ | ⟨ts, after, w, found, -, -, rfl, -⟩
  · exact inv
  · rw [settle_targetsMap, Dict.keys_set_of_mem _ _ (Dict.mem_keys_of_get? found)]
    exact inv

/-- One turn of the loop is, for a protected host, what its monitor does with its part of it. -/
theorem iterate_about (guarded : cfg.isEffectivelyProtected v = true)
    (room : cfg.victimTargets.isNone = true → hosts.length ≤ maxDynamicTargets)
    (within : st.targetsMap.keys ⊆ hosts)
    (listed : ∀ h ∈ it.arrival.hosts, cfg.isEffectivelyProtected h = true → h ∈ hosts)
    (iterated : iterate cfg persisted st it = some (st', effects)) :
    ∃ outs, run (monitor cfg (lookup persisted v) v) (st.targetsMap.get? v) (it.about v) =
        some (st'.targetsMap.get? v, outs) ∧ outs.reduceOption = closedOf v effects := by
  obtain ⟨mid, victims, checks, arrived, checked, rfl⟩ := iterate_cases iterated
  unfold arrive at arrived
  unfold Iteration.about
  cases kind : it.arrival with
  | timeout =>
    rw [kind] at arrived
    cases arrived
    obtain ⟨o, looks, closed⟩ := checks_tick v it.reading.hosts checked (lookup persisted v)
    exact ⟨[o], by simp only [Iteration.looks, run, looks], by rw [← closed]; cases o <;> rfl⟩
  | packet p =>
    rw [kind] at arrived listed
    obtain ⟨⟨mid', seen⟩, admitted, pair⟩ := Option.map_eq_some_iff.mp arrived
    obtain ⟨rfl, rfl⟩ := Prod.mk.inj pair
    obtain ⟨flows, tracked, taken, rfl⟩ := admitPacket_counts admitted
    by_cases own : p.dstIp = v
    · subst own
      have free := not_capped persisted it.reading.now room within
        (listed p.dstIp List.mem_cons_self guarded)
      obtain ⟨counts, rfl⟩ := admitVictim_own taken guarded free
      dsimp only
      rw [if_pos rfl]
      by_cases inbound : p.direction = .ingress
      · simp only [inbound, decide_true, Bool.and_self, if_true] at checked
        obtain ⟨o, looks, closed⟩ :=
          checks_look (v := p.dstIp) (List.nodup_singleton p.dstIp) (by simp) checked (lookup persisted p.dstIp)
        refine ⟨[none, o], ?_, by rw [← closed]; cases o <;> rfl⟩
        rw [if_pos inbound]
        simp only [Iteration.looks, run, counts, looks]
      · simp only [inbound, decide_false, Bool.and_false, Bool.false_eq_true, if_false] at checked
        cases checked
        refine ⟨[none], ?_, rfl⟩
        rw [if_neg inbound]
        simp only [run, counts]
    · have unseen : v ∉ if (tracked && decide (p.direction = .ingress)) = true then [p.dstIp] else [] := by
        split
        · simpa using Ne.symm own
        · simp
      obtain ⟨kept, none⟩ := checks_other unseen checked
      have same := admitVictim_other taken own
      refine ⟨[], ?_, none.symm⟩
      simp only [own, if_false, run, kept, same]
  | drained samples =>
    rw [kind] at arrived listed
    obtain ⟨mid', admitted, pair⟩ := Option.map_eq_some_iff.mp arrived
    obtain ⟨rfl, rfl⟩ := Prod.mk.inj pair
    obtain ⟨outs, counts, quiet⟩ := admitSamples_about guarded room within listed admitted
    obtain ⟨o, looks, closed⟩ := checks_tick v it.reading.hosts checked (lookup persisted v)
    refine ⟨outs ++ [o], run_concat counts looks, ?_⟩
    rw [List.reduceOption_append, quiet, ← closed]
    cases o <;> rfl

theorem loop_about {its : List (Iteration F)} {final : AnalysisState F} {effects : List (List (Effect F))}
    (guarded : cfg.isEffectivelyProtected v = true)
    (room : cfg.victimTargets.isNone = true → hosts.length ≤ maxDynamicTargets)
    (listed : ∀ it ∈ its, ∀ h ∈ it.arrival.hosts, cfg.isEffectivelyProtected h = true → h ∈ hosts)
    (within : st.targetsMap.keys ⊆ hosts)
    (ran : run (iterate cfg persisted) st its = some (final, effects)) :
    ∃ outs, run (monitor cfg (lookup persisted v) v) (st.targetsMap.get? v) (its.flatMap (Iteration.about v)) =
        some (final.targetsMap.get? v, outs) ∧ outs.reduceOption = closedOf v effects.flatten := by
  induction its generalizing st effects with
  | nil =>
    cases ran
    exact ⟨[], rfl, rfl⟩
  | cons it its ih =>
    obtain ⟨mid, out, rest, first, later, rfl⟩ := run_cons ran
    have here := listed it List.mem_cons_self
    obtain ⟨outs, own, closed⟩ := iterate_about guarded room within here first
    obtain ⟨outs', own', closed'⟩ := ih (fun it member => listed it (List.mem_cons_of_mem _ member))
      (iterate_within within here first) later
    refine ⟨outs ++ outs', run_join own own', ?_⟩
    rw [List.reduceOption_append, closed, closed', List.flatten_cons, closedOf, closedOf, closedOf,
      closedWindows_append, List.filter_append]

end Loop

/-- The loop refines one monitor for each protected host: however the traffic of the hosts is
interleaved, the host's final state and its closed windows are those of its own monitor, which
sees nothing of the others. -/
theorem loop_refines_monitor (cfg : AnalysisConfig F) (persisted : Option (PersistedState F))
    (began : Instant) (its : List (Iteration F)) (roomy : Roomy cfg its) (v : IpAddr)
    (guarded : cfg.isEffectivelyProtected v = true) (final : AnalysisState F) (effects : List (List (Effect F)))
    (ran : run (iterate cfg persisted) (AnalysisState.start began) its = some (final, effects)) :
    ∃ outs, run (monitor cfg (lookup persisted v) v) none (its.flatMap (Iteration.about v)) =
        some (final.targetsMap.get? v, outs) ∧ outs.reduceOption = closedOf v effects.flatten := by
  exact loop_about guarded roomy (listed_of_heard its) (List.nil_subset _) ran

/-- One packet to each of two hosts, and two timeouts. -/
def twoHosts : List (Iteration ℚ) :=
  [packetAt 100000000 0xC0000201 0x0A000002, packetAt 600000000 0xC0000201 0x0A000001, tickAt 1200000000,
    tickAt 2000000000]

/-- The second host's window closes at the later timeout, as its own monitor has it. -/
theorem twoHosts_monitored :
    ∃ final effects, run (iterate AnalysisConfig.default none) (AnalysisState.start 0) twoHosts =
        some (final, effects) ∧ (closedOf (.v4 0x0A000001) effects.flatten).length = 1 ∧
      ∃ outs, run (monitor AnalysisConfig.default none (.v4 0x0A000001)) none
          (twoHosts.flatMap (Iteration.about (.v4 0x0A000001))) =
            some (final.targetsMap.get? (.v4 0x0A000001), outs) ∧
        outs.reduceOption = closedOf (.v4 0x0A000001) effects.flatten := by
  have ran : ∃ final effects, run (iterate AnalysisConfig.default none) (AnalysisState.start 0) twoHosts =
      some (final, effects) ∧ (closedOf (.v4 0x0A000001) effects.flatten).length = 1 := by
    decide +kernel
  obtain ⟨final, effects, reached, closed⟩ := ran
  exact ⟨final, effects, reached, closed,
    loop_refines_monitor _ none 0 twoHosts (by decide +kernel) (.v4 0x0A000001) (by decide +kernel) final effects
      reached⟩

end Flod.Stage1
