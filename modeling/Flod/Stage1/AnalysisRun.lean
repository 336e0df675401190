import Flod.Lib.History
import Flod.Stage1.Analysis

/-! What an arrival and a check can do to the loop, and the rule that carries an
invariant of the state and of everything done so far through whole runs. -/

namespace Flod.Stage1
open Flod.Lib Flod.Net

variable {F : Type} [Arith F] {cfg : AnalysisConfig F} {persisted : Option (PersistedState F)}

/-- All an arrival does to the targets: it counts packets, and creates protected ones. -/
structure Admits (cfg : AnalysisConfig F) (persisted : Option (PersistedState F)) (now : Instant)
    (before after : Dict IpAddr (TargetState F)) : Prop where
  kept : ∀ v ts, before.get? v = some ts → ∃ ts', after.get? v = some ts' ∧ ts.SameBaseline ts'
  created : ∀ v ts', before.get? v = none → after.get? v = some ts' →
    cfg.isEffectivelyProtected v = true ∧
      ∃ ts, TargetState.new cfg.ewmaAlpha (lookup persisted v) now = some ts ∧ ts.SameBaseline ts'

theorem Admits.refl (now : Instant) (targets : Dict IpAddr (TargetState F)) :
    Admits cfg persisted now targets targets where
  kept v ts found := ⟨ts, found, .refl ts⟩
  created v ts' absent found := by rw [absent] at found; cases found

theorem Admits.trans {now : Instant} {a b c : Dict IpAddr (TargetState F)}
    (first : Admits cfg persisted now a b) (second : Admits cfg persisted now b c) :
    Admits cfg persisted now a c where
  kept v ts found := by
    obtain ⟨mid, foundMid, same⟩ := first.kept v ts found
    obtain ⟨ts', found', same'⟩ := second.kept v mid foundMid
    exact ⟨ts', found', same.trans same'⟩
  created v ts' absent found := by
    cases foundMid : b.get? v with
    | none => exact second.created v ts' foundMid found
    | some mid =>
      obtain ⟨guarded, ts, fresh, same⟩ := first.created v mid absent foundMid
      obtain ⟨later, found', same'⟩ := second.kept v mid foundMid
      rw [found] at found'
      cases found'
      exact ⟨guarded, ts, fresh, same.trans same'⟩

/-- A target is either one the map held already, or a new one. -/
theorem ensureTarget_some {now : Instant} {targetsMap : Dict IpAddr (TargetState F)}
    {victim : IpAddr} {ts : TargetState F}
    (ensured : ensureTarget cfg persisted now targetsMap victim = some (some ts)) :
    targetsMap.get? victim = some ts ∨
      (targetsMap.get? victim = none ∧
        TargetState.new cfg.ewmaAlpha (lookup persisted victim) now = some ts) := by
  unfold ensureTarget at ensured
  cases found : targetsMap.get? victim with
  | some old => simpa [found] using ensured
  | none =>
    simp only [found] at ensured
    split at ensured
    · cases ensured
    · simpa using ensured

theorem ensureTarget_capped {now : Instant} {targetsMap : Dict IpAddr (TargetState F)}
    {victim : IpAddr} (ensured : ensureTarget cfg persisted now targetsMap victim = some none) :
    targetsMap.get? victim = none ∧ cfg.victimTargets.isNone ∧ maxDynamicTargets ≤ targetsMap.size := by
  unfold ensureTarget at ensured
  cases found : targetsMap.get? victim with
  | some old => simp [found] at ensured
  | none =>
    simp only [found] at ensured
    split at ensured
    · next capped => exact ⟨rfl, capped⟩
    · simp at ensured

/-- Nothing is counted for a victim that is not protected, or past the cap on targets;
otherwise its target, old or new, takes the record. -/
theorem admitVictim_cases {now : Instant} {st st' : AnalysisState F} {victim : IpAddr}
    {record : TargetState F → TargetState F} {seen : Bool}
    (admitted : admitVictim cfg persisted now st victim record = some (st', seen)) :
    (cfg.isEffectivelyProtected victim ≠ true ∧ st' = st ∧ seen = false) ∨
      (cfg.isEffectivelyProtected victim = true ∧
        ensureTarget cfg persisted now st.targetsMap victim = some none ∧ st' = st ∧ seen = false) ∨
      ∃ ts, cfg.isEffectivelyProtected victim = true ∧
        ensureTarget cfg persisted now st.targetsMap victim = some (some ts) ∧
        st' = { st with targetsMap := st.targetsMap.set victim (record ts) } ∧ seen = true := by
  unfold admitVictim at admitted
  by_cases guarded : cfg.isEffectivelyProtected victim = true
  · rw [if_pos guarded] at admitted
    cases ensured : ensureTarget cfg persisted now st.targetsMap victim with
    | none => simp [ensured] at admitted
    | some target =>
      cases target with
      | none =>
        simp only [ensured, Option.some.injEq, Prod.mk.injEq] at admitted
        exact Or.inr (Or.inl ⟨guarded, rfl, admitted.1.symm, admitted.2.symm⟩)
      | some ts =>
        simp only [ensured, Option.some.injEq, Prod.mk.injEq] at admitted
        exact Or.inr (Or.inr ⟨ts, guarded, rfl, admitted.1.symm, admitted.2.symm⟩)
  · rw [if_neg guarded, Option.some.injEq, Prod.mk.injEq] at admitted
    exact Or.inl ⟨guarded, admitted.1.symm, admitted.2.symm⟩

/-- What is counted only ever reaches a protected victim, and reaches every tracked one. -/
theorem admitVictim_spec {now : Instant} {st st' : AnalysisState F} {victim : IpAddr}
    {record : TargetState F → TargetState F} {seen : Bool}
    (counts : ∀ ts, TargetState.SameBaseline ts (record ts))
    (admitted : admitVictim cfg persisted now st victim record = some (st', seen)) :
    Admits cfg persisted now st.targetsMap st'.targetsMap ∧
      (seen = true ↔ cfg.isEffectivelyProtected victim = true ∧ victim ∈ st'.targetsMap.keys) := by
  rcases admitVictim_cases admitted with ⟨open', rfl, rfl⟩ | ⟨_, capped, rfl, rfl⟩ |
    ⟨ts, guarded, ensured, rfl, rfl⟩
  · exact ⟨.refl _ _, by simp [open']⟩
  · exact ⟨.refl _ _, by simp [Dict.mem_keys_iff, (ensureTarget_capped capped).1]⟩
  · refine ⟨⟨?_, ?_⟩, by simp [guarded, Dict.mem_keys_set]⟩
    · intro v old found
      by_cases same : v = victim
      · subst same
        rcases ensureTarget_some ensured with here | ⟨absent, _⟩
        · rw [found] at here
          cases here
          exact ⟨record ts, Dict.get?_set_self _ _ _, counts ts⟩
        · rw [found] at absent
          cases absent
      · exact ⟨old, by rw [Dict.get?_set_of_ne _ _ same, found], .refl old⟩
    · intro v new absent found
      by_cases same : v = victim
      · subst same
        rcases ensureTarget_some ensured with here | ⟨_, fresh⟩
        · rw [absent] at here
          cases here
        · rw [Dict.get?_set_self] at found
          cases found
          exact ⟨guarded, ts, fresh, counts ts⟩
      · rw [Dict.get?_set_of_ne _ _ same, absent] at found
        cases found

/-- Samples are admitted one after the other, each with its flows tracked first. -/
theorem admitSamples_cons {now : Instant} {st st' : AnalysisState F} {entry : IpAddr × WindowSample}
    {rest : List (IpAddr × WindowSample)}
    (admitted : admitSamples cfg persisted now st (entry :: rest) = some st') :
    ∃ flows mid seen, admitVictim cfg persisted now { st with flowCounts := flows } entry.1
        (·.recordSample entry.2) = some (mid, seen) ∧ admitSamples cfg persisted now mid rest = some st' := by
  simp only [admitSamples] at admitted
  cases first : admitSample cfg persisted now st entry.1 entry.2 with
  | none => simp [first] at admitted
  | some mid =>
    simp only [first] at admitted
    obtain ⟨⟨mid', seen⟩, taken, rfl⟩ := Option.map_eq_some_iff.mp first
    exact ⟨_, _, seen, taken, admitted⟩

theorem admitSamples_spec {now : Instant} {st st' : AnalysisState F}
    {samples : List (IpAddr × WindowSample)}
    (admitted : admitSamples cfg persisted now st samples = some st') :
    Admits cfg persisted now st.targetsMap st'.targetsMap := by
  induction samples generalizing st with
  | nil =>
    simp only [admitSamples, Option.some.injEq] at admitted
    rw [admitted]
    exact .refl now _
  | cons entry rest ih =>
    obtain ⟨flows, mid, seen, taken, admitted⟩ := admitSamples_cons admitted
    have recorded := (admitVictim_spec (TargetState.recordSample_sameBaseline · entry.2) taken).1
    exact recorded.trans (ih admitted)

/-- The victims an arrival has the loop check. -/
def Arrival.checks : Arrival → IpAddr → Prop
  | .timeout, _ => True
  | .packet p, v => p.direction = .ingress ∧ p.dstIp = v
  | .drained _, _ => True

theorem admitPacket_spec {now : Instant} {st st' : AnalysisState F} {packet : PacketMeta} {seen : Bool}
    (admitted : admitPacket cfg persisted now st packet = some (st', seen)) :
    Admits cfg persisted now st.targetsMap st'.targetsMap ∧
      (seen = true ↔ packet.direction = .ingress ∧
        cfg.isEffectivelyProtected packet.dstIp = true ∧ packet.dstIp ∈ st'.targetsMap.keys) := by
  unfold admitPacket at admitted
  cases way : packet.direction with
  | ingress =>
    simp only [way] at admitted
    obtain ⟨recorded, reaches⟩ := admitVictim_spec (TargetState.recordIngress_sameBaseline · packet) admitted
    exact ⟨recorded, by simpa using reaches⟩
  | egress =>
    simp only [way] at admitted
    obtain ⟨⟨mid, _⟩, taken, pair⟩ := Option.map_eq_some_iff.mp admitted
    cases pair
    exact ⟨(admitVictim_spec TargetState.recordEgress_sameBaseline taken).1, by simp⟩

/-- Every victim to check is tracked, and a tracked protected one is checked exactly when
the arrival implicates it. -/
theorem arrive_spec {st mid : AnalysisState F} {it : Iteration F} {victims : List IpAddr}
    (arrived : arrive cfg persisted st it = some (mid, victims)) :
    Admits cfg persisted it.reading.now st.targetsMap mid.targetsMap ∧
      ∀ v ∈ mid.targetsMap.keys, cfg.isEffectivelyProtected v = true →
        (v ∈ victims ↔ it.arrival.checks v) := by
  unfold arrive at arrived
  cases kind : it.arrival with
  | timeout =>
    simp only [kind, Option.some.injEq, Prod.mk.injEq] at arrived
    obtain ⟨rfl, rfl⟩ := arrived
    exact ⟨.refl _ _, fun v member _ => by simpa [Arrival.checks] using member⟩
  | packet packet =>
    simp only [kind] at arrived
    obtain ⟨⟨mid', seen⟩, admitted, pair⟩ := Option.map_eq_some_iff.mp arrived
    simp only [Prod.mk.injEq] at pair
    obtain ⟨rfl, rfl⟩ := pair
    obtain ⟨recorded, reaches⟩ := admitPacket_spec admitted
    refine ⟨recorded, fun v member guarded => ?_⟩
    have listed : v ∈ (if seen = true then [packet.dstIp] else []) ↔
        seen = true ∧ packet.dstIp = v := by
      cases seen <;> simp [eq_comm]
    rw [listed, reaches]
    constructor
    · rintro ⟨⟨ingress, -, -⟩, same⟩
      exact ⟨ingress, same⟩
    · rintro ⟨ingress, rfl⟩
      exact ⟨⟨ingress, guarded, member⟩, rfl⟩
  | drained samples =>
    simp only [kind] at arrived
    obtain ⟨final, admitted, pair⟩ := Option.map_eq_some_iff.mp arrived
    cases pair
    exact ⟨admitSamples_spec admitted, fun v member _ => by simpa [Arrival.checks] using member⟩

/-- A check leaves the loop as it is, or closes the victim's window. -/
theorem checkVictim_cases {reading : Reading F} {st st' : AnalysisState F} {victim : IpAddr}
    {effects : List (Effect F)}
    (checked : checkVictim cfg reading st victim = some (st', effects)) :
    (st' = st ∧ effects = [] ∧
      ∀ ts, st.targetsMap.get? victim = some ts → shouldClose reading.now ts = false) ∨
    ∃ ts after w, st.targetsMap.get? victim = some ts ∧ shouldClose reading.now ts = true ∧
      closeWindow cfg reading victim ts = some (after, w) ∧
      st' = (settle reading st victim after w).1 ∧ effects = (settle reading st victim after w).2 := by
  unfold checkVictim at checked
  cases found : st.targetsMap.get? victim with
  | none =>
    simp only [found, Option.some.injEq, Prod.mk.injEq] at checked
    exact Or.inl ⟨checked.1.symm, checked.2.symm, by simp⟩
  | some ts =>
    by_cases due : shouldClose reading.now ts = true
    · simp only [found, due, if_true] at checked
      obtain ⟨⟨after, w⟩, closed, pair⟩ := Option.map_eq_some_iff.mp checked
      exact Or.inr ⟨ts, after, w, rfl, due, closed, by rw [pair], by rw [pair]⟩
    · simp only [found, due, Bool.false_eq_true, if_false, Option.some.injEq,
        Prod.mk.injEq] at checked
      refine Or.inl ⟨checked.1.symm, checked.2.symm, fun other same => ?_⟩
      cases same
      simpa using due

/-- A condition on every check of an iteration: the clock reading, the loop state before
the check and the victim checked. -/
def ChecksMeet (cfg : AnalysisConfig F) (persisted : Option (PersistedState F))
    (C : Reading F → AnalysisState F → IpAddr → Prop) (st : AnalysisState F) (it : Iteration F) : Prop :=
  ∀ result ∈ arrive cfg persisted st it,
    Always (checkVictim cfg it.reading) (fun s v _ _ => C it.reading s v) result.1 result.2

/-- The condition on every check of every iteration of a run. -/
def EveryCheck (cfg : AnalysisConfig F) (persisted : Option (PersistedState F))
    (C : Reading F → AnalysisState F → IpAddr → Prop) (st : AnalysisState F)
    (its : List (Iteration F)) : Prop :=
  Always (iterate cfg persisted) (fun st it _ _ => ChecksMeet cfg persisted C st it) st its

section Decidable

variable {C : Reading F → AnalysisState F → IpAddr → Prop} [∀ reading st v, Decidable (C reading st v)]

instance (st : AnalysisState F) (it : Iteration F) : Decidable (ChecksMeet cfg persisted C st it) :=
  inferInstanceAs (Decidable (∀ result ∈ arrive cfg persisted st it, _))

instance (st : AnalysisState F) (its : List (Iteration F)) :
    Decidable (EveryCheck cfg persisted C st its) :=
  decidableAlways st its

end Decidable

theorem everyCheck_true (st : AnalysisState F) (its : List (Iteration F)) :
    EveryCheck cfg persisted (fun _ _ _ => True) st its := by
  induction its generalizing st with
  | nil => trivial
  | cons it its ih => exact fun mid _ _ => ⟨fun _ _ => always_true _ _, ih mid⟩

theorem iterate_cases {st st' : AnalysisState F} {it : Iteration F} {effects : List (Effect F)}
    (iterated : iterate cfg persisted st it = some (st', effects)) :
    ∃ mid victims outs, arrive cfg persisted st it = some (mid, victims) ∧
      run (checkVictim cfg it.reading) mid victims = some (st', outs) ∧ effects = outs.flatten := by
  unfold iterate at iterated
  cases arrived : arrive cfg persisted st it with
  | none => simp [arrived] at iterated
  | some result =>
    rcases result with ⟨mid, victims⟩
    simp only [arrived] at iterated
    obtain ⟨⟨final, outs⟩, ran, pair⟩ := Option.map_eq_some_iff.mp iterated
    cases pair
    exact ⟨mid, victims, outs, rfl, ran, rfl⟩

section History

variable {I : List (Effect F) → Dict IpAddr (TargetState F) → Prop}
  {C : Reading F → AnalysisState F → IpAddr → Prop}

/-- An invariant of the targets and of all effects so far outlasts one iteration if
arrivals keep it, and so does every close that meets the condition. -/
theorem iterate_history
    (admits : ∀ past now before after, I past before → Admits cfg persisted now before after →
      I past after)
    (closes : ∀ past reading st v ts after w, I past st.targetsMap → C reading st v →
      st.targetsMap.get? v = some ts → shouldClose reading.now ts = true →
      closeWindow cfg reading v ts = some (after, w) →
      I (past ++ (settle reading st v after w).2) (st.targetsMap.set v after))
    (past : List (Effect F)) {st st' : AnalysisState F} {it : Iteration F} {effects : List (Effect F)}
    (inv : I past st.targetsMap)
    (meets : ChecksMeet cfg persisted C st it)
    (iterated : iterate cfg persisted st it = some (st', effects)) :
    I (past ++ effects) st'.targetsMap := by
  obtain ⟨mid, victims, outs, arrived, checked, rfl⟩ := iterate_cases iterated
  have recorded := admits _ _ _ _ inv (arrive_spec arrived).1
  have done := run_history_of_always (I := fun more s => I (past ++ more.flatten) s.targetsMap)
    ?_ victims [] mid st' outs (by simpa using recorded) (meets _ arrived) checked
  · simpa using done
  · intro more s v s' out inv taken met
    rcases checkVictim_cases taken with ⟨rfl, rfl, -⟩ | ⟨ts, after, w, found, due, closed, rfl, rfl⟩
    · simpa using inv
    · simpa using closes _ it.reading s v ts after w inv met found due closed

theorem loop_history
    (admits : ∀ past now before after, I past before → Admits cfg persisted now before after →
      I past after)
    (closes : ∀ past reading st v ts after w, I past st.targetsMap → C reading st v →
      st.targetsMap.get? v = some ts → shouldClose reading.now ts = true →
      closeWindow cfg reading v ts = some (after, w) →
      I (past ++ (settle reading st v after w).2) (st.targetsMap.set v after))
    {its : List (Iteration F)} {st final : AnalysisState F} {outs : List (List (Effect F))}
    (start : I [] st.targetsMap) (meets : EveryCheck cfg persisted C st its)
    (ran : run (iterate cfg persisted) st its = some (final, outs)) :
    I outs.flatten final.targetsMap := by
  have done := run_history_of_always (I := fun past s => I past.flatten s.targetsMap)
    (fun past s it s' effects inv iterated met => by
      simpa using iterate_history admits closes _ inv met iterated)
    its [] st final outs (by simpa using start) meets ran
  simpa using done

/-- Each target with the windows closed for it so far; an untracked victim has none. -/
def Tracks (T : IpAddr → List (ClosedWindow F) → TargetState F → Prop) (past : List (Effect F))
    (targets : Dict IpAddr (TargetState F)) : Prop :=
  ∀ v, (targets.get? v = none → closedOf v past = []) ∧
    ∀ ts, targets.get? v = some ts → T v (closedOf v past) ts

variable {T : IpAddr → List (ClosedWindow F) → TargetState F → Prop}

theorem Tracks.admits
    (fresh : ∀ v now ts, TargetState.new cfg.ewmaAlpha (lookup persisted v) now = some ts → T v [] ts)
    (counted : ∀ v history ts ts', T v history ts → TargetState.SameBaseline ts ts' → T v history ts')
    {now : Instant} {past : List (Effect F)} {before after : Dict IpAddr (TargetState F)}
    (tracks : Tracks T past before) (admits : Admits cfg persisted now before after) :
    Tracks T past after := by
  intro v
  obtain ⟨untracked, tracked⟩ := tracks v
  cases found : before.get? v with
  | none =>
    refine ⟨fun _ => untracked found, fun ts' found' => ?_⟩
    obtain ⟨-, ts, created, same⟩ := admits.created v ts' found found'
    rw [untracked found]
    exact counted v [] ts ts' (fresh v now ts created) same
  | some ts =>
    obtain ⟨ts', found', same⟩ := admits.kept v ts found
    rw [found']
    refine ⟨by simp, fun other here => ?_⟩
    cases here
    exact counted v _ ts ts' (tracked ts found) same

theorem Tracks.closes {reading : Reading F} {past : List (Effect F)} {st : AnalysisState F}
    {v : IpAddr} {after : TargetState F} {w : ClosedWindow F}
    (tracks : Tracks T past st.targetsMap) (named : w.victim = v)
    (next : T v (closedOf v past ++ [w]) after) :
    Tracks T (past ++ (settle reading st v after w).2) (st.targetsMap.set v after) := by
  intro u
  rw [closedOf_settle, named]
  by_cases same : u = v
  · subst same
    simpa using next
  · simpa [Dict.get?_set_of_ne _ _ same, Ne.symm same] using tracks u

/-- One invariant of each target and its own windows, and what follows from it for every
effect of the run with everything before it. -/
theorem loop_throughout {Q : List (Effect F) → Effect F → Prop}
    (fresh : ∀ v now ts, TargetState.new cfg.ewmaAlpha (lookup persisted v) now = some ts → T v [] ts)
    (counted : ∀ v history ts ts', T v history ts → TargetState.SameBaseline ts ts' → T v history ts')
    (closes : ∀ history reading st v ts after w, T v history ts → C reading st v →
      st.targetsMap.get? v = some ts → shouldClose reading.now ts = true →
      closeWindow cfg reading v ts = some (after, w) → T v (history ++ [w]) after)
    (effects : ∀ past reading st v ts after w, Tracks T past st.targetsMap → C reading st v →
      st.targetsMap.get? v = some ts → shouldClose reading.now ts = true →
      closeWindow cfg reading v ts = some (after, w) →
      ThroughoutFrom Q past (settle reading st v after w).2)
    {its : List (Iteration F)} {began : Instant} {final : AnalysisState F}
    {outs : List (List (Effect F))} (meets : EveryCheck cfg persisted C (AnalysisState.start began) its)
    (ran : run (iterate cfg persisted) (AnalysisState.start began) its = some (final, outs)) :
    Throughout Q outs.flatten := by
  refine (loop_history (I := fun past targets => Tracks T past targets ∧ Throughout Q past)
    ?_ ?_ ⟨fun v => ⟨fun _ => rfl, fun ts found => ?_⟩, trivial⟩ meets ran).2
  · intro past now before after inv admits
    exact ⟨inv.1.admits fresh counted admits, inv.2⟩
  · intro past reading st v ts after w inv met found due closing
    have next := closes _ reading st v ts after w ((inv.1 v).2 ts found) met found due closing
    exact ⟨inv.1.closes (closeWindow_spec closing).1.named next,
      throughout_append.mpr ⟨inv.2, effects past reading st v ts after w inv.1 met found due closing⟩⟩
  · cases found

end History

theorem run_closes {its : List (Iteration F)} {st final : AnalysisState F}
    {outs : List (List (Effect F))} (ran : run (iterate cfg persisted) st its = some (final, outs)) :
    ∀ w ∈ closedWindows outs.flatten, ∃ reading victim ts after,
      closeWindow cfg reading victim ts = some (after, w) := by
  refine loop_history (I := fun past _ => ∀ w ∈ closedWindows past, ∃ reading victim ts after,
      closeWindow cfg reading victim ts = some (after, w))
    (C := fun _ _ _ => True) (fun _ _ _ _ inv _ => inv) ?_ (by simp [closedWindows])
    (everyCheck_true _ its) ran
  intro past reading st v ts after u inv _ _ _ closing w member
  rw [closedWindows_append, closedWindows_settle, List.mem_append, List.mem_singleton] at member
  rcases member with earlier | rfl
  · exact inv w earlier
  · exact ⟨reading, v, ts, after, closing⟩

/-! Concrete iterations, for the runs shown beside the theorems they are about. -/

def readingAt (now : Instant) : Reading F where
  now := now
  timestamp := secondsSince now 0
  sendOk := fun _ => true
  hosts := .inserted
  sources := fun _ => .inserted

def tickAt (now : Instant) : Iteration ℚ := ⟨readingAt now, .timeout⟩

def seenAt (direction : Direction) (now : Instant) (source victim : BitVec 32) : Iteration ℚ where
  reading := readingAt now
  arrival := .packet
    { direction := direction
      srcIp := .v4 source
      dstIp := .v4 victim
      protocol := .tcp
      dstPort := 443
      sourcePort := 50000
      ttl := 64
      fingerprintBucket := none }

abbrev packetAt : Instant → BitVec 32 → BitVec 32 → Iteration ℚ := seenAt .ingress

/-- A baseline just past warm-up that has never varied. -/
def steadyBaseline (rate entropy : ℚ) : PersistedBaseline ℚ where
  rateN := warmupWindows
  rateMean := rate
  rateM2 := 0
  entropyN := warmupWindows
  entropyMean := entropy
  entropyM2 := 0
  ewmaRate := rate
  cooldownCounter := 0
  peacetimeRateRef := none
  peacetimeEntropyRef := none

def restored (victims : List (BitVec 32 × PersistedBaseline ℚ)) : Option (PersistedState ℚ) :=
  some ⟨0, victims.foldl (fun saved e => saved.set (.v4 e.1) e.2) Dict.empty⟩

/-- A baseline of ten packets a second, saved while the smoothed rate was the given one. -/
def savedAtRate (rate : ℚ) : Option (PersistedState ℚ) :=
  restored [(0x0A000001, { steadyBaseline 10 0 with ewmaRate := rate })]

/-- A run that resumes from it. -/
def resumedAt (cfg : AnalysisConfig ℚ) (rate : ℚ) (its : List (Iteration ℚ)) :
    Option (AnalysisState ℚ × List (List (Effect ℚ))) :=
  run (iterate cfg (savedAtRate rate)) (AnalysisState.start 0) its

end Flod.Stage1
