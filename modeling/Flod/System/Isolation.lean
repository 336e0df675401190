import Flod.Lib.Unwinding
import Flod.Stage1.HostMonitor
import Flod.Stage2.AttackAlerts
import Flod.System.Hysteresis

/-! One host's traffic and the judgement of another. Stage 1 closes a host's windows as a monitor
of that host alone would; of what Stage 2 remembers, a host's class, calls and attack alerts
depend on what it remembers of that host. -/

namespace Flod.System
open Flod.Lib Flod.Net Flod.Ipc Flod.Stage1 Flod.Stage2

variable {F : Type} [Arith F]

/-- What Stage 2 remembers of a host and decides by. -/
def standing (host : String) (st : ReceiverState F) : Nat × Option Bool :=
  (st.view.consecutiveDdosWindows.getD host 0, (st.view.lastClassificationByTarget.get? host).map isAttack)

/-- What Stage 2 reads to judge a host: its settings, its models and the rates of the host's sources. -/
structure Briefing (F : Type) where
  cfg : EnforcementConfig F
  clf : Option (List F → Int)
  ifClf : Option (List F → Bool)
  rates : Dict String F

def briefing (host : String) (env : WindowEnv F) : Briefing F where
  cfg := env.cfg
  clf := env.clf
  ifClf := env.ifClf
  rates := loadVictimFlowRates env host

/-- What is decided about a window: its class, its name, the calls of the tiers and the attack alerts. -/
structure Judgement (F : Type) where
  predClass : Int
  name : Classification
  calls : List (TierCall F)
  alerts : List (Bool × String × FeatureVector F)

def judgement (h : Handled F) : Judgement F where
  predClass := h.predClass
  name := h.name
  calls := h.calls
  alerts := h.alerts.filterMap attackAlert

/-- The windows of one host, each with what Stage 2 decided if it got to see it. -/
def judgedOf (v : IpAddr) (o : Outcome F) : List (ClosedWindow F × Option (Judgement F)) :=
  if o.window.victim = v then [(o.window, o.handled.map judgement)] else []

section Step

variable {host : String} {env env' : WindowEnv F} {st st' : ReceiverState F} {fv : FeatureVector F}

theorem classify_briefed (briefed : briefing host env = briefing host env') : classify env fv = classify env' fv := by
  obtain ⟨cfg, clf, -, -⟩ := Briefing.mk.inj briefed
  simp only [classify, cfg, clf]

theorem windowName_briefed (briefed : briefing host env = briefing host env') :
    windowName env fv = windowName env' fv := by
  obtain ⟨-, -, forest, -⟩ := Briefing.mk.inj briefed
  unfold windowName isAnomalous
  rw [classify_briefed briefed, forest]

theorem windowCalls_briefed (briefed : briefing host env = briefing host env')
    (streak : st.view.consecutiveDdosWindows.getD host 0 = st'.view.consecutiveDdosWindows.getD host 0)
    (named : victimText env st.view fv = host) (named' : victimText env' st'.view fv = host) :
    windowCalls env st.view fv = windowCalls env' st'.view fv := by
  obtain ⟨cfg, -, -, rates⟩ := Briefing.mk.inj briefed
  have inputs : tierInputs env st.view fv = tierInputs env' st'.view fv := by
    simp only [tierInputs, named, named', cfg, classify_briefed briefed, nextConsecutive, streak]
    rw [show loadVictimFlowRates env host = loadVictimFlowRates env' host from rates]
  simp only [windowCalls, inputs, named, named', cfg, classify_briefed briefed]

/-- A window of the host is judged by what Stage 2 remembers of it and is briefed with. -/
theorem handleWindow_briefed (raises raises' : Bool) (briefed : briefing host env = briefing host env')
    (same : standing host st = standing host st')
    (named : victimText env st.view fv = host) (named' : victimText env' st'.view fv = host) :
    standing host (handleWindow st ⟨env, raises, fv⟩).1 = standing host (handleWindow st' ⟨env', raises', fv⟩).1 ∧
      judgement (handleWindow st ⟨env, raises, fv⟩).2 = judgement (handleWindow st' ⟨env', raises', fv⟩).2 := by
  obtain ⟨streak, last⟩ := Prod.mk.inj same
  have class' : classify env fv = classify env' fv := classify_briefed briefed
  have name : windowName env fv = windowName env' fv := windowName_briefed briefed
  have calls := windowCalls_briefed briefed streak named named'
  constructor
  · have moves : ∀ (s : ReceiverState F) (e : WindowEnv F) (r : Bool), victimText e s.view fv = host →
        standing host (handleWindow s ⟨e, r, fv⟩).1 =
          (if (classify e fv).1 = 2 then s.view.consecutiveDdosWindows.getD host 0 + 1 else 0,
            some (isAttack (windowName e fv))) := by
      intro s e r filed
      have view : (handleWindow s ⟨e, r, fv⟩).1.view = nextView e s.view fv := rfl
      simp only [standing, view, nextView, filed, nextConsecutive, Dict.getD, Dict.get?_set_self,
        Option.getD_some, Option.map_some]
    rw [moves st env raises named, moves st' env' raises' named', class', name, streak]
  · have alerts := handleWindow_notices st ⟨env, raises, fv⟩
    have alerts' := handleWindow_notices st' ⟨env', raises', fv⟩
    dsimp only at alerts alerts'
    rw [named, class', last] at alerts
    rw [named'] at alerts'
    have told := alerts.trans alerts'.symm
    unfold judgement
    rw [told]
    exact congr (congr (congr (congrArg Judgement.mk (congrArg Prod.fst class')) name) calls) rfl

theorem handleWindow_elsewhere (a : Arrived F) (other : victimText a.env st.view a.fv ≠ host) :
    standing host (handleWindow st a).1 = standing host st := by
  have view : (handleWindow st a).1.view = nextView a.env st.view a.fv := rfl
  simp only [standing, view, nextView, Dict.getD, Dict.get?_set_of_ne _ _ (Ne.symm other)]

end Step

/-- What holds of the windows Stage 1 sends, where Stage 2 can tell the host's from the others'. -/
structure Legible (v : IpAddr) (c : Closing F) : Prop where
  addressed : ∀ fv, c.window.sent = some fv → fv.victimIp = c.window.victim
  named : victimName c.window ∉ sentinelTexts
  apart : victimName c.window = decodeIp v.slot → c.window.victim = v

/-- The window is the host's own. -/
def ownWindow (v : IpAddr) (c : Closing F) : Bool := decide (c.window.victim = v)

section Relay

variable {v : IpAddr} {c c' : Closing F} {st st' : ReceiverState F}

omit [Arith F] in
theorem Legible.victimText (legible : Legible v c) {fv : FeatureVector F} (arrived : c.reached = some fv) (view : View F) :
    victimText c.env view fv = victimName c.window := by
  have sent : c.window.sent = some fv := by
    unfold Closing.reached at arrived
    split at arrived
    · exact arrived
    · cases arrived
  have address := legible.addressed fv sent
  rw [victimText_of_address (by rw [address]; exact legible.named), address, victimName]

theorem relay_alike (legible : Legible v c) (legible' : Legible v c') (own : c.window.victim = v)
    (window : c.window = c'.window)
    (briefed : briefing (decodeIp v.slot) c.env = briefing (decodeIp v.slot) c'.env)
    (same : standing (decodeIp v.slot) st = standing (decodeIp v.slot) st') :
    shown (standing (decodeIp v.slot)) (judgedOf v) (relay st c) =
      shown (standing (decodeIp v.slot)) (judgedOf v) (relay st' c') := by
  have reached : c.reached = c'.reached := by simp only [Closing.reached, window]
  have own' : c'.window.victim = v := window ▸ own
  unfold relay
  cases arrived : c'.reached with
  | none => simp [reached, arrived, shown, judgedOf, own', same, window]
  | some fv =>
    rw [arrived] at reached
    have named : victimText c.env st.view fv = decodeIp v.slot := by
      rw [legible.victimText reached, victimName, own]
    have named' : victimText c'.env st'.view fv = decodeIp v.slot := by
      rw [legible'.victimText arrived, victimName, own']
    obtain ⟨moves, judged⟩ := handleWindow_briefed c.reportRaises c'.reportRaises briefed same named named'
    simp [reached, shown, judgedOf, own', moves, judged, window]

theorem relay_silent (legible : Legible v c) (other : ownWindow v c = false) (st : ReceiverState F) :
    ∃ mid o, relay st c = some (mid, o) ∧
      standing (decodeIp v.slot) mid = standing (decodeIp v.slot) st ∧ judgedOf v o = [] := by
  have foreign : c.window.victim ≠ v := by simpa [ownWindow] using other
  unfold relay
  cases arrived : c.reached with
  | none => exact ⟨st, _, rfl, rfl, by simp [judgedOf, foreign]⟩
  | some fv =>
    have elsewhere : victimText c.env st.view fv ≠ decodeIp v.slot := by
      rw [legible.victimText arrived]
      exact mt legible.apart foreign
    refine ⟨_, _, rfl, ?_, by simp [judgedOf, foreign]⟩
    exact handleWindow_elsewhere ⟨c.env, c.reportRaises, fv⟩ elsewhere

end Relay

/-- Stage 2 judges a host by its own windows: two runs in which those are the same, and the
briefings for them, decide the same about each of them, whatever else they handle. -/
theorem relay_apart {v : IpAddr} {closings closings' : List (Closing F)} {st st' : ReceiverState F}
    (legible : ∀ c ∈ closings, Legible v c) (legible' : ∀ c ∈ closings', Legible v c)
    (alike : (closings.filter (ownWindow v)).map (fun c => (c.window, briefing (decodeIp v.slot) c.env)) =
      (closings'.filter (ownWindow v)).map (fun c => (c.window, briefing (decodeIp v.slot) c.env)))
    (same : standing (decodeIp v.slot) st = standing (decodeIp v.slot) st') :
    shown (standing (decodeIp v.slot)) (List.flatMap (judgedOf v)) (run relay st closings) =
      shown (standing (decodeIp v.slot)) (List.flatMap (judgedOf v)) (run relay st' closings') := by
  have alone : ∀ {cs : List (Closing F)}, (∀ c ∈ cs, Legible v c) → ∀ s : ReceiverState F,
      shown (standing (decodeIp v.slot)) (List.flatMap (judgedOf v)) (run relay s cs) =
        shown (standing (decodeIp v.slot)) (List.flatMap (judgedOf v)) (run relay s (cs.filter (ownWindow v))) := by
    intro cs legible s
    refine run_filtered (fun c member own => ?_) (fun c member other => relay_silent (legible c member) other) rfl
    have proper := legible c member
    exact fun s s' same => relay_alike proper proper (by simpa [ownWindow] using own) rfl rfl same
  have each : List.Forall₂ (fun c c' => ∀ s s', standing (decodeIp v.slot) s = standing (decodeIp v.slot) s' →
      shown (standing (decodeIp v.slot)) (judgedOf v) (relay s c) =
        shown (standing (decodeIp v.slot)) (judgedOf v) (relay s' c'))
      (closings.filter (ownWindow v)) (closings'.filter (ownWindow v)) := by
    have pairs : List.Forall₂ (fun c c' : Closing F =>
        (c.window, briefing (decodeIp v.slot) c.env) = (c'.window, briefing (decodeIp v.slot) c'.env))
        (closings.filter (ownWindow v)) (closings'.filter (ownWindow v)) := by
      rw [← List.forall₂_map_right_iff, ← List.forall₂_map_left_iff, List.forall₂_eq_eq_eq]
      exact alike
    have known := (List.forall₂_and_left _ _).mpr
      ⟨fun c' (member : c' ∈ closings'.filter (ownWindow v)) => legible' c' (List.mem_of_mem_filter member), pairs.flip⟩
    have both := (List.forall₂_and_left _ _).mpr
      ⟨fun c (member : c ∈ closings.filter (ownWindow v)) => List.mem_filter.mp member, known.flip⟩
    refine both.imp fun c c' facts s s' same => ?_
    obtain ⟨⟨member, own⟩, proper', pair⟩ := facts
    obtain ⟨window, briefed⟩ := Prod.mk.inj pair
    exact relay_alike (legible c member) proper' (by simpa [ownWindow] using own) window briefed same
  calc shown (standing (decodeIp v.slot)) (List.flatMap (judgedOf v)) (run relay st closings)
      = shown (standing (decodeIp v.slot)) (List.flatMap (judgedOf v))
          (run relay st (closings.filter (ownWindow v))) := alone legible st
    _ = shown (standing (decodeIp v.slot)) (List.flatMap (judgedOf v))
          (run relay st' (closings'.filter (ownWindow v))) := run_alike each same
    _ = shown (standing (decodeIp v.slot)) (List.flatMap (judgedOf v)) (run relay st' closings') :=
        (alone legible' st').symm

omit [Arith F] in
theorem ownWindows_of_closed {v : IpAddr} {closings : List (Closing F)} {effects : List (Effect F)}
    (closed : closings.map Closing.window = closedWindows effects) :
    (closings.filter (ownWindow v)).map Closing.window = closedOf v effects := by
  rw [closedOf, ← closed, List.filter_map]
  rfl

/-- Two runs of both stages in which a protected host gets the same packets and is looked at with
the same clocks, from the same saved baseline: its windows close alike, and with the same settings,
models and source rates Stage 2 gives them the same class, calls and attack alerts. The other
hosts' traffic, the other saved baselines and the playbooks are free to differ. -/
theorem hosts_judged_apart (cfg : AnalysisConfig F) (persisted persisted' : Option (PersistedState F))
    (began began' : Instant) (its its' : List (Iteration F)) (roomy : Roomy cfg its) (roomy' : Roomy cfg its')
    (v : IpAddr) (guarded : cfg.isEffectivelyProtected v = true)
    (baseline : lookup persisted v = lookup persisted' v)
    (alike : its.flatMap (Iteration.about v) = its'.flatMap (Iteration.about v))
    (stopped stopped' : AnalysisState F) (effects effects' : List (List (Effect F)))
    (ran : run (iterate cfg persisted) (AnalysisState.start began) its = some (stopped, effects))
    (ran' : run (iterate cfg persisted') (AnalysisState.start began') its' = some (stopped', effects'))
    (closings closings' : List (Closing F))
    (closed : closings.map Closing.window = closedWindows effects.flatten)
    (closed' : closings'.map Closing.window = closedWindows effects'.flatten)
    (briefed : (closings.filter (ownWindow v)).map (fun c => briefing (decodeIp v.slot) c.env) =
      (closings'.filter (ownWindow v)).map (fun c => briefing (decodeIp v.slot) c.env))
    (legible : ∀ c ∈ closings ++ closings', victimName c.window ∉ sentinelTexts ∧
      (victimName c.window = decodeIp v.slot → c.window.victim = v))
    (playbooks playbooks' : List (Playbook F)) (final final' : ReceiverState F)
    (outcomes outcomes' : List (Outcome F))
    (handled : run relay (ReceiverState.start playbooks) closings = some (final, outcomes))
    (handled' : run relay (ReceiverState.start playbooks') closings' = some (final', outcomes')) :
    outcomes.flatMap (judgedOf v) = outcomes'.flatMap (judgedOf v) := by
  obtain ⟨outs, own, windows⟩ := loop_about guarded roomy (listed_of_heard its) (List.nil_subset _) ran
  obtain ⟨outs', own', windows'⟩ := loop_about guarded roomy' (listed_of_heard its') (List.nil_subset _) ran'
  have same : closedOf v effects.flatten = closedOf v effects'.flatten := by
    have start : ∀ t : Instant, (AnalysisState.start t : AnalysisState F).targetsMap.get? v = none := fun _ => rfl
    rw [start, alike, baseline] at own
    rw [start] at own'
    rw [own] at own'
    rw [← windows, ← windows', (Prod.mk.inj (Option.some.inj own')).2]
  have pairs : (closings.filter (ownWindow v)).map (fun c => (c.window, briefing (decodeIp v.slot) c.env)) =
      (closings'.filter (ownWindow v)).map (fun c => (c.window, briefing (decodeIp v.slot) c.env)) := by
    rw [← List.zip_map', ← List.zip_map', briefed]
    congr 1
    exact (ownWindows_of_closed closed).trans (same.trans (ownWindows_of_closed closed').symm)
  have proper : ∀ {cs : List (Closing F)} {es : List (List (Effect F))} {stop : AnalysisState F}
      {saved : Option (PersistedState F)} {since : Instant} {turns : List (Iteration F)},
      run (iterate cfg saved) (AnalysisState.start since) turns = some (stop, es) →
      cs.map Closing.window = closedWindows es.flatten → cs ⊆ closings ++ closings' → ∀ c ∈ cs, Legible v c := by
    intro cs es stop saved since turns ran closed within c member
    have ours : c.window ∈ closedWindows es.flatten := closed ▸ List.mem_map_of_mem member
    obtain ⟨reading, victim, ts, after, closing⟩ := run_closes ran c.window ours
    have closes := (closeWindow_spec closing).1
    obtain ⟨named, apart⟩ := legible c (within member)
    exact ⟨fun fv sent => (closes.addressed fv sent).trans closes.named.symm, named, apart⟩
  have shows := relay_apart (proper ran closed (List.subset_append_left _ _))
    (proper ran' closed' (List.subset_append_right _ _)) pairs
    (show standing _ (ReceiverState.start playbooks) = standing _ (ReceiverState.start playbooks') from rfl)
  rw [handled, handled'] at shows
  exact (Prod.mk.inj (Option.some.inj shows)).2

section Neighbours

/-- The same windows and timeouts without the neighbour. -/
def oneHost : List (Iteration ℚ) := twoHosts.tail

theorem briefings_closingsOf (host : String) (v : IpAddr) (effects : List (List (Effect ℚ))) :
    ((closingsOf effects).filter (ownWindow v)).map (fun c => briefing host c.env) =
      List.replicate (closedOf v effects.flatten).length
        (briefing host (plainEnv EnforcementConfig.default 100 [])) := by
  have windows : (closingsOf effects).map Closing.window = closedWindows effects.flatten := by
    simp [closingsOf, Function.comp_def]
  rw [← ownWindows_of_closed windows, List.length_map, List.eq_replicate_iff]
  refine ⟨by simp, fun b member => ?_⟩
  obtain ⟨c, listed, rfl⟩ := List.mem_map.mp member
  obtain ⟨w, -, rfl⟩ := List.mem_map.mp (List.mem_of_mem_filter listed)
  rfl

/-- A neighbour's window more or less, and the host is judged alike. -/
theorem neighbour_leaves_judgement :
    ∃ stopped effects stopped' effects',
      run (iterate AnalysisConfig.default none) (AnalysisState.start 0) twoHosts = some (stopped, effects) ∧
      run (iterate AnalysisConfig.default none) (AnalysisState.start 0) oneHost = some (stopped', effects') ∧
      (closedWindows effects.flatten).length = 2 ∧ (closedWindows effects'.flatten).length = 1 ∧
      ∀ final final' outcomes outcomes',
        run relay (ReceiverState.start []) (closingsOf effects) = some (final, outcomes) →
        run relay (ReceiverState.start []) (closingsOf effects') = some (final', outcomes') →
        outcomes.flatMap (judgedOf (.v4 0x0A000001)) = outcomes'.flatMap (judgedOf (.v4 0x0A000001)) := by
  have one : ∃ stopped effects,
      run (iterate AnalysisConfig.default none) (AnalysisState.start 0) twoHosts = some (stopped, effects) ∧
        (closedWindows effects.flatten).length = 2 ∧ (closedOf (.v4 0x0A000001) effects.flatten).length = 1 ∧
        ∀ w ∈ closedWindows effects.flatten, victimName w ∉ sentinelTexts ∧
          (victimName w = decodeIp (IpAddr.v4 0x0A000001).slot → w.victim = .v4 0x0A000001) := by
    decide +kernel
  have other : ∃ stopped effects,
      run (iterate AnalysisConfig.default none) (AnalysisState.start 0) oneHost = some (stopped, effects) ∧
        (closedWindows effects.flatten).length = 1 ∧ (closedOf (.v4 0x0A000001) effects.flatten).length = 1 ∧
        ∀ w ∈ closedWindows effects.flatten, victimName w ∉ sentinelTexts ∧
          (victimName w = decodeIp (IpAddr.v4 0x0A000001).slot → w.victim = .v4 0x0A000001) := by
    decide +kernel
  obtain ⟨stopped, effects, ran, two, mine, legible⟩ := one
  obtain ⟨stopped', effects', ran', single, mine', legible'⟩ := other
  have windows : ∀ es : List (List (Effect ℚ)), (closingsOf es).map Closing.window = closedWindows es.flatten := by
    intro es
    simp [closingsOf, Function.comp_def]
  refine ⟨stopped, effects, stopped', effects', ran, ran', two, single, fun final final' outcomes outcomes' => ?_⟩
  refine hosts_judged_apart AnalysisConfig.default none none 0 0 twoHosts oneHost (by decide +kernel)
    (by decide +kernel) (.v4 0x0A000001) (by decide +kernel) rfl rfl stopped stopped' effects effects' ran ran' _ _
    (windows effects) (windows effects') ?_ ?_ [] [] final final' outcomes outcomes'
  · rw [briefings_closingsOf, briefings_closingsOf, mine, mine']
  · intro c member
    rcases List.mem_append.mp member with here | there
    · obtain ⟨w, closed, rfl⟩ := List.mem_map.mp here
      exact legible w closed
    · obtain ⟨w, closed, rfl⟩ := List.mem_map.mp there
      exact legible' w closed

end Neighbours

end Flod.System
