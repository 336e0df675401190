import Flod.Lib.Unwinding
import Flod.Stage2.Playbook

/-! The Isolation Forest only ever changes a label. Runs that differ in its opinions alone
classify alike, enforce alike, count alike, alert at the same windows and give the playbooks
the same inputs. -/

namespace Flod.Stage2
open Flod.Lib Flod.Net Flod.Ipc

variable {F : Type} [Arith F]

/-! What the forest is kept out of. -/

/-- The same window without an Isolation Forest loaded. -/
def Arrived.withoutForest (a : Arrived F) : Arrived F := { a with env := { a.env with ifClf := none } }

/-- An alert that an attack was detected, or resolved, without the label it resolved to. -/
def attackAlert : Alert F → Option (Bool × String × FeatureVector F)
  | .ddosDetected victimIp fv => some (true, victimIp, fv)
  | .ddosResolved victimIp _ fv => some (false, victimIp, fv)
  | _ => none

/-- What is handed to the playbooks after a window. -/
structure PlaybookInputs (F : Type) where
  host : String
  seen : TriggerState
  source : Option String
  now : F

/-- Everything about one window but its label. -/
structure Observation (F : Type) where
  predClass : Int
  calls : List (Call F)
  consecutiveDdosWindows : Dict String Nat
  lastTierReached : Dict String Nat
  attackAlerts : List (Bool × String × FeatureVector F)
  playbookInputs : PlaybookInputs F

def observation (st : ReceiverState F) (a : Arrived F) (after : ReceiverState F) (handled : Handled F) :
    Observation F where
  predClass := handled.predClass
  calls := handled.calls.map (·.call) ++ playbookCalls st a
  consecutiveDdosWindows := after.view.consecutiveDdosWindows
  lastTierReached := after.view.lastTierReached
  attackAlerts := handled.alerts.filterMap attackAlert
  playbookInputs :=
    { host := handled.victimIp
      seen := triggerState after.view handled.victimIp
      source := if dominantKnown a.fv then some handled.dominantIp else none
      now := a.fv.timestamp }

/-- The receiver, each window with what is observed of it. -/
def watch (st : ReceiverState F) (a : Arrived F) : Option (ReceiverState F × Observation F) :=
  (receive st a).map (fun result => (result.1, observation st a result.1 result.2))

/-- The receiver's state up to labels: which hosts are under attack, but not what the others
are called, and nothing of the incident rows. -/
structure Unlabelled (F : Type) where
  underAttack : Dict String Bool
  lastMetricsByTarget : Dict String (FeatureVector F)
  consecutiveDdosWindows : Dict String Nat
  lastTierReached : Dict String Nat
  lastBlockAlert : Dict String F
  playbooks : PlaybookStore F

def isAttack (name : Classification) : Bool := decide (name = .ddos)

def ReceiverState.unlabelled (st : ReceiverState F) : Unlabelled F where
  underAttack := st.view.lastClassificationByTarget.mapValues isAttack
  lastMetricsByTarget := st.view.lastMetricsByTarget
  consecutiveDdosWindows := st.view.consecutiveDdosWindows
  lastTierReached := st.view.lastTierReached
  lastBlockAlert := st.view.lastBlockAlert
  playbooks := st.playbooks

omit [Arith F] in
theorem ReceiverState.unlabelled_iff {st st' : ReceiverState F} :
    st.unlabelled = st'.unlabelled ↔
      st.view.lastClassificationByTarget.mapValues isAttack =
          st'.view.lastClassificationByTarget.mapValues isAttack ∧
        st.view.lastMetricsByTarget = st'.view.lastMetricsByTarget ∧
        st.view.consecutiveDdosWindows = st'.view.consecutiveDdosWindows ∧
        st.view.lastTierReached = st'.view.lastTierReached ∧
        st.view.lastBlockAlert = st'.view.lastBlockAlert ∧ st.playbooks = st'.playbooks := by
  simp only [ReceiverState.unlabelled, Unlabelled.mk.injEq]

/-- The forest is only asked about windows of class 0 and 1. -/
theorem windowName_isAttack (env : WindowEnv F) (fv : FeatureVector F) :
    isAttack (windowName env fv) = decide ((classify env fv).1 = 2) := by
  unfold windowName isAttack
  by_cases attack : (classify env fv).1 = 2
  · simp [attack, isAnomalous, className]
  · dsimp only
    split_ifs
    · simp [attack]
    · unfold className
      split_ifs <;> simp [attack]

theorem windowName_withoutForest (a : Arrived F) :
    isAttack (windowName a.env a.fv) = isAttack (windowName a.withoutForest.env a.fv) := by
  rw [windowName_isAttack, windowName_isAttack]
  rfl

omit [Arith F] in
theorem triggerState_of_underAttack {view view' : View F}
    (labels : view.lastClassificationByTarget.mapValues isAttack =
      view'.lastClassificationByTarget.mapValues isAttack)
    (tiers : view.lastTierReached = view'.lastTierReached)
    (streaks : view.consecutiveDdosWindows = view'.consecutiveDdosWindows) (victimIp : String) :
    triggerState view victimIp = triggerState view' victimIp := by
  have attacked : ∀ labels : Dict String Classification, (labels.values.filter (· = .ddos)).length =
      ((labels.mapValues isAttack).values.filter id).length := by
    intro labels
    simp only [Dict.values, Dict.mapValues, List.map_map, List.filter_map, List.length_map]
    rfl
  unfold triggerState
  rw [attacked, attacked, labels, tiers, streaks]

omit [Arith F] in
/-- Whether a transition is alerted depends on the attack alone. -/
theorem transitionAlerts_attack (previous : Option Classification) (name : Classification)
    (victimIp : String) (fv : FeatureVector F) :
    (transitionAlerts previous name victimIp fv).filterMap attackAlert =
      if isAttack name then
        if previous.map isAttack = some true then [] else [(true, victimIp, fv)]
      else if previous.map isAttack = some true then [(false, victimIp, fv)] else [] := by
  have before : previous.map isAttack = some true ↔ previous = some .ddos := by
    simp [isAttack]
  unfold transitionAlerts
  by_cases now : name = .ddos
  · by_cases earlier : previous = some .ddos
    · simp [now, earlier, isAttack]
    · simp [now, earlier, before, isAttack, attackAlert]
  · by_cases earlier : previous = some .ddos
    · simp [now, earlier, isAttack, attackAlert]
    · simp [now, earlier, before, isAttack]

theorem alertBlocks_withoutForest (a : Arrived F) (calls : List (TierCall F)) (alerted : Dict String F) :
    alertBlocks a.env alerted calls = alertBlocks a.withoutForest.env alerted calls := by
  induction calls generalizing alerted with
  | nil => rfl
  | cons c rest ih =>
    unfold alertBlocks
    simp only [ih]
    rfl

/-! The playbooks never read the firewall. -/

def PassState.offFirewall (st : PassState F) : PlaybookStore F × List (Alert F) := (st.store, st.alerts)

theorem advanceRun_offFirewall (env : PassEnv F) (run : PlaybookRun F) {st st' : PassState F}
    (same : st.offFirewall = st'.offFirewall) :
    (advanceRun env st run).map PassState.offFirewall = (advanceRun env st' run).map PassState.offFirewall := by
  rcases st with ⟨store, fw, alerts⟩
  rcases st' with ⟨store', fw', alerts'⟩
  simp only [PassState.offFirewall, Prod.mk.injEq] at same
  obtain ⟨rfl, rfl⟩ := same
  unfold advanceRun
  dsimp only
  split
  · rfl
  · split
    · rfl
    · rfl
    · split
      · rfl
      · split_ifs
        · rfl
        · cases executeStage env.cfg env.reportRaises _ run <;> rfl
        · cases executeStage env.cfg env.reportRaises _ run <;> rfl

theorem advanceRuns_offFirewall (env : PassEnv F) (runs : List (PlaybookRun F)) {st st' : PassState F}
    (same : st.offFirewall = st'.offFirewall) :
    (advanceRuns env st runs).offFirewall = (advanceRuns env st' runs).offFirewall ∧
      advanceCalls env st runs = advanceCalls env st' runs := by
  induction runs generalizing st st' with
  | nil => exact ⟨same, rfl⟩
  | cons run rest ih =>
    have step := advanceRun_offFirewall env run same
    have store : st.store = st'.store := congrArg Prod.fst same
    unfold advanceRuns advanceCalls
    cases first : advanceRun env st run with
    | none =>
      cases second : advanceRun env st' run with
      | none => exact ⟨same, rfl⟩
      | some next' => simp [first, second] at step
    | some next =>
      cases second : advanceRun env st' run with
      | none => simp [first, second] at step
      | some next' =>
        simp only [first, second, Option.map_some, Option.some.injEq] at step
        obtain ⟨later, calls⟩ := ih step
        exact ⟨later, by simp only [store, calls]⟩

theorem playbookPass_offFirewall (env : PassEnv F) (host : String) (seen : TriggerState)
    (source : Option String) (store : PlaybookStore F) (fw fw' : Firewall F) :
    (playbookPass env host seen source store fw).offFirewall =
        (playbookPass env host seen source store fw').offFirewall ∧
      passCalls env host seen source store fw = passCalls env host seen source store fw' := by
  unfold playbookPass passCalls
  dsimp only
  split_ifs
  · exact advanceRuns_offFirewall _ _ rfl
  · exact ⟨rfl, rfl⟩

/-- What the playbooks make of a window. -/
def windowPass (st : ReceiverState F) (a : Arrived F) : PassState F :=
  playbookPass
    { outside := a.env.outside
      cfg := a.env.cfg
      reported := (nextView a.env st.view a.fv).lastMetricsByTarget.keys
      reportRaises := a.reportRaises
      now := a.fv.timestamp }
    (victimText a.env st.view a.fv)
    (triggerState (nextView a.env st.view a.fv) (victimText a.env st.view a.fv))
    (if dominantKnown a.fv then some (dominantText a.fv) else none) st.playbooks
    (enforceWindow a.env st.view st.firewall a.fv)

theorem handleWindow_eq (st : ReceiverState F) (a : Arrived F) :
    handleWindow st a = (⟨nextView a.env st.view a.fv, (windowPass st a).firewall, (windowPass st a).store⟩,
      { handledWindow a.env st.view a.fv with
        alerts := (handledWindow a.env st.view a.fv).alerts ++ (windowPass st a).alerts }) := rfl

theorem observation_handleWindow (st : ReceiverState F) (a : Arrived F) :
    observation st a (handleWindow st a).1 (handleWindow st a).2 =
      { predClass := (classify a.env a.fv).1
        calls := (windowCalls a.env st.view a.fv).map (·.call) ++ playbookCalls st a
        consecutiveDdosWindows := (nextView a.env st.view a.fv).consecutiveDdosWindows
        lastTierReached := (nextView a.env st.view a.fv).lastTierReached
        attackAlerts := (handledWindow a.env st.view a.fv).alerts.filterMap attackAlert ++
          (windowPass st a).alerts.filterMap attackAlert
        playbookInputs :=
          { host := victimText a.env st.view a.fv
            seen := triggerState (nextView a.env st.view a.fv) (victimText a.env st.view a.fv)
            source := if dominantKnown a.fv then some (dominantText a.fv) else none
            now := a.fv.timestamp } } := by
  rw [← List.filterMap_append]
  rfl

/-! One window of two receivers that differ in labels. -/

section Alike

variable {st st' : ReceiverState F} (same : st.unlabelled = st'.unlabelled) (a : Arrived F)

include same

omit [Arith F] in
theorem victimText_alike :
    victimText a.env st.view a.fv = victimText a.withoutForest.env st'.view a.fv := by
  obtain ⟨-, metrics, -⟩ := ReceiverState.unlabelled_iff.mp same
  exact congrArg (fun seen : Dict String (FeatureVector F) =>
    resolveVictimIp a.env.outside.victims seen.keys (decodeIp a.fv.victimIp.slot)) metrics

theorem tierInputs_alike :
    tierInputs a.env st.view a.fv = tierInputs a.withoutForest.env st'.view a.fv := by
  obtain ⟨-, -, streaks, -⟩ := ReceiverState.unlabelled_iff.mp same
  unfold tierInputs nextConsecutive
  rw [victimText_alike same a, streaks]
  rfl

theorem windowCalls_alike :
    windowCalls a.env st.view a.fv = windowCalls a.withoutForest.env st'.view a.fv := by
  unfold windowCalls
  rw [tierInputs_alike same a, victimText_alike same a]
  rfl

theorem nextView_alike (fw fw' : Firewall F) :
    (⟨nextView a.env st.view a.fv, fw, st.playbooks⟩ : ReceiverState F).unlabelled =
      (⟨nextView a.withoutForest.env st'.view a.fv, fw', st'.playbooks⟩ : ReceiverState F).unlabelled := by
  obtain ⟨labels, metrics, streaks, tiers, alerted, playbooks⟩ := ReceiverState.unlabelled_iff.mp same
  unfold ReceiverState.unlabelled nextView nextConsecutive
  dsimp only
  rw [Dict.mapValues_set, Dict.mapValues_set, labels, windowName_withoutForest, metrics, streaks, tiers, alerted, playbooks,
    victimText_alike same a, windowCalls_alike same a, alertBlocks_withoutForest]
  rfl

theorem handledWindow_alike :
    (handledWindow a.env st.view a.fv).alerts.filterMap attackAlert =
      (handledWindow a.withoutForest.env st'.view a.fv).alerts.filterMap attackAlert := by
  obtain ⟨labels, -, -, -, alerted, -⟩ := ReceiverState.unlabelled_iff.mp same
  have previous : ∀ victimIp, (st.view.lastClassificationByTarget.get? victimIp).map isAttack =
      (st'.view.lastClassificationByTarget.get? victimIp).map isAttack := by
    intro victimIp
    rw [← Dict.get?_mapValues, ← Dict.get?_mapValues, labels]
  simp only [handledWindow, List.filterMap_append, transitionAlerts_attack]
  rw [previous, windowName_withoutForest, alerted, victimText_alike same a, windowCalls_alike same a,
    alertBlocks_withoutForest]

theorem triggerState_alike :
    triggerState (nextView a.env st.view a.fv) (victimText a.env st.view a.fv) =
      triggerState (nextView a.withoutForest.env st'.view a.fv)
        (victimText a.withoutForest.env st'.view a.fv) := by
  obtain ⟨labels, -, streaks, tiers, -⟩ :=
    ReceiverState.unlabelled_iff.mp (nextView_alike same a st.firewall st'.firewall)
  rw [victimText_alike same a]
  exact triggerState_of_underAttack labels tiers streaks _

theorem windowPass_alike :
    (windowPass st a).offFirewall = (windowPass st' a.withoutForest).offFirewall ∧
      playbookCalls st a = playbookCalls st' a.withoutForest := by
  obtain ⟨-, metrics, -, -, -, playbooks⟩ :=
    ReceiverState.unlabelled_iff.mp (nextView_alike same a st.firewall st'.firewall)
  dsimp only at metrics playbooks
  unfold windowPass playbookCalls
  rw [triggerState_alike same a, victimText_alike same a, metrics, playbooks]
  exact playbookPass_offFirewall _ _ _ _ _ _ _

theorem watch_alike :
    shown ReceiverState.unlabelled List.singleton (watch st a) =
      shown ReceiverState.unlabelled List.singleton (watch st' a.withoutForest) := by
  obtain ⟨passed, calls⟩ := windowPass_alike same a
  simp only [PassState.offFirewall, Prod.mk.injEq] at passed
  obtain ⟨store, told⟩ := passed
  have next := nextView_alike same a st.firewall st'.firewall
  obtain ⟨labels, metrics, streaks, tiers, alerted, -⟩ := ReceiverState.unlabelled_iff.mp next
  dsimp only at streaks tiers
  have state : (handleWindow st a).1.unlabelled = (handleWindow st' a.withoutForest).1.unlabelled := by
    rw [handleWindow_eq, handleWindow_eq]
    exact ReceiverState.unlabelled_iff.mpr ⟨labels, metrics, streaks, tiers, alerted, store⟩
  have observed : observation st a (handleWindow st a).1 (handleWindow st a).2 =
      observation st' a.withoutForest (handleWindow st' a.withoutForest).1
        (handleWindow st' a.withoutForest).2 := by
    rw [observation_handleWindow, observation_handleWindow, windowCalls_alike same a, calls, streaks, tiers,
      handledWindow_alike same a, told, triggerState_alike same a, victimText_alike same a]
    rfl
  simp only [watch, receive, shown, Option.map_some, state, observed]

end Alike

/-- Two runs on the same windows under any two Isolation Forests, or none, are alike in
everything but labels. -/
theorem forest_changes_only_labels (st : ReceiverState F) (windows windows' : List (Arrived F))
    (same : windows.map Arrived.withoutForest = windows'.map Arrived.withoutForest) :
    (run watch st windows).map Prod.snd = (run watch st windows').map Prod.snd := by
  have erased : ∀ s s' (a : Arrived F), s.unlabelled = s'.unlabelled →
      shown ReceiverState.unlabelled List.singleton (watch s a) =
        shown ReceiverState.unlabelled List.singleton (watch s' a.withoutForest) := by
    intro s s' a alike
    exact watch_alike alike a
  have alike : shown ReceiverState.unlabelled (List.flatMap List.singleton) (run watch st windows) =
      shown ReceiverState.unlabelled (List.flatMap List.singleton) (run watch st windows') := by
    rw [run_erased erased windows rfl, same, ← run_erased erased windows' rfl]
  exact map_snd_of_shown alike

/-- Ten packets a second, then an attack and ten packets a second again, with the opinions of
an Isolation Forest on both. -/
def quietFloodQuiet (forest : Option (List ℚ → Bool)) : List (Arrived ℚ) :=
  [0, 1, 2].map (fun (second : Nat) =>
    let flood := floodAt second []
    { flood with
      env := { flood.env with ifClf := forest }
      fv := if second = 1 then flood.fv else { flood.fv with ewmaRate := 10 } })

theorem quietFloodQuiet_alike :
    (run receive (ReceiverState.start []) (quietFloodQuiet none)).map (fun r => r.2.map Handled.name) =
        some [.normal, .ddos, .normal] ∧
      (run receive (ReceiverState.start []) (quietFloodQuiet (some fun _ => true))).map
        (fun r => r.2.map Handled.name) = some [.anomalous, .ddos, .anomalous] ∧
      (run watch (ReceiverState.start []) (quietFloodQuiet none)).map Prod.snd =
        (run watch (ReceiverState.start []) (quietFloodQuiet (some fun _ => true))).map Prod.snd :=
  ⟨by decide +kernel, by decide +kernel, forest_changes_only_labels _ _ _ rfl⟩

end Flod.Stage2
