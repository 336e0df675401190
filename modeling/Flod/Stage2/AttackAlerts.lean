import Flod.Lib.Edges
import Flod.Stage2.Independence

/-! The alerts that an attack began or ended. The receiver decides them on the names it shows and
on what it remembers of each victim; over whole runs they come exactly at the windows where the
victim's class changes to or from an attack, and so take turns. -/

namespace Flod.Stage2
open Flod.Lib Flod.Lib.Edges Flod.Net Flod.Ipc

variable {F : Type} [Arith F]

/-- The alerts of a window that an attack was detected or resolved, with the victim each is about. -/
def attackNotices (h : Handled F) : List (Bool × String) :=
  (h.alerts.filterMap attackAlert).map (fun x => (x.1, x.2.1))

/-- Whether each of a victim's windows was of class 2. -/
def signals (past : List (Handled F)) (victim : String) : List Bool :=
  (past.filter (fun h => h.victimIp = victim)).map (fun h => decide (h.predClass = 2))

/-- The victim's last window was of class 2. -/
def UnderAttack (past : List (Handled F)) (victim : String) : Prop := (signals past victim).getLast? = some true

instance (past : List (Handled F)) (victim : String) : Decidable (UnderAttack past victim) :=
  inferInstanceAs (Decidable (_ = _))

/-- What is to be alerted of a window after those before it. -/
def dueNotices (past : List (Handled F)) (h : Handled F) : List (Bool × String) :=
  if h.predClass = 2 ∧ ¬ UnderAttack past h.victimIp then [(true, h.victimIp)]
  else if h.predClass ≠ 2 ∧ UnderAttack past h.victimIp then [(false, h.victimIp)]
  else []

/-- The alerts about one victim, in order: true for an attack detected, false for one resolved. -/
def noticesOf (past : List (Handled F)) (victim : String) : List Bool :=
  ((past.flatMap attackNotices).filter (fun x => x.2 = victim)).map Prod.fst

section Window

theorem executeStage_notice {cfg : EnforcementConfig F} {reportRaises : Bool} {stage : Fields F}
    {run : PlaybookRun F} {alert : Alert F} (told : executeStage cfg reportRaises stage run = .alert alert) :
    attackAlert alert = none := by
  unfold executeStage at told
  split at told
  · unfold executeEscalate at told
    split at told
    · cases told
    · split at told
      · cases told
      · split at told <;> cases told
  · split at told
    · cases told
      rfl
    · split at told <;> cases told

theorem stageAction_notices {env : PassEnv F} {st done : PassState F} {action : StageAction F}
    (own : ∀ alert, action = .alert alert → attackAlert alert = none) (applied : action.apply env st = some done) :
    done.alerts.filterMap attackAlert = st.alerts.filterMap attackAlert := by
  cases action with
  | call c =>
    cases applied
    rfl
  | alert a =>
    cases applied
    simp [own a rfl]
  | nothing =>
    cases applied
    rfl
  | raises => cases applied

theorem advanceRun_notices {env : PassEnv F} {run : PlaybookRun F} {st next : PassState F}
    (advanced : advanceRun env st run = some next) :
    next.alerts.filterMap attackAlert = st.alerts.filterMap attackAlert := by
  unfold advanceRun at advanced
  split at advanced
  · cases advanced
    rfl
  · split at advanced
    · cases advanced
    · cases advanced
      rfl
    · split at advanced
      · cases advanced
        rfl
      · split at advanced
        · cases advanced
          rfl
        · split at advanced
          · cases advanced
          · rename_i done applied
            have same := stageAction_notices (fun _ => executeStage_notice) applied
            cases advanced
            exact same

theorem advanceRuns_notices (env : PassEnv F) (runs : List (PlaybookRun F)) : ∀ st : PassState F,
    (advanceRuns env st runs).alerts.filterMap attackAlert = st.alerts.filterMap attackAlert := by
  induction runs with
  | nil =>
    intro st
    rfl
  | cons run rest ih =>
    intro st
    unfold advanceRuns
    split
    · rfl
    · rename_i next advanced
      rw [ih next, advanceRun_notices advanced]

theorem playbookPass_notices (env : PassEnv F) (host : String) (seen : TriggerState) (source : Option String)
    (store : PlaybookStore F) (fw : Firewall F) :
    (playbookPass env host seen source store fw).alerts.filterMap attackAlert = [] := by
  unfold playbookPass
  dsimp only
  split
  · rw [advanceRuns_notices]
    rfl
  · rfl

theorem windowPass_notices (st : ReceiverState F) (a : Arrived F) :
    (windowPass st a).alerts.filterMap attackAlert = [] := by
  unfold windowPass
  exact playbookPass_notices _ _ _ _ _ _

theorem alertBlocks_notices (env : WindowEnv F) (calls : List (TierCall F)) : ∀ alerted : Dict String F,
    (alertBlocks env alerted calls).2.filterMap attackAlert = [] := by
  induction calls with
  | nil =>
    intro alerted
    rfl
  | cons c rest ih =>
    intro alerted
    unfold alertBlocks
    split
    · exact ih _
    · exact ih _

omit [Arith F] in
theorem fallbackAlerts_notices (calls : List (TierCall F)) (victimIp : String) :
    (fallbackAlerts calls victimIp).filterMap attackAlert = [] := by
  unfold fallbackAlerts
  dsimp only
  split <;> rfl

/-- The attack alerts of a window go by its class and by the name remembered of its victim. -/
theorem handleWindow_notices (st : ReceiverState F) (a : Arrived F) :
    (handleWindow st a).2.alerts.filterMap attackAlert =
      if (classify a.env a.fv).1 = 2 then
        if (st.view.lastClassificationByTarget.get? (victimText a.env st.view a.fv)).map isAttack = some true then []
        else [(true, victimText a.env st.view a.fv, a.fv)]
      else
        if (st.view.lastClassificationByTarget.get? (victimText a.env st.view a.fv)).map isAttack = some true then
          [(false, victimText a.env st.view a.fv, a.fv)]
        else [] := by
  rw [handleWindow_eq]
  simp only [handledWindow, List.filterMap_append, windowPass_notices, alertBlocks_notices,
    fallbackAlerts_notices, List.append_nil, transitionAlerts_attack, windowName_isAttack, decide_eq_true_eq]

end Window

section Runs

/-- The receiver remembers of each victim whether its last window was an attack. -/
def Remembers (past : List (Handled F)) (st : ReceiverState F) : Prop :=
  ∀ victim, (st.view.lastClassificationByTarget.get? victim).map isAttack = (signals past victim).getLast?

omit [Arith F] in
theorem signals_concat (past : List (Handled F)) (h : Handled F) (victim : String) :
    signals (past ++ [h]) victim =
      signals past victim ++ if h.victimIp = victim then [decide (h.predClass = 2)] else [] := by
  unfold signals
  by_cases own : h.victimIp = victim <;> simp [own]

/-- A window leaves the memory of its victim at its class. -/
theorem Remembers.handleWindow {past : List (Handled F)} {st : ReceiverState F} (remembers : Remembers past st)
    (a : Arrived F) : Remembers (past ++ [(handleWindow st a).2]) (handleWindow st a).1 := by
  intro victim
  have memory : (Stage2.handleWindow st a).1.view.lastClassificationByTarget =
      st.view.lastClassificationByTarget.set (Stage2.handleWindow st a).2.victimIp (windowName a.env a.fv) := rfl
  have seen : (Stage2.handleWindow st a).2.predClass = (classify a.env a.fv).1 := rfl
  rw [signals_concat, memory, Dict.get?_set, seen]
  by_cases own : (Stage2.handleWindow st a).2.victimIp = victim
  · rw [if_pos own, if_pos own, Option.map_some, windowName_isAttack, List.getLast?_concat]
  · rw [if_neg own, if_neg own, List.append_nil]
    exact remembers victim

/-- With that memory a window's alerts are those due. -/
theorem Remembers.notices {past : List (Handled F)} {st : ReceiverState F} (remembers : Remembers past st)
    (a : Arrived F) : attackNotices (Stage2.handleWindow st a).2 = dueNotices past (Stage2.handleWindow st a).2 := by
  have seen : (Stage2.handleWindow st a).2.predClass = (classify a.env a.fv).1 := rfl
  have filed : (Stage2.handleWindow st a).2.victimIp = victimText a.env st.view a.fv := rfl
  rw [attackNotices, handleWindow_notices, remembers, dueNotices, seen, filed]
  by_cases before : UnderAttack past (victimText a.env st.view a.fv)
  · have last : (signals past (victimText a.env st.view a.fv)).getLast? = some true := before
    by_cases attack : (classify a.env a.fv).1 = 2 <;> simp [attack, before, last]
  · have last : ¬ (signals past (victimText a.env st.view a.fv)).getLast? = some true := before
    by_cases attack : (classify a.env a.fv).1 = 2 <;> simp [attack, before, last]

omit [Arith F] in
theorem noticesOf_concat (past : List (Handled F)) (h : Handled F) (victim : String) :
    noticesOf (past ++ [h]) victim =
      noticesOf past victim ++ ((attackNotices h).filter (fun x => x.2 = victim)).map Prod.fst := by
  unfold noticesOf
  rw [List.flatMap_append, List.filter_append, List.map_append, List.flatMap_singleton]

omit [Arith F] in
/-- What is due of a window changes the report of its victim where the signal changes. -/
theorem dueNotices_changes (past : List (Handled F)) (h : Handled F) (victim : String) :
    changes false (signals past victim) ++ ((dueNotices past h).filter (fun x => x.2 = victim)).map Prod.fst =
      changes false (signals (past ++ [h]) victim) := by
  have last : (signals past victim).getLastD false = decide (UnderAttack past victim) := by
    rw [List.getLastD_eq_getLast?, Bool.eq_iff_iff, decide_eq_true_iff]
    show _ ↔ (signals past victim).getLast? = some true
    cases (signals past victim).getLast? <;> simp
  rw [signals_concat]
  by_cases own : h.victimIp = victim
  · subst own
    rw [if_pos rfl, changes_concat, last]
    by_cases attack : h.predClass = 2 <;> by_cases before : UnderAttack past h.victimIp <;>
      simp [dueNotices, attack, before]
  · rw [if_neg own, List.append_nil]
    by_cases attack : h.predClass = 2 <;> by_cases before : UnderAttack past h.victimIp <;>
      simp [dueNotices, attack, before, own]

/-- Everything told so far was due when it was told. -/
structure Told (past : List (Handled F)) (st : ReceiverState F) : Prop where
  remembers : Remembers past st
  due : ∀ i h, past[i]? = some h → attackNotices h = dueNotices (past.take i) h
  reports : ∀ victim, noticesOf past victim = changes false (signals past victim)

theorem Told.receive {past : List (Handled F)} {st next : ReceiverState F} {a : Arrived F} {h : Handled F}
    (told : Told past st) (received : receive st a = some (next, h)) : Told (past ++ [h]) next := by
  obtain ⟨rfl, rfl⟩ : (handleWindow st a).1 = next ∧ (handleWindow st a).2 = h := by
    have both := Option.some.inj received
    exact ⟨congrArg Prod.fst both, congrArg Prod.snd both⟩
  have notices := told.remembers.notices a
  refine ⟨told.remembers.handleWindow a, fun i other found => ?_, fun victim => ?_⟩
  · by_cases before : i < past.length
    · rw [List.getElem?_append_left before] at found
      rw [List.take_append_of_le_length (Nat.le_of_lt before)]
      exact told.due i other found
    · have last : i = past.length := by
        have bound := (List.getElem?_eq_some_iff.mp found).1
        rw [List.length_append, List.length_singleton] at bound
        omega
      subst last
      rw [List.getElem?_concat_length, Option.some.injEq] at found
      rw [← found, List.take_left]
      exact notices
  · rw [noticesOf_concat, told.reports, notices, dueNotices_changes]

/-- Over every run from a start with nothing remembered, windows of all victims in any order: a
window tells of an attack exactly where it is of class 2 and the window before it of that victim was
not, and of its end exactly where it is not and the one before it was. For each victim the two take
turns, the attack first. -/
theorem attack_alerts_take_turns (st final : ReceiverState F) (windows : List (Arrived F)) (os : List (Handled F))
    (fresh : st.view.lastClassificationByTarget = Dict.empty) (ran : run receive st windows = some (final, os)) :
    (∀ i h, os[i]? = some h → attackNotices h =
      if h.predClass = 2 ∧ ¬ UnderAttack (os.take i) h.victimIp then [(true, h.victimIp)]
      else if h.predClass ≠ 2 ∧ UnderAttack (os.take i) h.victimIp then [(false, h.victimIp)]
      else []) ∧
    ∀ victim, (false :: noticesOf os victim).IsChain (· ≠ ·) := by
  have start : Told [] st := ⟨fun victim => by rw [fresh]; rfl, fun i h found => by simp at found, fun victim => rfl⟩
  have told := run_history (I := Told) (fun past s e mid o inv taken => inv.receive taken) windows [] st final os start ran
  rw [List.nil_append] at told
  refine ⟨told.due, fun victim => ?_⟩
  rw [told.reports]
  exact changes_alternate _ _

theorem quietFloodQuiet_turns : ∃ final os,
    run receive (ReceiverState.start []) (quietFloodQuiet (some fun _ => true)) = some (final, os) ∧
    noticesOf os "10.0.0.1" = [true, false] ∧ (false :: noticesOf os "10.0.0.1").IsChain (· ≠ ·) := by
  have computed : ∃ final os,
      run receive (ReceiverState.start []) (quietFloodQuiet (some fun _ => true)) = some (final, os) ∧
      noticesOf os "10.0.0.1" = [true, false] := by decide +kernel
  obtain ⟨final, os, ran, notices⟩ := computed
  exact ⟨final, os, ran, notices, (attack_alerts_take_turns _ _ _ _ rfl ran).2 "10.0.0.1"⟩

end Runs

end Flod.Stage2
