import Flod.Lib.History
import Flod.Stage1.AnalysisRun
import Flod.Stage2.Playbook

/-! The block hysteresis across both stages. Stage 2 counts class 2 windows in a row among
those it receives, and Stage 1 does not send every window it closes. -/

namespace Flod.System
open Flod.Lib Flod.Net Flod.Ipc Flod.Stage1 Flod.Stage2

variable {F : Type} [Arith F]

/-- A window Stage 1 closed, and what Stage 2 meets if it gets to handle it. -/
structure Closing (F : Type) where
  window : ClosedWindow F
  env : WindowEnv F
  reportRaises : Bool

/-- The vector that reached Stage 2, if one did. -/
def Closing.reached (c : Closing F) : Option (FeatureVector F) :=
  if c.window.delivered then c.window.sent else none

/-- A closed window and how Stage 2 handled it, if it did. -/
structure Outcome (F : Type) where
  window : ClosedWindow F
  handled : Option (Handled F)

/-- Stage 2 handles the windows that reach it, in the order Stage 1 closed them. -/
def relay (st : ReceiverState F) (c : Closing F) : Option (ReceiverState F × Outcome F) :=
  match c.reached with
  | none => some (st, ⟨c.window, none⟩)
  | some fv =>
      let next := handleWindow st ⟨c.env, c.reportRaises, fv⟩
      some (next.1, ⟨c.window, some next.2⟩)

/-- The text Stage 2 reads for the window's victim. -/
def victimName (w : ClosedWindow F) : String := decodeIp w.victim.slot

/-- The window reached Stage 2 and was classified 2. -/
def Attack (o : Outcome F) : Prop := o.handled.any (fun handled => handled.predClass = 2) = true

instance : DecidablePred (Attack (F := F)) := fun _ => inferInstanceAs (Decidable (_ = true))

def outcomesOf (victim : String) (past : List (Outcome F)) : List (Outcome F) :=
  past.filter (fun o => victimName o.window = victim)

/-- Behind every block for a victim are that many of its closed windows in a row, this one
included, each received and classified 2. -/
def BlocksEarned (windows : Nat) (past : List (Outcome F)) (o : Outcome F) : Prop :=
  ∀ handled ∈ o.handled, ∀ c ∈ handled.calls, c.call.action = .block →
    Streak Attack windows (outcomesOf c.call.victimIp (past ++ [o]))

instance (windows : Nat) (past : List (Outcome F)) (o : Outcome F) :
    Decidable (BlocksEarned windows past o) :=
  inferInstanceAs (Decidable (∀ handled ∈ o.handled, ∀ c ∈ handled.calls, _ → _))

/-- Stage 2 can name the victim, and the window is not withheld from an open streak. -/
def Uninterrupted (windows : Nat) (st : ReceiverState F) (c : Closing F) : Prop :=
  victimName c.window ∉ sentinelTexts ∧
    (windows ≤ 1 ∨ c.reached.isSome = true ∨
      st.view.consecutiveDdosWindows.getD (victimName c.window) 0 = 0)

instance (windows : Nat) (st : ReceiverState F) (c : Closing F) : Decidable (Uninterrupted windows st c) :=
  inferInstanceAs (Decidable (_ ∧ _))

/-- What every window of a Stage 1 run satisfies under a fixed configuration. -/
structure Relayed (windows : Nat) (c : Closing F) : Prop where
  configured : c.env.cfg.blockHysteresisWindows = windows
  addressed : ∀ fv, c.window.sent = some fv → fv.victimIp = c.window.victim

/-- Every counter of Stage 2 is covered by the victim's closed windows. -/
structure CountersTrue (windows : Nat) (past : List (Outcome F)) (st : ReceiverState F) : Prop where
  earned : Throughout (BlocksEarned windows) past
  streak : 1 < windows → ∀ victim,
    Streak Attack (st.view.consecutiveDdosWindows.getD victim 0) (outcomesOf victim past)

omit [Arith F] in
theorem outcomesOf_concat_self (past : List (Outcome F)) (w : ClosedWindow F) (handled : Option (Handled F)) :
    outcomesOf (victimName w) (past ++ [⟨w, handled⟩]) =
      outcomesOf (victimName w) past ++ [⟨w, handled⟩] := by
  simp [outcomesOf]

omit [Arith F] in
theorem outcomesOf_concat_other {victim : String} {w : ClosedWindow F} (other : victimName w ≠ victim)
    (past : List (Outcome F)) (handled : Option (Handled F)) :
    outcomesOf victim (past ++ [⟨w, handled⟩]) = outcomesOf victim past := by
  simp [outcomesOf, other]

theorem attack_handled (w : ClosedWindow F) (st : ReceiverState F) (a : Arrived F) :
    Attack ⟨w, some (handleWindow st a).2⟩ ↔ (classify a.env a.fv).1 = 2 :=
  decide_eq_true_iff

section Step

variable {windows : Nat} {past : List (Outcome F)} {st : ReceiverState F} {c : Closing F}

omit [Arith F] in
/-- A window Stage 2 never sees leaves its counters alone, so none may be open for it. -/
theorem CountersTrue.withheld (counted : CountersTrue windows past st) (lost : c.reached = none)
    (met : Uninterrupted windows st c) : CountersTrue windows (past ++ [⟨c.window, none⟩]) st := by
  refine ⟨throughout_append.mpr ⟨counted.earned, ⟨by simp [BlocksEarned], trivial⟩⟩, ?_⟩
  intro several victim
  by_cases own : victimName c.window = victim
  · rcases met.2 with few | here | closed
    · omega
    · rw [lost] at here
      cases here
    · rw [← own, closed]
      exact streak_zero _
  · rw [outcomesOf_concat_other own]
    exact counted.streak several victim

variable {fv : FeatureVector F}

/-- A block needs as many windows in a row as the counter says, and the window itself. -/
theorem CountersTrue.earned_next (counted : CountersTrue windows past st) (relayed : Relayed windows c)
    (name : victimText c.env st.view fv = victimName c.window) :
    BlocksEarned windows past ⟨c.window, some (handleWindow st ⟨c.env, c.reportRaises, fv⟩).2⟩ := by
  rintro handled ⟨⟩ call made blocks
  obtain ⟨attack, own, ready⟩ := mem_windowCalls_block made blocks
  rw [own, name, outcomesOf_concat_self]
  rw [relayed.configured, name] at ready
  have current := (attack_handled c.window st ⟨c.env, c.reportRaises, fv⟩).mpr attack
  by_cases several : 1 < windows
  · exact ((counted.streak several _).concat current).mono ready
  · exact ((streak_zero _).concat current).mono (by omega)

theorem CountersTrue.streak_next (counted : CountersTrue windows past st) (several : 1 < windows)
    (name : victimText c.env st.view fv = victimName c.window) (victim : String) :
    Streak Attack
      ((handleWindow st ⟨c.env, c.reportRaises, fv⟩).1.view.consecutiveDdosWindows.getD victim 0)
      (outcomesOf victim
        (past ++ [⟨c.window, some (handleWindow st ⟨c.env, c.reportRaises, fv⟩).2⟩])) := by
  change Streak Attack ((st.view.consecutiveDdosWindows.set (victimText c.env st.view fv)
    (nextConsecutive st.view (victimText c.env st.view fv) (classify c.env fv).1)).getD victim 0) _
  rw [name, Dict.getD, Dict.get?_set]
  by_cases own : victimName c.window = victim
  · subst own
    rw [if_pos rfl, outcomesOf_concat_self, Option.getD_some, nextConsecutive]
    split
    · next attack => exact (counted.streak several _).concat ((attack_handled ..).mpr attack)
    · exact streak_zero _
  · rw [if_neg own, outcomesOf_concat_other own]
    exact counted.streak several victim

theorem CountersTrue.relay (counted : CountersTrue windows past st) (relayed : Relayed windows c)
    (met : Uninterrupted windows st c) {after : ReceiverState F} {o : Outcome F}
    (handles : relay st c = some (after, o)) : CountersTrue windows (past ++ [o]) after := by
  unfold System.relay at handles
  split at handles
  · next lost =>
    cases handles
    exact counted.withheld lost met
  · next fv arrived =>
    cases handles
    have sent : c.window.sent = some fv := by
      unfold Closing.reached at arrived
      split at arrived
      · exact arrived
      · cases arrived
    have name : victimText c.env st.view fv = victimName c.window := by
      have address : fv.victimIp = c.window.victim := relayed.addressed fv sent
      rw [victimText_of_address (by rw [address]; exact met.1), address, victimName]
    exact ⟨throughout_append.mpr ⟨counted.earned, counted.earned_next relayed name, trivial⟩,
      fun several => counted.streak_next several name⟩

end Step

/-- Every window handled under the default settings, without flow data. -/
def closingsOf (effects : List (List (Effect ℚ))) : List (Closing ℚ) :=
  (closedWindows effects.flatten).map (fun w => ⟨w, plainEnv EnforcementConfig.default 100 [], false⟩)

/-- Two windows of one source each. -/
def steadyFlood : List (Iteration ℚ) :=
  [packetAt 0 0xC0000201 0x0A000001, tickAt 1000000000, packetAt 1200000000 0xC0000201 0x0A000001,
    tickAt 2000000000]

/-- A window above the boundary, a silent one below it, and a hundred packets. -/
def pausedFlood : List (Iteration ℚ) :=
  [packetAt 0 0xC0000201 0x0A000001, tickAt 1000000000, tickAt 2000000000] ++
    List.replicate 100 (packetAt 2400000000 0xC0000201 0x0A000001) ++ [tickAt 3000000000]

end Flod.System
