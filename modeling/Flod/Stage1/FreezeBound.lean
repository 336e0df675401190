import Flod.Stage1.Freeze
import Flod.Stage1.TargetRun

/-! How long a freeze lasts. The counter of a target is the number of windows it has just
refused in a row; a refused window teaches nothing, and the first one past the cap is
accepted instead. -/

namespace Flod.Stage1
open Flod.Lib Flod.Net

variable {F : Type} [Arith F] {cfg : AnalysisConfig F} {victim : IpAddr} {ts : TargetState F}

/-- The window was judged and not accepted as clean. -/
def Refused (w : ClosedWindow F) : Prop := w.verdict.any (fun vd => !vd.isCleanWindow) = true

instance : DecidablePred (Refused (F := F)) := fun _ => inferInstanceAs (Decidable (_ = true))

/-- The learned baselines and both peacetime references are the same. -/
structure SameLearned (before after : TargetState F) : Prop where
  welfordRate : after.welfordRate = before.welfordRate
  welfordEntropy : after.welfordEntropy = before.welfordEntropy
  peacetimeRateRef : after.peacetimeRateRef = before.peacetimeRateRef
  peacetimeEntropyRef : after.peacetimeEntropyRef = before.peacetimeEntropyRef

/-- An event that closes a window without accepting it teaches nothing. -/
def TeachesNothing (ts : TargetState F) (_ : TargetEvent F) (o : Option (ClosedWindow F))
    (after : TargetState F) : Prop :=
  ∀ w ∈ o, Refused w → SameLearned ts after

theorem closeWindow_refused {reading : Reading F} {after : TargetState F} {w : ClosedWindow F}
    (closing : closeWindow cfg reading victim ts = some (after, w)) (refused : Refused w) :
    SameLearned ts after := by
  rcases closeWindow_cases closing with ⟨-, unjudged, -⟩ | ⟨vd, sentAt, -, -, judged, rfl⟩
  · simp [Refused, unjudged] at refused
  · have unclean : vd.isCleanWindow = false := by simpa [Refused, judged] using refused
    simp only [absorb, unclean]
    exact ⟨rfl, rfl, rfl, rfl⟩

theorem handle_teachesNothing {e : TargetEvent F} {after : TargetState F} {o : Option (ClosedWindow F)}
    (taken : ts.handle cfg victim e = some (after, o)) : TeachesNothing ts e o after := by
  intro w member refused
  rcases TargetState.handleWith_cases taken with ⟨-, -, -, rfl⟩ | ⟨-, rfl⟩ | ⟨_, _, _, _, w', -, closing, rfl⟩
  · cases member
  · cases member
  · cases member
    exact closeWindow_refused closing refused

/-- What each window keeps to, given the windows of its target before it: never more refused
ones in a row than the cap, and an escape exactly where a full freeze meets another window
that is not naturally clean. -/
structure FreezeLaw (cfg : AnalysisConfig F) (past : List (ClosedWindow F)) (w : ClosedWindow F) : Prop where
  bounded : ∀ n, Streak Refused n (past ++ [w]) → n ≤ cfg.maxBaselineFreezeWindows
  escapes : ∀ vd ∈ w.verdict, vd.escapedFreeze = true ↔
    vd.naturallyClean = false ∧ Streak Refused cfg.maxBaselineFreezeWindows past

/-- The counter is the length of the freeze. -/
structure CountsFreeze (cfg : AnalysisConfig F) (history : List (ClosedWindow F)) (ts : TargetState F) : Prop where
  counts : ∀ n, Streak Refused n history ↔ n ≤ ts.consecutiveFrozenWindows
  bounded : ts.consecutiveFrozenWindows ≤ cfg.maxBaselineFreezeWindows
  cold : ts.isWarm = false → ts.consecutiveFrozenWindows = 0
  capped : ts.Capped

theorem CountsFreeze.fresh {p : Option (PersistedBaseline F)} {now : Instant}
    (created : TargetState.new cfg.ewmaAlpha p now = some ts) : CountsFreeze cfg [] ts := by
  obtain ⟨-, thawed, capped⟩ := TargetState.new_fresh created
  refine ⟨fun n => ?_, by omega, fun _ => thawed, capped⟩
  rw [thawed]
  simp [Streak]

theorem CountsFreeze.counted {history : List (ClosedWindow F)} (inv : CountsFreeze cfg history ts) (c : Counted) :
    CountsFreeze cfg history (ts.count c) := by
  have same := ts.count_sameBaseline c
  refine ⟨?_, ?_, ?_, ?_⟩
  · rw [same.consecutiveFrozenWindows]
    exact inv.counts
  · rw [same.consecutiveFrozenWindows]
    exact inv.bounded
  · rw [same.consecutiveFrozenWindows, TargetState.isWarm, same.welfordRate, same.welfordEntropy]
    exact inv.cold
  · rw [TargetState.Capped, same.welfordRate, same.welfordEntropy]
    exact inv.capped

/-- The counter after a close: one more for a refused window, zero for any other. -/
theorem closeWindow_frozen {history : List (ClosedWindow F)} {reading : Reading F} {after : TargetState F}
    {w : ClosedWindow F} (inv : CountsFreeze cfg history ts)
    (closing : closeWindow cfg reading victim ts = some (after, w)) :
    after.consecutiveFrozenWindows = (if Refused w then ts.consecutiveFrozenWindows + 1 else 0) ∧
      after.consecutiveFrozenWindows ≤ cfg.maxBaselineFreezeWindows := by
  obtain ⟨-, cold | ⟨vd, evaluated⟩⟩ := closeWindow_spec closing
  · have accepted : ¬ Refused w := by simp [Refused, cold.verdict]
    have thawed := inv.cold cold.cold
    rw [if_neg accepted, cold.frozen, thawed]
    exact ⟨rfl, Nat.zero_le _⟩
  · have refused : Refused w ↔ vd.isCleanWindow = false := by simp [Refused, evaluated.verdict]
    rw [evaluated.frozen]
    rcases applyFreezeEscape_cases (evaluate_spec evaluated.judged).escape with
      ⟨-, thawed, clean⟩ | ⟨-, -, thawed, clean⟩ | ⟨-, within, grown, unclean⟩
    · rw [if_neg (by simp [refused, clean]), thawed]
      exact ⟨rfl, Nat.zero_le _⟩
    · rw [if_neg (by simp [refused, clean]), thawed]
      exact ⟨rfl, Nat.zero_le _⟩
    · rw [if_pos (refused.mpr unclean), grown]
      exact ⟨rfl, within⟩

theorem CountsFreeze.closed {history : List (ClosedWindow F)} {reading : Reading F} {after : TargetState F}
    {w : ClosedWindow F} (inv : CountsFreeze cfg history ts)
    (closing : closeWindow cfg reading victim ts = some (after, w)) : CountsFreeze cfg (history ++ [w]) after := by
  obtain ⟨closes, branch⟩ := closeWindow_spec closing
  obtain ⟨next, bounded⟩ := closeWindow_frozen inv closing
  refine ⟨fun n => ?_, bounded, fun cold => ?_, closes.capped inv.capped⟩
  · rw [next]
    exact streak_concat_iff inv.counts n
  · rcases branch with warmup | ⟨vd, evaluated⟩
    · rw [warmup.frozen]
      exact inv.cold warmup.cold
    · have hot := closes.staysWarm inv.capped evaluated.warm
      rw [hot] at cold
      cases cold

theorem CountsFreeze.law {history : List (ClosedWindow F)} {reading : Reading F} {after : TargetState F}
    {w : ClosedWindow F} (inv : CountsFreeze cfg history ts)
    (closing : closeWindow cfg reading victim ts = some (after, w)) : FreezeLaw cfg history w := by
  have next := inv.closed closing
  refine ⟨fun n streak => ((next.counts n).mp streak).trans next.bounded, fun vd judged => ?_⟩
  obtain ⟨-, cold | ⟨vd', evaluated⟩⟩ := closeWindow_spec closing
  · rw [cold.verdict] at judged
    cases judged
  · rw [evaluated.verdict] at judged
    cases judged
    have within := inv.bounded
    rw [inv.counts, Verdict.escapedFreeze, Bool.and_eq_true, Bool.not_eq_true']
    rcases applyFreezeEscape_cases (evaluate_spec evaluated.judged).escape with
      ⟨natural, -, clean⟩ | ⟨unnatural, past, -, clean⟩ | ⟨unnatural, below, -, unclean⟩
    · simp [natural]
    · simp only [clean, unnatural, true_and]
      exact ⟨fun _ => by omega, fun _ => trivial⟩
    · simp only [unclean, unnatural, Bool.false_eq_true, false_and, true_and, false_iff]
      omega

/-- Over the whole life of a target, warm-up first: refused windows teach nothing, there are
never more of them in a row than the cap, and the escape comes exactly after a full freeze. -/
theorem freeze_bounded_until_escape (cfg : AnalysisConfig F) (victim : IpAddr)
    (p : Option (PersistedBaseline F)) (now : Instant) (created final : TargetState F)
    (new : TargetState.new cfg.ewmaAlpha p now = some created) (events : List (TargetEvent F))
    (outs : List (Option (ClosedWindow F)))
    (ran : run (TargetState.handle cfg victim) created events = some (final, outs)) :
    Always (TargetState.handle cfg victim) TeachesNothing created events ∧
      Throughout (FreezeLaw cfg) outs.reduceOption := by
  have teaches : Always (TargetState.handle cfg victim) TeachesNothing created events := by
    apply always_of_step
    intro s e mid o taken
    exact handle_teachesNothing taken
  refine ⟨teaches, ?_⟩
  refine (run_history (I := fun past s => CountsFreeze cfg past.reduceOption s ∧
      Throughout (FreezeLaw cfg) past.reduceOption) ?_ events [] created final outs
    ⟨.fresh new, trivial⟩ ran).2
  intro past s e mid o inv taken
  rw [List.reduceOption_append]
  rcases TargetState.handleWith_cases taken with
    ⟨c, -, rfl, rfl⟩ | ⟨rfl, rfl⟩ | ⟨_, _, _, _, w, -, closing, rfl⟩
  · simpa using ⟨inv.1.counted c, inv.2⟩
  · simpa using inv
  · refine ⟨inv.1.closed closing, throughout_append.mpr ⟨inv.2, inv.1.law closing, trivial⟩⟩

/-- Four idle seconds after a restart at 10000 packets a second. -/
def idleSeconds : List (TargetEvent ℚ) := List.replicate 4 (.checked 1000000000 0 true .inserted)

theorem idleSeconds_escape_in_time :
    ∃ created final outs,
      TargetState.new (freezesFor 2).ewmaAlpha (some { steadyBaseline 10 0 with ewmaRate := 10000 }) 0 =
        some created ∧
      run (TargetState.handle (freezesFor 2) unspecified) created idleSeconds = some (final, outs) ∧
      (∃ w ∈ outs.reduceOption, w.verdict.any Verdict.escapedFreeze = true) ∧
      Always (TargetState.handle (freezesFor 2) unspecified) TeachesNothing created idleSeconds ∧
      Throughout (FreezeLaw (freezesFor 2)) outs.reduceOption := by
  have ran : ((TargetState.new (freezesFor 2).ewmaAlpha
      (some { steadyBaseline 10 0 with ewmaRate := 10000 }) 0).bind (fun created =>
        run (TargetState.handle (freezesFor 2) unspecified) created idleSeconds)).any (fun result =>
          result.2.reduceOption.any (fun w => w.verdict.any Verdict.escapedFreeze)) = true := by
    decide +kernel
  obtain ⟨⟨final, outs⟩, bound, escapes⟩ := (Option.any_eq_true _ _).mp ran
  obtain ⟨created, new, reached⟩ := Option.bind_eq_some_iff.mp bound
  obtain ⟨teaches, law⟩ := freeze_bounded_until_escape (freezesFor 2) unspecified _ 0 created final new
    idleSeconds outs reached
  exact ⟨created, final, outs, new, reached, List.any_eq_true.mp escapes, teaches, law⟩

end Flod.Stage1
