import Flod.Stage1.AnalysisRun

/-! Saved baselines. One victim's clean window triggers the save, and the save takes
every target as it is at that moment, in whatever order a tick comes to the targets. -/

namespace Flod.Stage1
open Flod.Lib Flod.Net

variable {F : Type} [Arith F] {cfg : AnalysisConfig F} {persisted : Option (PersistedState F)}

/-- No flag, or only those `window_is_clean` excepts. -/
def FlagsExcepted (cfg : AnalysisConfig F) (w : ClosedWindow F) : Prop :=
  ∀ vd ∈ w.verdict, windowIsClean vd.anomalyFlags 0 w.stats.dominantIpRatio cfg.distributedDominance
    w.stats.r (w.before.welfordRate.mean + vd.sigmaR) = true

def PersistedBaseline.isWarm (p : PersistedBaseline F) : Prop :=
  warmupWindows ≤ p.rateN ∧ warmupWindows ≤ p.entropyN

/-- A saved baseline that is not a mid-attack one: the victim's last window had no flag beyond
the exception, and it is not in a cooldown. -/
def AtPeace (cfg : AnalysisConfig F) (history : List (ClosedWindow F)) (p : PersistedBaseline F) : Prop :=
  (∀ w ∈ history.getLast?, FlagsExcepted cfg w) ∧ p.cooldownCounter = 0

/-- A save in which no baseline past warm-up belongs to a victim under attack. -/
def SavedAtPeace (cfg : AnalysisConfig F) (past : List (Effect F)) : Effect F → Prop
  | .baselineSaved s => ∀ e ∈ s.victims.entries, e.2.isWarm → AtPeace cfg (closedOf e.1 past) e.2
  | _ => True

/-- The rate and the entropy lie inside the band a multiplier draws around the baseline. -/
def InsideBand (cfg : AnalysisConfig F) (ts : TargetState F) (stats : WindowStats F) (k : F) : Prop :=
  stats.r ≤ rateBoundary cfg ts stats k ∧ ∀ sigmaH ∈ sigmaEntropy cfg ts, entropyBoundary ts sigmaH k ≤ stats.h

/-- A window past warm-up inside the band, with the multiplier in force and with the one
configured. -/
def Quiet (cfg : AnalysisConfig F) (w : ClosedWindow F) : Prop :=
  w.before.isWarm = true ∧ InsideBand cfg w.before w.stats (baseK cfg w.before) ∧
    InsideBand cfg w.before w.stats cfg.k

/-- The cooldown a victim's target starts with. -/
def savedCooldown (persisted : Option (PersistedState F)) (v : IpAddr) : Nat :=
  ((lookup persisted v).map PersistedBaseline.cooldownCounter).getD 0

/-- The victim's last windows were quiet, as many as a cooldown lasts and at least one; or all
of its windows were, as many as the cooldown it started with. -/
def Rested (cfg : AnalysisConfig F) (saved : Nat) (history : List (ClosedWindow F)) : Prop :=
  Streak (Quiet cfg) (max 1 (max cfg.cooldownWindows saved)) history ∨
    (∀ w ∈ history, Quiet cfg w) ∧ saved ≤ history.length

/-- A save in which no rested victim past warm-up is under attack. -/
def RestedAtPeace (cfg : AnalysisConfig F) (persisted : Option (PersistedState F)) (past : List (Effect F)) :
    Effect F → Prop
  | .baselineSaved s => ∀ e ∈ s.victims.entries, e.2.isWarm →
      Rested cfg (savedCooldown persisted e.1) (closedOf e.1 past) → AtPeace cfg (closedOf e.1 past) e.2
  | _ => True

section Decidable

instance (w : ClosedWindow F) : Decidable (FlagsExcepted cfg w) :=
  inferInstanceAs (Decidable (∀ vd ∈ w.verdict, _))

instance (p : PersistedBaseline F) : Decidable p.isWarm :=
  inferInstanceAs (Decidable (_ ∧ _))

instance (history : List (ClosedWindow F)) (p : PersistedBaseline F) : Decidable (AtPeace cfg history p) :=
  inferInstanceAs (Decidable ((∀ w ∈ history.getLast?, _) ∧ _))

instance (past : List (Effect F)) : (e : Effect F) → Decidable (SavedAtPeace cfg past e)
  | .baselineSaved s => inferInstanceAs (Decidable (∀ e ∈ s.victims.entries, _ → _))
  | .flowsWritten _ _ => isTrue trivial
  | .windowClosed _ => isTrue trivial

instance (ts : TargetState F) (stats : WindowStats F) (k : F) : Decidable (InsideBand cfg ts stats k) :=
  inferInstanceAs (Decidable (_ ∧ ∀ sigmaH ∈ sigmaEntropy cfg ts, _))

instance : DecidablePred (Quiet cfg) := fun _ => inferInstanceAs (Decidable (_ ∧ _ ∧ _))

instance (saved : Nat) (history : List (ClosedWindow F)) : Decidable (Rested cfg saved history) :=
  inferInstanceAs (Decidable (_ ∨ _ ∧ _))

end Decidable

/-- The cooldown of a target, by the quiet windows at the end of its history. -/
structure CoolsDown (cfg : AnalysisConfig F) (saved : Nat) (history : List (ClosedWindow F))
    (ts : TargetState F) : Prop where
  judged : ∀ w ∈ history, ∀ vd ∈ w.verdict, evaluate cfg w.before w.stats = some vd
  quiet : ∀ n, Streak (Quiet cfg) n history → ts.cooldownCounter ≤ max cfg.cooldownWindows saved - n
  always : (∀ w ∈ history, Quiet cfg w) → ts.cooldownCounter ≤ saved - history.length

/-- What lies inside the band of the multiplier in force raises no flag. -/
theorem anomalyFlags_of_inside {ts : TargetState F} {stats : WindowStats F} {sigmaH : F}
    (inside : InsideBand cfg ts stats (baseK cfg ts)) (bounded : sigmaEntropy cfg ts = some sigmaH) :
    anomalyFlags cfg ts stats sigmaH = 0 := by
  have slow : ¬ rateBoundary cfg ts stats (baseK cfg ts) < stats.r := not_lt.mpr inside.1
  have varied : ¬ stats.h < entropyBoundary ts sigmaH (baseK cfg ts) := not_lt.mpr (inside.2 sigmaH bounded)
  simp [anomalyFlags, entropyAnomalyFires, slow, varied]

theorem isRealAnomaly_of_inside {ts : TargetState F} {stats : WindowStats F} {sigmaH : F}
    (inside : InsideBand cfg ts stats cfg.k) (bounded : sigmaEntropy cfg ts = some sigmaH) :
    isRealAnomaly cfg ts stats sigmaH = false := by
  have slow : ¬ rateBoundary cfg ts stats cfg.k < stats.r := not_lt.mpr inside.1
  have varied : ¬ stats.h < entropyBoundary ts sigmaH cfg.k := not_lt.mpr (inside.2 sigmaH bounded)
  simp [isRealAnomaly, slow, varied]

theorem Quiet.flagsExcepted {w : ClosedWindow F} (quiet : Quiet cfg w)
    (judged : ∀ vd ∈ w.verdict, evaluate cfg w.before w.stats = some vd) : FlagsExcepted cfg w := by
  intro vd told
  have spec := evaluate_spec (judged vd told)
  rw [spec.anomalyFlags, anomalyFlags_of_inside quiet.2.1 spec.sigmaH]
  rfl

theorem CoolsDown.fresh {v : IpAddr} {now : Instant} {ts : TargetState F}
    (created : TargetState.new cfg.ewmaAlpha (lookup persisted v) now = some ts) :
    CoolsDown cfg (savedCooldown persisted v) [] ts := by
  have start : ts.cooldownCounter = savedCooldown persisted v := by
    obtain ⟨ewma, -, rfl⟩ := Option.map_eq_some_iff.mp created
    unfold savedCooldown
    cases lookup persisted v <;> rfl
  refine ⟨by simp, fun n streak => ?_, fun _ => start.le⟩
  have none : n = 0 := Nat.le_zero.mp streak.1
  rw [start, none]
  exact le_max_right _ _

variable {saved : Nat} {history : List (ClosedWindow F)} {ts : TargetState F}

theorem CoolsDown.closes {reading : Reading F} {v : IpAddr} {after : TargetState F} {w : ClosedWindow F}
    (cools : CoolsDown cfg saved history ts) (closing : closeWindow cfg reading v ts = some (after, w)) :
    CoolsDown cfg saved (history ++ [w]) after := by
  obtain ⟨closes, outcome⟩ := closeWindow_spec closing
  have start := cools.quiet 0 (streak_zero history)
  have judged : ∀ u ∈ history ++ [w], ∀ vd ∈ u.verdict, evaluate cfg u.before u.stats = some vd := by
    intro u member vd told
    rcases List.mem_append.mp member with earlier | last
    · exact cools.judged u earlier vd told
    · rw [List.mem_singleton.mp last] at told ⊢
      rcases outcome with cold | ⟨vd', evaluated⟩
      · rw [cold.verdict] at told
        cases told
      · rw [evaluated.verdict] at told
        cases told
        rw [closes.before]
        exact evaluated.judged
  by_cases quiet : Quiet cfg w
  · -- a quiet window is judged, and takes one from the counter
    have one : after.cooldownCounter = ts.cooldownCounter - 1 := by
      obtain ⟨warm, -, inside⟩ := quiet
      rw [closes.before] at warm inside
      rcases outcome with cold | ⟨vd, evaluated⟩
      · rw [cold.cold] at warm
        cases warm
      · have spec := evaluate_spec evaluated.judged
        rw [evaluated.cooldown, spec.isRealAnomaly, isRealAnomaly_of_inside inside spec.sigmaH]
        rfl
    refine ⟨judged, fun n streak => ?_, fun all => ?_⟩
    · cases n with
      | zero => omega
      | succ n =>
        have before := cools.quiet n streak.of_concat.2
        omega
    · have before := cools.always fun u member => all u (List.mem_append_left _ member)
      rw [List.length_append, List.length_singleton]
      omega
  · have refilled : after.cooldownCounter ≤ max cfg.cooldownWindows saved := by
      rcases outcome with cold | ⟨vd, evaluated⟩
      · rw [cold.cooldown]
        exact start
      · rw [evaluated.cooldown, nextCooldown]
        split
        · exact le_max_left _ _
        · exact (Nat.sub_le _ _).trans start
    refine ⟨judged, fun n streak => ?_, fun all => absurd (all w (by simp)) quiet⟩
    cases n with
    | zero => exact refilled
    | succ n => exact absurd streak.of_concat.1 quiet

/-- A target whose victim has rested is saved at peace. -/
theorem CoolsDown.atPeace (cools : CoolsDown cfg saved history ts) (rested : Rested cfg saved history) :
    AtPeace cfg history ts.toPersisted := by
  rcases rested with streak | ⟨all, past⟩
  · have first := (streak.mono (le_max_left 1 _)).getLast
    have left := cools.quiet _ (streak.mono (le_max_right 1 _))
    refine ⟨fun w last => (first w last).flagsExcepted (cools.judged w (List.mem_of_getLast? last)), ?_⟩
    rw [Nat.sub_self] at left
    exact Nat.le_zero.mp left
  · have left := cools.always all
    refine ⟨fun w last => ?_, ?_⟩
    · have member := List.mem_of_getLast? last
      exact (all w member).flagsExcepted (cools.judged w member)
    · rw [Nat.sub_eq_zero_of_le past] at left
      exact Nat.le_zero.mp left

/-- In every run, whatever the order in which its ticks come to the targets: no save holds a
mid-attack baseline of a victim that has rested, whatever the other victims are going through. -/
theorem saves_only_at_peace (cfg : AnalysisConfig F) (persisted : Option (PersistedState F))
    (began : Instant) (its : List (Iteration F)) (final : AnalysisState F)
    (outs : List (List (Effect F)))
    (ran : run (iterate cfg persisted) (AnalysisState.start began) its = some (final, outs)) :
    Throughout (RestedAtPeace cfg persisted) outs.flatten := by
  refine loop_throughout (T := fun v => CoolsDown cfg (savedCooldown persisted v)) (C := fun _ _ _ => True)
    (fun _ _ _ created => .fresh created)
    (fun _ _ _ _ cools same => ⟨cools.judged, same.cooldownCounter ▸ cools.quiet, same.cooldownCounter ▸ cools.always⟩)
    (fun _ _ _ _ _ _ _ cools _ _ _ closing => cools.closes closing) ?_ (everyCheck_true _ its) ran
  intro past reading st v ts after w tracks _ found due closing
  refine throughoutFrom_settle (fun _ _ => trivial) (fun _ _ => trivial) ?_
  rintro more closedNow saves ⟨u, p⟩ member warm rested
  obtain ⟨tu, foundAfter, rfl⟩ := (Dict.mem_mapValues_iff _ _ _ _).mp member
  have windows : closedOf u (past ++ more) = closedOf u past ++ if v = u then [w] else [] := by
    rw [closedOf, closedWindows_append, closedNow, List.filter_append, closedOf]
    by_cases same : v = u <;> simp [(closeWindow_spec closing).1.named, same]
  dsimp only at rested ⊢
  rw [windows] at rested ⊢
  by_cases same : v = u
  · subst same
    rw [Dict.get?_set_self, Option.some.injEq] at foundAfter
    rw [if_pos rfl] at rested ⊢
    exact foundAfter ▸ (((tracks v).2 ts found).closes closing).atPeace rested
  · rw [Dict.get?_set_of_ne _ _ (Ne.symm same)] at foundAfter
    rw [if_neg same, List.append_nil] at rested ⊢
    exact ((tracks u).2 tu foundAfter).atPeace rested

/-- The rates the two victims had before the restart. -/
def restoredPair (first second : ℚ) : Option (PersistedState ℚ) :=
  restored [(0x0A000001, { steadyBaseline 10 0 with ewmaRate := first }),
    (0x0A000002, { steadyBaseline 10 0 with ewmaRate := second })]

/-- Two restored victims. The first window of 10.0.0.2 closes a second before that of
10.0.0.1, which makes the save due; the last tick comes to the targets in some order. -/
def firstWindows (hosts : Walk IpAddr) : List (Iteration ℚ) :=
  [packetAt 43000000000 0xC0000201 0x0A000002, tickAt 44000000000, packetAt 44000000000 0xC0000201 0x0A000001,
    { tickAt 45000000000 with reading := { readingAt 45000000000 with hosts := hosts } }]

def reversed : Walk IpAddr := ⟨List.reverse, List.reverse_perm⟩

theorem firstWindows_save_at_peace :
    ∃ final outs, run (iterate AnalysisConfig.default (restoredPair 10 10)) (AnalysisState.start 0)
        (firstWindows .inserted) = some (final, outs) ∧
      (∃ s, Effect.baselineSaved s ∈ outs.flatten ∧ ∀ e ∈ s.victims.entries, e.2.isWarm ∧
        Rested AnalysisConfig.default (savedCooldown (restoredPair 10 10) e.1) (closedOf e.1 outs.flatten)) ∧
      Throughout (RestedAtPeace AnalysisConfig.default (restoredPair 10 10)) outs.flatten := by
  have ran : (run (iterate AnalysisConfig.default (restoredPair 10 10)) (AnalysisState.start 0)
      (firstWindows .inserted)).any (fun result => result.2.flatten.any (fun
        | .baselineSaved s => s.victims.entries.all (fun e => decide (e.2.isWarm ∧
            Rested AnalysisConfig.default (savedCooldown (restoredPair 10 10) e.1)
              (closedOf e.1 result.2.flatten)))
        | _ => false)) = true := by
    decide +kernel
  obtain ⟨⟨final, outs⟩, reached, found⟩ := (Option.any_eq_true _ _).mp ran
  obtain ⟨e, member, saved⟩ := List.any_eq_true.mp found
  have done := saves_only_at_peace _ _ 0 _ final outs reached
  cases e with
  | baselineSaved s => exact ⟨final, outs, reached, ⟨s, member, by simpa using saved⟩, done⟩
  | flowsWritten _ _ => cases saved
  | windowClosed _ => cases saved

/-- 10.0.0.2 has been flagged and entered its cooldown when the quiet 10.0.0.1 saves both
baselines, whichever of the two the tick comes to first. -/
theorem firstWindows_save_mid_attack :
    (∃ final outs, run (iterate AnalysisConfig.default (restoredPair 10 1000)) (AnalysisState.start 0)
        (firstWindows .inserted) = some (final, outs) ∧
      ¬ Throughout (SavedAtPeace AnalysisConfig.default) outs.flatten) ∧
    ∃ final outs, run (iterate AnalysisConfig.default (restoredPair 10 1000)) (AnalysisState.start 0)
        (firstWindows reversed) = some (final, outs) ∧
      ¬ Throughout (SavedAtPeace AnalysisConfig.default) outs.flatten := by
  constructor
  · decide +kernel
  · decide +kernel

end Flod.Stage1
