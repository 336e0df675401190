import Flod.Stage1.AnalysisRun

/-! The one second cap on an open window. A packet implicates only its own destination,
so the cap holds through a run exactly when every overdue victim is one the arrival
has the loop check. -/

namespace Flod.Stage1
open Flod.Lib Flod.Net

variable {F : Type} [Arith F] {cfg : AnalysisConfig F} {persisted : Option (PersistedState F)}

/-- A tracked victim whose window has been open for a second or more. -/
def OverdueAt (now : Instant) (targets : Dict IpAddr (TargetState F)) (v : IpAddr) : Prop :=
  ∃ ts, targets.get? v = some ts ∧ (1 : F) ≤ secondsSince now ts.lastWindowClose

instance (now : Instant) (targets : Dict IpAddr (TargetState F)) (v : IpAddr) :
    Decidable (OverdueAt now targets v) :=
  decidable_of_iff ((targets.get? v).any
    (fun ts => decide ((1 : F) ≤ secondsSince now ts.lastWindowClose)) = true) (by
      simp [OverdueAt, Option.any_eq_true])

def NoWindowOverdue (now : Instant) (st : AnalysisState F) : Prop :=
  ∀ v, ¬ OverdueAt now st.targetsMap v

/-- Every victim overdue when the iteration begins is one its arrival implicates. -/
def CoversOverdue (st : AnalysisState F) (it : Iteration F) : Prop :=
  ∀ v, OverdueAt it.reading.now st.targetsMap v → it.arrival.checks v

def TracksOnlyProtected (cfg : AnalysisConfig F) (targets : Dict IpAddr (TargetState F)) : Prop :=
  ∀ v ∈ targets.keys, cfg.isEffectivelyProtected v = true

theorem secondsSince_self (now : Instant) : (secondsSince now now : F) = 0 := by
  simp [secondsSince]

theorem OverdueAt.mem_keys {now : Instant} {targets : Dict IpAddr (TargetState F)} {v : IpAddr}
    (overdue : OverdueAt now targets v) : v ∈ targets.keys := by
  obtain ⟨ts, found, _⟩ := overdue
  exact Dict.mem_keys_of_get? found

/-- A victim just created is never overdue, and counting packets does not reopen a window. -/
theorem Admits.overdueAt_iff {now : Instant} {before after : Dict IpAddr (TargetState F)}
    (admits : Admits cfg persisted now before after) (v : IpAddr) :
    OverdueAt now after v ↔ OverdueAt now before v := by
  cases found : before.get? v with
  | none =>
    refine ⟨?_, fun ⟨ts, here, _⟩ => by rw [found] at here; cases here⟩
    rintro ⟨ts', found', late⟩
    obtain ⟨-, ts, fresh, same⟩ := admits.created v ts' found found'
    rw [same.lastWindowClose, (TargetState.new_fresh fresh).1, secondsSince_self] at late
    exact absurd late (by norm_num)
  | some ts =>
    obtain ⟨ts', found', same⟩ := admits.kept v ts found
    simp only [OverdueAt, found, found', Option.some.injEq, exists_eq_left', same.lastWindowClose]

theorem shouldClose_of_overdue {now : Instant} {ts : TargetState F}
    (late : (1 : F) ≤ secondsSince now ts.lastWindowClose) : shouldClose now ts = true := by
  simp [shouldClose, late]

theorem checkVictim_overdueAt {reading : Reading F} {st st' : AnalysisState F} {u : IpAddr}
    {effects : List (Effect F)} (checked : checkVictim cfg reading st u = some (st', effects))
    (v : IpAddr) :
    OverdueAt reading.now st'.targetsMap v ↔ OverdueAt reading.now st.targetsMap v ∧ v ≠ u := by
  rcases checkVictim_cases checked with ⟨rfl, -, early⟩ | ⟨ts, after, w, found, -, closed, rfl, -⟩
  · refine ⟨fun overdue => ⟨overdue, ?_⟩, fun overdue => overdue.1⟩
    rintro rfl
    obtain ⟨ts, found, late⟩ := overdue
    exact absurd (shouldClose_of_overdue late) (by simp [early ts found])
  · have reopened := (closeWindow_spec closed).1.reopened
    simp only [OverdueAt, settle_targetsMap]
    by_cases same : v = u
    · subst same
      simp [reopened, secondsSince_self]
    · simp [Dict.get?_set_of_ne _ _ same, same]

theorem checks_overdueAt {reading : Reading F} {st st' : AnalysisState F} {victims : List IpAddr}
    {outs : List (List (Effect F))} (ran : run (checkVictim cfg reading) st victims = some (st', outs))
    (v : IpAddr) :
    OverdueAt reading.now st'.targetsMap v ↔
      OverdueAt reading.now st.targetsMap v ∧ v ∉ victims := by
  induction victims generalizing st outs with
  | nil =>
    simp only [run, Option.some.injEq, Prod.mk.injEq] at ran
    simp [ran.1]
  | cons u rest ih =>
    obtain ⟨mid, _, _, first, later, -⟩ := run_cons ran
    rw [ih later, checkVictim_overdueAt first, List.mem_cons, not_or, and_assoc]

/-- What an iteration leaves overdue is what it found overdue and did not check. -/
theorem iterate_overdueAt {st st' : AnalysisState F} {it : Iteration F} {effects : List (Effect F)}
    (guarded : TracksOnlyProtected cfg st.targetsMap)
    (iterated : iterate cfg persisted st it = some (st', effects)) (v : IpAddr) :
    OverdueAt it.reading.now st'.targetsMap v ↔
      OverdueAt it.reading.now st.targetsMap v ∧ ¬ it.arrival.checks v := by
  obtain ⟨mid, victims, outs, arrived, checked, -⟩ := iterate_cases iterated
  obtain ⟨recorded, listed⟩ := arrive_spec arrived
  rw [checks_overdueAt checked, recorded.overdueAt_iff]
  refine and_congr_right fun overdue => not_congr (listed v ?_ (guarded v overdue.mem_keys))
  exact ((recorded.overdueAt_iff v).mpr overdue).mem_keys

theorem Admits.tracksOnlyProtected {now : Instant} {before after : Dict IpAddr (TargetState F)}
    (guarded : TracksOnlyProtected cfg before) (admits : Admits cfg persisted now before after) :
    TracksOnlyProtected cfg after := by
  intro v member
  obtain ⟨ts', found'⟩ := Dict.get?_of_mem_keys member
  cases found : before.get? v with
  | none => exact (admits.created v ts' found found').1
  | some ts => exact guarded v (Dict.mem_keys_of_get? found)

theorem iterate_tracksOnlyProtected {st st' : AnalysisState F} {it : Iteration F}
    {effects : List (Effect F)} (guarded : TracksOnlyProtected cfg st.targetsMap)
    (iterated : iterate cfg persisted st it = some (st', effects)) :
    TracksOnlyProtected cfg st'.targetsMap :=
  iterate_history (I := fun _ targets => TracksOnlyProtected cfg targets) (C := fun _ _ _ => True)
    (fun _ _ _ _ inv admits => admits.tracksOnlyProtected inv)
    (fun _ _ _ _ _ _ _ inv _ found _ _ => by
      rwa [TracksOnlyProtected, Dict.keys_set_of_mem _ _ (Dict.mem_keys_of_get? found)])
    [] guarded (fun _ _ => always_true _ _) iterated

/-- Windows are closed for protected hosts only. -/
theorem run_guards {its : List (Iteration F)} {began : Instant} {final : AnalysisState F}
    {outs : List (List (Effect F))}
    (ran : run (iterate cfg persisted) (AnalysisState.start began) its = some (final, outs)) :
    ∀ w ∈ closedWindows outs.flatten, cfg.isEffectivelyProtected w.victim = true := by
  have none : TracksOnlyProtected cfg (AnalysisState.start began : AnalysisState F).targetsMap := by
    intro v member
    cases member
  have kept := loop_history (I := fun past targets => TracksOnlyProtected cfg targets ∧
      ∀ w ∈ closedWindows past, cfg.isEffectivelyProtected w.victim = true)
    (C := fun _ _ _ => True) (fun _ _ _ _ inv admits => ⟨admits.tracksOnlyProtected inv.1, inv.2⟩) ?_
    ⟨none, by simp [closedWindows]⟩ (everyCheck_true _ its) ran
  · exact kept.2
  · intro past reading st v ts after u inv _ found _ closing
    have tracked := Dict.mem_keys_of_get? found
    refine ⟨?_, fun w member => ?_⟩
    · rw [TracksOnlyProtected, Dict.keys_set_of_mem _ _ tracked]
      exact inv.1
    · rw [closedWindows_append, closedWindows_settle, List.mem_append, List.mem_singleton] at member
      rcases member with earlier | rfl
      · exact inv.2 w earlier
      · rw [(closeWindow_spec closing).1.named]
        exact inv.1 v tracked

/-- In every run of the loop, no window is a second old when an iteration ends exactly if
each iteration's arrival implicates every victim overdue at its clock reading. -/
theorem no_window_overdue_iff_covered (cfg : AnalysisConfig F)
    (persisted : Option (PersistedState F)) (began : Instant) (its : List (Iteration F)) :
    Always (iterate cfg persisted) (fun _ it _ st' => NoWindowOverdue it.reading.now st')
        (AnalysisState.start began) its ↔
      Always (iterate cfg persisted) (fun st it _ _ => CoversOverdue st it)
        (AnalysisState.start began) its := by
  refine always_iff (I := fun st => TracksOnlyProtected cfg st.targetsMap)
    (fun _ _ _ _ guarded iterated _ => iterate_tracksOnlyProtected guarded iterated) ?_ its _ ?_
  · intro st it st' effects guarded iterated
    simp only [NoWindowOverdue, CoversOverdue, iterate_overdueAt guarded iterated, not_and, not_not]
  · intro v member
    exact absurd member (by simp [AnalysisState.start, Dict.keys, Dict.empty])

/-- One packet to 10.0.0.2, and 10.0.0.1 still receiving 1.2 seconds later. -/
theorem quiet_victim_overdue :
    ∃ final outs, run (iterate (AnalysisConfig.default : AnalysisConfig ℚ) none) (AnalysisState.start 0)
      [packetAt 0 0xC0000201 0x0A000002, packetAt 600000000 0xC0000201 0x0A000001,
        packetAt 1200000000 0xC0000201 0x0A000001] = some (final, outs) ∧
      OverdueAt 1200000000 final.targetsMap (.v4 0x0A000002) := by
  decide +kernel

end Flod.Stage1
