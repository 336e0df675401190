import Flod.Stage2.PlaybookRows

/-! Stages and the writes that follow them. The action, the record of its event and the advance
of the run are three steps, and a write that fails is not tried again: a run that was not
advanced runs its stage once more, and one that was not recorded is short of an event. -/

namespace Flod.Stage2
open Flod.Lib

variable {F : Type}

namespace EngineEffect

/-- The run and the stage whose action was executed. -/
def executions : EngineEffect F → List (Nat × Nat)
  | .executed run => [(run.id, run.stageIndex)]
  | _ => []

/-- The run that went past a stage. -/
def passes : EngineEffect F → List Nat
  | .passed run => [run.id]
  | _ => []

end EngineEffect

/-- How many stages a run has passed. -/
def stagesPassed (past : List (EngineEffect F)) (runId : Nat) : Nat := (past.flatMap EngineEffect.passes).count runId

theorem executions_concat (past : List (EngineEffect F)) (effect : EngineEffect F) :
    (past ++ [effect]).flatMap EngineEffect.executions =
      past.flatMap EngineEffect.executions ++ effect.executions := by
  rw [List.flatMap_append, List.flatMap_singleton]

theorem passes_concat (past : List (EngineEffect F)) (effect : EngineEffect F) :
    (past ++ [effect]).flatMap EngineEffect.passes = past.flatMap EngineEffect.passes ++ effect.passes := by
  rw [List.flatMap_append, List.flatMap_singleton]

theorem stagesPassed_concat (past : List (EngineEffect F)) (effect : EngineEffect F) (runId : Nat) :
    stagesPassed (past ++ [effect]) runId = stagesPassed past runId + effect.passes.count runId := by
  rw [stagesPassed, passes_concat, List.count_append, stagesPassed]

/-- After an action its event is recorded and its run advanced. -/
def WritesSucceed (s : EngineState F) : EngineEvent F → Prop
  | .call false => s.phase.acting = []
  | _ => True

instance (s : EngineState F) : (e : EngineEvent F) → Decidable (WritesSucceed s e)
  | .call false => decidable_of_iff (s.phase.acting.isEmpty = true) List.isEmpty_iff
  | .call true | .window _ | .request _ => isTrue trivial

/-- The runs a pass has yet to look at. -/
def EnginePhase.waiting : EnginePhase F → List (PlaybookRun F)
  | .loading _ runs => runs
  | .recording _ _ _ _ runs => runs
  | .advancing _ _ _ runs => runs
  | .completing _ _ runs => runs
  | _ => []

/-- Executions lie below the index of their run, and its events are as many as its stages passed. -/
structure Once (past : List (EngineEffect F)) (s : EngineState F) : Prop where
  nodup : (past.flatMap EngineEffect.executions).Nodup
  known : ∀ x ∈ past.flatMap EngineEffect.executions, x.1 < s.store.nextRun
  passedKnown : ∀ id ∈ past.flatMap EngineEffect.passes, id < s.store.nextRun
  stored : ∀ r ∈ s.store.runs, r.running = true → r.id ∉ s.phase.acting.map PlaybookRun.id →
    ∀ k, (r.id, k) ∈ past.flatMap EngineEffect.executions → k < r.stageIndex
  waiting : ∀ run ∈ s.phase.waiting, ∀ k, (run.id, k) ∈ past.flatMap EngineEffect.executions → k < run.stageIndex
  acting : ∀ run ∈ s.phase.acting, ∀ k, (run.id, k) ∈ past.flatMap EngineEffect.executions → k ≤ run.stageIndex
  index : ∀ r ∈ s.store.runs, r.running = true → r.stageIndex = stagesPassed past r.id
  counted : ∀ r ∈ s.store.runs,
    (s.store.eventsOf r.id).length = stagesPassed past r.id + s.phase.ahead.count r.id

namespace Once

variable {past : List (EngineEffect F)} {s s' : EngineState F} {phase : EnginePhase F} {w : PlaybookWindow F}
  {run : PlaybookRun F} {runs : List (PlaybookRun F)}

theorem effect {effect : EngineEffect F} (once : Once past s) (execution : effect.executions = [])
    (pass : effect.passes = []) : Once (past ++ [effect]) s := by
  have executions : (past ++ [effect]).flatMap EngineEffect.executions = past.flatMap EngineEffect.executions := by
    rw [executions_concat, execution, List.append_nil]
  have passes : (past ++ [effect]).flatMap EngineEffect.passes = past.flatMap EngineEffect.passes := by
    rw [passes_concat, pass, List.append_nil]
  have same : stagesPassed (past ++ [effect]) = stagesPassed past := by
    funext id
    rw [stagesPassed_concat, pass]
    rfl
  constructor
  · rw [executions]; exact once.nodup
  · rw [executions]; exact once.known
  · rw [passes]; exact once.passedKnown
  · rw [executions]; exact once.stored
  · rw [executions]; exact once.waiting
  · rw [executions]; exact once.acting
  · rw [same]; exact once.index
  · rw [same]; exact once.counted

theorem move (once : Once past s) (store : s'.store = s.store) (before : s.phase.acting = [])
    (after : s'.phase.acting = []) (waiting : s'.phase.waiting ⊆ s.phase.waiting) : Once past s' := by
  constructor
  · exact once.nodup
  · rw [store]; exact once.known
  · rw [store]; exact once.passedKnown
  · rw [store, after, ← before]; exact once.stored
  · exact fun run member => once.waiting run (waiting member)
  · rw [after]; exact nofun
  · rw [store]; exact once.index
  · rw [store, EnginePhase.ahead_of_quiet after, ← EnginePhase.ahead_of_quiet before]; exact once.counted

theorem go {before after : EnginePhase F} {effect : EngineEffect F} (once : Once past s) (phase : s.phase = before)
    (quiet : before.acting = []) (quiet' : after.acting = []) (waiting : after.waiting ⊆ before.waiting)
    (execution : effect.executions = []) (pass : effect.passes = []) : Once (past ++ [effect]) ⟨s.st, after⟩ := by
  subst phase
  have moved : Once past ⟨s.st, after⟩ := once.move rfl quiet quiet' waiting
  exact moved.effect execution pass

/-- The engine reads the running runs, none of which has executed its current stage. -/
theorem collect (once : Once past s) (phase : s.phase = .checking w []) :
    Once past ⟨s.st, .loading w (s.store.runs.filter PlaybookRun.running)⟩ where
  nodup := once.nodup
  known := once.known
  passedKnown := once.passedKnown
  stored := by
    have stored := once.stored
    rw [phase] at stored
    exact stored
  waiting := by
    intro run member
    obtain ⟨found, running⟩ := List.mem_filter.mp member
    exact once.stored run found running (by rw [phase]; exact nofun)
  acting := nofun
  index := once.index
  counted := by
    have counted := once.counted
    rw [phase] at counted
    exact counted

theorem start [Arith F] {p : Playbook F} {pending : List (Playbook F)} (once : Once past s) (rows : Rows s)
    (phase : s.phase = .starting w p pending) :
    Once past (s.withStore (s.store.startRun p.id w.host w.source w.env.now) (.checking w pending)) := by
  have none : stagesPassed past s.store.nextRun = 0 := by
    refine List.count_eq_zero.mpr fun member => ?_
    exact absurd rfl (once.passedKnown _ member).ne
  have stored := once.stored
  have counted := once.counted
  rw [phase] at stored counted
  constructor
  · exact once.nodup
  · exact fun x member => Nat.lt_succ_of_lt (once.known x member)
  · exact fun id member => Nat.lt_succ_of_lt (once.passedKnown id member)
  · intro r member running quiet k executed
    rcases PlaybookStore.mem_runs_startRun.mp member with old | rfl
    · exact stored r old running quiet k executed
    · exact absurd rfl (once.known _ executed).ne
  · exact nofun
  · exact nofun
  · intro r member running
    rcases PlaybookStore.mem_runs_startRun.mp member with old | rfl
    · exact once.index r old running
    · exact none.symm
  · intro r member
    rcases PlaybookStore.mem_runs_startRun.mp member with old | rfl
    · exact counted r old
    · change (s.store.eventsOf s.store.nextRun).length = stagesPassed past s.store.nextRun + 0
      rw [rows.eventsOf_nextRun, none]
      rfl

theorem execute [Arith F] {stage : Fields F} {count : Nat} {done : PassState F} (once : Once past s) (rows : Rows s)
    (phase : s.phase = .loading w (run :: runs)) (kept : done.store = s.store) :
    Once (past ++ [.executed run]) ⟨done, .recording w run stage count runs⟩ := by
  have executions : (past ++ [EngineEffect.executed run]).flatMap EngineEffect.executions =
      past.flatMap EngineEffect.executions ++ [(run.id, run.stageIndex)] := executions_concat past _
  have passes : (past ++ [EngineEffect.executed run]).flatMap EngineEffect.passes =
      past.flatMap EngineEffect.passes := (passes_concat past _).trans (List.append_nil _)
  have same : stagesPassed (past ++ [.executed run]) = stagesPassed past := by
    funext id
    exact stagesPassed_concat past _ id
  have held : run ∈ s.phase.held := by rw [phase]; exact List.mem_cons_self
  have below := once.waiting run (by rw [phase]; exact List.mem_cons_self)
  have apart := rows.heldApart
  rw [phase] at apart
  have others : run.id ∉ runs.map PlaybookRun.id := (List.nodup_cons.mp apart).1
  have stored := once.stored
  have counted := once.counted
  rw [phase] at stored counted
  have store : EngineState.store ⟨done, .recording w run stage count runs⟩ = s.store := kept
  constructor
  · rw [executions, List.nodup_append]
    refine ⟨once.nodup, List.nodup_singleton _, ?_⟩
    intro x before y now equal
    rw [List.mem_singleton] at now
    rw [equal, now] at before
    exact absurd (below _ before) (Nat.lt_irrefl _)
  · rw [executions, store]
    intro x member
    rcases List.mem_append.mp member with before | now
    · exact once.known x before
    · rw [List.mem_singleton.mp now]
      exact rows.heldGiven run held
  · rw [passes, store]
    exact once.passedKnown
  · rw [executions, store]
    intro r found running quiet k executed
    rcases List.mem_append.mp executed with before | now
    · exact stored r found running nofun k before
    · have ids : r.id = run.id := congrArg Prod.fst (List.mem_singleton.mp now)
      exact absurd (List.mem_singleton.mpr ids) quiet
  · rw [executions]
    intro other member k executed
    rcases List.mem_append.mp executed with before | now
    · exact once.waiting other (by rw [phase]; exact List.mem_cons_of_mem _ member) k before
    · have ids : other.id = run.id := congrArg Prod.fst (List.mem_singleton.mp now)
      exact absurd (List.mem_map.mpr ⟨other, member, ids⟩) others
  · rw [executions]
    intro own member k executed
    rw [List.mem_singleton.mp member] at executed ⊢
    rcases List.mem_append.mp executed with before | now
    · exact (below k before).le
    · exact (congrArg Prod.snd (List.mem_singleton.mp now)).le
  · rw [same, store]
    exact once.index
  · rw [same, store]
    exact counted

theorem record [Arith F] {stage : Fields F} {count : Nat} (once : Once past s)
    (phase : s.phase = .recording w run stage count runs) :
    Once past (s.withStore (s.store.recordEvent (EngineState.firedEvent w run stage))
      (.advancing w run count runs)) := by
  have stored := once.stored
  have waiting := once.waiting
  have acting := once.acting
  have counted := once.counted
  rw [phase] at stored waiting acting counted
  refine ⟨once.nodup, once.known, once.passedKnown, stored, waiting, acting, once.index, ?_⟩
  intro r found
  change ((s.store.recordEvent _).eventsOf r.id).length = stagesPassed past r.id + List.count r.id [run.id]
  by_cases own : run.id = r.id
  · rw [PlaybookStore.eventsOf_recordEvent_self own, List.length_append, counted r found, own,
      List.count_singleton_self]
    rfl
  · rw [PlaybookStore.eventsOf_recordEvent_of_ne own, counted r found, List.count_singleton,
      if_neg (by simpa using own)]
    rfl

theorem pass [Arith F] {count : Nat} (once : Once past s) (rows : Rows s)
    (phase : s.phase = .advancing w run count runs) :
    Once (past ++ [.passed run])
      (s.withStore (s.store.advance run.id (EngineState.nextStage run count) w.env.now) (.loading w runs)) := by
  have executions : (past ++ [EngineEffect.passed run]).flatMap EngineEffect.executions =
      past.flatMap EngineEffect.executions := (executions_concat past _).trans (List.append_nil _)
  have passes : (past ++ [EngineEffect.passed run]).flatMap EngineEffect.passes =
      past.flatMap EngineEffect.passes ++ [run.id] := passes_concat past _
  have counts (id : Nat) : stagesPassed (past ++ [.passed run]) id = stagesPassed past id + [run.id].count id :=
    stagesPassed_concat past _ id
  have held : run ∈ s.phase.held := by rw [phase]; exact List.mem_cons_self
  have stored := once.stored
  have waiting := once.waiting
  have acting := once.acting
  have counted := once.counted
  rw [phase] at stored waiting acting counted
  -- the row that advances is the one the engine read
  have row (old : PlaybookRun F) (found : old ∈ s.store.runs) (same : old.id = run.id) : old = run :=
    rows.same run held old found same
  constructor
  · rw [executions]
    exact once.nodup
  · rw [executions]
    intro x member
    change x.1 < (s.store.advance run.id _ w.env.now).nextRun
    rw [PlaybookStore.nextRun_advance]
    exact once.known x member
  · rw [passes]
    intro id member
    change id < (s.store.advance run.id _ w.env.now).nextRun
    rw [PlaybookStore.nextRun_advance]
    rcases List.mem_append.mp member with before | now
    · exact once.passedKnown id before
    · rw [List.mem_singleton.mp now]
      exact rows.heldGiven run held
  · rw [executions]
    intro r member running _ k executed
    rcases PlaybookStore.mem_runs_advance.mp member with ⟨found, other⟩ | ⟨old, found, same, rfl⟩
    · exact stored r found running (fun among => other (List.mem_singleton.mp among)) k executed
    · rw [row old found same] at running executed ⊢
      rw [PlaybookRun.advanced_id] at executed
      rw [PlaybookRun.advanced_nextStage running]
      exact Nat.lt_succ_of_le (acting run (List.mem_singleton_self _) k executed)
  · rw [executions]
    exact waiting
  · exact nofun
  · intro r member running
    rw [counts]
    rcases PlaybookStore.mem_runs_advance.mp member with ⟨found, other⟩ | ⟨old, found, same, rfl⟩
    · rw [List.count_singleton, if_neg (by simpa using Ne.symm other)]
      exact once.index r found running
    · rw [row old found same] at running ⊢
      rw [PlaybookRun.advanced_nextStage running, PlaybookRun.advanced_id, List.count_singleton_self,
        once.index run (row old found same ▸ found) (rows.heldRunning run held)]
  · intro r member
    change ((s.store.advance run.id _ w.env.now).eventsOf r.id).length = _ + 0
    rw [PlaybookStore.eventsOf_advance, counts, Nat.add_zero]
    rcases PlaybookStore.mem_runs_advance.mp member with ⟨found, -⟩ | ⟨old, found, -, rfl⟩
    · exact counted r found
    · rw [PlaybookRun.advanced_id]
      exact counted old found

theorem complete [Arith F] (once : Once past s) (phase : s.phase = .completing w run runs) :
    Once past (s.withStore (s.store.advance run.id none w.env.now) (.loading w runs)) := by
  have stored := once.stored
  have waiting := once.waiting
  have counted := once.counted
  rw [phase] at stored waiting counted
  have rows (r : PlaybookRun F) (member : r ∈ (s.store.advance run.id none w.env.now).runs) :=
    PlaybookStore.mem_runs_advance.mp member
  refine ⟨once.nodup, once.known, once.passedKnown, ?_, waiting, nofun, ?_, ?_⟩
  · intro r member running quiet k executed
    rcases rows r member with ⟨found, -⟩ | ⟨old, -, -, rfl⟩
    · exact stored r found running quiet k executed
    · cases running
  · intro r member running
    rcases rows r member with ⟨found, -⟩ | ⟨old, -, -, rfl⟩
    · exact once.index r found running
    · cases running
  · intro r member
    rcases rows r member with ⟨found, -⟩ | ⟨old, found, -, rfl⟩
    · exact counted r found
    · exact counted old found

theorem request (once : Once past s) (rows : Rows s) (r : PlaybookRequest F) :
    Once past (s.withStore (s.store.handle r) s.phase) := by
  rcases PlaybookStore.handle_eq s.store r with ⟨id, -, made⟩ | ⟨runs, events, nextRun⟩
  · rw [made]
    refine ⟨once.nodup, once.known, once.passedKnown, ?_, once.waiting, once.acting, ?_, ?_⟩
    · exact fun r member => once.stored r (PlaybookStore.mem_runs_deletePlaybook.mp member).1
    · exact fun r member => once.index r (PlaybookStore.mem_runs_deletePlaybook.mp member).1
    · intro r member
      change ((s.store.deletePlaybook id).eventsOf r.id).length = _
      rw [PlaybookStore.eventsOf_deletePlaybook rows.apart member]
      exact once.counted r (PlaybookStore.mem_runs_deletePlaybook.mp member).1
  · constructor
    · exact once.nodup
    · intro x member
      change x.1 < (s.store.handle r).nextRun
      rw [nextRun]
      exact once.known x member
    · intro id member
      change id < (s.store.handle r).nextRun
      rw [nextRun]
      exact once.passedKnown id member
    · change ∀ row ∈ (s.store.handle r).runs, _
      rw [runs]
      exact once.stored
    · exact once.waiting
    · exact once.acting
    · change ∀ row ∈ (s.store.handle r).runs, _
      rw [runs]
      exact once.index
    · intro row member
      change row ∈ (s.store.handle r).runs at member
      change ((s.store.handle r).events.filter _).length = _
      rw [runs] at member
      rw [events]
      exact once.counted row member

end Once

theorem once_step [Arith F] {past : List (EngineEffect F)} {s s' : EngineState F} {e : EngineEvent F}
    {effect : EngineEffect F} (taken : s.step e = some (s', effect)) (succeed : WritesSucceed s e)
    (before : Rows s ∧ Once past s) : Rows s' ∧ Once (past ++ [effect]) s' := by
  obtain ⟨rows, once⟩ := before
  cases e with
  | window w =>
    refine ⟨rows.opened taken, ?_⟩
    obtain ⟨idle, rfl, rfl⟩ := opened_of_open taken
    have moved : Once past ⟨{ s.st with alerts := [] }, .checking w (s.store.enabledFor w.host)⟩ :=
      once.move rfl (by rw [idle]; rfl) rfl nofun
    exact moved.effect rfl rfl
  | request r =>
    cases taken
    exact ⟨rows.request r, (once.request rows r).effect rfl rfl⟩
  | call ok =>
    have called := called_of_call taken
    refine ⟨rows.call called, ?_⟩
    cases called with
    | abandoned ok quiet => exact once.go rfl quiet rfl nofun rfl rfl
    | collected w phase => exact (once.collect phase).effect rfl rfl
    | checked w p pending phase => exact once.go phase rfl rfl nofun rfl rfl
    | triggered w p pending phase inactive => exact once.go phase rfl rfl nofun rfl rfl
    | started w p pending phase => exact (once.start rows phase).effect rfl rfl
    | unstarted w p pending phase => exact once.go phase rfl rfl nofun rfl rfl
    | ended ok w phase => exact once.go phase rfl rfl nofun rfl rfl
    | skipped w run runs phase within =>
      exact once.go phase rfl rfl (List.subset_cons_self _ _) rfl rfl
    | exhausted w run runs definition phase valid reached =>
      exact once.go phase rfl rfl (List.subset_cons_self _ _) rfl rfl
    | executed w run runs definition stage done phase valid current late kept => exact once.execute rows phase kept
    | recorded w run stage count runs phase => exact (once.record phase).effect rfl rfl
    | unrecorded w run stage count runs phase =>
      change s.phase.acting = [] at succeed
      rw [phase] at succeed
      cases succeed
    | passed w run count runs phase => exact once.pass rows phase
    | unpassed w run count runs phase =>
      change s.phase.acting = [] at succeed
      rw [phase] at succeed
      cases succeed
    | completed w run runs phase => exact (once.complete phase).effect rfl rfl
    | uncompleted w run runs phase =>
      exact once.go phase rfl rfl (List.Subset.refl _) rfl rfl

/-- For every sequence of passes, with calls failing and requests coming at any point, in which
the two writes after an action succeed: no stage of a run is executed twice, and whenever the
engine is idle the events of a run are as many as the stages it has passed. -/
theorem stages_executed_once [Arith F] (start final : EngineState F) (events : List (EngineEvent F))
    (past : List (EngineEffect F)) (unused : Unused start)
    (succeed : Always EngineState.step (fun s e _ _ => WritesSucceed s e) start events)
    (ran : run EngineState.step start events = some (final, past)) :
    (past.flatMap EngineEffect.executions).Nodup ∧
      (final.phase = .idle → ∀ r ∈ final.store.runs,
        (final.store.eventsOf r.id).length = stagesPassed past r.id ∧
          (r.running = true → r.stageIndex = stagesPassed past r.id)) := by
  have opened : Once [] start := by
    refine ⟨List.nodup_nil, nofun, nofun, ?_, ?_, ?_, ?_, ?_⟩
    · rw [unused.runs]
      exact nofun
    · rw [unused.idle]
      exact nofun
    · rw [unused.idle]
      exact nofun
    · rw [unused.runs]
      exact nofun
    · rw [unused.runs]
      exact nofun
  have both := run_history_of_always (I := fun past s => Rows s ∧ Once past s)
    (fun past s e mid effect before taken meets => once_step taken meets before) events [] start final past
    ⟨unused.rows, opened⟩ succeed ran
  refine ⟨both.2.nodup, fun idle r found => ⟨?_, both.2.index r found⟩⟩
  have counted := both.2.counted r found
  rw [idle] at counted
  exact counted

/-- The executions of a run, and its events with the stages passed. -/
def executionsOf (result : EngineState ℚ × List (EngineEffect ℚ)) (runId : Nat) : List (Nat × Nat) × Nat × Nat :=
  (result.2.flatMap EngineEffect.executions, (result.1.store.eventsOf runId).length, stagesPassed result.2 runId)

/-- The first run cannot be inserted; the one of the next window executes its first stage. -/
def startFailsOnce : List (EngineEvent ℚ) :=
  [.window (attackAt 10), .call true, .call false, .call true, .call true, .window (attackAt 20)] ++
    List.replicate 7 (.call true)

theorem startFailsOnce_executed :
    ∃ final past, run EngineState.step notifyTwice startFailsOnce = some (final, past) ∧
      executionsOf (final, past) 1 = ([(1, 0)], 1, 1) ∧ (past.flatMap EngineEffect.executions).Nodup := by
  have shown : (run EngineState.step notifyTwice startFailsOnce).map (fun result => executionsOf result 1) =
      some ([(1, 0)], 1, 1) := by decide +kernel
  obtain ⟨⟨final, past⟩, ran, counts⟩ := Option.map_eq_some_iff.mp shown
  exact ⟨final, past, ran, counts,
    (stages_executed_once notifyTwice final startFailsOnce past notifyTwice_unused (by decide +kernel) ran).1⟩

/-- The write that advances the run fails in the first pass. -/
def advanceFails : List (EngineEvent ℚ) :=
  .window (attackAt 10) :: List.replicate 5 (.call true) ++ [.call false, .call true, .window (attackAt 20)] ++
    List.replicate 6 (.call true)

/-- The write that records the event fails. -/
def recordFails : List (EngineEvent ℚ) :=
  .window (attackAt 10) :: List.replicate 4 (.call true) ++ [.call false, .call true, .call true]

/-- The first stage is executed twice and recorded twice for one stage passed; and where its
event is not recorded the run has passed a stage without one. -/
theorem failed_writes_split_runs :
    (run EngineState.step notifyTwice advanceFails).map
        (fun result => (result.1.phase.isIdle, executionsOf result 1)) = some (true, [(1, 0), (1, 0)], 2, 1) ∧
      (run EngineState.step notifyTwice recordFails).map
        (fun result => (result.1.phase.isIdle, executionsOf result 1)) = some (true, [(1, 0)], 0, 1) := by
  constructor
  · decide +kernel
  · decide +kernel

end Flod.Stage2
