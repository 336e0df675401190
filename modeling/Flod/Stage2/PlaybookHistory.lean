import Flod.Stage2.PlaybookRows

/-! The history of a run over many passes, with playbooks edited, switched and deleted between
them: its events are numbered and timed, and it completes when its stages are exhausted. -/

namespace Flod.Stage2
open Flod.Lib

variable {F : Type}

/-- When the current stage of a run began: its last event, or its start. -/
def PlaybookStore.since (store : PlaybookStore F) (r : PlaybookRun F) : F :=
  ((store.eventsOf r.id).getLast?.map PlaybookEvent.firedAt).getD r.startedAt

/-- Whether the next call of the engine is a write. -/
def EnginePhase.writes : EnginePhase F → Bool
  | .starting _ _ _ | .recording _ _ _ _ _ | .advancing _ _ _ _ | .completing _ _ _ => true
  | _ => false

/-- No write fails, and requests come between passes. -/
def Calm (s : EngineState F) : EngineEvent F → Prop
  | .window _ => True
  | .call ok => s.phase.writes = true → ok = true
  | .request _ => s.phase.isIdle = true

instance (s : EngineState F) : (e : EngineEvent F) → Decidable (Calm s e)
  | .window _ => isTrue trivial
  | .call _ => inferInstanceAs (Decidable (_ → _))
  | .request _ => inferInstanceAs (Decidable (_ = _))

section Laws

variable [Arith F]

/-- At most one running run of a playbook for a host. -/
def OneRunning (store : PlaybookStore F) : Prop :=
  ∀ r ∈ store.runs, ∀ r' ∈ store.runs, r.running = true → r'.running = true →
    r.playbookId = r'.playbookId → r.targetHost = r'.targetHost → r = r'

/-- The events of a run carry the stage indices from zero on, in the order they fired. -/
def Numbered (store : PlaybookStore F) : Prop :=
  ∀ r ∈ store.runs, (store.eventsOf r.id).map PlaybookEvent.stageIndex = List.range (store.eventsOf r.id).length

/-- A running run outside the list has stages left. -/
def StagesLeft (store : PlaybookStore F) (except : List (PlaybookRun F)) : Prop :=
  ∀ r ∈ store.runs, r.running = true → r ∈ except ∨
    ∀ definition, store.validDefinition r.playbookId = some definition → r.stageIndex < definition.stages.length

/-- A new event is of the current stage of a running run, and its delay has passed since the
stage before it, or since the start. -/
def FiresLate (s s' : EngineState F) : Prop :=
  ∀ e ∈ s'.store.events, e ∈ s.store.events ∨
    ∃ r ∈ s.store.runs, r.id = e.runId ∧ r.running = true ∧ r.stageIndex = e.stageIndex ∧
      ∃ definition stage, s.store.validDefinition r.playbookId = some definition ∧
        definition.stages[e.stageIndex]? = some stage ∧
        isBelow (e.firedAt - s.store.since r) (stageDelay stage) = false

/-- A run completes where its index has reached the stage count, or where its last stage has
just fired. -/
def CompletesExhausted (s s' : EngineState F) : Prop :=
  ∀ r ∈ s.store.runs, r.running = true → ∀ r' ∈ s'.store.runs, r'.id = r.id → r'.running = false →
    ∃ definition, s.store.validDefinition r.playbookId = some definition ∧
      (definition.stages.length ≤ r.stageIndex ∨
        r.stageIndex + 1 = definition.stages.length ∧ ∃ e ∈ s.store.eventsOf r.id, e.stageIndex = r.stageIndex)

/-- A completed run stays as it is and fires no more. -/
def NeverAgain (s s' : EngineState F) : Prop :=
  ∀ r ∈ s.store.runs, r.running = false →
    (∀ r' ∈ s'.store.runs, r'.id = r.id → r' = r) ∧ ∀ e ∈ s'.store.events, e.runId = r.id → e ∈ s.store.events

/-- What the engine knows where it stands. -/
def EnginePhase.Fits (store : PlaybookStore F) : EnginePhase F → Prop
  | .idle => True
  | .checking _ _ => True
  | .starting w p _ => store.hasActiveRun p.id w.host = false
  | .loading _ runs => StagesLeft store runs
  | .recording w run stage count runs =>
      StagesLeft store (run :: runs) ∧ ∃ definition, store.validDefinition run.playbookId = some definition ∧
        count = definition.stages.length ∧ definition.stages[run.stageIndex]? = some stage ∧
        isBelow (w.env.now - run.updatedAt) (stageDelay stage) = false
  | .advancing w run count runs =>
      StagesLeft store (run :: runs) ∧ (∃ definition, store.validDefinition run.playbookId = some definition ∧
        count = definition.stages.length ∧ run.stageIndex < definition.stages.length) ∧
        (store.eventsOf run.id).length = run.stageIndex + 1 ∧ store.since run = w.env.now
  | .completing _ run runs =>
      StagesLeft store (run :: runs) ∧ ∃ definition, store.validDefinition run.playbookId = some definition ∧
        definition.stages.length ≤ run.stageIndex

/-- The tables and the engine between any two calls. -/
structure Orderly (s : EngineState F) : Prop where
  single : OneRunning s.store
  numbered : Numbered s.store
  timed : ∀ r ∈ s.store.runs, r.running = true → r.id ∉ s.phase.ahead →
    (s.store.eventsOf r.id).length = r.stageIndex ∧ s.store.since r = r.updatedAt
  present : ∀ run ∈ s.phase.held, run ∈ s.store.runs
  fits : s.phase.Fits s.store

namespace Orderly

variable {s s' : EngineState F} {phase : EnginePhase F} {w : PlaybookWindow F} {run : PlaybookRun F}
  {runs : List (PlaybookRun F)}

theorem move (orderly : Orderly s) (store : s'.store = s.store) (before : s.phase.ahead = [])
    (held : s'.phase.held ⊆ s.phase.held) (fits : s'.phase.Fits s.store) : Orderly s' where
  single := store ▸ orderly.single
  numbered := store ▸ orderly.numbered
  timed := by
    intro r found running _
    rw [store] at found ⊢
    exact orderly.timed r found running (by rw [before]; exact nofun)
  present := fun run member => store ▸ orderly.present run (held member)
  fits := store ▸ fits

theorem collect (orderly : Orderly s) (phase : s.phase = .checking w []) :
    Orderly ⟨s.st, .loading w (s.store.runs.filter PlaybookRun.running)⟩ where
  single := orderly.single
  numbered := orderly.numbered
  timed := fun r found running _ => orderly.timed r found running (by rw [phase]; exact nofun)
  present := fun run member => List.mem_of_mem_filter member
  fits := fun r found running => Or.inl (List.mem_filter.mpr ⟨found, running⟩)

theorem start {p : Playbook F} {pending : List (Playbook F)} (orderly : Orderly s) (rows : Rows s)
    (phase : s.phase = .starting w p pending) :
    Orderly (s.withStore (s.store.startRun p.id w.host w.source w.env.now) (.checking w pending)) := by
  have inactive : s.store.hasActiveRun p.id w.host = false := by
    have fits := orderly.fits
    rw [phase] at fits
    exact fits
  have free (r : PlaybookRun F) (found : r ∈ s.store.runs) (running : r.running = true)
      (same : r.playbookId = p.id) (host : r.targetHost = w.host) : False := by
    have active : s.store.hasActiveRun p.id w.host = true :=
      List.any_eq_true.mpr ⟨r, found, by simp [running, same, host]⟩
    rw [inactive] at active
    cases active
  have none : (s.store.startRun p.id w.host w.source w.env.now).eventsOf s.store.nextRun = [] := rows.eventsOf_nextRun
  constructor
  · intro r member r' member' running running' same host
    rcases PlaybookStore.mem_runs_startRun.mp member with old | rfl
    · rcases PlaybookStore.mem_runs_startRun.mp member' with old' | rfl
      · exact orderly.single r old r' old' running running' same host
      · exact (free r old running same host).elim
    · rcases PlaybookStore.mem_runs_startRun.mp member' with old' | rfl
      · exact (free r' old' running' same.symm host.symm).elim
      · rfl
  · intro r member
    rcases PlaybookStore.mem_runs_startRun.mp member with old | rfl
    · exact orderly.numbered r old
    · change ((s.store.startRun p.id w.host w.source w.env.now).eventsOf s.store.nextRun).map _ = List.range
        ((s.store.startRun p.id w.host w.source w.env.now).eventsOf s.store.nextRun).length
      rw [none]
      rfl
  · intro r member running _
    rcases PlaybookStore.mem_runs_startRun.mp member with old | rfl
    · exact orderly.timed r old running (by rw [phase]; exact nofun)
    · change ((s.store.startRun p.id w.host w.source w.env.now).eventsOf s.store.nextRun).length = 0 ∧
        (((s.store.startRun p.id w.host w.source w.env.now).eventsOf s.store.nextRun).getLast?.map _).getD _ = _
      rw [none]
      exact ⟨rfl, rfl⟩
  · exact nofun
  · trivial

/-- The event of the current stage is numbered after those before it. -/
theorem record {stage : Fields F} {count : Nat} (orderly : Orderly s) (rows : Rows s)
    (phase : s.phase = .recording w run stage count runs) :
    Orderly (s.withStore (s.store.recordEvent (EngineState.firedEvent w run stage))
      (.advancing w run count runs)) := by
  have fits := orderly.fits
  have timed := orderly.timed
  rw [phase] at fits timed
  obtain ⟨left, definition, valid, counts, current, -⟩ := fits
  have held : run ∈ s.phase.held := by rw [phase]; exact List.mem_cons_self
  have known : run ∈ s.store.runs := orderly.present run held
  obtain ⟨length, -⟩ := timed run known (rows.heldRunning run held) nofun
  have own : (s.store.recordEvent (EngineState.firedEvent w run stage)).eventsOf run.id =
      s.store.eventsOf run.id ++ [EngineState.firedEvent w run stage] :=
    PlaybookStore.eventsOf_recordEvent_self rfl
  have others {id : Nat} (differs : id ≠ run.id) :
      (s.store.recordEvent (EngineState.firedEvent w run stage)).eventsOf id = s.store.eventsOf id :=
    PlaybookStore.eventsOf_recordEvent_of_ne (Ne.symm differs)
  constructor
  · exact orderly.single
  · intro r found
    change ((s.store.recordEvent _).eventsOf r.id).map _ = List.range ((s.store.recordEvent _).eventsOf r.id).length
    by_cases same : r.id = run.id
    · have numbered := orderly.numbered run known
      rw [same, own, List.map_append, numbered, List.length_append, length, List.length_singleton, List.range_succ]
      rfl
    · rw [others same]
      exact orderly.numbered r found
  · intro r found running away
    have differs : r.id ≠ run.id := fun same => away (List.mem_singleton.mpr same)
    change ((s.store.recordEvent _).eventsOf r.id).length = _ ∧ PlaybookStore.since _ r = _
    rw [PlaybookStore.since]
    change _ ∧ (((s.store.recordEvent _).eventsOf r.id).getLast?.map _).getD _ = _
    rw [others differs]
    exact timed r found running nofun
  · intro other member
    exact orderly.present other (by rw [phase]; exact member)
  · refine ⟨left, ⟨definition, valid, counts, (List.getElem?_eq_some_iff.mp current).1⟩, ?_, ?_⟩
    · change ((s.store.recordEvent _).eventsOf run.id).length = _
      rw [own, List.length_append, length, List.length_singleton]
    · change (((s.store.recordEvent _).eventsOf run.id).getLast?.map _).getD _ = _
      rw [own, List.getLast?_concat]
      rfl

omit [Arith F] in
/-- What an advance makes of the runs, with what it leaves of each. -/
theorem advance_row {r : PlaybookRun F} {runId : Nat} {next : Option Nat} {now : F} {store : PlaybookStore F}
    (member : r ∈ (store.advance runId next now).runs) :
    ∃ old ∈ store.runs, r = (if old.id = runId then old.advanced next now else old) ∧ r.id = old.id ∧
      r.playbookId = old.playbookId ∧ r.targetHost = old.targetHost ∧ (r.running = true → old.running = true) := by
  rcases PlaybookStore.mem_runs_advance.mp member with ⟨found, other⟩ | ⟨old, found, same, rfl⟩
  · exact ⟨r, found, (if_neg other).symm, rfl, rfl, rfl, fun running => running⟩
  · refine ⟨old, found, (if_pos same).symm, old.advanced_id next now, old.advanced_playbookId next now,
      old.advanced_targetHost next now, ?_⟩
    cases next with
    | none => exact nofun
    | some index => exact fun running => running

omit [Arith F] in
/-- A run that is running after the advance is another one, or the one that moved to an index. -/
theorem running_of_advance {next : Option Nat} {now : F} {r : PlaybookRun F} (rows : Rows s)
    (among : run ∈ s.phase.held) (member : r ∈ (s.store.advance run.id next now).runs) (running : r.running = true) :
    r ∈ s.store.runs ∧ r.id ≠ run.id ∨ ∃ index, next = some index ∧ r = run.advanced (some index) now := by
  rcases PlaybookStore.mem_runs_advance.mp member with other | ⟨old, found, same, rfl⟩
  · exact Or.inl other
  · rw [rows.same run among old found same] at running ⊢
    cases next with
    | none => cases running
    | some index => exact Or.inr ⟨index, rfl, rfl⟩

/-- The run the engine deals with goes on to a stage that exists, or completes. -/
theorem advance {next : Option Nat} {now : F} (orderly : Orderly s) (rows : Rows s)
    (held : s.phase.held = run :: runs) (ahead : s.phase.ahead ⊆ [run.id]) (left : StagesLeft s.store (run :: runs))
    (reached : ∀ index, next = some index → (s.store.eventsOf run.id).length = index ∧ s.store.since run = now ∧
      ∀ definition, s.store.validDefinition run.playbookId = some definition → index < definition.stages.length) :
    Orderly (s.withStore (s.store.advance run.id next now) (.loading w runs)) := by
  have among : run ∈ s.phase.held := by rw [held]; exact List.mem_cons_self
  have valid (id : Nat) : (s.store.advance run.id next now).validDefinition id = s.store.validDefinition id := by
    cases next <;> rfl
  constructor
  · intro r member r' member' running running' playbook host
    obtain ⟨old, found, made, -, playbookOld, hostOld, ran⟩ := advance_row member
    obtain ⟨old', found', made', -, playbookOld', hostOld', ran'⟩ := advance_row member'
    have same := orderly.single old found old' found' (ran running) (ran' running')
      (playbookOld ▸ playbookOld' ▸ playbook) (hostOld ▸ hostOld' ▸ host)
    rw [made, made', same]
  · intro r member
    obtain ⟨old, found, -, ids, -⟩ := advance_row member
    change ((s.store.advance run.id next now).eventsOf r.id).map _ = List.range
      ((s.store.advance run.id next now).eventsOf r.id).length
    rw [PlaybookStore.eventsOf_advance, ids]
    exact orderly.numbered old found
  · intro r member running _
    change ((s.store.advance run.id next now).eventsOf r.id).length = _ ∧
      (((s.store.advance run.id next now).eventsOf r.id).getLast?.map _).getD _ = _
    rw [PlaybookStore.eventsOf_advance]
    rcases running_of_advance rows among member running with ⟨found, other⟩ | ⟨index, moved, rfl⟩
    · exact orderly.timed r found running fun inside => other (List.mem_singleton.mp (ahead inside))
    · obtain ⟨length, last, -⟩ := reached index moved
      exact ⟨length, last⟩
  · intro other member
    have apart := rows.heldApart
    rw [held] at apart
    have differs : other.id ≠ run.id := fun same =>
      (List.nodup_cons.mp apart).1 (List.mem_map.mpr ⟨other, member, same⟩)
    refine PlaybookStore.mem_runs_advance.mpr (Or.inl ⟨orderly.present other ?_, differs⟩)
    rw [held]
    exact List.mem_cons_of_mem _ member
  · intro r member running
    rcases running_of_advance rows among member running with ⟨found, other⟩ | ⟨index, moved, rfl⟩
    · rcases left r found running with inside | stages
      · refine Or.inl ((List.mem_cons.mp inside).resolve_left fun same => other ?_)
        rw [same]
      · refine Or.inr fun definition found => stages definition ?_
        rw [← valid]
        exact found
    · refine Or.inr fun definition found => (reached index moved).2.2 definition ?_
      rw [← valid]
      exact found

/-- Between passes runs may go, if those that stay keep their events. -/
theorem restrict (orderly : Orderly s) (idle : s.phase = .idle) (idle' : s'.phase = .idle)
    (runs : ∀ r ∈ s'.store.runs, r ∈ s.store.runs)
    (events : ∀ r ∈ s'.store.runs, s'.store.eventsOf r.id = s.store.eventsOf r.id) : Orderly s' where
  single := fun r member r' member' => orderly.single r (runs r member) r' (runs r' member')
  numbered := by
    intro r member
    rw [events r member]
    exact orderly.numbered r (runs r member)
  timed := by
    intro r member running _
    rw [PlaybookStore.since, events r member]
    exact orderly.timed r (runs r member) running (by rw [idle]; exact nofun)
  present := by rw [idle']; exact nofun
  fits := by rw [idle']; trivial

theorem request (orderly : Orderly s) (rows : Rows s) (idle : s.phase = .idle) (r : PlaybookRequest F) :
    Orderly (s.withStore (s.store.handle r) s.phase) := by
  rcases PlaybookStore.handle_eq s.store r with ⟨id, -, made⟩ | ⟨runs, events, -⟩
  · rw [made]
    refine orderly.restrict idle idle (fun row member => ?_) fun row member => ?_
    · exact (PlaybookStore.mem_runs_deletePlaybook.mp member).1
    · exact PlaybookStore.eventsOf_deletePlaybook rows.apart member
  · refine orderly.restrict idle idle (fun row member => ?_) fun row _ => ?_
    · change row ∈ (s.store.handle r).runs at member
      rw [runs] at member
      exact member
    · change (s.store.handle r).events.filter _ = _
      rw [events]
      rfl

theorem call {ok : Bool} {effect : EngineEffect F} (orderly : Orderly s) (rows : Rows s)
    (called : Called s ok s' effect) (calm : Calm s (.call ok)) : Orderly s' := by
  have fits := orderly.fits
  have fails (phase : EnginePhase F) (at_phase : s.phase = phase) (writes : phase.writes = true) (failed : ok = false) :
      False := by
    have succeeds : ok = true := calm (by rw [at_phase]; exact writes)
    rw [failed] at succeeds
    cases succeeds
  cases called with
  | abandoned ok quiet => exact orderly.move rfl (EnginePhase.ahead_of_quiet quiet) nofun trivial
  | collected w phase => exact orderly.collect phase
  | checked w p pending phase => exact orderly.move rfl (by rw [phase]; rfl) nofun trivial
  | triggered w p pending phase inactive => exact orderly.move rfl (by rw [phase]; rfl) nofun inactive
  | started w p pending phase => exact orderly.start rows phase
  | unstarted w p pending phase => exact (fails _ phase rfl rfl).elim
  | ended ok w phase => exact orderly.move rfl (by rw [phase]; rfl) nofun trivial
  | skipped w run runs phase within =>
    rw [phase] at fits
    refine orderly.move rfl (by rw [phase]; rfl) (by rw [phase]; exact List.subset_cons_self _ _) ?_
    intro r found running
    rcases fits r found running with inside | stages
    · rcases List.mem_cons.mp inside with rfl | later
      · exact Or.inr within
      · exact Or.inl later
    · exact Or.inr stages
  | exhausted w run runs definition phase valid reached =>
    rw [phase] at fits
    exact orderly.move rfl (by rw [phase]; rfl) (by rw [phase]; exact List.Subset.refl _)
      ⟨fits, definition, valid, reached⟩
  | executed w run runs definition stage done phase valid current late kept =>
    rw [phase] at fits
    exact orderly.move kept (by rw [phase]; rfl) (by rw [phase]; exact List.Subset.refl _)
      ⟨fits, definition, valid, rfl, current, late⟩
  | recorded w run stage count runs phase => exact orderly.record rows phase
  | unrecorded w run stage count runs phase => exact (fails _ phase rfl rfl).elim
  | passed w run count runs phase =>
    rw [phase] at fits
    obtain ⟨left, ⟨definition, valid, counts, -⟩, length, last⟩ := fits
    refine orderly.advance rows (by rw [phase]; rfl) (by rw [phase]; exact List.Subset.refl _) left ?_
    intro index moved
    unfold EngineState.nextStage at moved
    split at moved
    · next more =>
      cases moved
      refine ⟨length, last, fun other found => ?_⟩
      rw [valid] at found
      cases found
      rw [← counts]
      exact more
    · cases moved
  | unpassed w run count runs phase => exact (fails _ phase rfl rfl).elim
  | completed w run runs phase =>
    rw [phase] at fits
    exact orderly.advance rows (by rw [phase]; rfl) (by rw [phase]; exact nofun) fits.1 nofun
  | uncompleted w run runs phase => exact (fails _ phase rfl rfl).elim

end Orderly

/-- What a step may do to events and runs. -/
structure StepLaws (s s' : EngineState F) : Prop where
  fires : FiresLate s s'
  completes : CompletesExhausted s s'
  again : NeverAgain s s'

namespace StepLaws

variable {s s' : EngineState F} {w : PlaybookWindow F} {run : PlaybookRun F} {runs : List (PlaybookRun F)}

/-- A step that changes no run, and adds events to none that is completed. -/
theorem of_same (same : ∀ r ∈ s.store.runs, ∀ r' ∈ s'.store.runs, r'.id = r.id → r' = r) (fires : FiresLate s s')
    (quiet : ∀ r ∈ s.store.runs, r.running = false → ∀ e ∈ s'.store.events, e.runId = r.id → e ∈ s.store.events) :
    StepLaws s s' where
  fires := fires
  completes := by
    intro r found running r' member ids completed
    rw [same r found r' member ids, running] at completed
    cases completed
  again := fun r found completed => ⟨same r found, quiet r found completed⟩

/-- A step that adds neither runs nor events and changes none. -/
theorem of_subset (rows : Rows s) (runs : s'.store.runs ⊆ s.store.runs) (events : s'.store.events ⊆ s.store.events) :
    StepLaws s s' := by
  refine of_same (fun r found r' member ids => ?_) (fun e member => Or.inl (events member))
    fun _ _ _ e member _ => events member
  exact List.inj_on_of_nodup_map rows.apart (runs member) found ids

theorem start {p : Playbook F} {pending : List (Playbook F)} (rows : Rows s) :
    StepLaws s (s.withStore (s.store.startRun p.id w.host w.source w.env.now) (.checking w pending)) := by
  refine of_same (fun r found r' member ids => ?_) (fun e member => Or.inl member) fun _ _ _ e member _ => member
  rcases PlaybookStore.mem_runs_startRun.mp member with old | rfl
  · exact List.inj_on_of_nodup_map rows.apart old found ids
  · exact absurd ids (rows.given r found).ne'

theorem record {stage : Fields F} {count : Nat} (orderly : Orderly s) (rows : Rows s)
    (phase : s.phase = .recording w run stage count runs) :
    StepLaws s (s.withStore (s.store.recordEvent (EngineState.firedEvent w run stage))
      (.advancing w run count runs)) := by
  have held : run ∈ s.phase.held := by rw [phase]; exact List.mem_cons_self
  have known : run ∈ s.store.runs := orderly.present run held
  have fits := orderly.fits
  have timed := orderly.timed
  rw [phase] at fits timed
  obtain ⟨-, definition, valid, -, current, late⟩ := fits
  obtain ⟨-, since⟩ := timed run known (rows.heldRunning run held) nofun
  refine of_same (fun r found r' member ids => List.inj_on_of_nodup_map rows.apart member found ids) ?_ ?_
  · intro e member
    rcases List.mem_append.mp member with old | new
    · exact Or.inl old
    · refine Or.inr ⟨run, known, ?_⟩
      rw [List.mem_singleton.mp new]
      refine ⟨rfl, rows.heldRunning run held, rfl, definition, stage, valid, current, ?_⟩
      rw [since]
      exact late
  · intro r found completed e member own
    rcases List.mem_append.mp member with old | new
    · exact old
    · -- the run that fires is running
      rw [List.mem_singleton.mp new] at own
      rw [rows.same run held r found own.symm, rows.heldRunning run held] at completed
      cases completed

/-- The run the engine deals with completes only if its stages are exhausted. -/
theorem advance {next : Option Nat} {now : F} (rows : Rows s) (held : run ∈ s.phase.held)
    (exhausted : next = none → ∃ definition, s.store.validDefinition run.playbookId = some definition ∧
      (definition.stages.length ≤ run.stageIndex ∨
        run.stageIndex + 1 = definition.stages.length ∧ ∃ e ∈ s.store.eventsOf run.id, e.stageIndex = run.stageIndex)) :
    StepLaws s (s.withStore (s.store.advance run.id next now) (.loading w runs)) := by
  have events := PlaybookStore.events_advance s.store run.id next now
  refine ⟨fun e member => ?_, ?_, fun r found completed => ⟨fun r' member ids => ?_, fun e member _ => ?_⟩⟩
  · change e ∈ (s.store.advance run.id next now).events at member
    rw [events] at member
    exact Or.inl member
  · intro r found running r' member ids completed
    rcases PlaybookStore.mem_runs_advance.mp member with ⟨old, -⟩ | ⟨old, stored, same, rfl⟩
    · rw [List.inj_on_of_nodup_map rows.apart old found ids, running] at completed
      cases completed
    · rw [PlaybookRun.advanced_id, same] at ids
      rw [rows.same run held r found ids.symm]
      refine exhausted ?_
      cases next with
      | none => rfl
      | some index =>
        rw [rows.same run held old stored same] at completed
        exact absurd (rows.heldRunning run held) (by rw [show run.running = false from completed]; exact nofun)
  · rcases PlaybookStore.mem_runs_advance.mp member with ⟨old, -⟩ | ⟨old, -, same, rfl⟩
    · exact List.inj_on_of_nodup_map rows.apart old found ids
    · rw [PlaybookRun.advanced_id, same] at ids
      rw [rows.same run held r found ids.symm, rows.heldRunning run held] at completed
      cases completed
  · change e ∈ (s.store.advance run.id next now).events at member
    rw [events] at member
    exact member

theorem call {ok : Bool} {effect : EngineEffect F} (orderly : Orderly s) (rows : Rows s)
    (called : Called s ok s' effect) : StepLaws s s' := by
  have fits := orderly.fits
  have same (st : PassState F) (phase : EnginePhase F) (kept : st.store = s.store) : StepLaws s ⟨st, phase⟩ := by
    refine of_subset rows ?_ ?_
    · change st.store.runs ⊆ _
      rw [kept]
      exact List.Subset.refl _
    · change st.store.events ⊆ _
      rw [kept]
      exact List.Subset.refl _
  cases called with
  | abandoned ok quiet => exact same _ _ rfl
  | collected w phase => exact same _ _ rfl
  | checked w p pending phase => exact same _ _ rfl
  | triggered w p pending phase inactive => exact same _ _ rfl
  | started w p pending phase => exact start rows
  | unstarted w p pending phase => exact same _ _ rfl
  | ended ok w phase => exact same _ _ rfl
  | skipped w run runs phase within => exact same _ _ rfl
  | exhausted w run runs definition phase valid reached => exact same _ _ rfl
  | executed w run runs definition stage done phase valid current late kept => exact same _ _ kept
  | recorded w run stage count runs phase => exact record orderly rows phase
  | unrecorded w run stage count runs phase => exact same _ _ rfl
  | passed w run count runs phase =>
    have held : run ∈ s.phase.held := by rw [phase]; exact List.mem_cons_self
    rw [phase] at fits
    obtain ⟨-, ⟨definition, valid, counts, below⟩, length, -⟩ := fits
    refine advance rows held fun last => ⟨definition, valid, Or.inr ⟨?_, ?_⟩⟩
    · unfold EngineState.nextStage at last
      split at last
      · cases last
      · omega
    · have numbered := orderly.numbered run (orderly.present run held)
      rw [length] at numbered
      have among : run.stageIndex ∈ (s.store.eventsOf run.id).map PlaybookEvent.stageIndex := by
        rw [numbered]
        exact List.mem_range.mpr (Nat.lt_succ_self _)
      exact List.mem_map.mp among
  | unpassed w run count runs phase => exact same _ _ rfl
  | completed w run runs phase =>
    have held : run ∈ s.phase.held := by rw [phase]; exact List.mem_cons_self
    rw [phase] at fits
    obtain ⟨-, definition, valid, reached⟩ := fits
    exact advance rows held fun _ => ⟨definition, valid, Or.inl reached⟩
  | uncompleted w run runs phase => exact same _ _ rfl

theorem step {e : EngineEvent F} {effect : EngineEffect F} (orderly : Orderly s) (rows : Rows s)
    (taken : s.step e = some (s', effect)) : StepLaws s s' := by
  cases e with
  | window w =>
    obtain ⟨-, rfl, -⟩ := opened_of_open taken
    exact of_subset rows (List.Subset.refl _) (List.Subset.refl _)
  | call ok => exact call orderly rows (called_of_call taken)
  | request r =>
    cases taken
    rcases PlaybookStore.handle_eq s.store r with ⟨id, -, made⟩ | ⟨runs, events, -⟩
    · rw [made]
      exact of_subset rows (fun r member => (PlaybookStore.mem_runs_deletePlaybook.mp member).1)
        fun e member => (PlaybookStore.mem_events_deletePlaybook.mp member).1
    · refine of_subset rows ?_ ?_
      · change (s.store.handle r).runs ⊆ _
        rw [runs]
        exact List.Subset.refl _
      · change (s.store.handle r).events ⊆ _
        rw [events]
        exact List.Subset.refl _

end StepLaws

theorem orderly_step {s s' : EngineState F} {e : EngineEvent F} {effect : EngineEffect F}
    (taken : s.step e = some (s', effect)) (calm : Calm s e) (before : Rows s ∧ Orderly s) : Rows s' ∧ Orderly s' := by
  obtain ⟨rows, orderly⟩ := before
  cases e with
  | window w =>
    refine ⟨rows.opened taken, ?_⟩
    obtain ⟨idle, rfl, -⟩ := opened_of_open taken
    exact orderly.move rfl (by rw [idle]; rfl) nofun trivial
  | call ok =>
    have called := called_of_call taken
    exact ⟨rows.call called, orderly.call rows called calm⟩
  | request r =>
    cases taken
    have idle : s.phase = .idle := by
      have isIdle : s.phase.isIdle = true := calm
      cases phase : s.phase <;> rw [phase] at isIdle <;> first | rfl | cases isIdle
    exact ⟨rows.request r, orderly.request rows idle r⟩

theorem Unused.orderly {s : EngineState F} (unused : Unused s) : Orderly s := by
  constructor
  · rw [OneRunning, unused.runs]
    exact nofun
  · rw [Numbered, unused.runs]
    exact nofun
  · rw [unused.runs]
    exact nofun
  · rw [unused.idle]
    exact nofun
  · rw [unused.idle]
    trivial

end Laws

/-- For every sequence of passes over any windows, with playbooks edited, switched and deleted
between them and no write failing, and the step that comes next: at most one running run of a
playbook for a host; the events of each run numbered from zero in firing order; a new event not
before its delay; a run completing only where its stages are exhausted; after a pass that came
to its end no running run without a stage left; and a completed run never firing again. -/
theorem runs_fire_in_order [Arith F] (start s s' : EngineState F) (events : List (EngineEvent F)) (e : EngineEvent F)
    (past : List (EngineEffect F)) (effect : EngineEffect F) (unused : Unused start)
    (calm : Always EngineState.step (fun s e _ _ => Calm s e) start events)
    (ran : run EngineState.step start events = some (s, past)) (taken : s.step e = some (s', effect)) :
    OneRunning s.store ∧ Numbered s.store ∧ FiresLate s s' ∧ CompletesExhausted s s' ∧
      (effect = .finished → StagesLeft s'.store []) ∧ NeverAgain s s' := by
  obtain ⟨rows, orderly⟩ := run_history_of_always (I := fun _ s => Rows s ∧ Orderly s)
    (fun _ s e mid effect before taken meets => orderly_step taken meets before) events [] start s past
    ⟨unused.rows, unused.orderly⟩ calm ran
  have laws := StepLaws.step orderly rows taken
  refine ⟨orderly.single, orderly.numbered, laws.fires, laws.completes, fun finished => ?_, laws.again⟩
  cases e with
  | window w =>
    obtain ⟨-, -, rfl⟩ := opened_of_open taken
    cases finished
  | request r =>
    cases taken
    cases finished
  | call ok =>
    subst finished
    cases called_of_call taken with
    | ended ok w phase =>
      have fits := orderly.fits
      rw [phase] at fits
      exact fits

def EngineEffect.isFinished : EngineEffect F → Bool
  | .finished => true
  | _ => false

/-- Whether the pass came to its end, the indices and times of the events, and whether the runs are
running. -/
def fired (next : EngineState ℚ × EngineEffect ℚ) : Bool × List (Nat × ℚ) × List Bool :=
  (next.2.isFinished, next.1.store.events.map (fun e => (e.stageIndex, e.firedAt)),
    next.1.store.runs.map PlaybookRun.running)

/-- A pass, the playbook switched off, and a second pass up to its last call. -/
def switchedOffBetween : List (EngineEvent ℚ) :=
  .window (attackAt 10) :: List.replicate 7 (.call true) ++
    .request (.toggle 1 false) :: .window (attackAt 80) :: List.replicate 4 (.call true)

theorem switchedOffBetween_in_order :
    ∃ s past s' effect, run EngineState.step notifyTwice switchedOffBetween = some (s, past) ∧
      s.step (.call true) = some (s', effect) ∧ fired (s', effect) = (true, [(0, 10), (1, 80)], [false]) ∧
      OneRunning s.store ∧ Numbered s.store ∧ FiresLate s s' ∧ CompletesExhausted s s' ∧
      (effect = .finished → StagesLeft s'.store []) ∧ NeverAgain s s' := by
  have shown : (run EngineState.step notifyTwice switchedOffBetween).bind
      (fun result => (result.1.step (.call true)).map fired) = some (true, [(0, 10), (1, 80)], [false]) := by
    decide +kernel
  obtain ⟨⟨s, past⟩, ran, next⟩ := Option.bind_eq_some_iff.mp shown
  obtain ⟨⟨s', effect⟩, taken, told⟩ := Option.map_eq_some_iff.mp next
  exact ⟨s, past, s', effect, ran, taken, told,
    runs_fire_in_order notifyTwice s s' switchedOffBetween (.call true) past effect notifyTwice_unused
      (by decide +kernel) ran taken⟩

end Flod.Stage2
