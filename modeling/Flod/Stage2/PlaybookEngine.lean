import Flod.Lib.Run
import Flod.Stage2.Playbook

/-! The playbook engine one database call at a time, beside the requests that edit playbooks.
Each call is atomic; between two of them a request may have changed what the engine read. A
write that fails is logged and the engine goes on, a read that fails ends the pass. -/

namespace Flod.Stage2
open Flod.Lib

variable {F : Type}

/-- What an operator may ask for. -/
inductive PlaybookRequest (F : Type) where
  | create (enabled : Bool) (scope : Scope) (definition : Option (Json F))
  | edit (id : Nat) (enabled : Bool) (scope : Scope) (definition : Option (Json F))
  | toggle (id : Nat) (enabled : Bool)
  | delete (id : Nat)

namespace PlaybookStore

def createPlaybook (store : PlaybookStore F) (enabled : Bool) (scope : Scope) (definition : Option (Json F)) :
    PlaybookStore F :=
  { store with
    playbooks := store.playbooks ++ [⟨store.nextPlaybook, enabled, scope, definition⟩]
    nextPlaybook := store.nextPlaybook + 1 }

def updatePlaybook (store : PlaybookStore F) (id : Nat) (change : Playbook F → Playbook F) : PlaybookStore F :=
  { store with playbooks := store.playbooks.map (fun p => if p.id = id then change p else p) }

def setPlaybookEnabled (store : PlaybookStore F) (id : Nat) (enabled : Bool) : PlaybookStore F :=
  store.updatePlaybook id (fun p => { p with enabled := enabled })

/-- The playbook goes with its runs and their events. -/
def deletePlaybook (store : PlaybookStore F) (id : Nat) : PlaybookStore F :=
  { store with
    playbooks := store.playbooks.filter (fun p => decide (p.id ≠ id))
    runs := store.runs.filter (fun r => decide (r.playbookId ≠ id))
    events := store.events.filter (fun e =>
      decide (e.runId ∉ (store.runs.filter (fun r => decide (r.playbookId = id))).map PlaybookRun.id)) }

def handle (store : PlaybookStore F) : PlaybookRequest F → PlaybookStore F
  | .create enabled scope definition => store.createPlaybook enabled scope definition
  | .edit id enabled scope definition =>
      store.updatePlaybook id (fun p =>
        { p with
          enabled := enabled
          scope := scope
          definition := definition })
  | .toggle id enabled => store.setPlaybookEnabled id enabled
  | .delete id => store.deletePlaybook id

def recordEvent (store : PlaybookStore F) (event : PlaybookEvent F) : PlaybookStore F :=
  { store with events := store.events ++ [event] }

end PlaybookStore

section Engine

variable [Arith F]

/-- A window as the engine sees it. -/
structure PlaybookWindow (F : Type) where
  env : PassEnv F
  host : String
  seen : TriggerState
  source : Option String

/-- What the engine makes of a running run and the definition stored for it. -/
inductive Considered (F : Type) where
  | skip
  | abandon
  | complete
  | fire (stage : Fields F) (count : Nat) (done : PassState F)

def stageDelay (stage : Fields F) : Json F := (field? stage "delay_seconds").getD (.number (.finite 0))

/-- The definition a pass reads for a playbook, if it is there and passes the check. -/
def PlaybookStore.validDefinition (store : PlaybookStore F) (playbookId : Nat) : Option (Definition F) :=
  match store.definitionOf playbookId with
  | none => none
  | some stored =>
      match readDefinition stored with
      | .ok definition => definition
      | .error _ => none

def consider (env : PassEnv F) (st : PassState F) (run : PlaybookRun F) : Considered F :=
  match st.store.definitionOf run.playbookId with
  | none => .skip
  | some stored =>
      match readDefinition stored with
      | .error _ => .abandon
      | .ok none => .skip
      | .ok (some definition) =>
          match definition.stages[run.stageIndex]? with
          | none => .complete
          | some stage =>
              if isBelow (env.now - run.updatedAt) (stageDelay stage) then .skip
              else
                match (executeStage env.cfg env.reportRaises stage run).apply env st with
                | none => .abandon
                | some done => .fire stage definition.stages.length done

/-- Where a pass stands: what it has read and which call comes next. -/
inductive EnginePhase (F : Type) where
  | idle
  | checking (w : PlaybookWindow F) (pending : List (Playbook F))
  | starting (w : PlaybookWindow F) (p : Playbook F) (pending : List (Playbook F))
  | loading (w : PlaybookWindow F) (runs : List (PlaybookRun F))
  | recording (w : PlaybookWindow F) (run : PlaybookRun F) (stage : Fields F) (count : Nat)
      (runs : List (PlaybookRun F))
  | advancing (w : PlaybookWindow F) (run : PlaybookRun F) (count : Nat) (runs : List (PlaybookRun F))
  | completing (w : PlaybookWindow F) (run : PlaybookRun F) (runs : List (PlaybookRun F))

def EnginePhase.isIdle : EnginePhase F → Bool
  | .idle => true
  | _ => false

/-- The run whose stage was executed and is not yet recorded or passed. -/
def EnginePhase.acting : EnginePhase F → List (PlaybookRun F)
  | .recording _ run _ _ _ => [run]
  | .advancing _ run _ _ => [run]
  | _ => []

structure EngineState (F : Type) where
  st : PassState F
  phase : EnginePhase F

/-- A window, the next call of the pass with whether it succeeds, or a request. -/
inductive EngineEvent (F : Type) where
  | window (w : PlaybookWindow F)
  | call (ok : Bool)
  | request (r : PlaybookRequest F)

/-- The action of a run's stage was executed, the run went past it, or the pass came to its end. -/
inductive EngineEffect (F : Type) where
  | nothing
  | executed (run : PlaybookRun F)
  | passed (run : PlaybookRun F)
  | finished

namespace EngineState

def store (s : EngineState F) : PlaybookStore F := s.st.store

def withStore (s : EngineState F) (store : PlaybookStore F) (phase : EnginePhase F) : EngineState F :=
  ⟨{ s.st with store := store }, phase⟩

/-- The check of one playbook, up to the insertion of its run. -/
def check (s : EngineState F) (w : PlaybookWindow F) (p : Playbook F) (pending : List (Playbook F)) :
    EnginePhase F :=
  if s.store.hasActiveRun p.id w.host then .checking w pending
  else
    match readDefinition p.definition with
    | .error _ => .idle
    | .ok none => .checking w pending
    | .ok (some definition) =>
        match evaluateTriggers definition w.seen with
        | .error _ => .idle
        | .ok true => .starting w p pending
        | .ok false => .checking w pending

def firedEvent (w : PlaybookWindow F) (run : PlaybookRun F) (stage : Fields F) : PlaybookEvent F :=
  ⟨run.id, run.stageIndex, field? stage "type", run.targetSource, w.env.now⟩

def nextStage (run : PlaybookRun F) (count : Nat) : Option Nat :=
  if run.stageIndex + 1 < count then some (run.stageIndex + 1) else none

/-- One running run, up to the record of its event. -/
def load (s : EngineState F) (w : PlaybookWindow F) (run : PlaybookRun F) (runs : List (PlaybookRun F)) :
    EngineState F × EngineEffect F :=
  match consider w.env s.st run with
  | .skip => (⟨s.st, .loading w runs⟩, .nothing)
  | .abandon => (⟨s.st, .idle⟩, .nothing)
  | .complete => (⟨s.st, .completing w run runs⟩, .nothing)
  | .fire stage count done => (⟨done, .recording w run stage count runs⟩, .executed run)

/-- The next call of a pass. -/
def call (s : EngineState F) (ok : Bool) : Option (EngineState F × EngineEffect F) :=
  match s.phase with
  | .idle => none
  | .checking w [] =>
      some (⟨s.st, if ok then .loading w (s.store.runs.filter PlaybookRun.running) else .idle⟩, .nothing)
  | .checking w (p :: pending) => some (⟨s.st, if ok then s.check w p pending else .idle⟩, .nothing)
  | .starting w p pending =>
      some (s.withStore (if ok then s.store.startRun p.id w.host w.source w.env.now else s.store)
        (.checking w pending), .nothing)
  | .loading _ [] => some (⟨s.st, .idle⟩, .finished)
  | .loading w (run :: runs) => some (if ok then s.load w run runs else (⟨s.st, .idle⟩, .nothing))
  | .recording w run stage count runs =>
      some (s.withStore (if ok then s.store.recordEvent (firedEvent w run stage) else s.store)
        (.advancing w run count runs), .nothing)
  | .advancing w run count runs =>
      some (s.withStore (if ok then s.store.advance run.id (nextStage run count) w.env.now else s.store)
        (.loading w runs), if ok then .passed run else .nothing)
  | .completing w run runs =>
      some (s.withStore (if ok then s.store.advance run.id none w.env.now else s.store) (.loading w runs), .nothing)

/-- The engine handles one window at a time. -/
def open? (s : EngineState F) (w : PlaybookWindow F) : Option (EngineState F × EngineEffect F) :=
  match s.phase with
  | .idle => some (⟨{ s.st with alerts := [] }, .checking w (s.store.enabledFor w.host)⟩, .nothing)
  | _ => none

def step (s : EngineState F) : EngineEvent F → Option (EngineState F × EngineEffect F)
  | .window w => s.open? w
  | .call ok => s.call ok
  | .request r => some (s.withStore (s.store.handle r) s.phase, .nothing)

end EngineState

section Alone

/-- Calls that succeed, with nothing in between, take the engine from one state to another. -/
def Drives (s s' : EngineState F) : Prop :=
  ∃ calls past, run EngineState.step s (List.replicate calls (.call true)) = some (s', past)

theorem Drives.refl (s : EngineState F) : Drives s s := ⟨0, [], rfl⟩

theorem Drives.head {s mid s' : EngineState F} {effect : EngineEffect F} (first : s.call true = some (mid, effect))
    (rest : Drives mid s') : Drives s s' := by
  obtain ⟨calls, past, ran⟩ := rest
  refine ⟨calls + 1, effect :: past, ?_⟩
  rw [List.replicate_succ, run, EngineState.step, first]
  simp only [ran]

variable {w : PlaybookWindow F}

/-- The calls that follow what the engine makes of a run, all at once. -/
def Considered.carryOut (env : PassEnv F) (st : PassState F) (run : PlaybookRun F) :
    Considered F → Option (PassState F)
  | .skip => some st
  | .abandon => none
  | .complete => some { st with store := st.store.advance run.id none env.now }
  | .fire stage count done =>
      some { done with
        store := (done.store.recordEvent
          ⟨run.id, run.stageIndex, field? stage "type", run.targetSource, env.now⟩).advance run.id
            (EngineState.nextStage run count) env.now }

theorem advanceRun_eq (env : PassEnv F) (st : PassState F) (run : PlaybookRun F) :
    advanceRun env st run = (consider env st run).carryOut env st run := by
  unfold advanceRun consider
  cases st.store.definitionOf run.playbookId with
  | none => rfl
  | some stored =>
    dsimp only
    cases readDefinition stored with
    | error e => rfl
    | ok definition =>
      cases definition with
      | none => rfl
      | some definition =>
        dsimp only
        cases definition.stages[run.stageIndex]? with
        | none => rfl
        | some stage =>
          dsimp only
          have early (b : Bool) (h : isBelow (env.now - run.updatedAt) (stageDelay stage) = b) :
              isBelow (env.now - run.updatedAt) ((field? stage "delay_seconds").getD (.number (.finite 0))) = b := h
          cases below : isBelow (env.now - run.updatedAt) (stageDelay stage) with
          | true =>
            rw [if_pos (early true below), if_pos rfl]
            rfl
          | false =>
            rw [if_neg (by rw [early false below]; exact Bool.false_ne_true), if_neg Bool.false_ne_true]
            cases (executeStage env.cfg env.reportRaises stage run).apply env st <;> rfl

/-- The second half of a pass. -/
theorem drives_advanceRuns (runs : List (PlaybookRun F)) (st : PassState F) :
    Drives ⟨st, .loading w runs⟩ ⟨advanceRuns w.env st runs, .idle⟩ := by
  induction runs generalizing st with
  | nil => exact Drives.head rfl (Drives.refl _)
  | cons run rest ih =>
    have loaded : (EngineState.mk st (.loading w (run :: rest))).call true =
        some ((EngineState.mk st (.loading w (run :: rest))).load w run rest) := rfl
    unfold advanceRuns
    rw [advanceRun_eq]
    unfold EngineState.load at loaded
    cases considered : consider w.env st run with
    | skip =>
      simp only [considered] at loaded ⊢
      exact Drives.head loaded (ih st)
    | abandon =>
      simp only [considered] at loaded ⊢
      exact Drives.head loaded (Drives.refl _)
    | complete =>
      simp only [considered] at loaded ⊢
      exact Drives.head loaded (Drives.head rfl (ih _))
    | fire stage count done =>
      simp only [considered] at loaded ⊢
      exact Drives.head loaded (Drives.head rfl (Drives.head rfl (ih _)))

/-- The first half of a pass, which ends it if something raises. -/
theorem drives_checkAndStartRuns (pending : List (Playbook F)) (st : PassState F) :
    Drives ⟨st, .checking w pending⟩
      ⟨{ st with store := (checkAndStartRuns w.host w.seen w.source w.env.now st.store pending).1 },
        if (checkAndStartRuns w.host w.seen w.source w.env.now st.store pending).2 then .checking w [] else .idle⟩ := by
  induction pending generalizing st with
  | nil => exact Drives.refl _
  | cons p rest ih =>
    have checked : (EngineState.mk st (.checking w (p :: rest))).call true =
        some (⟨st, (EngineState.mk st (.checking w (p :: rest))).check w p rest⟩, .nothing) := rfl
    unfold EngineState.check at checked
    unfold checkAndStartRuns
    cases active : st.store.hasActiveRun p.id w.host with
    | true =>
      simp only [EngineState.store, active, if_true] at checked ⊢
      exact Drives.head checked (ih st)
    | false =>
      simp only [EngineState.store, active, Bool.false_eq_true, if_false] at checked ⊢
      cases read : readDefinition p.definition with
      | error e =>
        simp only [read] at checked ⊢
        exact Drives.head checked (Drives.refl _)
      | ok definition =>
        cases definition with
        | none =>
          simp only [read] at checked ⊢
          exact Drives.head checked (ih st)
        | some definition =>
          cases fires : evaluateTriggers definition w.seen with
          | error e =>
            simp only [read, fires] at checked ⊢
            exact Drives.head checked (Drives.refl _)
          | ok fired =>
            cases fired with
            | true =>
              simp only [read, fires] at checked ⊢
              exact Drives.head checked (Drives.head rfl (ih _))
            | false =>
              simp only [read, fires] at checked ⊢
              exact Drives.head checked (ih st)

theorem Drives.trans {s mid s' : EngineState F} (first : Drives s mid) (second : Drives mid s') : Drives s s' := by
  obtain ⟨calls, past, ran⟩ := first
  induction calls generalizing s past with
  | zero =>
    cases ran
    exact second
  | succ calls ih =>
    rw [List.replicate_succ] at ran
    obtain ⟨next, effect, rest, taken, later, -⟩ := run_cons ran
    exact Drives.head taken (ih rest later)

/-- A window handled with nothing in between and no call failing is the pass run by itself. -/
theorem pass_alone (w : PlaybookWindow F) (store : PlaybookStore F) (fw : Firewall F) (alerts : List (Alert F)) :
    ∃ opened : EngineState F, EngineState.open? ⟨⟨store, fw, alerts⟩, .idle⟩ w = some (opened, .nothing) ∧
      Drives opened ⟨playbookPass w.env w.host w.seen w.source store fw, .idle⟩ := by
  refine ⟨⟨⟨store, fw, []⟩, .checking w (store.enabledFor w.host)⟩, rfl, ?_⟩
  refine Drives.trans (drives_checkAndStartRuns _ _) ?_
  unfold playbookPass
  dsimp only
  split
  · exact Drives.head rfl (drives_advanceRuns _ _)
  · exact Drives.refl _

end Alone

section Cases

theorem StageAction.apply_store {env : PassEnv F} {st done : PassState F} {action : StageAction F}
    (applied : action.apply env st = some done) : done.store = st.store := by
  cases action <;> cases applied <;> rfl

/-- What a call can do to the engine. -/
inductive Called (s : EngineState F) : Bool → EngineState F → EngineEffect F → Prop where
  | abandoned (ok : Bool) (quiet : s.phase.acting = []) : Called s ok ⟨s.st, .idle⟩ .nothing
  | collected (w : PlaybookWindow F) (phase : s.phase = .checking w []) :
      Called s true ⟨s.st, .loading w (s.store.runs.filter PlaybookRun.running)⟩ .nothing
  | checked (w : PlaybookWindow F) (p : Playbook F) (pending : List (Playbook F))
      (phase : s.phase = .checking w (p :: pending)) : Called s true ⟨s.st, .checking w pending⟩ .nothing
  | triggered (w : PlaybookWindow F) (p : Playbook F) (pending : List (Playbook F))
      (phase : s.phase = .checking w (p :: pending)) (inactive : s.store.hasActiveRun p.id w.host = false) :
      Called s true ⟨s.st, .starting w p pending⟩ .nothing
  | started (w : PlaybookWindow F) (p : Playbook F) (pending : List (Playbook F))
      (phase : s.phase = .starting w p pending) :
      Called s true (s.withStore (s.store.startRun p.id w.host w.source w.env.now) (.checking w pending)) .nothing
  | unstarted (w : PlaybookWindow F) (p : Playbook F) (pending : List (Playbook F))
      (phase : s.phase = .starting w p pending) : Called s false ⟨s.st, .checking w pending⟩ .nothing
  | ended (ok : Bool) (w : PlaybookWindow F) (phase : s.phase = .loading w []) : Called s ok ⟨s.st, .idle⟩ .finished
  | skipped (w : PlaybookWindow F) (run : PlaybookRun F) (runs : List (PlaybookRun F))
      (phase : s.phase = .loading w (run :: runs))
      (within : ∀ definition, s.store.validDefinition run.playbookId = some definition →
        run.stageIndex < definition.stages.length) : Called s true ⟨s.st, .loading w runs⟩ .nothing
  | exhausted (w : PlaybookWindow F) (run : PlaybookRun F) (runs : List (PlaybookRun F)) (definition : Definition F)
      (phase : s.phase = .loading w (run :: runs))
      (valid : s.store.validDefinition run.playbookId = some definition)
      (reached : definition.stages.length ≤ run.stageIndex) : Called s true ⟨s.st, .completing w run runs⟩ .nothing
  | executed (w : PlaybookWindow F) (run : PlaybookRun F) (runs : List (PlaybookRun F)) (definition : Definition F)
      (stage : Fields F) (done : PassState F) (phase : s.phase = .loading w (run :: runs))
      (valid : s.store.validDefinition run.playbookId = some definition)
      (current : definition.stages[run.stageIndex]? = some stage)
      (late : isBelow (w.env.now - run.updatedAt) (stageDelay stage) = false) (kept : done.store = s.store) :
      Called s true ⟨done, .recording w run stage definition.stages.length runs⟩ (.executed run)
  | recorded (w : PlaybookWindow F) (run : PlaybookRun F) (stage : Fields F) (count : Nat)
      (runs : List (PlaybookRun F)) (phase : s.phase = .recording w run stage count runs) :
      Called s true (s.withStore (s.store.recordEvent (EngineState.firedEvent w run stage))
        (.advancing w run count runs)) .nothing
  | unrecorded (w : PlaybookWindow F) (run : PlaybookRun F) (stage : Fields F) (count : Nat)
      (runs : List (PlaybookRun F)) (phase : s.phase = .recording w run stage count runs) :
      Called s false ⟨s.st, .advancing w run count runs⟩ .nothing
  | passed (w : PlaybookWindow F) (run : PlaybookRun F) (count : Nat) (runs : List (PlaybookRun F))
      (phase : s.phase = .advancing w run count runs) :
      Called s true (s.withStore (s.store.advance run.id (EngineState.nextStage run count) w.env.now)
        (.loading w runs)) (.passed run)
  | unpassed (w : PlaybookWindow F) (run : PlaybookRun F) (count : Nat) (runs : List (PlaybookRun F))
      (phase : s.phase = .advancing w run count runs) : Called s false ⟨s.st, .loading w runs⟩ .nothing
  | completed (w : PlaybookWindow F) (run : PlaybookRun F) (runs : List (PlaybookRun F))
      (phase : s.phase = .completing w run runs) :
      Called s true (s.withStore (s.store.advance run.id none w.env.now) (.loading w runs)) .nothing
  | uncompleted (w : PlaybookWindow F) (run : PlaybookRun F) (runs : List (PlaybookRun F))
      (phase : s.phase = .completing w run runs) : Called s false ⟨s.st, .loading w runs⟩ .nothing

variable {s s' : EngineState F} {effect : EngineEffect F} {w : PlaybookWindow F}

omit [Arith F] in
/-- A window is taken up by an idle engine only. -/
theorem opened_of_open (taken : s.open? w = some (s', effect)) :
    s.phase = .idle ∧ s' = ⟨{ s.st with alerts := [] }, .checking w (s.store.enabledFor w.host)⟩ ∧
      effect = .nothing := by
  unfold EngineState.open? at taken
  split at taken
  · next idle =>
    cases taken
    exact ⟨idle, rfl, rfl⟩
  · cases taken

theorem called_check {p : Playbook F} {pending : List (Playbook F)} (phase : s.phase = .checking w (p :: pending)) :
    Called s true ⟨s.st, s.check w p pending⟩ .nothing := by
  have quiet : s.phase.acting = [] := by rw [phase]; rfl
  unfold EngineState.check
  cases active : s.store.hasActiveRun p.id w.host with
  | true => exact .checked w p pending phase
  | false =>
    rw [if_neg Bool.false_ne_true]
    split
    · exact .abandoned true quiet
    · exact .checked w p pending phase
    · split
      · exact .abandoned true quiet
      · exact .triggered w p pending phase active
      · exact .checked w p pending phase

theorem called_load {run : PlaybookRun F} {runs : List (PlaybookRun F)}
    (phase : s.phase = .loading w (run :: runs)) : Called s true (s.load w run runs).1 (s.load w run runs).2 := by
  have quiet : s.phase.acting = [] := by rw [phase]; rfl
  unfold EngineState.load consider
  cases found : s.st.store.definitionOf run.playbookId with
  | none =>
    refine .skipped w run runs phase fun definition valid => ?_
    rw [PlaybookStore.validDefinition, EngineState.store, found] at valid
    cases valid
  | some stored =>
    dsimp only
    cases read : readDefinition stored with
    | error e => exact .abandoned true quiet
    | ok definition =>
      have valid : s.store.validDefinition run.playbookId = definition := by
        rw [PlaybookStore.validDefinition, EngineState.store, found]
        simp only [read]
      cases definition with
      | none =>
        refine .skipped w run runs phase fun definition other => ?_
        rw [valid] at other
        cases other
      | some definition =>
        dsimp only
        cases current : definition.stages[run.stageIndex]? with
        | none => exact .exhausted w run runs definition phase valid (List.getElem?_eq_none_iff.mp current)
        | some stage =>
          dsimp only
          cases late : isBelow (w.env.now - run.updatedAt) (stageDelay stage) with
          | true =>
            refine .skipped w run runs phase fun other same => ?_
            rw [valid] at same
            cases same
            exact (List.getElem?_eq_some_iff.mp current).1
          | false =>
            rw [if_neg Bool.false_ne_true]
            cases applied : (executeStage w.env.cfg w.env.reportRaises stage run).apply w.env s.st with
            | none => exact .abandoned true quiet
            | some done =>
              exact .executed w run runs definition stage done phase valid current late
                (StageAction.apply_store applied)

theorem called_of_call {ok : Bool} (taken : s.call ok = some (s', effect)) : Called s ok s' effect := by
  unfold EngineState.call at taken
  cases phase : s.phase with
  | idle => simp only [phase] at taken; cases taken
  | checking w pending =>
    have quiet : s.phase.acting = [] := by rw [phase]; rfl
    cases pending with
    | nil =>
      simp only [phase] at taken
      cases ok <;> cases taken
      · exact .abandoned false quiet
      · exact .collected w phase
    | cons p pending =>
      simp only [phase] at taken
      cases ok <;> cases taken
      · exact .abandoned false quiet
      · exact called_check phase
  | starting w p pending =>
    simp only [phase] at taken
    cases ok <;> cases taken
    · exact .unstarted w p pending phase
    · exact .started w p pending phase
  | loading w runs =>
    have quiet : s.phase.acting = [] := by rw [phase]; rfl
    cases runs with
    | nil =>
      simp only [phase] at taken
      cases taken
      exact .ended ok w phase
    | cons run runs =>
      simp only [phase] at taken
      cases ok with
      | false =>
        cases taken
        exact .abandoned false quiet
      | true =>
        have made : s.load w run runs = (s', effect) := Option.some.inj taken
        have loaded := called_load phase
        rw [made] at loaded
        exact loaded
  | recording w run stage count runs =>
    simp only [phase] at taken
    cases ok <;> cases taken
    · exact .unrecorded w run stage count runs phase
    · exact .recorded w run stage count runs phase
  | advancing w run count runs =>
    simp only [phase] at taken
    cases ok <;> cases taken
    · exact .unpassed w run count runs phase
    · exact .passed w run count runs phase
  | completing w run runs =>
    simp only [phase] at taken
    cases ok <;> cases taken
    · exact .uncompleted w run runs phase
    · exact .completed w run runs phase

end Cases

end Engine

end Flod.Stage2
