import Flod.Lib.Duty
import Flod.Stage2.PlaybookRows

/-! Whether one playbook keeps another from its turn. A pass checks every playbook and then moves
every run under one handler, so what raises ends the turn of all that come after it. -/

namespace Flod.Stage2
open Flod.Lib

variable {F : Type}

/-- Ids as the keys of the tables give them. -/
structure Keyed (store : PlaybookStore F) : Prop where
  playbooks : (store.playbooks.map Playbook.id).Nodup
  runs : (store.runs.map PlaybookRun.id).Nodup
  given : ∀ r ∈ store.runs, r.id < store.nextRun

theorem Keyed.startRun {store : PlaybookStore F} (keyed : Keyed store) (id : Nat) (host : String)
    (source : Option String) (now : F) : Keyed (store.startRun id host source now) where
  playbooks := keyed.playbooks
  runs := by
    change ((store.runs ++ [store.newRun id host source now]).map PlaybookRun.id).Nodup
    rw [List.map_append, List.map_singleton, List.nodup_append_comm, List.singleton_append, List.nodup_cons]
    refine ⟨?_, keyed.runs⟩
    intro member
    obtain ⟨r, found, same⟩ := List.mem_map.mp member
    exact absurd same (keyed.given r found).ne
  given := by
    intro r member
    rcases PlaybookStore.mem_runs_startRun.mp member with old | rfl
    · exact Nat.lt_succ_of_lt (keyed.given r old)
    · exact Nat.lt_succ_self store.nextRun

theorem Keyed.running_apart {store : PlaybookStore F} (keyed : Keyed store) :
    ((store.runs.filter PlaybookRun.running).map PlaybookRun.id).Nodup :=
  (List.filter_sublist.map PlaybookRun.id).nodup keyed.runs

section Reached

/-- The ids of the playbooks are apart, and none is still to be given. -/
def PlaybookIds (store : PlaybookStore F) : Prop :=
  (store.playbooks.map Playbook.id).Nodup ∧ ∀ id ∈ store.playbooks.map Playbook.id, id < store.nextPlaybook

theorem PlaybookIds.handle {store : PlaybookStore F} (listed : PlaybookIds store) (request : PlaybookRequest F) :
    PlaybookIds (store.handle request) := by
  have edited (id : Nat) {change : Playbook F → Playbook F} (same : ∀ p, (change p).id = p.id) :
      PlaybookIds (store.updatePlaybook id change) := by
    unfold PlaybookIds
    rw [PlaybookStore.map_id_updatePlaybook store id same]
    exact listed
  cases request with
  | create enabled scope definition =>
    unfold PlaybookIds PlaybookStore.handle PlaybookStore.createPlaybook
    dsimp only
    rw [List.map_append, List.map_singleton]
    refine ⟨List.nodup_append.mpr ⟨listed.1, List.nodup_singleton _, ?_⟩, ?_⟩
    · intro id member other new
      rw [List.mem_singleton.mp new]
      exact (listed.2 id member).ne
    · intro id member
      rcases List.mem_append.mp member with old | new
      · exact Nat.lt_succ_of_lt (listed.2 id old)
      · rw [List.mem_singleton.mp new]
        exact Nat.lt_succ_self _
  | edit id enabled scope definition => exact edited id fun _ => rfl
  | toggle id enabled => exact edited id fun _ => rfl
  | delete id =>
    have fewer : ((store.deletePlaybook id).playbooks.map Playbook.id).Sublist (store.playbooks.map Playbook.id) :=
      List.filter_sublist.map Playbook.id
    exact ⟨fewer.nodup listed.1, fun other member => listed.2 other (fewer.subset member)⟩

variable [Arith F] {s s' : EngineState F}

/-- No call of a pass writes a playbook. -/
theorem Called.playbookIds {ok : Bool} {effect : EngineEffect F} (called : Called s ok s' effect)
    (listed : PlaybookIds s.store) : PlaybookIds s'.store := by
  have kept {store : PlaybookStore F} (playbooks : store.playbooks = s.store.playbooks)
      (next : store.nextPlaybook = s.store.nextPlaybook) : PlaybookIds store := by
    unfold PlaybookIds
    rw [playbooks, next]
    exact listed
  cases called with
  | executed w run runs definition stage done phase valid current late same =>
    exact kept (congrArg PlaybookStore.playbooks same) (congrArg PlaybookStore.nextPlaybook same)
  | passed w run count runs phase =>
    exact kept (PlaybookStore.playbooks_advance _ _ _ _) (PlaybookStore.nextPlaybook_advance _ _ _ _)
  | _ => exact kept rfl rfl

theorem playbookIds_step {e : EngineEvent F} {effect : EngineEffect F} (taken : s.step e = some (s', effect))
    (before : Rows s ∧ PlaybookIds s.store) : Rows s' ∧ PlaybookIds s'.store := by
  obtain ⟨rows, listed⟩ := before
  cases e with
  | window w =>
    refine ⟨rows.opened taken, ?_⟩
    obtain ⟨-, rfl, -⟩ := opened_of_open taken
    exact listed
  | call ok => exact ⟨rows.call (called_of_call taken), (called_of_call taken).playbookIds listed⟩
  | request r =>
    cases taken
    exact ⟨rows.request r, listed.handle r⟩

/-- Whatever is requested and whatever fails, the keys of the tables stay apart. -/
theorem keyed_of_run {start final : EngineState F} {events : List (EngineEvent F)} {past : List (EngineEffect F)}
    (unused : Unused start) (listed : PlaybookIds start.store)
    (ran : run EngineState.step start events = some (final, past)) : Keyed final.store := by
  obtain ⟨rows, ids, -⟩ := run_history (I := fun _ s => Rows s ∧ PlaybookIds s.store)
    (fun _ s e mid effect before taken => playbookIds_step taken before) events [] start final past
    ⟨unused.rows, listed⟩ ran
  exact ⟨ids, rows.apart, rows.given⟩

end Reached

section Start

variable {w : PlaybookWindow F}

/-- Runs of the playbooks, one after the other. -/
def startAll (w : PlaybookWindow F) (store : PlaybookStore F) (ps : List (Playbook F)) : PlaybookStore F :=
  ps.foldl (fun store p => store.startRun p.id w.host w.source w.env.now) store

theorem hasActiveRun_startRun_of_ne {store : PlaybookStore F} {id other : Nat} {host : String}
    (source : Option String) (now : F) (differ : other ≠ id) :
    (store.startRun id host source now).hasActiveRun other host = store.hasActiveRun other host := by
  simp [PlaybookStore.hasActiveRun, PlaybookStore.startRun, differ.symm]

theorem startAll_playbooks (ps : List (Playbook F)) (store : PlaybookStore F) :
    (startAll w store ps).playbooks = store.playbooks := by
  induction ps generalizing store with
  | nil => rfl
  | cons p rest ih => exact ih (store.startRun p.id w.host w.source w.env.now)

theorem startAll_keyed (ps : List (Playbook F)) {store : PlaybookStore F} (keyed : Keyed store) :
    Keyed (startAll w store ps) := by
  induction ps generalizing store with
  | nil => exact keyed
  | cons p rest ih => exact ih (keyed.startRun p.id w.host w.source w.env.now)

/-- A run of a playbook as the check inserts it. -/
def runOf (w : PlaybookWindow F) (id : Nat) (p : Playbook F) : PlaybookRun F :=
  ⟨id, p.id, w.host, w.source, 0, true, w.env.now, w.env.now⟩

theorem mem_startAll_of_mem (ps : List (Playbook F)) {store : PlaybookStore F} {r : PlaybookRun F}
    (found : r ∈ store.runs) : r ∈ (startAll w store ps).runs := by
  induction ps generalizing store with
  | nil => exact found
  | cons p rest ih => exact ih (PlaybookStore.mem_runs_startRun.mpr (Or.inl found))

theorem mem_startAll_inv (ps : List (Playbook F)) {store : PlaybookStore F} {r : PlaybookRun F}
    (found : r ∈ (startAll w store ps).runs) :
    r ∈ store.runs ∨ ∃ p ∈ ps, ∃ id, store.nextRun ≤ id ∧ r = runOf w id p := by
  induction ps generalizing store with
  | nil => exact Or.inl found
  | cons p rest ih =>
    rcases ih found with early | ⟨q, member, id, after, made⟩
    · rcases PlaybookStore.mem_runs_startRun.mp early with old | new
      · exact Or.inl old
      · exact Or.inr ⟨p, List.mem_cons_self, store.nextRun, le_refl _, new⟩
    · exact Or.inr ⟨q, List.mem_cons_of_mem p member, id, Nat.le_of_succ_le after, made⟩

theorem exists_startAll {ps : List (Playbook F)} {p : Playbook F} (store : PlaybookStore F) (member : p ∈ ps) :
    ∃ id, store.nextRun ≤ id ∧ runOf w id p ∈ (startAll w store ps).runs := by
  induction ps generalizing store with
  | nil => cases member
  | cons q rest ih =>
    rcases List.mem_cons.mp member with rfl | later
    · exact ⟨store.nextRun, le_refl _,
        mem_startAll_of_mem rest (PlaybookStore.mem_runs_startRun.mpr (Or.inr rfl))⟩
    · obtain ⟨id, after, found⟩ := ih (store.startRun q.id w.host w.source w.env.now) later
      exact ⟨id, Nat.le_of_succ_le after, found⟩

end Start

section Pass

variable [Arith F]

/-- Every stored definition passes the check. -/
def AllValid (store : PlaybookStore F) : Prop :=
  ∀ p ∈ store.playbooks, ∃ json definition, p.definition = some json ∧ validateDefinition json = .ok definition

/-- The triggers of a playbook fire in the window. -/
def Triggered (w : PlaybookWindow F) (p : Playbook F) : Prop :=
  ∃ definition, readDefinition p.definition = .ok (some definition) ∧ evaluateTriggers definition w.seen = .ok true

/-- The current stage of a run is there and its delay has passed. -/
def Due (w : PlaybookWindow F) (store : PlaybookStore F) (r : PlaybookRun F) : Prop :=
  ∃ definition stage, store.validDefinition r.playbookId = some definition ∧
    definition.stages[r.stageIndex]? = some stage ∧ isBelow (w.env.now - r.updatedAt) (stageDelay stage) = false

/-- The playbooks that match the host and have no running run for it. -/
def waiting (w : PlaybookWindow F) (store : PlaybookStore F) : List (Playbook F) :=
  (store.enabledFor w.host).filter (fun p => !store.hasActiveRun p.id w.host)

/-- The store once the playbooks of a window are checked. -/
def started (w : PlaybookWindow F) (store : PlaybookStore F) : PlaybookStore F :=
  (checkAndStartRuns w.host w.seen w.source w.env.now store (store.enabledFor w.host)).1

/-- Every playbook that waits and triggers has a new run, and every run that is due, those just
started among them, has moved. -/
structure Served (w : PlaybookWindow F) (store after : PlaybookStore F) : Prop where
  starts : ∀ p ∈ waiting w store, Triggered w p →
    ∃ r ∈ after.runs, store.nextRun ≤ r.id ∧ r.playbookId = p.id ∧ r.targetHost = w.host
  moves : ∀ r ∈ (started w store).runs, r.running = true → Due w store r →
    ∃ r' ∈ after.runs, r'.id = r.id ∧ (r'.running = false ∨ r'.stageIndex = r.stageIndex + 1)

def StageAction.raising : StageAction F → Bool
  | .raises => true
  | _ => false

/-- What a pass owes a playbook that waits. -/
def checkDuty (w : PlaybookWindow F) (p : Playbook F) : Duty :=
  match readDefinition p.definition with
  | .error _ => ⟨true, false⟩
  | .ok none => ⟨false, false⟩
  | .ok (some definition) =>
      match evaluateTriggers definition w.seen with
      | .error _ => ⟨true, false⟩
      | .ok fires => ⟨false, fires⟩

/-- What a pass owes a running run. -/
def runDuty (w : PlaybookWindow F) (store : PlaybookStore F) (r : PlaybookRun F) : Duty :=
  match store.validDefinition r.playbookId with
  | none => ⟨false, false⟩
  | some definition =>
      match definition.stages[r.stageIndex]? with
      | none => ⟨false, false⟩
      | some stage =>
          if isBelow (w.env.now - r.updatedAt) (stageDelay stage) then ⟨false, false⟩
          else ⟨(executeStage w.env.cfg w.env.reportRaises stage r).raising, true⟩

/-- The runs a pass starts if nothing raises, with one id for all of them. -/
def candidates (w : PlaybookWindow F) (store : PlaybookStore F) : List (PlaybookRun F) :=
  ((waiting w store).filter (fun p => (checkDuty w p).owed)).map (runOf w store.nextRun)

/-- All that a pass owes, in its order. -/
def duties (w : PlaybookWindow F) (store : PlaybookStore F) : List Duty :=
  (waiting w store).map (checkDuty w) ++
    (store.runs.filter PlaybookRun.running ++ candidates w store).map (runDuty w store)

section Duties

variable {w : PlaybookWindow F} {store : PlaybookStore F} {p : Playbook F} {r : PlaybookRun F}

theorem checkDuty_owed_iff : (checkDuty w p).owed = true ↔ Triggered w p := by
  unfold checkDuty Triggered
  cases readDefinition p.definition with
  | error e => simp
  | ok read =>
    cases read with
    | none => simp
    | some definition =>
      dsimp only
      cases fires : evaluateTriggers definition w.seen <;> simp [fires]

theorem runDuty_owed_iff : (runDuty w store r).owed = true ↔ Due w store r := by
  unfold runDuty Due
  cases store.validDefinition r.playbookId with
  | none => simp
  | some definition =>
    dsimp only
    cases current : definition.stages[r.stageIndex]? with
    | none => simp [current]
    | some stage => cases below : isBelow (w.env.now - r.updatedAt) (stageDelay stage) <;> simp [current, below]

theorem owed_of_raises : (runDuty w store r).raises = true → (runDuty w store r).owed = true := by
  unfold runDuty
  cases store.validDefinition r.playbookId with
  | none => exact nofun
  | some definition =>
    dsimp only
    cases definition.stages[r.stageIndex]? with
    | none => exact nofun
    | some stage =>
      dsimp only
      split
      · exact nofun
      · exact fun _ => rfl

theorem runDuty_congr {other : PlaybookStore F} (same : other.playbooks = store.playbooks) (r : PlaybookRun F) :
    runDuty w other r = runDuty w store r := by
  unfold runDuty PlaybookStore.validDefinition PlaybookStore.definitionOf
  rw [same]

end Duties

section Check

variable {w : PlaybookWindow F} {store : PlaybookStore F}

theorem AllValid.read (valid : AllValid store) {p : Playbook F} (stored : p ∈ store.playbooks) :
    ∃ definition, readDefinition p.definition = .ok (some definition) := by
  obtain ⟨json, definition, given, accepted⟩ := valid p stored
  refine ⟨definition, ?_⟩
  rw [given]
  unfold readDefinition
  simp only [accepted]

/-- The check starts what is owed up to the first playbook that raises. -/
theorem checkAndStartRuns_eq (pending : List (Playbook F)) (store : PlaybookStore F)
    (apart : (pending.map Playbook.id).Nodup) :
    checkAndStartRuns w.host w.seen w.source w.env.now store pending =
      (startAll w store (((pending.filter (fun p => !store.hasActiveRun p.id w.host)).takeWhile
          (fun p => !(checkDuty w p).raises)).filter (fun p => (checkDuty w p).owed)),
        (pending.filter (fun p => !store.hasActiveRun p.id w.host)).all (fun p => !(checkDuty w p).raises)) := by
  induction pending generalizing store with
  | nil => rfl
  | cons p rest ih =>
    rw [List.map_cons, List.nodup_cons] at apart
    unfold checkAndStartRuns
    cases active : store.hasActiveRun p.id w.host with
    | true =>
      rw [List.filter_cons_of_neg (by simp [active])]
      exact ih store apart.2
    | false =>
      rw [List.filter_cons_of_pos (by simp [active]), if_neg Bool.false_ne_true]
      cases read : readDefinition p.definition with
      | error e =>
        have duty : checkDuty w p = ⟨true, false⟩ := by simp only [checkDuty, read]
        simp [duty, startAll]
      | ok definition =>
        cases definition with
        | none =>
          have duty : checkDuty w p = ⟨false, false⟩ := by simp only [checkDuty, read]
          simpa [duty] using ih store apart.2
        | some definition =>
          dsimp only
          cases fires : evaluateTriggers definition w.seen with
          | error e =>
            have duty : checkDuty w p = ⟨true, false⟩ := by simp only [checkDuty, read, fires]
            simp [duty, startAll]
          | ok fired =>
            have duty : checkDuty w p = ⟨false, fired⟩ := by simp only [checkDuty, read, fires]
            cases fired with
            | false => simpa [duty] using ih store apart.2
            | true =>
              -- the new run is of this playbook, and those to come are others
              have others : rest.filter (fun q =>
                    !(store.startRun p.id w.host w.source w.env.now).hasActiveRun q.id w.host) =
                  rest.filter (fun q => !store.hasActiveRun q.id w.host) := by
                apply List.filter_congr
                intro q member
                rw [hasActiveRun_startRun_of_ne]
                intro same
                exact apart.1 (same ▸ List.mem_map_of_mem member)
              have next := ih (store.startRun p.id w.host w.source w.env.now) apart.2
              rw [others] at next
              simpa [duty, startAll] using next

end Check

section Advance

variable {w : PlaybookWindow F}

theorem StageAction.apply_eq_none_iff {env : PassEnv F} {st : PassState F} {action : StageAction F} :
    action.apply env st = none ↔ action.raising = true := by
  cases action <;> simp [StageAction.apply, StageAction.raising]

/-- What the engine makes of a run, beside what it owes it. -/
inductive Weighed (st : PassState F) : Considered F → Duty → Prop where
  | skip : Weighed st .skip ⟨false, false⟩
  | complete : Weighed st .complete ⟨false, false⟩
  | unread (invalid : ¬AllValid st.store) : Weighed st .abandon ⟨false, false⟩
  | raises : Weighed st .abandon ⟨true, true⟩
  | fires (stage : Fields F) (count : Nat) (done : PassState F) (kept : done.store = st.store) :
      Weighed st (.fire stage count done) ⟨false, true⟩

theorem weighed (st : PassState F) (r : PlaybookRun F) : Weighed st (consider w.env st r) (runDuty w st.store r) := by
  unfold consider runDuty PlaybookStore.validDefinition
  cases found : st.store.definitionOf r.playbookId with
  | none => exact .skip
  | some stored =>
    dsimp only
    cases read : readDefinition stored with
    | error e =>
      refine .unread fun valid => ?_
      obtain ⟨p, listed, rfl⟩ := Option.map_eq_some_iff.mp found
      obtain ⟨definition, accepted⟩ := valid.read (List.mem_of_find?_eq_some listed)
      rw [read] at accepted
      cases accepted
    | ok checked =>
      cases checked with
      | none => exact .skip
      | some definition =>
        dsimp only
        cases definition.stages[r.stageIndex]? with
        | none => exact .complete
        | some stage =>
          dsimp only
          split
          · exact .skip
          · cases applied : (executeStage w.env.cfg w.env.reportRaises stage r).apply w.env st with
            | none =>
              rw [StageAction.apply_eq_none_iff.mp applied]
              exact .raises
            | some done =>
              have quiet : (executeStage w.env.cfg w.env.reportRaises stage r).raising = false := by
                by_contra raises
                rw [StageAction.apply_eq_none_iff.mpr (by simpa using raises)] at applied
                cases applied
              rw [quiet]
              exact .fires stage _ done (StageAction.apply_store applied)

/-- Where definitions are valid a run ends the pass exactly if its stage is due and raises. -/
theorem advanceRun_eq_none_iff {st : PassState F} (valid : AllValid st.store) (r : PlaybookRun F) :
    advanceRun w.env st r = none ↔ (runDuty w st.store r).raises = true := by
  rw [advanceRun_eq]
  have outcome := weighed (w := w) st r
  generalize consider w.env st r = considered at outcome ⊢
  generalize runDuty w st.store r = duty at outcome ⊢
  cases outcome with
  | unread invalid => exact absurd valid invalid
  | skip => simp [Considered.carryOut]
  | complete => simp [Considered.carryOut]
  | raises => simp [Considered.carryOut]
  | fires stage count done kept => simp [Considered.carryOut]

/-- What a run that does not end the pass leaves: nothing owed and the rows as they were, or its
own row advanced. -/
theorem advanceRun_rows {st next : PassState F} {r : PlaybookRun F} (advanced : advanceRun w.env st r = some next) :
    next.store.playbooks = st.store.playbooks ∧
      ((runDuty w st.store r).owed = false ∧ next.store.runs = st.store.runs ∨
        ∃ index, (index = none ∨ index = some (r.stageIndex + 1)) ∧
          next.store.runs = (st.store.advance r.id index w.env.now).runs) := by
  rw [advanceRun_eq] at advanced
  have outcome := weighed (w := w) st r
  generalize consider w.env st r = considered at advanced outcome
  generalize runDuty w st.store r = duty at outcome ⊢
  cases outcome with
  | unread invalid => cases advanced
  | raises => cases advanced
  | skip =>
    cases advanced
    exact ⟨rfl, Or.inl ⟨rfl, rfl⟩⟩
  | complete =>
    cases advanced
    exact ⟨rfl, Or.inr ⟨none, Or.inl rfl, rfl⟩⟩
  | fires stage count done kept =>
    cases advanced
    refine ⟨?_, Or.inr ⟨EngineState.nextStage r count, EngineState.nextStage_cases r count, ?_⟩⟩
    · rw [PlaybookStore.playbooks_advance, ← kept]
      rfl
    · dsimp only
      rw [kept]
      cases EngineState.nextStage r count <;> rfl

variable {st : PassState F} {r : PlaybookRun F}

theorem advanceRun_other {next : PassState F} {run : PlaybookRun F} (advanced : advanceRun w.env st run = some next)
    (found : r ∈ st.store.runs) (other : r.id ≠ run.id) : r ∈ next.store.runs := by
  rcases (advanceRun_rows advanced).2 with ⟨-, same⟩ | ⟨index, -, moved⟩
  · rw [same]
    exact found
  · rw [moved]
    exact PlaybookStore.mem_runs_advance.mpr (Or.inl ⟨found, other⟩)

theorem advanceRun_ids {next : PassState F} (advanced : advanceRun w.env st r = some next) :
    next.store.runs.map PlaybookRun.id = st.store.runs.map PlaybookRun.id := by
  rcases (advanceRun_rows advanced).2 with ⟨-, same⟩ | ⟨index, -, moved⟩
  · rw [same]
  · rw [moved, PlaybookStore.map_id_advance]

/-- A run that is due and does not end the pass has moved. -/
theorem advanceRun_moves {next : PassState F} (advanced : advanceRun w.env st r = some next)
    (found : r ∈ st.store.runs) (owed : (runDuty w st.store r).owed = true) :
    ∃ r' ∈ next.store.runs, r'.id = r.id ∧ (r'.running = false ∨ r'.stageIndex = r.stageIndex + 1) := by
  rcases (advanceRun_rows advanced).2 with ⟨none, -⟩ | ⟨index, next, moved⟩
  · rw [none] at owed
    cases owed
  · refine ⟨r.advanced index w.env.now, ?_, PlaybookRun.advanced_id index w.env.now r, ?_⟩
    · rw [moved]
      exact PlaybookStore.mem_runs_advance.mpr (Or.inr ⟨r, found, rfl, rfl⟩)
    · rcases next with rfl | rfl
      · exact Or.inl rfl
      · exact Or.inr rfl

theorem advanceRuns_ids (runs : List (PlaybookRun F)) (st : PassState F) :
    (advanceRuns w.env st runs).store.runs.map PlaybookRun.id = st.store.runs.map PlaybookRun.id := by
  induction runs generalizing st with
  | nil => rfl
  | cons run rest ih =>
    unfold advanceRuns
    cases advanced : advanceRun w.env st run with
    | none => rfl
    | some next => exact (ih next).trans (advanceRun_ids advanced)

theorem advanceRuns_other (runs : List (PlaybookRun F)) (st : PassState F) (found : r ∈ st.store.runs)
    (other : r.id ∉ runs.map PlaybookRun.id) : r ∈ (advanceRuns w.env st runs).store.runs := by
  induction runs generalizing st with
  | nil => exact found
  | cons run rest ih =>
    rw [List.map_cons, List.mem_cons, not_or] at other
    unfold advanceRuns
    cases advanced : advanceRun w.env st run with
    | none => exact found
    | some next => exact ih next (advanceRun_other advanced found other.1) other.2

theorem advanceRuns_keeps (runs : List (PlaybookRun F)) (st : PassState F) (found : r ∈ st.store.runs) :
    ∃ r' ∈ (advanceRuns w.env st runs).store.runs,
      r'.id = r.id ∧ r'.playbookId = r.playbookId ∧ r'.targetHost = r.targetHost := by
  induction runs generalizing st r with
  | nil => exact ⟨r, found, rfl, rfl, rfl⟩
  | cons run rest ih =>
    unfold advanceRuns
    cases advanced : advanceRun w.env st run with
    | none => exact ⟨r, found, rfl, rfl, rfl⟩
    | some next =>
      by_cases same : r.id = run.id
      · rcases (advanceRun_rows advanced).2 with ⟨-, rows⟩ | ⟨index, -, rows⟩
        · exact ih next (rows ▸ found)
        · have moved : r.advanced index w.env.now ∈ next.store.runs := by
            rw [rows]
            exact PlaybookStore.mem_runs_advance.mpr (Or.inr ⟨r, found, same, rfl⟩)
          obtain ⟨r', member, ids, playbook, host⟩ := ih next moved
          rw [PlaybookRun.advanced_id] at ids
          rw [PlaybookRun.advanced_playbookId] at playbook
          rw [PlaybookRun.advanced_targetHost] at host
          exact ⟨r', member, ids, playbook, host⟩
      · exact ih next (advanceRun_other advanced found same)

theorem advanceRuns_moves (runs : List (PlaybookRun F)) (st : PassState F) (valid : AllValid st.store)
    (apart : (runs.map PlaybookRun.id).Nodup) (stored : ∀ r ∈ runs, r ∈ st.store.runs)
    (clear : ∀ r ∈ runs, (runDuty w st.store r).raises = false) (member : r ∈ runs)
    (owed : (runDuty w st.store r).owed = true) :
    ∃ r' ∈ (advanceRuns w.env st runs).store.runs,
      r'.id = r.id ∧ (r'.running = false ∨ r'.stageIndex = r.stageIndex + 1) := by
  induction runs generalizing st with
  | nil => cases member
  | cons run rest ih =>
    rw [List.map_cons, List.nodup_cons] at apart
    unfold advanceRuns
    cases advanced : advanceRun w.env st run with
    | none =>
      have raises := (advanceRun_eq_none_iff valid run).mp advanced
      rw [clear run List.mem_cons_self] at raises
      cases raises
    | some next =>
      have playbooks := (advanceRun_rows advanced).1
      rcases List.mem_cons.mp member with rfl | later
      · -- its own row has moved, and no later run has its id
        obtain ⟨r', found, same, moved⟩ := advanceRun_moves advanced (stored r List.mem_cons_self) owed
        exact ⟨r', advanceRuns_other rest next found (same ▸ apart.1), same, moved⟩
      · refine ih next ?_ apart.2 (fun q among => ?_) (fun q among => ?_) later ?_
        · unfold AllValid
          rw [playbooks]
          exact valid
        · refine advanceRun_other advanced (stored q (List.mem_cons_of_mem run among)) fun same => apart.1 ?_
          rw [← same]
          exact List.mem_map_of_mem among
        · rw [runDuty_congr playbooks]
          exact clear q (List.mem_cons_of_mem run among)
        · rw [runDuty_congr playbooks]
          exact owed

theorem advanceRuns_stuck (runs : List (PlaybookRun F)) (st : PassState F) (valid : AllValid st.store)
    (apart : (runs.map PlaybookRun.id).Nodup) (stored : ∀ r ∈ runs, r ∈ st.store.runs)
    (raised : ∃ r ∈ runs, (runDuty w st.store r).raises = true) :
    ∃ r ∈ runs, (runDuty w st.store r).raises = true ∧ r ∈ (advanceRuns w.env st runs).store.runs := by
  induction runs generalizing st with
  | nil =>
    obtain ⟨r, member, -⟩ := raised
    cases member
  | cons run rest ih =>
    rw [List.map_cons, List.nodup_cons] at apart
    unfold advanceRuns
    cases advanced : advanceRun w.env st run with
    | none =>
      exact ⟨run, List.mem_cons_self, (advanceRun_eq_none_iff valid run).mp advanced, stored run List.mem_cons_self⟩
    | some next =>
      have playbooks := (advanceRun_rows advanced).1
      obtain ⟨r, member, raises⟩ := raised
      have later : r ∈ rest := by
        rcases List.mem_cons.mp member with rfl | later
        · rw [(advanceRun_eq_none_iff valid r).mpr raises] at advanced
          cases advanced
        · exact later
      obtain ⟨q, among, raising, stays⟩ := ih next (by unfold AllValid; rw [playbooks]; exact valid) apart.2
        (fun q among => advanceRun_other advanced (stored q (List.mem_cons_of_mem run among))
          fun same => apart.1 (same ▸ List.mem_map_of_mem among))
        ⟨r, later, by rw [runDuty_congr playbooks]; exact raises⟩
      rw [runDuty_congr playbooks] at raising
      exact ⟨q, List.mem_cons_of_mem run among, raising, stays⟩

end Advance

section Whole

variable {w : PlaybookWindow F} {store : PlaybookStore F}

/-- The playbooks checked before the first that raises. -/
def reached (w : PlaybookWindow F) (store : PlaybookStore F) : List (Playbook F) :=
  (waiting w store).takeWhile (fun p => !(checkDuty w p).raises)

/-- Those from there on. -/
def unreached (w : PlaybookWindow F) (store : PlaybookStore F) : List (Playbook F) :=
  (waiting w store).dropWhile (fun p => !(checkDuty w p).raises)

theorem reached_append_unreached : reached w store ++ unreached w store = waiting w store :=
  List.takeWhile_append_dropWhile

theorem met_checks_iff :
    Met ((waiting w store).map (checkDuty w)) ↔ ∀ p ∈ unreached w store, (checkDuty w p).owed = false := by
  unfold Met undone
  rw [List.dropWhile_map, List.forall_mem_map]
  rfl

theorem mem_reached_of_met {p : Playbook F} (met : ∀ p ∈ unreached w store, (checkDuty w p).owed = false)
    (member : p ∈ waiting w store) (owed : (checkDuty w p).owed = true) : p ∈ reached w store := by
  rw [← reached_append_unreached] at member
  rcases List.mem_append.mp member with early | late
  · exact early
  · rw [met p late] at owed
    cases owed

omit [Arith F] in
theorem waiting_apart (keyed : Keyed store) : ((waiting w store).map Playbook.id).Nodup := by
  have sub : ((waiting w store).map Playbook.id).Sublist (store.playbooks.map Playbook.id) :=
    (List.filter_sublist.trans List.filter_sublist).map _
  exact sub.nodup keyed.playbooks

theorem check_eq (keyed : Keyed store) :
    checkAndStartRuns w.host w.seen w.source w.env.now store (store.enabledFor w.host) =
      (startAll w store ((reached w store).filter (fun p => (checkDuty w p).owed)),
        (waiting w store).all (fun p => !(checkDuty w p).raises)) :=
  checkAndStartRuns_eq (store.enabledFor w.host) store
    ((List.filter_sublist.map Playbook.id).nodup keyed.playbooks)

theorem started_eq (keyed : Keyed store) :
    started w store = startAll w store ((reached w store).filter (fun p => (checkDuty w p).owed)) := by
  unfold started
  rw [check_eq keyed]

theorem started_playbooks (keyed : Keyed store) : (started w store).playbooks = store.playbooks := by
  rw [started_eq keyed]
  exact startAll_playbooks _ store

theorem started_keyed (keyed : Keyed store) : Keyed (started w store) := by
  rw [started_eq keyed]
  exact startAll_keyed _ keyed

theorem started_valid (keyed : Keyed store) (valid : AllValid store) : AllValid (started w store) := by
  unfold AllValid
  rw [started_playbooks keyed]
  exact valid

theorem exists_started (keyed : Keyed store) (met : ∀ p ∈ unreached w store, (checkDuty w p).owed = false)
    {p : Playbook F} (member : p ∈ waiting w store) (owed : (checkDuty w p).owed = true) :
    ∃ id, store.nextRun ≤ id ∧ runOf w id p ∈ (started w store).runs := by
  have chosen : p ∈ (reached w store).filter (fun p => (checkDuty w p).owed) :=
    List.mem_filter.mpr ⟨mem_reached_of_met met member owed, owed⟩
  rw [started_eq keyed]
  exact exists_startAll store chosen

/-- Once no owed playbook is cut off, the duties of runs are those of the runs there are after
the check. -/
theorem mem_runDuties_iff (keyed : Keyed store) (met : ∀ p ∈ unreached w store, (checkDuty w p).owed = false)
    {d : Duty} :
    d ∈ (store.runs.filter PlaybookRun.running ++ candidates w store).map (runDuty w store) ↔
      ∃ r ∈ (started w store).runs, r.running = true ∧ runDuty w store r = d := by
  constructor
  · intro member
    obtain ⟨r, listed, rfl⟩ := List.mem_map.mp member
    rcases List.mem_append.mp listed with old | new
    · obtain ⟨found, running⟩ := List.mem_filter.mp old
      rw [started_eq keyed]
      exact ⟨r, mem_startAll_of_mem _ found, running, rfl⟩
    · obtain ⟨p, chosen, rfl⟩ := List.mem_map.mp new
      obtain ⟨among, owed⟩ := List.mem_filter.mp chosen
      obtain ⟨id, -, found⟩ := exists_started keyed met among owed
      exact ⟨runOf w id p, found, rfl, rfl⟩
  · intro ⟨r, found, running, duty⟩
    subst duty
    apply List.mem_map.mpr
    rw [started_eq keyed] at found
    rcases mem_startAll_inv _ found with old | ⟨p, chosen, id, -, rfl⟩
    · exact ⟨r, List.mem_append_left _ (List.mem_filter.mpr ⟨old, running⟩), rfl⟩
    · obtain ⟨early, owed⟩ := List.mem_filter.mp chosen
      have among : p ∈ waiting w store := (List.takeWhile_sublist _).subset early
      refine ⟨runOf w store.nextRun p, List.mem_append_right _ ?_, rfl⟩
      exact List.mem_map_of_mem (List.mem_filter.mpr ⟨among, owed⟩)

omit [Arith F] in
theorem Keyed.not_moved (keyed : Keyed store) {r r' : PlaybookRun F} (found : r ∈ store.runs)
    (running : r.running = true) (after : r' ∈ store.runs) (same : r'.id = r.id) :
    ¬(r'.running = false ∨ r'.stageIndex = r.stageIndex + 1) := by
  rw [List.inj_on_of_nodup_map keyed.runs after found same, running]
  rintro (stopped | moved)
  · cases stopped
  · omega

/-- A pass that ends in the check serves all if no owed playbook is cut off and no run is due. -/
theorem served_started_iff (keyed : Keyed store) :
    Served w store (started w store) ↔ (∀ p ∈ unreached w store, (checkDuty w p).owed = false) ∧
      ∀ d ∈ (store.runs.filter PlaybookRun.running ++ candidates w store).map (runDuty w store), d.owed = false := by
  have keyed' : Keyed (started w store) := started_keyed keyed
  constructor
  · intro served
    have met : ∀ p ∈ unreached w store, (checkDuty w p).owed = false := by
      intro p late
      by_contra owed
      have owed : (checkDuty w p).owed = true := by simpa using owed
      have among : p ∈ waiting w store := (List.dropWhile_sublist _).subset late
      obtain ⟨r, found, new, own, -⟩ := served.starts p among (checkDuty_owed_iff.mp owed)
      rw [started_eq keyed] at found
      rcases mem_startAll_inv _ found with old | ⟨q, chosen, id, -, rfl⟩
      · exact absurd new (Nat.not_le.mpr (keyed.given r old))
      · -- a run of this playbook means it was reached
        have early : q ∈ reached w store := (List.mem_filter.mp chosen).1
        have same : q = p := List.inj_on_of_nodup_map (waiting_apart keyed)
          ((List.takeWhile_sublist _).subset early) among own
        have apart := (waiting_apart (w := w) keyed).of_map
        rw [← reached_append_unreached] at apart
        exact (List.disjoint_of_nodup_append apart) (same ▸ early) late
    refine ⟨met, fun d member => ?_⟩
    obtain ⟨r, found, running, rfl⟩ := (mem_runDuties_iff keyed met).mp member
    by_contra owed
    have due : Due w store r := runDuty_owed_iff.mp (by simpa using owed)
    obtain ⟨r', after, same, moved⟩ := served.moves r found running due
    exact keyed'.not_moved found running after same moved
  · intro ⟨met, idle⟩
    refine ⟨fun p among fires => ?_, fun r found running due => ?_⟩
    · obtain ⟨id, new, found⟩ := exists_started keyed met among (checkDuty_owed_iff.mpr fires)
      exact ⟨runOf w id p, found, new, rfl, rfl⟩
    · have unowed := idle _ ((mem_runDuties_iff keyed met).mpr ⟨r, found, running, rfl⟩)
      rw [runDuty_owed_iff.mpr due] at unowed
      cases unowed

section Resumed

variable {fw : Firewall F}

/-- Where some run raises, the first that does is due and does not move. -/
theorem not_served_of_raises (keyed : Keyed store) (valid : AllValid store)
    (raised : ∃ r ∈ (started w store).runs, r.running = true ∧ (runDuty w store r).raises = true) :
    ¬Served w store (advanceRuns w.env ⟨started w store, fw, []⟩
      ((started w store).runs.filter PlaybookRun.running)).store := by
  intro served
  have playbooks := started_playbooks (w := w) keyed
  have keyed' := started_keyed (w := w) keyed
  obtain ⟨r, found, running, raises⟩ := raised
  rw [← runDuty_congr playbooks] at raises
  obtain ⟨q, among, raising, stays⟩ := advanceRuns_stuck ((started w store).runs.filter PlaybookRun.running)
    ⟨started w store, fw, []⟩ (started_valid keyed valid) keyed'.running_apart
    (fun r member => (List.mem_filter.mp member).1) ⟨r, List.mem_filter.mpr ⟨found, running⟩, raises⟩
  obtain ⟨listed, active⟩ := List.mem_filter.mp among
  have due : Due w store q := by
    rw [← runDuty_owed_iff, ← runDuty_congr playbooks]
    exact owed_of_raises raising
  obtain ⟨r', after, same, moved⟩ := served.moves q listed active due
  have ids := advanceRuns_ids (w := w) ((started w store).runs.filter PlaybookRun.running) ⟨started w store, fw, []⟩
  have unmoved : r' = q := List.inj_on_of_nodup_map (ids ▸ keyed'.runs) after stays same
  rw [unmoved, active] at moved
  rcases moved with stopped | moved
  · cases stopped
  · omega

theorem served_of_quiet (keyed : Keyed store) (valid : AllValid store)
    (met : ∀ p ∈ unreached w store, (checkDuty w p).owed = false)
    (quiet : ∀ r ∈ (started w store).runs, r.running = true → (runDuty w store r).raises = false) :
    Served w store (advanceRuns w.env ⟨started w store, fw, []⟩
      ((started w store).runs.filter PlaybookRun.running)).store := by
  have playbooks := started_playbooks (w := w) keyed
  refine ⟨fun p among fires => ?_, fun r found running due => ?_⟩
  · obtain ⟨id, new, found⟩ := exists_started keyed met among (checkDuty_owed_iff.mpr fires)
    obtain ⟨r', after, ids, playbook, host⟩ := advanceRuns_keeps (w := w)
      ((started w store).runs.filter PlaybookRun.running) ⟨started w store, fw, []⟩ found
    exact ⟨r', after, ids ▸ new, playbook, host⟩
  · refine advanceRuns_moves _ ⟨started w store, fw, []⟩ (started_valid keyed valid)
      (started_keyed keyed).running_apart (fun q member => (List.mem_filter.mp member).1) (fun q among => ?_)
      (List.mem_filter.mpr ⟨found, running⟩) ?_
    · obtain ⟨listed, active⟩ := List.mem_filter.mp among
      rw [runDuty_congr playbooks]
      exact quiet q listed active
    · rw [runDuty_congr playbooks]
      exact runDuty_owed_iff.mpr due

/-- A pass that goes on serves all if no run raises. -/
theorem served_advanceRuns_iff (keyed : Keyed store) (valid : AllValid store)
    (clear : ∀ p ∈ waiting w store, (checkDuty w p).raises = false) :
    Served w store (advanceRuns w.env ⟨started w store, fw, []⟩
        ((started w store).runs.filter PlaybookRun.running)).store ↔
      ∀ d ∈ (store.runs.filter PlaybookRun.running ++ candidates w store).map (runDuty w store), d.raises = false := by
  have none_left : unreached w store = [] :=
    List.dropWhile_eq_nil_iff.mpr fun p member => by rw [clear p member]; rfl
  have met : ∀ p ∈ unreached w store, (checkDuty w p).owed = false := by
    rw [none_left]
    exact nofun
  constructor
  · intro served d member
    by_contra raises
    obtain ⟨r, found, running, rfl⟩ := (mem_runDuties_iff keyed met).mp member
    exact not_served_of_raises keyed valid ⟨r, found, running, by simpa using raises⟩ served
  · intro quiet
    refine served_of_quiet keyed valid met fun r found running => ?_
    exact quiet _ ((mem_runDuties_iff keyed met).mpr ⟨r, found, running, rfl⟩)

end Resumed

end Whole

end Pass

/-- A pass serves every playbook and every run exactly if nothing owed comes at or after the
first playbook or run that raises. -/
theorem playbooks_served_iff [Arith F] (w : PlaybookWindow F) (store : PlaybookStore F) (fw : Firewall F)
    (keyed : Keyed store) (valid : AllValid store) :
    Served w store (playbookPass w.env w.host w.seen w.source store fw).store ↔ Met (duties w store) := by
  unfold playbookPass duties
  dsimp only
  cases checks : (checkAndStartRuns w.host w.seen w.source w.env.now store (store.enabledFor w.host)).2 with
  | false =>
    have raised : ∃ d ∈ (waiting w store).map (checkDuty w), d.raises = true := by
      rw [check_eq keyed] at checks
      obtain ⟨p, member, raises⟩ := List.all_eq_false.mp checks
      exact ⟨checkDuty w p, List.mem_map_of_mem member, by simpa using raises⟩
    rw [if_neg Bool.false_ne_true, met_append_of_raises raised, met_checks_iff]
    exact served_started_iff keyed
  | true =>
    have clear : ∀ p ∈ waiting w store, (checkDuty w p).raises = false := by
      rw [check_eq keyed] at checks
      intro p member
      simpa using List.all_eq_true.mp checks p member
    rw [if_pos rfl, met_append_of_clear (List.forall_mem_map.mpr clear),
      met_iff_clear (List.forall_mem_map.mpr fun r _ => owed_of_raises)]
    exact served_advanceRuns_iff keyed valid clear

/-- A definition with one trigger and one stage. -/
def oneOfEach (trigger stage : Fields ℚ) : Json ℚ :=
  .obj [("triggers", .arr [.obj trigger]), ("stages", .arr [.obj stage])]

/-- A playbook with the definition given, and after it one that notifies at once when any host is
under attack. -/
def besideNotify (definition : Json ℚ) : PlaybookStore ℚ where
  playbooks :=
    [⟨1, true, .all, some definition⟩,
      ⟨2, true, .all, some (oneOfEach [("type", .str "scale")] [("type", .str "notify")])⟩]
  nextPlaybook := 3

theorem besideNotify_keyed (definition : Json ℚ) : Keyed (besideNotify definition) :=
  ⟨by simp [besideNotify], List.nodup_nil, nofun⟩

theorem besideNotify_valid {json : Json ℚ} {definition : Definition ℚ}
    (accepted : validateDefinition json = .ok definition) : AllValid (besideNotify json) := by
  intro p member
  rcases List.mem_cons.mp member with rfl | last
  · exact ⟨json, definition, rfl, accepted⟩
  · rw [List.mem_singleton.mp last]
    exact ⟨_, _, rfl, rfl⟩

/-- The tier given as a number. -/
def tierNumber : Json ℚ :=
  oneOfEach [("type", .str "tier_reached"), ("min_tier", .number (.finite 1))]
    [("type", .str "escalate"), ("target_tier", .number (.finite 3))]

theorem tierNumber_served :
    Met (duties (attackAt 10) (besideNotify tierNumber)) ∧
      Served (attackAt 10) (besideNotify tierNumber)
        (playbookPass (attackAt 10).env (attackAt 10).host (attackAt 10).seen (attackAt 10).source
          (besideNotify tierNumber) Firewall.empty).store := by
  have met : Met (duties (attackAt 10) (besideNotify tierNumber)) := by decide +kernel
  have valid : AllValid (besideNotify tierNumber) := besideNotify_valid rfl
  exact ⟨met, (playbooks_served_iff (attackAt 10) (besideNotify tierNumber) Firewall.empty
    (besideNotify_keyed tierNumber) valid).mpr met⟩

/-- The tier of a trigger given as a word. -/
def tierWord : Json ℚ :=
  oneOfEach [("type", .str "tier_reached"), ("min_tier", .str "high")] [("type", .str "notify")]

/-- The tier of a stage given as a word. -/
def targetWord : Json ℚ :=
  oneOfEach [("type", .str "scale")] [("type", .str "escalate"), ("target_tier", .str "high")]

/-- The store after a pass over an attack. -/
def afterAttack (store : PlaybookStore ℚ) : PlaybookStore ℚ :=
  (playbookPass (attackAt 10).env (attackAt 10).host (attackAt 10).seen (attackAt 10).source store
    Firewall.empty).store

/-- The playbook, the stage and the state of each run. -/
def runStates (store : PlaybookStore ℚ) : List (Nat × Nat × Bool) :=
  store.runs.map (fun r => (r.playbookId, r.stageIndex, r.running))

/-- Both definitions pass the check. One keeps the playbook after it from starting, the other
keeps its run from moving. -/
theorem words_hold_up_others :
    (Keyed (besideNotify tierWord) ∧ AllValid (besideNotify tierWord) ∧
      ¬Served (attackAt 10) (besideNotify tierWord) (afterAttack (besideNotify tierWord))) ∧
    Keyed (besideNotify targetWord) ∧ AllValid (besideNotify targetWord) ∧
      ¬Served (attackAt 10) (besideNotify targetWord) (afterAttack (besideNotify targetWord)) := by
  refine ⟨⟨besideNotify_keyed _, besideNotify_valid rfl, fun served => ?_⟩,
    besideNotify_keyed _, besideNotify_valid rfl, fun served => ?_⟩
  · -- no run at all
    have none : runStates (afterAttack (besideNotify tierWord)) = [] := by decide +kernel
    have second : (waiting (attackAt 10) (besideNotify tierWord))[1]? =
        some ⟨2, true, .all, some (oneOfEach [("type", .str "scale")] [("type", .str "notify")])⟩ := rfl
    obtain ⟨r, found, -⟩ := served.starts _ (List.mem_of_getElem? second)
      (checkDuty_owed_iff.mp (by decide +kernel))
    rw [List.map_eq_nil_iff.mp none] at found
    cases found
  · -- the second run is due, and both are where they started
    have due : (started (attackAt 10) (besideNotify targetWord)).runs.map
        (fun r => (r.playbookId, r.running, (runDuty (attackAt 10) (besideNotify targetWord) r).owed)) =
          [(1, true, true), (2, true, true)] := by decide +kernel
    have still : runStates (afterAttack (besideNotify targetWord)) = [(1, 0, true), (2, 0, true)] := by
      decide +kernel
    have listed : (2, true, true) ∈ [(1, true, true), (2, true, true)] := by decide
    rw [← due] at listed
    obtain ⟨r, found, told⟩ := List.mem_map.mp listed
    obtain ⟨-, running, owed⟩ : r.playbookId = 2 ∧ r.running = true ∧ _ = true := by simpa using told
    obtain ⟨r', after, -, moved⟩ := served.moves r found running (runDuty_owed_iff.mp owed)
    have unmoved : (r'.playbookId, r'.stageIndex, r'.running) ∈ [(1, 0, true), (2, 0, true)] := by
      rw [← still]
      exact List.mem_map_of_mem after
    simp only [List.mem_cons, Prod.mk.injEq, List.not_mem_nil, or_false] at unmoved
    rcases moved with stopped | moved
    · rw [stopped] at unmoved
      simp at unmoved
    · omega

end Flod.Stage2
