import Flod.Stage2.PlaybookEngine
import Mathlib.Data.List.Nodup

/-! What holds of the engine's tables whatever fails and whatever is requested meanwhile: ids
stay apart, and a run the engine has read is still as it was read, or gone. -/

namespace Flod.Stage2
open Flod.Lib

variable {F : Type}

/-- A run as an advance leaves it. -/
def PlaybookRun.advanced (next : Option Nat) (now : F) (r : PlaybookRun F) : PlaybookRun F :=
  match next with
  | none => { r with running := false, updatedAt := now }
  | some index => { r with stageIndex := index, updatedAt := now }

@[simp] theorem PlaybookRun.advanced_id (next : Option Nat) (now : F) (r : PlaybookRun F) :
    (r.advanced next now).id = r.id := by
  cases next <;> rfl

@[simp] theorem PlaybookRun.advanced_playbookId (next : Option Nat) (now : F) (r : PlaybookRun F) :
    (r.advanced next now).playbookId = r.playbookId := by
  cases next <;> rfl

@[simp] theorem PlaybookRun.advanced_targetHost (next : Option Nat) (now : F) (r : PlaybookRun F) :
    (r.advanced next now).targetHost = r.targetHost := by
  cases next <;> rfl

theorem EngineState.nextStage_cases (run : PlaybookRun F) (count : Nat) :
    nextStage run count = none ∨ nextStage run count = some (run.stageIndex + 1) := by
  unfold nextStage
  split
  · exact Or.inr rfl
  · exact Or.inl rfl

/-- A run that goes on after an advance is at the next stage. -/
theorem PlaybookRun.advanced_nextStage {run : PlaybookRun F} {count : Nat} {now : F}
    (running : (run.advanced (EngineState.nextStage run count) now).running = true) :
    (run.advanced (EngineState.nextStage run count) now).stageIndex = run.stageIndex + 1 := by
  rcases EngineState.nextStage_cases run count with last | more
  · rw [last] at running
    cases running
  · rw [more]
    rfl

namespace PlaybookStore

def eventsOf (store : PlaybookStore F) (runId : Nat) : List (PlaybookEvent F) :=
  store.events.filter (fun e => decide (e.runId = runId))

/-- The run `startRun` inserts. -/
def newRun (store : PlaybookStore F) (playbookId : Nat) (host : String) (source : Option String) (now : F) :
    PlaybookRun F := ⟨store.nextRun, playbookId, host, source, 0, true, now, now⟩

variable {store : PlaybookStore F} {r : PlaybookRun F} {id : Nat}

theorem mem_runs_startRun {host : String} {source : Option String} {now : F} :
    r ∈ (store.startRun id host source now).runs ↔ r ∈ store.runs ∨ r = store.newRun id host source now := by
  simp [startRun, newRun]

theorem advance_eq (next : Option Nat) (now : F) :
    store.advance id next now = store.update id (PlaybookRun.advanced next now) := by
  cases next <;> rfl

/-- Where ids are apart, an advance replaces one run and leaves the others. -/
theorem mem_runs_advance {next : Option Nat} {now : F} :
    r ∈ (store.advance id next now).runs ↔
      r ∈ store.runs ∧ r.id ≠ id ∨ ∃ old ∈ store.runs, old.id = id ∧ r = old.advanced next now := by
  rw [advance_eq]
  constructor
  · intro member
    obtain ⟨old, found, made⟩ := List.mem_map.mp member
    by_cases same : old.id = id
    · rw [if_pos same] at made
      exact Or.inr ⟨old, found, same, made.symm⟩
    · rw [if_neg same] at made
      subst made
      exact Or.inl ⟨found, same⟩
  · rintro (⟨found, other⟩ | ⟨old, found, same, rfl⟩)
    · exact List.mem_map.mpr ⟨r, found, if_neg other⟩
    · exact List.mem_map.mpr ⟨old, found, if_pos same⟩

theorem map_id_advance (next : Option Nat) (now : F) :
    (store.advance id next now).runs.map PlaybookRun.id = store.runs.map PlaybookRun.id := by
  rw [advance_eq]
  unfold update
  rw [List.map_map]
  apply List.map_congr_left
  intro r _
  rw [Function.comp_apply]
  split
  · rw [PlaybookRun.advanced_id]
  · rfl

@[simp] theorem playbooks_advance (store : PlaybookStore F) (id : Nat) (next : Option Nat) (now : F) :
    (store.advance id next now).playbooks = store.playbooks := by
  cases next <;> rfl

@[simp] theorem nextPlaybook_advance (store : PlaybookStore F) (id : Nat) (next : Option Nat) (now : F) :
    (store.advance id next now).nextPlaybook = store.nextPlaybook := by
  cases next <;> rfl

@[simp] theorem nextRun_advance (store : PlaybookStore F) (id : Nat) (next : Option Nat) (now : F) :
    (store.advance id next now).nextRun = store.nextRun := by
  cases next <;> rfl

@[simp] theorem events_advance (store : PlaybookStore F) (id : Nat) (next : Option Nat) (now : F) :
    (store.advance id next now).events = store.events := by
  cases next <;> rfl

theorem mem_runs_deletePlaybook : r ∈ (store.deletePlaybook id).runs ↔ r ∈ store.runs ∧ r.playbookId ≠ id := by
  simp [deletePlaybook]

theorem mem_events_deletePlaybook {e : PlaybookEvent F} :
    e ∈ (store.deletePlaybook id).events ↔
      e ∈ store.events ∧ ∀ r ∈ store.runs, r.playbookId = id → r.id ≠ e.runId := by
  simp [deletePlaybook]

theorem eventsOf_recordEvent_self {event : PlaybookEvent F} (own : event.runId = id) :
    (store.recordEvent event).eventsOf id = store.eventsOf id ++ [event] := by
  simp [eventsOf, recordEvent, List.filter_append, own]

theorem eventsOf_recordEvent_of_ne {event : PlaybookEvent F} (other : event.runId ≠ id) :
    (store.recordEvent event).eventsOf id = store.eventsOf id := by
  simp [eventsOf, recordEvent, List.filter_append, other]

theorem eventsOf_advance {runId : Nat} (next : Option Nat) (now : F) :
    (store.advance runId next now).eventsOf id = store.eventsOf id := by
  cases next <;> rfl

theorem eventsOf_deletePlaybook (apart : (store.runs.map PlaybookRun.id).Nodup)
    (kept : r ∈ (store.deletePlaybook id).runs) : (store.deletePlaybook id).eventsOf r.id = store.eventsOf r.id := by
  obtain ⟨found, differs⟩ := mem_runs_deletePlaybook.mp kept
  unfold eventsOf deletePlaybook
  rw [List.filter_filter]
  refine List.filter_congr fun e _ => ?_
  by_cases own : e.runId = r.id
  · have unrelated : e.runId ∉ (store.runs.filter (fun r => decide (r.playbookId = id))).map PlaybookRun.id := by
      intro member
      obtain ⟨other, listed, same⟩ := List.mem_map.mp member
      obtain ⟨stored, of⟩ := List.mem_filter.mp listed
      rw [List.inj_on_of_nodup_map apart stored found (same.trans own)] at of
      exact differs (of_decide_eq_true of)
    simp only [own, decide_true, Bool.true_and]
    exact decide_eq_true (own ▸ unrelated)
  · simp only [own, decide_false, Bool.false_and]

theorem map_id_updatePlaybook (store : PlaybookStore F) (id : Nat) {change : Playbook F → Playbook F}
    (same : ∀ p, (change p).id = p.id) :
    (store.updatePlaybook id change).playbooks.map Playbook.id = store.playbooks.map Playbook.id := by
  unfold updatePlaybook
  rw [List.map_map]
  apply List.map_congr_left
  intro p _
  rw [Function.comp_apply]
  split
  · exact same p
  · rfl

/-- Only a deletion touches runs and events. -/
theorem handle_eq (store : PlaybookStore F) (request : PlaybookRequest F) :
    (∃ id, request = .delete id ∧ store.handle request = store.deletePlaybook id) ∨
      (store.handle request).runs = store.runs ∧ (store.handle request).events = store.events ∧
        (store.handle request).nextRun = store.nextRun := by
  cases request with
  | create enabled scope definition => exact Or.inr ⟨rfl, rfl, rfl⟩
  | edit id enabled scope definition => exact Or.inr ⟨rfl, rfl, rfl⟩
  | toggle id enabled => exact Or.inr ⟨rfl, rfl, rfl⟩
  | delete id => exact Or.inl ⟨id, rfl, rfl⟩

end PlaybookStore

/-- The runs a pass has read and not yet dealt with. -/
def EnginePhase.held : EnginePhase F → List (PlaybookRun F)
  | .loading _ runs => runs
  | .recording _ run _ _ runs => run :: runs
  | .advancing _ run _ runs => run :: runs
  | .completing _ run runs => run :: runs
  | _ => []

/-- The run whose event is recorded and which is not yet advanced. -/
def EnginePhase.ahead : EnginePhase F → List Nat
  | .advancing _ run _ _ => [run.id]
  | _ => []

theorem EnginePhase.ahead_of_quiet {phase : EnginePhase F} (quiet : phase.acting = []) : phase.ahead = [] := by
  cases phase <;> first | rfl | cases quiet

/-- Ids are given once, and what the engine holds of a run is what is stored of it. -/
structure Rows (s : EngineState F) : Prop where
  apart : (s.store.runs.map PlaybookRun.id).Nodup
  given : ∀ r ∈ s.store.runs, r.id < s.store.nextRun
  recorded : ∀ e ∈ s.store.events, e.runId < s.store.nextRun
  heldApart : (s.phase.held.map PlaybookRun.id).Nodup
  heldGiven : ∀ run ∈ s.phase.held, run.id < s.store.nextRun
  heldRunning : ∀ run ∈ s.phase.held, run.running = true
  same : ∀ run ∈ s.phase.held, ∀ r ∈ s.store.runs, r.id = run.id → r = run

theorem Rows.eventsOf_nextRun {s : EngineState F} (rows : Rows s) : s.store.eventsOf s.store.nextRun = [] := by
  refine List.filter_eq_nil_iff.mpr fun e member same => ?_
  exact absurd (of_decide_eq_true same) (rows.recorded e member).ne

namespace Rows

variable {s s' : EngineState F} {phase : EnginePhase F} {w : PlaybookWindow F} {run : PlaybookRun F}
  {runs : List (PlaybookRun F)}

theorem narrow (rows : Rows s) (store : s'.store = s.store) (held : s'.phase.held.Sublist s.phase.held) :
    Rows s' where
  apart := store ▸ rows.apart
  given := store ▸ rows.given
  recorded := store ▸ rows.recorded
  heldApart := rows.heldApart.sublist (held.map _)
  heldGiven := fun run member => store ▸ rows.heldGiven run (held.subset member)
  heldRunning := fun run member => rows.heldRunning run (held.subset member)
  same := fun run member => store ▸ rows.same run (held.subset member)

theorem collect (rows : Rows s) : Rows ⟨s.st, .loading w (s.store.runs.filter PlaybookRun.running)⟩ where
  apart := rows.apart
  given := rows.given
  recorded := rows.recorded
  heldApart := rows.apart.sublist (List.filter_sublist.map _)
  heldGiven := fun run member => rows.given run (List.mem_of_mem_filter member)
  heldRunning := fun _ member => (List.mem_filter.mp member).2
  same := fun _ member _ found ids =>
    List.inj_on_of_nodup_map rows.apart found (List.mem_of_mem_filter member) ids

theorem start [Arith F] {playbookId : Nat} {host : String} {source : Option String} {now : F} (rows : Rows s)
    (none : phase.held = []) : Rows (s.withStore (s.store.startRun playbookId host source now) phase) where
  apart := by
    change ((s.store.runs ++ [_]).map PlaybookRun.id).Nodup
    rw [List.map_append, List.nodup_append]
    refine ⟨rows.apart, List.nodup_singleton _, ?_⟩
    intro id member other new
    obtain ⟨r, found, rfl⟩ := List.mem_map.mp member
    rw [List.map_singleton, List.mem_singleton] at new
    rw [new]
    exact (rows.given r found).ne
  given := by
    intro r member
    change r.id < s.store.nextRun + 1
    rcases PlaybookStore.mem_runs_startRun.mp member with old | rfl
    · exact Nat.lt_succ_of_lt (rows.given r old)
    · exact Nat.lt_succ_self _
  recorded := fun e member => Nat.lt_succ_of_lt (rows.recorded e member)
  heldApart := by
    change (phase.held.map _).Nodup
    rw [none]
    exact List.nodup_nil
  heldGiven := by
    change ∀ run ∈ phase.held, _
    rw [none]
    exact nofun
  heldRunning := by
    change ∀ run ∈ phase.held, _
    rw [none]
    exact nofun
  same := by
    change ∀ run ∈ phase.held, _
    rw [none]
    exact nofun

theorem record {event : PlaybookEvent F} (rows : Rows s) (known : event.runId < s.store.nextRun)
    (held : phase.held = s.phase.held) : Rows (s.withStore (s.store.recordEvent event) phase) where
  apart := rows.apart
  given := rows.given
  recorded := by
    intro e member
    rcases List.mem_append.mp member with old | new
    · exact rows.recorded e old
    · rw [List.mem_singleton.mp new]
      exact known
  heldApart := held ▸ rows.heldApart
  heldGiven := fun run member => rows.heldGiven run (held ▸ member)
  heldRunning := fun run member => rows.heldRunning run (held ▸ member)
  same := fun run member => rows.same run (held ▸ member)

theorem advance [Arith F] {next : Option Nat} {now : F} (rows : Rows s) (held : s.phase.held = run :: runs) :
    Rows (s.withStore (s.store.advance run.id next now) (.loading w runs)) := by
  have apart := rows.heldApart
  rw [held, List.map_cons, List.nodup_cons] at apart
  have tail : ∀ other ∈ runs, other ∈ s.phase.held := by
    intro other member
    rw [held]
    exact List.mem_cons_of_mem _ member
  have nextRun := PlaybookStore.nextRun_advance s.store run.id next now
  have events : (s.store.advance run.id next now).events = s.store.events := by cases next <;> rfl
  constructor
  · change ((s.store.advance run.id next now).runs.map PlaybookRun.id).Nodup
    rw [PlaybookStore.map_id_advance]
    exact rows.apart
  · intro r member
    change r.id < (s.store.advance run.id next now).nextRun
    rw [nextRun]
    rcases PlaybookStore.mem_runs_advance.mp member with ⟨found, -⟩ | ⟨old, found, -, rfl⟩
    · exact rows.given r found
    · rw [PlaybookRun.advanced_id]
      exact rows.given old found
  · intro e member
    change e ∈ (s.store.advance run.id next now).events at member
    change e.runId < (s.store.advance run.id next now).nextRun
    rw [events] at member
    rw [nextRun]
    exact rows.recorded e member
  · exact apart.2
  · intro other member
    change other.id < (s.store.advance run.id next now).nextRun
    rw [nextRun]
    exact rows.heldGiven other (tail other member)
  · exact fun other member => rows.heldRunning other (tail other member)
  · intro other member r found ids
    rcases PlaybookStore.mem_runs_advance.mp found with ⟨found, -⟩ | ⟨old, -, same, rfl⟩
    · exact rows.same other (tail other member) r found ids
    · rw [PlaybookRun.advanced_id, same] at ids
      exact absurd (List.mem_map.mpr ⟨other, member, ids.symm⟩) apart.1

theorem request (rows : Rows s) (r : PlaybookRequest F) : Rows (s.withStore (s.store.handle r) s.phase) := by
  rcases PlaybookStore.handle_eq s.store r with ⟨id, -, made⟩ | ⟨runs, events, nextRun⟩
  · rw [made]
    refine ⟨rows.apart.sublist (List.filter_sublist.map _), ?_, ?_, rows.heldApart, rows.heldGiven,
      rows.heldRunning, ?_⟩
    · exact fun r member => rows.given r (PlaybookStore.mem_runs_deletePlaybook.mp member).1
    · exact fun e member => rows.recorded e (PlaybookStore.mem_events_deletePlaybook.mp member).1
    · exact fun run member r found => rows.same run member r (PlaybookStore.mem_runs_deletePlaybook.mp found).1
  · constructor
    · change ((s.store.handle r).runs.map _).Nodup
      rw [runs]
      exact rows.apart
    · change ∀ row ∈ (s.store.handle r).runs, row.id < (s.store.handle r).nextRun
      rw [runs, nextRun]
      exact rows.given
    · change ∀ e ∈ (s.store.handle r).events, e.runId < (s.store.handle r).nextRun
      rw [events, nextRun]
      exact rows.recorded
    · exact rows.heldApart
    · change ∀ run ∈ s.phase.held, run.id < (s.store.handle r).nextRun
      rw [nextRun]
      exact rows.heldGiven
    · exact rows.heldRunning
    · change ∀ run ∈ s.phase.held, ∀ row ∈ (s.store.handle r).runs, row.id = run.id → row = run
      rw [runs]
      exact rows.same

theorem call [Arith F] {ok : Bool} {effect : EngineEffect F} (rows : Rows s) (called : Called s ok s' effect) :
    Rows s' := by
  have let_go (phase : EnginePhase F) (none : phase.held = []) : Rows ⟨s.st, phase⟩ :=
    rows.narrow rfl (by rw [none]; exact List.nil_sublist _)
  cases called with
  | abandoned ok quiet => exact let_go _ rfl
  | collected w phase => exact rows.collect
  | checked w p pending phase => exact let_go _ rfl
  | triggered w p pending phase inactive => exact let_go _ rfl
  | started w p pending phase => exact rows.start rfl
  | unstarted w p pending phase => exact let_go _ rfl
  | ended ok w phase => exact let_go _ rfl
  | skipped w run runs phase within => exact rows.narrow rfl (by rw [phase]; exact List.sublist_cons_self _ _)
  | exhausted w run runs definition phase valid reached =>
    exact rows.narrow rfl (by rw [phase]; exact List.Sublist.refl _)
  | executed w run runs definition stage done phase valid current late kept =>
    exact rows.narrow kept (by rw [phase]; exact List.Sublist.refl _)
  | recorded w run stage count runs phase =>
    exact rows.record (rows.heldGiven run (by rw [phase]; exact List.mem_cons_self)) (by rw [phase]; rfl)
  | unrecorded w run stage count runs phase => exact rows.narrow rfl (by rw [phase]; exact List.Sublist.refl _)
  | passed w run count runs phase => exact rows.advance (by rw [phase]; rfl)
  | unpassed w run count runs phase => exact rows.narrow rfl (by rw [phase]; exact List.sublist_cons_self _ _)
  | completed w run runs phase => exact rows.advance (by rw [phase]; rfl)
  | uncompleted w run runs phase => exact rows.narrow rfl (by rw [phase]; exact List.sublist_cons_self _ _)

theorem opened [Arith F] {effect : EngineEffect F} (rows : Rows s) (taken : s.open? w = some (s', effect)) :
    Rows s' := by
  obtain ⟨-, rfl, -⟩ := opened_of_open taken
  exact rows.narrow rfl (List.nil_sublist _)

end Rows

/-- No run was ever started, and the engine is idle. -/
structure Unused (s : EngineState F) : Prop where
  idle : s.phase = .idle
  runs : s.store.runs = []
  events : s.store.events = []

theorem Unused.rows {s : EngineState F} (unused : Unused s) : Rows s := by
  have none : s.phase.held = [] := by rw [unused.idle]; rfl
  constructor
  · rw [unused.runs]
    exact List.nodup_nil
  · rw [unused.runs]
    exact nofun
  · rw [unused.events]
    exact nofun
  · rw [none]
    exact List.nodup_nil
  · rw [none]
    exact nofun
  · rw [none]
    exact nofun
  · rw [none]
    exact nofun

/-- A window of an attack, at its time. -/
def attackAt (now : ℚ) : PlaybookWindow ℚ where
  env :=
    { outside := ⟨now, [], [], [], fun _ _ => true⟩
      cfg := EnforcementConfig.default
      reported := []
      reportRaises := false
      now := now }
  host := "10.0.0.1"
  seen := ⟨1, 1, 1⟩
  source := some "192.0.2.1"

/-- One playbook that notifies at once and again after a minute, and no run yet. -/
def notifyTwice : EngineState ℚ where
  st :=
    { store :=
        { playbooks :=
            [{ id := 1
               enabled := true
               scope := .all
               definition := some (.obj
                 [("triggers", .arr [.obj [("type", .str "scale")]]),
                   ("stages", .arr [.obj [("type", .str "notify")],
                     .obj [("type", .str "notify"), ("delay_seconds", .number (.finite 60))]])]) }]
          nextPlaybook := 2 }
      firewall := Firewall.empty
      alerts := [] }
  phase := .idle

theorem notifyTwice_unused : Unused notifyTwice := ⟨rfl, rfl, rfl⟩

end Flod.Stage2
