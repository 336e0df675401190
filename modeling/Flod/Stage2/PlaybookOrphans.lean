import Flod.Stage2.PlaybookRows

/-! References between the playbook tables, which the database does not enforce. A deletion
removes the rows it finds; what the engine is about to insert for the same playbook comes after
it. -/

namespace Flod.Stage2
open Flod.Lib

variable {F : Type}

namespace PlaybookStore

def HasPlaybook (store : PlaybookStore F) (id : Nat) : Prop := ∃ p ∈ store.playbooks, p.id = id

def HasRun (store : PlaybookStore F) (id : Nat) : Prop := ∃ r ∈ store.runs, r.id = id

variable {store : PlaybookStore F} {id runId : Nat}

theorem hasPlaybook_iff : store.HasPlaybook id ↔ id ∈ store.playbooks.map Playbook.id := List.mem_map.symm

theorem hasRun_advance {next : Option Nat} {now : F} : (store.advance runId next now).HasRun id ↔ store.HasRun id := by
  have iff (other : PlaybookStore F) : other.HasRun id ↔ id ∈ other.runs.map PlaybookRun.id := List.mem_map.symm
  rw [iff, iff, map_id_advance]

theorem hasPlaybook_of_valid [Arith F] {definition : Definition F}
    (valid : store.validDefinition id = some definition) : store.HasPlaybook id := by
  cases found : store.playbooks.find? (fun p => decide (p.id = id)) with
  | none =>
    rw [validDefinition, definitionOf, found] at valid
    cases valid
  | some p => exact ⟨p, List.mem_of_find?_eq_some found, by simpa using List.find?_some found⟩

end PlaybookStore

/-- The playbooks a pass has read and may still start a run of. -/
def EnginePhase.pending : EnginePhase F → List (Playbook F)
  | .checking _ pending => pending
  | .starting _ p pending => p :: pending
  | _ => []

/-- The run whose event comes next. -/
def EnginePhase.firing : EnginePhase F → List (PlaybookRun F)
  | .recording _ run _ _ _ => [run]
  | _ => []

theorem EnginePhase.firing_subset_held (phase : EnginePhase F) : phase.firing ⊆ phase.held := by
  intro run member
  cases phase with
  | recording w own stage count runs =>
    rw [List.mem_singleton.mp member]
    exact List.mem_cons_self
  | idle => exact nomatch member
  | checking w pending => exact nomatch member
  | starting w p pending => exact nomatch member
  | loading w runs => exact nomatch member
  | advancing w own count runs => exact nomatch member
  | completing w own runs => exact nomatch member

/-- A deletion of no playbook the engine is about to insert a row for. -/
def SparesHeld (s : EngineState F) : EngineEvent F → Prop
  | .request (.delete id) =>
      (∀ p ∈ s.phase.pending, p.id ≠ id) ∧ ∀ run ∈ s.phase.firing, run.playbookId ≠ id
  | _ => True

instance (s : EngineState F) : (e : EngineEvent F) → Decidable (SparesHeld s e)
  | .request (.delete _) => inferInstanceAs (Decidable (_ ∧ _))
  | .request (.create _ _ _) | .request (.edit _ _ _ _) | .request (.toggle _ _) | .window _ | .call _ => isTrue trivial

/-- Every row refers to one that exists, and so will those the engine is about to insert. -/
structure Linked (s : EngineState F) : Prop where
  given : ∀ p ∈ s.store.playbooks, p.id < s.store.nextPlaybook
  runs : ∀ r ∈ s.store.runs, s.store.HasPlaybook r.playbookId
  events : ∀ e ∈ s.store.events, s.store.HasRun e.runId
  pending : ∀ p ∈ s.phase.pending, s.store.HasPlaybook p.id
  firing : ∀ run ∈ s.phase.firing, s.store.HasRun run.id
  heldGiven : ∀ run ∈ s.phase.held, run.playbookId < s.store.nextPlaybook
  held : ∀ run ∈ s.phase.held, s.store.HasPlaybook run.playbookId → s.store.HasRun run.id

namespace Linked

variable {s s' : EngineState F} {phase : EnginePhase F} {w : PlaybookWindow F} {run : PlaybookRun F}
  {runs : List (PlaybookRun F)}

theorem runs_given (linked : Linked s) {r : PlaybookRun F} (found : r ∈ s.store.runs) :
    r.playbookId < s.store.nextPlaybook := by
  obtain ⟨p, listed, same⟩ := linked.runs r found
  rw [← same]
  exact linked.given p listed

theorem move (linked : Linked s) (store : s'.store = s.store)
    (pending : ∀ p ∈ s'.phase.pending, s.store.HasPlaybook p.id)
    (firing : ∀ run ∈ s'.phase.firing, s.store.HasRun run.id) (held : s'.phase.held ⊆ s.phase.held) : Linked s' where
  given := store ▸ linked.given
  runs := store ▸ linked.runs
  events := store ▸ linked.events
  pending := store ▸ pending
  firing := store ▸ firing
  heldGiven := fun run member => store ▸ linked.heldGiven run (held member)
  held := fun run member => store ▸ linked.held run (held member)

theorem collect (linked : Linked s) : Linked ⟨s.st, .loading w (s.store.runs.filter PlaybookRun.running)⟩ where
  given := linked.given
  runs := linked.runs
  events := linked.events
  pending := nofun
  firing := nofun
  heldGiven := fun _ member => linked.runs_given (List.mem_of_mem_filter member)
  held := fun run member _ => ⟨run, List.mem_of_mem_filter member, rfl⟩

theorem start [Arith F] {p : Playbook F} {pending : List (Playbook F)} (linked : Linked s)
    (phase : s.phase = .starting w p pending) :
    Linked (s.withStore (s.store.startRun p.id w.host w.source w.env.now) (.checking w pending)) where
  given := linked.given
  runs := by
    intro r member
    rcases PlaybookStore.mem_runs_startRun.mp member with old | rfl
    · exact linked.runs r old
    · exact linked.pending p (by rw [phase]; exact List.mem_cons_self)
  events := by
    intro e member
    obtain ⟨r, found, same⟩ := linked.events e member
    exact ⟨r, List.mem_append_left _ found, same⟩
  pending := fun q member => linked.pending q (by rw [phase]; exact List.mem_cons_of_mem _ member)
  firing := nofun
  heldGiven := nofun
  held := nofun

theorem record [Arith F] {stage : Fields F} {count : Nat} (linked : Linked s)
    (phase : s.phase = .recording w run stage count runs) :
    Linked (s.withStore (s.store.recordEvent (EngineState.firedEvent w run stage)) (.advancing w run count runs)) where
  given := linked.given
  runs := linked.runs
  events := by
    intro e member
    rcases List.mem_append.mp member with old | new
    · exact linked.events e old
    · rw [List.mem_singleton.mp new]
      exact linked.firing run (by rw [phase]; exact List.mem_singleton_self _)
  pending := nofun
  firing := nofun
  heldGiven := fun other member => linked.heldGiven other (by rw [phase]; exact member)
  held := fun other member => linked.held other (by rw [phase]; exact member)

theorem advance [Arith F] {next : Option Nat} {now : F} (linked : Linked s) (held : s.phase.held = run :: runs) :
    Linked (s.withStore (s.store.advance run.id next now) (.loading w runs)) := by
  have tail : ∀ other ∈ runs, other ∈ s.phase.held := by
    intro other member
    rw [held]
    exact List.mem_cons_of_mem _ member
  have playbooks := PlaybookStore.playbooks_advance s.store run.id next now
  have nextPlaybook := PlaybookStore.nextPlaybook_advance s.store run.id next now
  have events := PlaybookStore.events_advance s.store run.id next now
  have hasPlaybook (id : Nat) : (s.store.advance run.id next now).HasPlaybook id ↔ s.store.HasPlaybook id := by
    rw [PlaybookStore.HasPlaybook, playbooks]
    rfl
  constructor
  · change ∀ p ∈ (s.store.advance run.id next now).playbooks, p.id < (s.store.advance run.id next now).nextPlaybook
    rw [playbooks, nextPlaybook]
    exact linked.given
  · intro r member
    refine (hasPlaybook _).mpr ?_
    rcases PlaybookStore.mem_runs_advance.mp member with ⟨found, -⟩ | ⟨old, found, -, rfl⟩
    · exact linked.runs r found
    · rw [PlaybookRun.advanced_playbookId]
      exact linked.runs old found
  · intro e member
    change e ∈ (s.store.advance run.id next now).events at member
    rw [events] at member
    exact PlaybookStore.hasRun_advance.mpr (linked.events e member)
  · exact nofun
  · exact nofun
  · intro other member
    change other.playbookId < (s.store.advance run.id next now).nextPlaybook
    rw [nextPlaybook]
    exact linked.heldGiven other (tail other member)
  · intro other member listed
    exact PlaybookStore.hasRun_advance.mpr (linked.held other (tail other member) ((hasPlaybook _).mp listed))

theorem delete {id : Nat} (linked : Linked s) (rows : Rows s) (spares : SparesHeld s (.request (.delete id))) :
    Linked (s.withStore (s.store.deletePlaybook id) s.phase) := by
  have listed {other : Nat} (differs : other ≠ id) (before : s.store.HasPlaybook other) :
      (s.store.deletePlaybook id).HasPlaybook other := by
    obtain ⟨p, found, same⟩ := before
    exact ⟨p, List.mem_filter.mpr ⟨found, decide_eq_true (same ▸ differs)⟩, same⟩
  -- what the engine holds of a run is what is stored of it, so it was deleted with its playbook
  have kept {run : PlaybookRun F} (member : run ∈ s.phase.held) (differs : run.playbookId ≠ id)
      (before : s.store.HasRun run.id) : (s.store.deletePlaybook id).HasRun run.id := by
    obtain ⟨r, found, same⟩ := before
    refine ⟨r, PlaybookStore.mem_runs_deletePlaybook.mpr ⟨found, ?_⟩, same⟩
    rw [rows.same run member r found same]
    exact differs
  constructor
  · exact fun p member => linked.given p (List.mem_of_mem_filter member)
  · intro r member
    obtain ⟨found, differs⟩ := PlaybookStore.mem_runs_deletePlaybook.mp member
    exact listed differs (linked.runs r found)
  · intro e member
    obtain ⟨found, unrelated⟩ := PlaybookStore.mem_events_deletePlaybook.mp member
    obtain ⟨r, stored, same⟩ := linked.events e found
    exact ⟨r, PlaybookStore.mem_runs_deletePlaybook.mpr ⟨stored, fun of => unrelated r stored of same⟩, same⟩
  · exact fun p member => listed (spares.1 p member) (linked.pending p member)
  · intro run member
    exact kept (EnginePhase.firing_subset_held _ member) (spares.2 run member) (linked.firing run member)
  · exact linked.heldGiven
  · intro run member stays
    obtain ⟨p, found, same⟩ := stays
    obtain ⟨before, differs⟩ := List.mem_filter.mp found
    exact kept member (same ▸ of_decide_eq_true differs) (linked.held run member ⟨p, before, same⟩)

theorem create {enabled : Bool} {scope : Scope} {definition : Option (Json F)} (linked : Linked s) :
    Linked (s.withStore (s.store.createPlaybook enabled scope definition) s.phase) := by
  have listed {id : Nat} (before : s.store.HasPlaybook id) :
      (s.store.createPlaybook enabled scope definition).HasPlaybook id := by
    obtain ⟨p, found, same⟩ := before
    exact ⟨p, List.mem_append_left _ found, same⟩
  constructor
  · intro p member
    change p.id < s.store.nextPlaybook + 1
    rcases List.mem_append.mp member with old | new
    · exact Nat.lt_succ_of_lt (linked.given p old)
    · rw [List.mem_singleton.mp new]
      exact Nat.lt_succ_self _
  · exact fun r member => listed (linked.runs r member)
  · exact linked.events
  · exact fun p member => listed (linked.pending p member)
  · exact linked.firing
  · exact fun run member => Nat.lt_succ_of_lt (linked.heldGiven run member)
  · rintro run member ⟨p, found, same⟩
    rcases List.mem_append.mp found with old | new
    · exact linked.held run member ⟨p, old, same⟩
    · rw [List.mem_singleton.mp new] at same
      exact absurd same (linked.heldGiven run member).ne'

theorem edit {id : Nat} {change : Playbook F → Playbook F} (linked : Linked s) (same : ∀ p, (change p).id = p.id) :
    Linked (s.withStore (s.store.updatePlaybook id change) s.phase) := by
  have ids := PlaybookStore.map_id_updatePlaybook s.store id same
  have listed (other : Nat) : (s.store.updatePlaybook id change).HasPlaybook other ↔ s.store.HasPlaybook other := by
    rw [PlaybookStore.hasPlaybook_iff, PlaybookStore.hasPlaybook_iff, ids]
  constructor
  · intro p member
    have among : p.id ∈ s.store.playbooks.map Playbook.id := ids ▸ List.mem_map_of_mem member
    obtain ⟨old, found, idSame⟩ := List.mem_map.mp among
    rw [← idSame]
    exact linked.given old found
  · exact fun r member => (listed _).mpr (linked.runs r member)
  · exact linked.events
  · exact fun p member => (listed _).mpr (linked.pending p member)
  · exact linked.firing
  · exact linked.heldGiven
  · exact fun run member stays => linked.held run member ((listed _).mp stays)

theorem request {r : PlaybookRequest F} (linked : Linked s) (rows : Rows s) (spares : SparesHeld s (.request r)) :
    Linked (s.withStore (s.store.handle r) s.phase) := by
  cases r with
  | create enabled scope definition => exact linked.create
  | edit id enabled scope definition => exact linked.edit fun _ => rfl
  | toggle id enabled => exact linked.edit fun _ => rfl
  | delete id => exact linked.delete rows spares

theorem call [Arith F] {ok : Bool} {effect : EngineEffect F} (linked : Linked s) (called : Called s ok s' effect) :
    Linked s' := by
  have let_go (phase : EnginePhase F) (pending : phase.pending ⊆ s.phase.pending) (firing : phase.firing = [])
      (held : phase.held ⊆ s.phase.held) : Linked ⟨s.st, phase⟩ :=
    linked.move rfl (fun p member => linked.pending p (pending member)) (by rw [firing]; exact nofun) held
  cases called with
  | abandoned ok quiet => exact let_go _ nofun rfl nofun
  | collected w phase => exact linked.collect
  | checked w p pending phase =>
    exact let_go _ (by rw [phase]; exact List.subset_cons_self _ _) rfl nofun
  | triggered w p pending phase inactive =>
    exact let_go _ (by rw [phase]; exact List.Subset.refl _) rfl nofun
  | started w p pending phase => exact linked.start phase
  | unstarted w p pending phase => exact let_go _ (by rw [phase]; exact List.subset_cons_self _ _) rfl nofun
  | ended ok w phase => exact let_go _ nofun rfl nofun
  | skipped w run runs phase within => exact let_go _ nofun rfl (by rw [phase]; exact List.subset_cons_self _ _)
  | exhausted w run runs definition phase valid reached =>
    exact let_go _ nofun rfl (by rw [phase]; exact List.Subset.refl _)
  | executed w run runs definition stage done phase valid current late kept =>
    refine linked.move kept nofun (fun own member => ?_) (by rw [phase]; exact List.Subset.refl _)
    -- the definition was found, so the playbook is there and its run with it
    rw [List.mem_singleton.mp member]
    exact linked.held run (by rw [phase]; exact List.mem_cons_self) (PlaybookStore.hasPlaybook_of_valid valid)
  | recorded w run stage count runs phase => exact linked.record phase
  | unrecorded w run stage count runs phase => exact let_go _ nofun rfl (by rw [phase]; exact List.Subset.refl _)
  | passed w run count runs phase => exact linked.advance (by rw [phase]; rfl)
  | unpassed w run count runs phase => exact let_go _ nofun rfl (by rw [phase]; exact List.subset_cons_self _ _)
  | completed w run runs phase => exact linked.advance (by rw [phase]; rfl)
  | uncompleted w run runs phase => exact let_go _ nofun rfl (by rw [phase]; exact List.subset_cons_self _ _)

theorem opened [Arith F] {effect : EngineEffect F} (linked : Linked s) (taken : s.open? w = some (s', effect)) :
    Linked s' := by
  obtain ⟨-, rfl, -⟩ := opened_of_open taken
  exact linked.move rfl (fun p member => ⟨p, List.mem_of_mem_filter member, rfl⟩) nofun nofun

end Linked

theorem linked_step [Arith F] {s s' : EngineState F} {e : EngineEvent F} {effect : EngineEffect F}
    (taken : s.step e = some (s', effect)) (spares : SparesHeld s e) (before : Rows s ∧ Linked s) :
    Rows s' ∧ Linked s' := by
  obtain ⟨rows, linked⟩ := before
  cases e with
  | window w => exact ⟨rows.opened taken, linked.opened taken⟩
  | call ok =>
    have called := called_of_call taken
    exact ⟨rows.call called, linked.call called⟩
  | request r =>
    cases taken
    exact ⟨rows.request r, linked.request rows spares⟩

/-- For every interleaving of the engine's calls with requests in which no playbook is deleted
that the engine is about to insert a row for: every run refers to a playbook that exists and
every event to a run that exists. -/
theorem references_exist [Arith F] (start final : EngineState F) (events : List (EngineEvent F))
    (past : List (EngineEffect F)) (unused : Unused start)
    (given : ∀ p ∈ start.store.playbooks, p.id < start.store.nextPlaybook)
    (spares : Always EngineState.step (fun s e _ _ => SparesHeld s e) start events)
    (ran : run EngineState.step start events = some (final, past)) :
    (∀ r ∈ final.store.runs, ∃ p ∈ final.store.playbooks, p.id = r.playbookId) ∧
      ∀ e ∈ final.store.events, ∃ r ∈ final.store.runs, r.id = e.runId := by
  have none : start.phase.pending = [] ∧ start.phase.firing = [] ∧ start.phase.held = [] := by
    rw [unused.idle]
    exact ⟨rfl, rfl, rfl⟩
  have opened : Linked start := by
    refine ⟨given, ?_, ?_, ?_, ?_, ?_, ?_⟩
    · rw [unused.runs]
      exact nofun
    · rw [unused.events]
      exact nofun
    · rw [none.1]
      exact nofun
    · rw [none.2.1]
      exact nofun
    · rw [none.2.2]
      exact nofun
    · rw [none.2.2]
      exact nofun
  have both := run_history_of_always (I := fun _ s => Rows s ∧ Linked s)
    (fun _ s e mid effect before taken meets => linked_step taken meets before) events [] start final past
    ⟨unused.rows, opened⟩ spares ran
  exact ⟨both.2.runs, both.2.events⟩

/-- A playbook that notifies at once when any host is under attack. -/
def notifyAtOnce : Playbook ℚ where
  id := 1
  enabled := true
  scope := .all
  definition := some (.obj
    [("triggers", .arr [.obj [("type", .str "scale")]]), ("stages", .arr [.obj [("type", .str "notify")]])])

def onePlaybook : EngineState ℚ where
  st :=
    { store := { playbooks := [notifyAtOnce], nextPlaybook := 2 }
      firewall := Firewall.empty
      alerts := [] }
  phase := .idle

theorem onePlaybook_unused : Unused onePlaybook := ⟨rfl, rfl, rfl⟩

/-- Whether the engine is idle, the playbooks there are, the runs with what they refer to, and what the
events refer to. -/
def references (s : EngineState ℚ) : Bool × List Nat × List (Nat × Nat) × List Nat :=
  (s.phase.isIdle, s.store.playbooks.map Playbook.id, s.store.runs.map (fun r => (r.id, r.playbookId)),
    s.store.events.map PlaybookEvent.runId)

/-- The run is started, notifies and completes, and then the playbook is switched off. -/
def passThenToggle : List (EngineEvent ℚ) :=
  .window (attackAt 10) :: List.replicate 7 (.call true) ++ [.request (.toggle 1 false)]

theorem passThenToggle_linked :
    ∃ final past, run EngineState.step onePlaybook passThenToggle = some (final, past) ∧
      references final = (true, [1], [(1, 1)], [1]) ∧
      (∀ r ∈ final.store.runs, ∃ p ∈ final.store.playbooks, p.id = r.playbookId) ∧
      ∀ e ∈ final.store.events, ∃ r ∈ final.store.runs, r.id = e.runId := by
  have shown : (run EngineState.step onePlaybook passThenToggle).map (fun result => references result.1) =
      some (true, [1], [(1, 1)], [1]) := by decide +kernel
  obtain ⟨⟨final, past⟩, ran, refers⟩ := Option.map_eq_some_iff.mp shown
  exact ⟨final, past, ran, refers,
    references_exist onePlaybook final passThenToggle past onePlaybook_unused (by decide) (by decide +kernel) ran⟩

/-- The playbook is deleted between the check of its trigger and the insertion of its run. -/
def deletedBeforeStart : List (EngineEvent ℚ) :=
  [.window (attackAt 10), .call true, .request (.delete 1), .call true, .call true, .call true, .call true]

/-- The playbook is deleted between the action of a stage and the record of its event. -/
def deletedBeforeRecord : List (EngineEvent ℚ) :=
  .window (attackAt 10) :: List.replicate 4 (.call true) ++ .request (.delete 1) :: List.replicate 3 (.call true)

/-- Both passes come to their end. One leaves a run without a playbook, the other an event
without a run. -/
theorem deletion_leaves_orphans :
    (run EngineState.step onePlaybook deletedBeforeStart).map (fun result => references result.1) =
        some (true, [], [(1, 1)], []) ∧
      (run EngineState.step onePlaybook deletedBeforeRecord).map (fun result => references result.1) =
        some (true, [], [], [1]) := by
  constructor
  · decide +kernel
  · decide +kernel

end Flod.Stage2
