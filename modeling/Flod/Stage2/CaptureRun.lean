import Flod.Stage2.CaptureFile

/-! What becomes of captured rows: over a trimming run or a labelling run among appends, and
over a labelling run whose file operations fail. -/

namespace Flod.Stage2
open Flod.Lib Flod.Lib.Csv

/-- The rows stand in the text in this order, whatever stands between them. -/
def HoldsInOrder : Text → List Row → Prop
  | _, [] => True
  | text, row :: rest => ∃ before after, text = before ++ encodeRow row ++ after ∧ HoldsInOrder after rest

theorem HoldsInOrder.append {text : Text} {rows : List Row} (holds : HoldsInOrder text rows) (more : Text) :
    HoldsInOrder (text ++ more) rows := by
  induction rows generalizing text with
  | nil => trivial
  | cons row rest ih =>
    obtain ⟨before, after, rfl, later⟩ := holds
    exact ⟨before, after ++ more, by simp, ih later⟩

theorem holdsInOrder_write (rows : List Row) (text : Text) : HoldsInOrder (text ++ write rows) rows := by
  induction rows generalizing text with
  | nil => trivial
  | cons row rest ih => exact ⟨text, write rest, by simp [write], ih []⟩

theorem HoldsInOrder.append_write {text : Text} {rows : List Row} (holds : HoldsInOrder text rows)
    (added : List Row) : HoldsInOrder (text ++ write added) (rows ++ added) := by
  induction rows generalizing text with
  | nil => exact holdsInOrder_write added text
  | cons row rest ih =>
    obtain ⟨before, after, rfl, later⟩ := holds
    exact ⟨before, after ++ write added, by simp, ih later⟩

section Append

variable (cfg : CaptureConfig) (header : Row) (s : CaptureFiles) (row : Row) (outcome : AppendOutcome)

theorem appendText_eq : appendText cfg header s row =
    (if s.capture.isNone then encodeRow header else []) ++ write (queued cfg s row) := by
  cases missing : s.capture.isNone <;> simp [appendText, missing, write]

/-- An append only lengthens the file: by a header at most, the rows it puts there, and what
an error cuts off. -/
theorem appendCsvRow_capture : ∃ start part,
    (appendCsvRow cfg header s row outcome).capture.getD [] =
      s.capture.getD [] ++ start ++ write (appendedRows cfg s row outcome) ++ part := by
  cases outcome with
  | locked => exact ⟨[], [], by simp [appendCsvRow, appendedRows, write]⟩
  | written =>
    cases room : hasRoom cfg s with
    | false => exact ⟨[], [], by simp [appendCsvRow, appendedRows, room, write]⟩
    | true =>
      refine ⟨if s.capture.isNone then encodeRow header else [], [], ?_⟩
      simp only [appendCsvRow, appendedRows, room, if_true, Option.getD_some, appendText_eq]
      simp
  | failed part =>
    cases room : hasRoom cfg s with
    | false => exact ⟨[], [], by simp [appendCsvRow, appendedRows, room, write]⟩
    | true =>
      by_cases none : part = 0
      · exact ⟨[], [], by simp [appendCsvRow, appendedRows, room, none, write]⟩
      · exact ⟨[], (appendText cfg header s row).take part, by simp [appendCsvRow, appendedRows, room, none, write]⟩

theorem HoldsInOrder.appendCsvRow {rows : List Row} (holds : HoldsInOrder (s.capture.getD []) rows) :
    HoldsInOrder ((appendCsvRow cfg header s row outcome).capture.getD [])
      (rows ++ appendedRows cfg s row outcome) := by
  obtain ⟨start, part, longer⟩ := appendCsvRow_capture cfg header s row outcome
  rw [longer]
  exact ((holds.append start).append_write _).append part

/-- Without an error it leaves whole records, with the rows it puts there the last of them. -/
theorem appendCsvRow_records (closed : Closed (s.capture.getD [])) (sound : outcome.sound = true) :
    Closed ((appendCsvRow cfg header s row outcome).capture.getD []) ∧
      ∃ start, read ((appendCsvRow cfg header s row outcome).capture.getD []) =
        read (s.capture.getD []) ++ (start ++ appendedRows cfg s row outcome) := by
  cases outcome with
  | failed part => cases sound
  | locked => exact ⟨closed, [], by simp [appendCsvRow, appendedRows]⟩
  | written =>
    cases room : hasRoom cfg s with
    | false => exact ⟨by simpa [appendCsvRow, room] using closed, [], by simp [appendCsvRow, appendedRows, room]⟩
    | true =>
      simp only [appendCsvRow, appendedRows, room, if_true, Option.getD_some, appendText]
      refine ⟨closed.append (closed_write _), if s.capture.isNone then [header] else [], ?_⟩
      rw [read_append closed, read_write]
      cases s.capture <;> rfl

end Append

section Trim

variable {F : Type} [Arith F] {cfg : CaptureConfig} {header : Row} {P : Type} {job : Job P}

theorem appendedSince_concat (past : List CaptureEffect) (last : CaptureEffect) :
    appendedSince (past ++ [last]) =
      if past.any CaptureEffect.jobRead then appendedSince past ++ last.appended
      else if last.jobRead then last.appended else [] := by
  unfold appendedSince
  induction past with
  | nil => cases read : last.jobRead <;> simp [read]
  | cons first rest ih =>
    cases read : first.jobRead with
    | true => simp [read]
    | false => simp [read, ih]

/-- No write of the event stops with an error. -/
def CaptureEvent.sound : CaptureEvent → Bool
  | .append _ outcome => outcome.sound
  | .job => true

/-- The rows put in the file since the job's read are there, and there are none while the
job holds its replacement. If all is clean, they are among the records of the file. -/
structure TrimState (clean : Prop) (past : List CaptureEffect) (s : Scene P) : Prop where
  unread : s.phase = .waiting → past.any CaptureEffect.jobRead = false
  hasRead : s.phase ≠ .waiting → past.any CaptureEffect.jobRead = true
  quiet : ∀ plan, s.phase = .holding plan → appendedSince past = []
  holds : HoldsInOrder (s.files.capture.getD []) (appendedSince past)
  records : clean → Closed (s.files.capture.getD []) ∧
    (appendedSince past).Sublist (read (s.files.capture.getD []))

variable {clean : Prop}

theorem trimState_append {past : List CaptureEffect} {s : Scene P} (state : TrimState clean past s)
    (row : Row) (outcome : AppendOutcome) (apart : ¬ Overlaps cfg s (.append row outcome))
    (sound : clean → outcome.sound = true) :
    TrimState clean (past ++ [⟨some row, appendedRows cfg s.files row outcome, false⟩])
      { s with files := appendCsvRow cfg header s.files row outcome } := by
  have since := appendedSince_concat past ⟨some row, appendedRows cfg s.files row outcome, false⟩
  refine ⟨?_, ?_, ?_, ?_, ?_⟩
  · intro waiting
    simpa using state.unread waiting
  · intro moved
    simp [state.hasRead moved]
  · intro plan holding
    have none : appendedRows cfg s.files row outcome = [] := by
      by_contra some
      exact apart ⟨⟨plan, holding⟩, some⟩
    rw [since, state.quiet plan holding, none]
    simp
  · rw [since]
    cases read : past.any CaptureEffect.jobRead with
    | false => trivial
    | true => exact state.holds.appendCsvRow cfg header s.files row outcome
  · intro ok
    obtain ⟨closed, among⟩ := state.records ok
    obtain ⟨closed', start, records⟩ := appendCsvRow_records cfg header s.files row outcome closed (sound ok)
    refine ⟨closed', ?_⟩
    rw [since, records]
    cases read : past.any CaptureEffect.jobRead with
    | false => exact List.nil_sublist _
    | true => exact among.append (List.sublist_append_right start _)

theorem trimState_step {past : List CaptureEffect} {s mid : Scene P} {e : CaptureEvent} {o : CaptureEffect}
    (closes : ∀ plan files, Closed ((job.swap plan files).capture.getD [])) (state : TrimState clean past s)
    (taken : job.step cfg header s e = some (mid, o)) (apart : ¬ Overlaps cfg s e)
    (sound : clean → e.sound = true) : TrimState clean (past ++ [o]) mid := by
  cases e with
  | append row outcome =>
    simp only [Job.step, Option.some.injEq, Prod.mk.injEq] at taken
    obtain ⟨rfl, rfl⟩ := taken
    exact trimState_append state row outcome apart sound
  | job =>
    cases phase : s.phase with
    | waiting =>
      have fresh : appendedSince (past ++ [⟨none, [], true⟩]) = [] := by
        simp [appendedSince_concat, state.unread phase]
      have read : (past ++ [(⟨none, [], true⟩ : CaptureEffect)]).any CaptureEffect.jobRead = true := by simp
      have none : clean → Closed (s.files.capture.getD []) ∧
          (appendedSince (past ++ [⟨none, [], true⟩])).Sublist (Csv.read (s.files.capture.getD [])) :=
        fun ok => ⟨(state.records ok).1, by rw [fresh]; exact List.nil_sublist _⟩
      simp only [Job.step, phase] at taken
      split at taken <;> cases taken
      · exact ⟨nofun, fun _ => read, fun _ _ => fresh, by rw [fresh]; trivial, none⟩
      · exact ⟨nofun, fun _ => read, fun _ _ => fresh, by rw [fresh]; trivial, none⟩
    | holding plan =>
      have read := state.hasRead (by simp [phase])
      have fresh : appendedSince (past ++ [⟨none, [], false⟩]) = [] := by
        simp [appendedSince_concat, read, state.quiet plan phase]
      simp only [Job.step, phase] at taken
      cases taken
      exact ⟨nofun, fun _ => by simp [read], fun _ _ => fresh, by rw [fresh]; trivial,
        fun _ => ⟨closes plan s.files, by rw [fresh]; exact List.nil_sublist _⟩⟩
    | finished =>
      have read := state.hasRead (by simp [phase])
      have since : appendedSince (past ++ [⟨none, [], false⟩]) = appendedSince past := by
        simp [appendedSince_concat, read]
      simp only [Job.step, phase] at taken
      cases taken
      refine ⟨fun waiting => by simp [phase] at waiting, fun _ => by simp [read], ?_, ?_, ?_⟩
      · intro plan holding
        simp [phase] at holding
      · rw [since]
        exact state.holds
      · rw [since]
        exact state.records

/-- Where no row is put in the file between the trim's read of a file over the bound and its
replacement, every row put there since the read is still there, in order; and if the file is of
whole records and no write stops with an error, as one of the records read from it. -/
theorem trim_keeps_appended (cfg : CaptureConfig) (header : Row) (float : Field → Option (PyFloat F))
    (files : CaptureFiles) (es : List CaptureEvent) (final : Scene (Row × List Row))
    (effects : List CaptureEffect)
    (apart : Always ((trimJob cfg float).step cfg header) (fun s e _ _ => ¬ Overlaps cfg s e)
      ⟨files, .waiting⟩ es)
    (ran : run ((trimJob cfg float).step cfg header) ⟨files, .waiting⟩ es = some (final, effects)) :
    HoldsInOrder (final.files.capture.getD []) (appendedSince effects) ∧
      (Closed (files.capture.getD []) → (∀ e ∈ es, e.sound = true) →
        (appendedSince effects).Sublist (read (final.files.capture.getD []))) := by
  have start : TrimState (Closed (files.capture.getD []) ∧ ∀ e ∈ es, e.sound = true) []
      (⟨files, .waiting⟩ : Scene (Row × List Row)) :=
    ⟨fun _ => rfl, fun moved => absurd rfl moved, nofun, trivial, fun ok => ⟨ok.1, List.nil_sublist _⟩⟩
  have closes : ∀ plan files, Closed (((trimJob cfg float).swap plan files).capture.getD []) :=
    fun plan _ => closed_write (plan.1 :: plan.2)
  have state := run_history_of_always (fun past s e mid o state taken met =>
    trimState_step closes state taken met.2 fun ok => ok.2 e met.1)
    es [] _ final effects start (apart.and_events fun e member => member) ran
  exact ⟨state.holds, fun closed sound => (state.records ⟨closed, sound⟩).2⟩

/-- A file of two rows under a bound of one. -/
def overBound : CaptureFiles := ⟨some (write [[['h']], [['1']], [['2']]]), none, []⟩

def trimOverBound : Scene (Row × List Row) → CaptureEvent → Option (Scene (Row × List Row) × CaptureEffect) :=
  (trimJob { autoLabelMaxQueueRows := 1 } (fun _ => none : Field → Option (PyFloat ℚ))).step
    { autoLabelMaxQueueRows := 1 } [['h']]

theorem trim_then_append : ∃ final effects,
    run trimOverBound ⟨overBound, .waiting⟩ [.job, .job, .append [['3']] .written] = some (final, effects) ∧
    appendedSince effects = [[['3']]] ∧ HoldsInOrder (final.files.capture.getD []) (appendedSince effects) ∧
    (appendedSince effects).Sublist (read (final.files.capture.getD [])) := by
  have kept := trim_keeps_appended { autoLabelMaxQueueRows := 1 } [['h']]
    (fun _ => none : Field → Option (PyFloat ℚ)) overBound [.job, .job, .append [['3']] .written] _ _ ?_ rfl
  · exact ⟨_, _, rfl, rfl, kept.1, kept.2 (closed_write _) (by decide)⟩
  intro mid o taken
  refine ⟨nofun, ?_⟩
  cases taken
  intro mid o taken
  refine ⟨nofun, ?_⟩
  cases taken
  intro mid o taken
  refine ⟨?_, trivial⟩
  rintro ⟨⟨plan, holding⟩, -⟩
  cases holding

/-- The receiver gets the lock between the trim's read and its replacement, and its row is
gone. -/
theorem append_then_trimmed_away : ∃ final effects,
    run trimOverBound ⟨overBound, .waiting⟩ [.job, .append [['3']] .written, .job] = some (final, effects) ∧
    appendedSince effects = [[['3']]] ∧ final.files.capture = some (write [[['h']], [['2']]]) ∧
    ¬ HoldsInOrder (final.files.capture.getD []) (appendedSince effects) ∧
    [['3']] ∉ read (final.files.capture.getD []) := by
  refine ⟨_, _, rfl, rfl, rfl, ?_, by decide⟩
  rintro ⟨before, after, same, -⟩
  have inside : encodeRow [['3']] <:+: write [[['h']], [['2']]] := ⟨before, after, same.symm⟩
  exact absurd inside (by decide)

end Trim

/-- The rows of a capture file below its header. -/
def captureRows (capture : Option Text) : List Row := (capture.map read).getD [] |>.tail

/-- The header of a capture file, or the one a new file gets. -/
def captureHeader (capture : Option Text) (header : Row) : Row := ((capture.map read).getD []).headD header

/-- The file is missing, or is made of whole records of which the first is its header. -/
def Complete (capture : Option Text) : Prop :=
  ∀ text, capture = some text → Closed text ∧ read text ≠ []

section Staging

/-- The labelled rows whose append succeeds. -/
def stagedRows (stages : Nat → Bool) : List Row → List Row
  | [] => []
  | row :: rest => (if stages 0 then [row] else []) ++ stagedRows (fun i => stages (i + 1)) rest

theorem stageRows_eq (stages : Nat → Bool) (staging : Option Text) (rows : List Row) :
    stageRows stages staging rows = (stagedRows stages rows).foldl appendLabeledRow staging := by
  induction rows generalizing stages staging with
  | nil => rfl
  | cons row rest ih =>
    rw [stageRows, ih, stagedRows]
    cases stages 0 <;> simp

theorem stagedRows_all {stages : Nat → Bool} {rows : List Row} (all : ∀ i < rows.length, stages i = true) :
    stagedRows stages rows = rows := by
  induction rows generalizing stages with
  | nil => rfl
  | cons row rest ih =>
    have first := all 0 (Nat.succ_pos _)
    have later := ih (fun i inside => all (i + 1) (Nat.succ_lt_succ inside))
    simp [stagedRows, first, later]

end Staging

section Plan

variable {F : Type} [Arith F] {cfg : CaptureConfig} {job : Labelling F} {text : Text} {plan : LabelPlan}

/-- What the bounded read passes on is within the bound, so the trim that follows drops nothing. -/
theorem trimCsvRows_drop (float : Field → Option (PyFloat F)) (rows : List Row) (bound : Nat) :
    trimCsvRows float (rows.drop (rows.length - bound)) bound = (rows.drop (rows.length - bound), 0) := by
  rw [trimCsvRows, if_pos]
  rw [List.length_drop]
  omega

/-- A plan is what scoring made of the last rows of the file, as many as the bound allows. -/
theorem planLabels_cases (planned : planLabels cfg job (some text) = some plan) :
    ∃ header rows scored, read text = header :: rows ∧
      scoreRows job header (rows.drop (rows.length - cfg.autoLabelMaxQueueRows)) = some scored ∧
      plan = ⟨text.length, header, scored.kept, scored.labeled⟩ := by
  cases records : read text with
  | nil => simp [planLabels, readRows, records] at planned
  | cons header rows =>
    simp only [planLabels, readRows, records, trimCsvRows_drop, Option.bind_eq_bind, Option.bind_some] at planned
    cases scored : scoreRows job header (rows.drop (rows.length - cfg.autoLabelMaxQueueRows)) with
    | none => simp [scored] at planned
    | some result =>
      rw [scored, Option.bind_some] at planned
      split at planned
      · cases planned
      · cases planned
        exact ⟨header, rows, result, rfl, scored, rfl⟩

/-- Within the row bound nothing is cut off: a plan is what scoring made of all the rows. -/
theorem planLabels_some (within : (captureRows (some text)).length ≤ cfg.autoLabelMaxQueueRows)
    (planned : planLabels cfg job (some text) = some plan) :
    ∃ header rows scored, read text = header :: rows ∧ scoreRows job header rows = some scored ∧
      plan = ⟨text.length, header, scored.kept, scored.labeled⟩ := by
  obtain ⟨header, rows, scored, records, split, made⟩ := planLabels_cases planned
  have whole : rows.length - cfg.autoLabelMaxQueueRows = 0 := by
    have few : rows.length ≤ cfg.autoLabelMaxQueueRows := by simpa [captureRows, records] using within
    omega
  rw [whole, List.drop_zero] at split
  exact ⟨header, rows, scored, records, split, made⟩

end Plan

section Label

variable {F : Type} [Arith F] {cfg : CaptureConfig} {header h : Row} {labelling : Labelling F}
  {total : List Row} {staging : Option Text}

/-- A file of whole records under a header, or none yet and that header the one to come. -/
structure Headed (header h : Row) (capture : Option Text) : Prop where
  missing : capture = none → h = header
  closed : ∀ text, capture = some text → Closed text ∧ read text = h :: captureRows capture

theorem headed_start {capture : Option Text} (complete : Complete capture) :
    Headed header (captureHeader capture header) capture := by
  constructor
  · rintro rfl
    rfl
  · rintro text rfl
    obtain ⟨closed, some⟩ := complete text rfl
    refine ⟨closed, ?_⟩
    cases records : read text with
    | nil => exact absurd records some
    | cons first rest => simp [captureHeader, captureRows, records]

/-- The rows of the right width that are accounted for: in the file, taken out with a label,
or waiting for the lock. -/
structure Tallied (h : Row) (total : List Row) (staging : Option Text) (s : CaptureFiles)
    (picked : List (Row × Nat)) : Prop where
  rows : (total.filter (rightWidth h)).Perm ((captureRows s.capture).filter (rightWidth h) ++
    picked.map Prod.fst ++ s.pending.filter (rightWidth h))
  staged : s.staging = (picked.map (fun x => labeledRow x.1 x.2)).foldl appendLabeledRow staging

/-- The plan was made from a beginning of the file that still stands. -/
structure PlanFits (h : Row) (plan : LabelPlan) (capture : Option Text) (picked : List (Row × Nat)) :
    Prop where
  before : ∃ first more rows, capture = some (first ++ more) ∧ Closed first ∧
    plan.snapshotSize = first.length ∧ read first = h :: rows ∧
    (rows.filter (rightWidth h)).Perm (plan.kept ++ picked.map Prod.fst)
  header : plan.header = h
  labeled : plan.labeled = picked.map (fun x => labeledRow x.1 x.2)
  kept : ∀ row ∈ plan.kept, rightWidth h row = true

/-- The appends and the job so far have lost nothing and doubled nothing. -/
structure LabelState (header h : Row) (total : List Row) (staging : Option Text) (s : Scene LabelPlan) :
    Prop where
  headed : Headed header h s.files.capture
  tallied : ∃ picked, Tallied h total staging s.files picked ∧ (s.phase ≠ .finished → picked = [])
  planned : ∀ plan, s.phase = .holding plan → ∃ picked, PlanFits h plan s.files.capture picked

/-- None of the limits is met and no write fails. -/
def WithinCaps (cfg : CaptureConfig) (s : Scene LabelPlan) : CaptureEvent → Prop
  | .append _ outcome => s.files.pending.length < cfg.capturePendingMaxRows ∧
      (outcome = .written → hasRoom cfg s.files = true) ∧ outcome.sound = true
  | .job => s.phase.isWaiting = true → (captureRows s.files.capture).length ≤ cfg.autoLabelMaxQueueRows

instance (cfg : CaptureConfig) (s : Scene LabelPlan) (e : CaptureEvent) : Decidable (WithinCaps cfg s e) :=
  match e with
  | .append _ outcome => inferInstanceAs (Decidable (s.files.pending.length < cfg.capturePendingMaxRows ∧
      (outcome = .written → hasRoom cfg s.files = true) ∧ outcome.sound = true))
  | .job => inferInstanceAs (Decidable (s.phase.isWaiting = true →
      (captureRows s.files.capture).length ≤ cfg.autoLabelMaxQueueRows))

omit [Arith F] in
theorem queued_of_short {s : CaptureFiles} (row : Row) (short : s.pending.length < cfg.capturePendingMaxRows) :
    queued cfg s row = s.pending ++ [row] := by
  have none : (s.pending ++ [row]).length - cfg.capturePendingMaxRows = 0 := by
    simp only [List.length_append, List.length_singleton]
    omega
  rw [queued, none, List.drop_zero]

omit [Arith F] in
theorem headed_some {text : Text} {rows : List Row} (closed : Closed text) (records : read text = h :: rows) :
    Headed header h (some text) ∧ captureRows (some text) = rows := by
  have below : captureRows (some text) = rows := by simp [captureRows, records]
  refine ⟨⟨nofun, ?_⟩, below⟩
  rintro other ⟨⟩
  exact ⟨closed, by rw [below, records]⟩

omit [Arith F] in
theorem headed_written {s : CaptureFiles} (row : Row) (headed : Headed header h s.capture)
    (room : hasRoom cfg s = true) :
    Headed header h (appendCsvRow cfg header s row .written).capture ∧
      captureRows (appendCsvRow cfg header s row .written).capture =
        captureRows s.capture ++ queued cfg s row := by
  simp only [appendCsvRow, room, if_true, appendText_eq]
  cases found : s.capture with
  | none =>
    rw [headed.missing found]
    apply headed_some
    · exact closed_write (header :: queued cfg s row)
    · exact read_write (header :: queued cfg s row)
  | some text =>
    obtain ⟨closed, records⟩ := headed.closed text found
    apply headed_some
    · exact closed.append (closed_write _)
    · simp only [Option.getD_some, Option.isNone_some, Bool.false_eq_true, if_false, List.nil_append,
        read_append closed, read_write, records, found]
      rfl

theorem labelState_append {s : Scene LabelPlan} (state : LabelState header h total staging s) (row : Row)
    (outcome : AppendOutcome) (within : WithinCaps cfg s (.append row outcome)) :
    LabelState header h (total ++ [row]) staging
      { s with files := appendCsvRow cfg header s.files row outcome } := by
  obtain ⟨short, room, sound⟩ := within
  obtain ⟨picked, tallied, early⟩ := state.tallied
  have waiting := queued_of_short row short
  have rows := tallied.rows
  cases outcome with
  | failed part => cases sound
  | locked =>
    refine ⟨state.headed, ⟨picked, ⟨?_, tallied.staged⟩, early⟩, state.planned⟩
    simp only [appendCsvRow, waiting, List.filter_append]
    rw [← List.append_assoc]
    exact rows.append_right _
  | written =>
    obtain ⟨headed, below⟩ := headed_written row state.headed (room rfl)
    refine ⟨headed, ⟨picked, ⟨?_, ?_⟩, early⟩, ?_⟩
    · have empty : (appendCsvRow cfg header s.files row .written).pending = [] := by
        simp [appendCsvRow, room rfl]
      rw [below, waiting, empty]
      simp only [List.filter_append, List.filter_nil, List.append_nil, List.append_assoc] at rows ⊢
      have grown := rows.append_right ([row].filter (rightWidth h))
      simp only [List.append_assoc] at grown
      -- the labelled rows change places with the queue that has been written
      refine grown.trans (List.Perm.append_left _ ?_)
      rw [← List.append_assoc (s.files.pending.filter (rightWidth h))]
      exact List.perm_append_comm
    · simpa [appendCsvRow, room rfl] using tallied.staged
    · intro plan holding
      obtain ⟨chosen, fits⟩ := state.planned plan holding
      obtain ⟨first, more, old, found, rest⟩ := fits.before
      refine ⟨chosen, ⟨first, more ++ write (queued cfg s.files row), old, ?_, rest⟩, fits.header,
        fits.labeled, fits.kept⟩
      simp [appendCsvRow, room rfl, appendText_eq, found]

theorem labelState_read {files : CaptureFiles} {plan : LabelPlan}
    (state : LabelState header h total staging ⟨files, .waiting⟩)
    (within : (captureRows files.capture).length ≤ cfg.autoLabelMaxQueueRows)
    (planned : planLabels cfg labelling files.capture = some plan) :
    LabelState header h total staging ⟨files, .holding plan⟩ := by
  refine ⟨state.headed, ?_, ?_⟩
  · obtain ⟨picked, tallied, early⟩ := state.tallied
    exact ⟨picked, tallied, fun _ => early (by simp)⟩
  · rintro plan ⟨⟩
    cases found : files.capture with
    | none => simp [planLabels, found] at planned
    | some text =>
      rw [found] at within planned
      obtain ⟨first, rows, scored, records, split, rfl⟩ := planLabels_some within planned
      obtain ⟨closed, under⟩ := state.headed.closed text found
      rw [records] at under
      obtain ⟨rfl, -⟩ := List.cons.inj under
      obtain ⟨picked, parts, labeled⟩ := scoreRows_splits split
      exact ⟨picked, ⟨text, [], rows, by simp, closed, rfl, records, parts⟩, rfl, labeled,
        scoreRows_kept split⟩

/-- The swap takes the labelled rows from the beginning it read, and keeps what was appended. -/
theorem labelState_swap {files : CaptureFiles} {plan : LabelPlan}
    (state : LabelState header h total staging ⟨files, .holding plan⟩) :
    LabelState header h total staging ⟨swapLabels .allSucceed plan files, .finished⟩ := by
  obtain ⟨picked, fits⟩ := state.planned plan rfl
  obtain ⟨first, more, rows, found, closed, size, records, parts⟩ := fits.before
  obtain ⟨old, tallied, early⟩ := state.tallied
  dsimp only at fits found tallied
  have none : old = [] := early nofun
  subst none
  have appended : readAppendedRows files.capture plan.snapshotSize = some (read more) := by
    simp [readAppendedRows, found, size]
  have staged : stageRows FileOps.allSucceed.stages files.staging plan.labeled =
      plan.labeled.foldl appendLabeledRow files.staging := by
    have all : ∀ i < plan.labeled.length, FileOps.allSucceed.stages i = true := fun _ _ => rfl
    rw [stageRows_eq, stagedRows_all all]
  have swapped : swapLabels .allSucceed plan files =
      { files with
        staging := plan.labeled.foldl appendLabeledRow files.staging
        capture := some (write (h :: (plan.kept ++ read more))) } := by
    simp only [swapLabels, appended, staged, fits.header]
    rfl
  have below : captureRows files.capture = rows ++ read more := by
    simp [captureRows, found, read_append closed, records]
  obtain ⟨headed, kept⟩ : Headed header h (some (write (h :: (plan.kept ++ read more)))) ∧
      captureRows (some (write (h :: (plan.kept ++ read more)))) = plan.kept ++ read more :=
    headed_some (closed_write _) (read_write _)
  rw [swapped]
  refine ⟨headed, ⟨picked, ⟨?_, ?_⟩, fun unfinished => absurd rfl unfinished⟩, nofun⟩
  · have before := tallied.rows
    simp only [below, kept, List.filter_append, List.map_nil, List.append_nil, List.append_assoc,
      List.filter_eq_self.mpr fits.kept] at before ⊢
    -- the rows read split into those kept and those labelled, which then move past the appended ones
    refine before.trans ((parts.append_right _).trans ?_)
    rw [List.append_assoc]
    refine List.Perm.append_left _ ?_
    rw [← List.append_assoc, ← List.append_assoc]
    exact List.perm_append_comm.append_right _
  · rw [← fits.labeled]
    exact congrArg (plan.labeled.foldl appendLabeledRow) tallied.staged

theorem labelState_step {s mid : Scene LabelPlan} {e : CaptureEvent} {o : CaptureEffect}
    (state : LabelState header h total staging s)
    (taken : (labelJob cfg labelling).step cfg header s e = some (mid, o)) (within : WithinCaps cfg s e) :
    LabelState header h (total ++ o.submitted.toList) staging mid := by
  cases e with
  | append row outcome =>
    simp only [Job.step, Option.some.injEq, Prod.mk.injEq] at taken
    obtain ⟨rfl, rfl⟩ := taken
    exact labelState_append state row outcome within
  | job =>
    obtain ⟨files, phase⟩ := s
    cases phase with
    | waiting =>
      simp only [Job.step] at taken
      split at taken
      · cases taken
        obtain ⟨picked, tallied, early⟩ := state.tallied
        simpa using ⟨state.headed, ⟨picked, tallied, fun _ => early nofun⟩, nofun⟩
      · next plan planned =>
        cases taken
        simpa using labelState_read state (within rfl) planned
    | holding plan =>
      cases taken
      rw [show (labelJob cfg labelling).swap plan files = swapLabels .allSucceed plan files from rfl]
      simpa using labelState_swap state
    | finished =>
      cases taken
      simpa using state

/-- The row an event submits. -/
def CaptureEvent.row : CaptureEvent → Option Row
  | .append row _ => some row
  | .job => none

omit [Arith F] in
theorem step_submitted {P : Type} {job : Job P} {s mid : Scene P} {e : CaptureEvent} {o : CaptureEffect}
    (taken : job.step cfg header s e = some (mid, o)) : o.submitted = e.row := by
  cases e with
  | append row outcome =>
    cases taken
    rfl
  | job =>
    simp only [Job.step] at taken
    split at taken
    · split at taken <;> (cases taken; rfl)
    · cases taken
      rfl
    · cases taken
      rfl

/-- Appends among one labelling run, no limit met and no write failing: of the rows there were
and the rows submitted, those of the header's width are each once in the capture file, in the
staging file with their label, or in the queue. -/
theorem rows_conserved (cfg : CaptureConfig) (header : Row) (labelling : Labelling F) (files : CaptureFiles)
    (es : List CaptureEvent) (final : Scene LabelPlan) (effects : List CaptureEffect)
    (complete : Complete files.capture)
    (within : Always ((labelJob cfg labelling).step cfg header) (fun s e _ _ => WithinCaps cfg s e)
      ⟨files, .waiting⟩ es)
    (ran : run ((labelJob cfg labelling).step cfg header) ⟨files, .waiting⟩ es = some (final, effects)) :
    ∃ picked, Tallied (captureHeader files.capture header)
      (captureRows files.capture ++ files.pending ++ es.filterMap CaptureEvent.row) files.staging
      final.files picked := by
  have start : LabelState header (captureHeader files.capture header)
      (captureRows files.capture ++ files.pending) files.staging ⟨files, .waiting⟩ := by
    refine ⟨headed_start complete, ⟨[], ⟨?_, rfl⟩, fun _ => rfl⟩, nofun⟩
    simp
  have submitted : effects.filterMap CaptureEffect.submitted = es.filterMap CaptureEvent.row := by
    refine run_outputs ?_ es _ final effects ran
    exact fun s e mid o taken => step_submitted taken
  have state := run_history_of_always (I := fun past s => LabelState header
      (captureHeader files.capture header)
      (captureRows files.capture ++ files.pending ++ past.filterMap CaptureEffect.submitted) files.staging s)
    ?_ es [] _ final effects (by simpa using start) within ran
  · obtain ⟨picked, tallied, -⟩ := state.tallied
    rw [List.nil_append, submitted] at tallied
    exact ⟨picked, tallied⟩
  · intro past s e mid o state taken within
    have next := labelState_step state taken within
    rw [List.filterMap_append, ← List.append_assoc]
    cases shown : o.submitted <;> simpa [shown] using next

theorem sure_one_per_class (rows : List (Features ℚ)) :
    ∀ proba ∈ rows.map (fun _ => ([0, 1, 0] : List ℚ)), proba.length = [0, 1, 2].length := by
  intro proba member
  obtain ⟨-, -, rfl⟩ := List.mem_map.mp member
  rfl

/-- A model that puts every row in class one. -/
def sure : Classifier ℚ where
  classes := [0, 1, 2]
  predictProba rows := rows.map (fun _ => [0, 1, 0])
  trained := List.cons_ne_nil 0 [1, 2]
  one_each _ := List.length_map _
  one_per_class := sure_one_per_class

def readSeconds (field : Field) : Option (PyFloat ℚ) :=
  some (.finite (field.foldl (fun n c => 10 * n + (c.toNat - 48)) 0 : Nat))

/-- Two sure models, saved long after the rows below and long ago. -/
def sureLabelling : Labelling ℚ := ⟨sure, sure, [200], 1000000, 24, 9 / 10, readSeconds⟩

/-- A row captured at a time, the rest of it ones. -/
def capturedAt (time : Field) : Row := List.replicate 11 ['1'] ++ [time, []]

/-- A file with one row to label and one too young for it. -/
def oneOld : CaptureFiles :=
  ⟨some (write [baseCsvHeader, capturedAt ['5'], capturedAt (List.replicate 7 '9')]), none, []⟩

/-- A row written between the job's two sections and one that finds the lock held. -/
def busyRun : List CaptureEvent :=
  [.job, .append (capturedAt ['6']) .written, .job, .append (capturedAt ['7']) .locked]

theorem busyRun_conserved : ∃ final effects,
    run ((labelJob {} sureLabelling).step {} baseCsvHeader) ⟨oneOld, .waiting⟩ busyRun =
      some (final, effects) ∧
    final.files.staging = some (write [baseCsvHeader, List.replicate 11 ['1'] ++ [['5'], ['1']]]) ∧
    ∃ picked, Tallied (captureHeader oneOld.capture baseCsvHeader)
      (captureRows oneOld.capture ++ oneOld.pending ++ busyRun.filterMap CaptureEvent.row) oneOld.staging
      final.files picked := by
  have staged : ∃ final effects,
      run ((labelJob {} sureLabelling).step {} baseCsvHeader) ⟨oneOld, .waiting⟩ busyRun =
        some (final, effects) ∧ final.files.staging =
          some (write [baseCsvHeader, List.replicate 11 ['1'] ++ [['5'], ['1']]]) := by
    decide +kernel
  obtain ⟨final, effects, ran, written⟩ := staged
  refine ⟨final, effects, ran, written,
    rows_conserved {} baseCsvHeader sureLabelling oneOld busyRun final effects ?_ ?_ ran⟩
  · rintro text ⟨⟩
    exact ⟨closed_write _, by simp⟩
  · decide +kernel

end Label

section Failures

variable {F : Type} [Arith F]

theorem getD_foldl_appendLabeledRow (staging : Option Text) (rows : List Row) :
    (rows.foldl appendLabeledRow staging).getD (write [baseCsvHeader]) =
      staging.getD (write [baseCsvHeader]) ++ write rows := by
  induction rows generalizing staging with
  | nil => simp [write]
  | cons row rest ih =>
    rw [List.foldl_cons, ih]
    simp [appendLabeledRow, write]

/-- What was staged can be read off the staging file. -/
theorem foldl_appendLabeledRow_injective {staging : Option Text} {first second : List Row}
    (same : first.foldl appendLabeledRow staging = second.foldl appendLabeledRow staging) :
    first = second := by
  have texts := congrArg (fun text => text.getD (write [baseCsvHeader])) same
  simp only [getD_foldl_appendLabeledRow] at texts
  have written : write first = write second := List.append_cancel_left texts
  rw [← read_write first, written, read_write]

theorem length_stagedRows (stages : Nat → Bool) (rows : List Row) :
    (stagedRows stages rows).length = (List.range rows.length).countP stages := by
  induction rows generalizing stages with
  | nil => rfl
  | cons row rest ih =>
    rw [stagedRows, List.length_append, ih, List.length_cons, List.range_succ_eq_map, List.countP_cons,
      List.countP_map, Nat.add_comm]
    cases stages 0 <;> rfl

/-- One labelling run with nobody appending, its file operations succeeding or failing. -/
def processCaptureFile (cfg : CaptureConfig) (labelling : Labelling F) (ops : FileOps) (s : CaptureFiles) :
    CaptureFiles :=
  match planLabels cfg labelling s.capture with
  | none => s
  | some plan => swapLabels ops plan s

/-- The rows the run labels. -/
def labelledRows (cfg : CaptureConfig) (labelling : Labelling F) (capture : Option Text) : List Row :=
  ((planLabels cfg labelling capture).map LabelPlan.labeled).getD []

/-- Each row of the right width is in one of the two files and only there. -/
def Divided (before after : CaptureFiles) : Prop :=
  ∃ picked : List (Row × Nat),
    ((captureRows before.capture).filter (rightWidth (captureHeader before.capture []))).Perm
      ((captureRows after.capture).filter (rightWidth (captureHeader before.capture [])) ++
        picked.map Prod.fst) ∧
    after.staging = (picked.map (fun x => labeledRow x.1 x.2)).foldl appendLabeledRow before.staging

section

variable {before after : CaptureFiles} {labelling : Labelling F} {scored : Scored} {stages : Nat → Bool}

/-- The file was replaced: the rows left are those kept, so all the labelled ones must be staged. -/
theorem divided_replaced_iff
    (split : scoreRows labelling (captureHeader before.capture []) (captureRows before.capture) = some scored)
    (replaced : captureRows after.capture = scored.kept)
    (staged : after.staging = (stagedRows stages scored.labeled).foldl appendLabeledRow before.staging) :
    Divided before after ↔ ∀ i < scored.labeled.length, stages i = true := by
  obtain ⟨chosen, parts, labels⟩ := scoreRows_splits split
  have kept := List.filter_eq_self.mpr (scoreRows_kept split)
  unfold Divided
  rw [replaced, kept, staged]
  constructor
  · rintro ⟨picked, rows, same⟩
    have counts := (rows.symm.trans parts).length_eq
    have rowsStaged := congrArg List.length (foldl_appendLabeledRow_injective same)
    have number : (List.range scored.labeled.length).countP stages = (List.range scored.labeled.length).length := by
      rw [← length_stagedRows, rowsStaged, labels]
      simp only [List.length_append, List.length_map, List.length_range] at counts ⊢
      omega
    simpa using List.countP_eq_length.mp number
  · intro all
    exact ⟨chosen, parts, by rw [stagedRows_all all, labels]⟩

/-- The old file stayed: its rows are all there still, so none may be staged. -/
theorem divided_unreplaced_iff (stayed : after.capture = before.capture)
    (staged : after.staging = (stagedRows stages scored.labeled).foldl appendLabeledRow before.staging) :
    Divided before after ↔ ∀ i < scored.labeled.length, stages i = false := by
  have none : stagedRows stages scored.labeled = [] ↔ ∀ i < scored.labeled.length, stages i = false := by
    rw [← List.length_eq_zero_iff, length_stagedRows, List.countP_eq_zero]
    simp
  unfold Divided
  rw [stayed, staged, ← none]
  constructor
  · rintro ⟨picked, rows, same⟩
    have counts := rows.length_eq
    have empty : picked = [] := by
      apply List.eq_nil_of_length_eq_zero
      simp only [List.length_append, List.length_map] at counts
      omega
    rw [foldl_appendLabeledRow_injective same, empty]
    rfl
  · intro empty
    exact ⟨[], by simp, by rw [empty]; rfl⟩

end

/-- With nobody appending, every row of the right width is afterwards in exactly one of the two
files exactly when the staging of each labelled row fares as the replacement does. -/
theorem process_divides_iff (cfg : CaptureConfig) (labelling : Labelling F) (ops : FileOps) (s : CaptureFiles)
    (within : (captureRows s.capture).length ≤ cfg.autoLabelMaxQueueRows) :
    Divided s (processCaptureFile cfg labelling ops s) ↔
      ∀ i < (labelledRows cfg labelling s.capture).length, ops.stages i = ops.replaces := by
  cases planned : planLabels cfg labelling s.capture with
  | none =>
    have untouched : processCaptureFile cfg labelling ops s = s := by simp [processCaptureFile, planned]
    refine iff_of_true ?_ (by simp [labelledRows, planned])
    rw [untouched]
    exact ⟨[], by simp, rfl⟩
  | some plan =>
    cases found : s.capture with
    | none => simp [planLabels, found] at planned
    | some text =>
      rw [found] at within planned
      obtain ⟨header, rows, scored, records, split, rfl⟩ := planLabels_some within planned
      have result : processCaptureFile cfg labelling ops s =
          { s with
            staging := (stagedRows ops.stages scored.labeled).foldl appendLabeledRow s.staging
            capture := if ops.replaces then some (write (header :: scored.kept)) else s.capture } := by
        simp [processCaptureFile, found, planned, swapLabels, readAppendedRows, stageRows_eq]
      have labels : labelledRows cfg labelling (some text) = scored.labeled := by simp [labelledRows, planned]
      rw [labels, result]
      cases replaces : ops.replaces with
      | true =>
        have whole : scoreRows labelling (captureHeader s.capture []) (captureRows s.capture) = some scored := by
          simpa [captureHeader, captureRows, found, records] using split
        exact divided_replaced_iff whole (by simp [captureRows]) rfl
      | false => exact divided_unreplaced_iff rfl rfl

theorem oneOld_divided : (captureRows oneOld.capture).length ≤ CaptureConfig.autoLabelMaxQueueRows {} ∧
    Divided oneOld (processCaptureFile {} sureLabelling .allSucceed oneOld) := by
  have within : (captureRows oneOld.capture).length ≤ CaptureConfig.autoLabelMaxQueueRows {} := by
    simp [captureRows, oneOld]
  exact ⟨within, (process_divides_iff {} sureLabelling .allSucceed oneOld within).mpr fun i _ => rfl⟩

/-- Only the staging file cannot be opened. -/
def stagingFails : FileOps := ⟨fun _ => false, fun _ => true, true, true, true⟩

/-- Only the rename of the replacement fails. -/
def renameFails : FileOps := ⟨fun _ => true, fun _ => true, true, true, false⟩

/-- The labelled row is then in neither file, or in both. -/
theorem labelled_row_misplaced :
    (processCaptureFile {} sureLabelling stagingFails oneOld =
        ⟨some (write [baseCsvHeader, capturedAt (List.replicate 7 '9')]), none, []⟩ ∧
      ¬ Divided oneOld (processCaptureFile {} sureLabelling stagingFails oneOld)) ∧
    (processCaptureFile {} sureLabelling renameFails oneOld =
        ⟨oneOld.capture, some (write [baseCsvHeader, List.replicate 11 ['1'] ++ [['5'], ['1']]]), []⟩ ∧
      ¬ Divided oneOld (processCaptureFile {} sureLabelling renameFails oneOld)) := by
  have neither : processCaptureFile {} sureLabelling stagingFails oneOld =
      ⟨some (write [baseCsvHeader, capturedAt (List.replicate 7 '9')]), none, []⟩ := by decide +kernel
  have both : processCaptureFile {} sureLabelling renameFails oneOld =
      ⟨oneOld.capture, some (write [baseCsvHeader, List.replicate 11 ['1'] ++ [['5'], ['1']]]), []⟩ := by
    decide +kernel
  have shorter : ((captureRows oneOld.capture).filter (rightWidth (captureHeader oneOld.capture []))).length =
      ((captureRows (some (write [baseCsvHeader, capturedAt (List.replicate 7 '9')]))).filter
        (rightWidth (captureHeader oneOld.capture []))).length + 1 := by
    simp [captureRows, captureHeader, oneOld, rightWidth, capturedAt, baseCsvHeader]
  refine ⟨⟨neither, ?_⟩, both, ?_⟩
  · rw [neither]
    rintro ⟨picked, rows, staged⟩
    have counts := rows.length_eq
    have none : ([] : List Row) = picked.map (fun x => labeledRow x.1 x.2) :=
      foldl_appendLabeledRow_injective staged
    have empty : picked = [] := List.map_eq_nil_iff.mp none.symm
    rw [shorter, empty] at counts
    simp at counts
  · rw [both]
    rintro ⟨picked, rows, staged⟩
    have counts := rows.length_eq
    dsimp only at counts
    rw [List.length_append, List.length_map] at counts
    have empty : picked = [] := List.eq_nil_of_length_eq_zero (by omega)
    rw [empty] at staged
    cases staged

end Failures

end Flod.Stage2
