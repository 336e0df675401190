import Flod.Lib.Run
import Flod.Stage2.Review
import Mathlib.Logic.Function.Basic
import Mathlib.Data.Fintype.Defs

/-! The review requests beside the labelling job. No lock is held from a request's read to its
replacement, so whatever another request or the job wrote in between is overwritten. Rows are
kept here with what tells equal rows apart: the run that staged them and their place in it. -/

namespace Flod.Stage2
open Flod.Lib Flod.Lib.Csv

/-- A row and where it came from, none for rows older than any run. -/
structure Record where
  row : Row
  origin : Option (Nat × Nat)
  deriving DecidableEq

/-- A file that exists: its header and its rows. -/
structure Sheet where
  header : Row
  rows : List Record
  deriving DecidableEq

inductive ReviewRequest where
  | merge
  | discard
  | trim
  deriving DecidableEq, Repr

/-- How far a request has come, with what it holds of the files it read. -/
inductive ReviewPhase where
  | waiting
  | staged (rows : List Record)
  | merging (rows : List Record) (found : Option Sheet)
  | clearing (rows : List Record)
  | resolving (rows : List Record)
  | trimming (found : Sheet) (result : Trimmed Record)
  | done (answer : Except ReviewError Nat)

def ReviewPhase.isResolving : ReviewPhase → Bool
  | .resolving _ => true
  | _ => false

/-- The files and the runs, the run in progress with the number of rows it has staged, and the
requests. -/
structure Desk (ι : Type) where
  staging : Option Sheet
  training : Option Sheet
  runs : List AutoLabelRun
  current : Nat
  appended : Nat
  progress : ι → ReviewPhase

/-- The next operation of a request, a row staged, or the job's record of its run. -/
inductive DeskEvent (ι : Type) where
  | request (i : ι) (ok : Bool)
  | append (row : Row)
  | record (ok : Bool)

/-- What became of rows: discarded are those a discard's answer counts. -/
inductive DeskEffect where
  | nothing
  | staged (r : Record)
  | merged (rows : List Record)
  | discarded (rows : List Record)
  | dropped (rows : List Record)

def sheetRows (file : Option Sheet) : List Record := (file.map Sheet.rows).getD []

section Steps

variable {ι F : Type} [DecidableEq ι] [Arith F] (cfg : ReviewConfig) (job : Balancing F) (kind : ι → ReviewRequest)

namespace Desk

def place (s : Desk ι) (i : ι) (phase : ReviewPhase) : Desk ι :=
  { s with progress := Function.update s.progress i phase }

/-- The newest staged rows up to the bound. -/
def readStaging (s : Desk ι) : List Record :=
  (sheetRows s.staging).drop ((sheetRows s.staging).length - cfg.capture.autoLabelMaxQueueRows)

/-- The read a request begins with. -/
def firstPhase (s : Desk ι) : ReviewRequest → ReviewPhase
  | .merge =>
      if cfg.trainingCsvPath then
        if (s.readStaging cfg).isEmpty then .done (.error (.badRequest "Nothing staged to merge."))
        else .staged (s.readStaging cfg)
      else .done (.error (.badRequest (notConfigured "merging")))
  | .discard =>
      if (s.readStaging cfg).isEmpty then .done (.error (.badRequest "Nothing staged to discard."))
      else .clearing (s.readStaging cfg)
  | .trim =>
      if cfg.trainingCsvPath then
        match s.training with
        | none => .done (.error (.badRequest "Training CSV is empty or missing, nothing to trim."))
        | some sheet =>
            if sheet.rows.isEmpty then
              .done (.error (.badRequest "Training CSV is empty or missing, nothing to trim."))
            else
              match trimDdosSessions Record.row job sheet.rows with
              | none => .done (.error .failed)
              | some result => if result.dropped = 0 then .done (.ok 0) else .trimming sheet result
      else .done (.error (.badRequest (notConfigured "trimming")))

/-- The training file a merge writes. -/
def mergedSheet (found : Option Sheet) (rows : List Record) : Sheet :=
  ⟨(found.map Sheet.header).getD baseCsvHeader, sheetRows found ++ rows⟩

/-- One operation of a request that succeeds. -/
def proceed (s : Desk ι) (i : ι) : Desk ι × DeskEffect :=
  match s.progress i with
  | .waiting => (s.place i (s.firstPhase cfg job (kind i)), .nothing)
  | .staged rows => (s.place i (.merging rows s.training), .nothing)
  | .merging rows found =>
      ({ s with training := some (mergedSheet found rows) }.place i (.clearing rows), .merged rows)
  | .clearing rows =>
      ({ s with staging := some ⟨baseCsvHeader, []⟩ }.place i (.resolving rows), .nothing)
  | .resolving rows =>
      ({ s with runs := resolveAllRuns s.runs }.place i (.done (.ok rows.length)),
        if kind i = .discard then .discarded rows else .nothing)
  | .trimming found result =>
      ({ s with training := some ⟨found.header, result.kept⟩ }.place i (.done (.ok result.dropped)),
        .dropped (found.rows.filter (fun r => decide (r ∉ result.kept))))
  | .done _ => (s, .nothing)

/-- An operation that fails ends its request and changes nothing. -/
def fail (s : Desk ι) (i : ι) : Desk ι :=
  match s.progress i with
  | .done _ => s
  | _ => s.place i (.done (.error .failed))

/-- A row appended to the staging file, under a header if the file is new. -/
def append (s : Desk ι) (row : Row) : Desk ι × DeskEffect :=
  let r : Record := ⟨row, some (s.current, s.appended)⟩
  ({ s with
      staging := some ⟨(s.staging.map Sheet.header).getD baseCsvHeader, sheetRows s.staging ++ [r]⟩
      appended := s.appended + 1 }, .staged r)

/-- The job records its run, unless the database refuses, and ends. -/
def record (s : Desk ι) (ok : Bool) : Desk ι :=
  { s with
    runs := if ok then s.runs ++ [⟨s.current, false⟩] else s.runs
    current := s.current + 1
    appended := 0 }

def step (s : Desk ι) : DeskEvent ι → Option (Desk ι × DeskEffect)
  | .request i true => some (s.proceed cfg job kind i)
  | .request i false => some (s.fail i, .nothing)
  | .append row => some (s.append row)
  | .record ok => some (s.record ok, .nothing)

end Desk

end Steps

def DeskEffect.stagedRows : DeskEffect → List Record
  | .staged r => [r]
  | _ => []

def DeskEffect.mergedRows : DeskEffect → List Record
  | .merged rows => rows
  | _ => []

def DeskEffect.discardedRows : DeskEffect → List Record
  | .discarded rows => rows
  | _ => []

def DeskEffect.droppedRows : DeskEffect → List Record
  | .dropped rows => rows
  | _ => []

section Alone

variable {ι F : Type} [DecidableEq ι] [Arith F] {cfg : ReviewConfig} {job : Balancing F} {kind : ι → ReviewRequest}

def Sheet.text (sheet : Sheet) : Text := write (sheet.header :: sheet.rows.map Record.row)

/-- The files as they are on disk, where nothing tells equal rows apart. -/
def Desk.files (s : Desk ι) : ReviewFiles := ⟨s.staging.map Sheet.text, s.training.map Sheet.text, s.runs⟩

/-- The operations of one request with nothing in between. -/
def Desk.alone (cfg : ReviewConfig) (job : Balancing F) (kind : ι → ReviewRequest) (i : ι) (s : Desk ι)
    (oks : List Bool) : Desk ι :=
  oks.foldl (fun s ok => if ok then (s.proceed cfg job kind i).1 else s.fail i) s

@[simp] theorem Desk.place_progress (s : Desk ι) (i : ι) (phase : ReviewPhase) :
    (s.place i phase).progress i = phase := Function.update_self ..

@[simp] theorem Desk.place_files (s : Desk ι) (i : ι) (phase : ReviewPhase) : (s.place i phase).files = s.files := rfl

theorem readTrainingCsv_text (file : Option Sheet) :
    readTrainingCsv (file.map Sheet.text) = file.map (fun sheet => (sheet.header, sheet.rows.map Record.row)) := by
  cases file with
  | none => rfl
  | some sheet => simp [readTrainingCsv, Sheet.text]

omit [DecidableEq ι] in
/-- The bounded read of the file is the bounded read of its rows. -/
theorem readRows_files (cfg : ReviewConfig) (s : Desk ι) :
    (∃ header bounded, s.files.staging.bind (readRows cfg.capture) =
        some (header, (s.readStaging cfg).map Record.row, bounded)) ∨
      s.files.staging.bind (readRows cfg.capture) = none ∧ s.readStaging cfg = [] := by
  cases found : s.staging with
  | none => exact Or.inr ⟨by simp [Desk.files, found], by simp [Desk.readStaging, sheetRows, found]⟩
  | some sheet =>
    simp [Desk.files, Desk.readStaging, sheetRows, found, readRows, Sheet.text]

omit [DecidableEq ι] in
theorem discardStagedRows_files (ops : ReviewOps) (s : Desk ι) :
    discardStagedRows cfg ops s.files =
      if (s.readStaging cfg).isEmpty then (s.files, .error (.badRequest "Nothing staged to discard."))
      else clearStaged ops s.files (s.readStaging cfg).length := by
  unfold discardStagedRows
  rcases readRows_files cfg s with ⟨header, bounded, read⟩ | ⟨read, none⟩
  · simp [read]
  · simp [read, none]

omit [DecidableEq ι] in
theorem mergeStagedRows_files (ops : ReviewOps) (s : Desk ι) :
    mergeStagedRows cfg ops s.files =
      if cfg.trainingCsvPath then
        if (s.readStaging cfg).isEmpty then (s.files, .error (.badRequest "Nothing staged to merge."))
        else if ops.replaceTraining then
          clearStaged ops
            { s with training := some (Desk.mergedSheet s.training (s.readStaging cfg)) }.files
            (s.readStaging cfg).length
        else (s.files, .error .failed)
      else (s.files, .error (.badRequest (notConfigured "merging"))) := by
  have written : some (Desk.mergedSheet s.training (s.readStaging cfg)).text =
      some (write (((readTrainingCsv s.files.training).getD (baseCsvHeader, [])).1 ::
        (((readTrainingCsv s.files.training).getD (baseCsvHeader, [])).2 ++
          (s.readStaging cfg).map Record.row))) := by
    rw [show readTrainingCsv s.files.training = _ from readTrainingCsv_text s.training]
    cases s.training <;> simp [Desk.mergedSheet, Sheet.text, sheetRows]
  unfold mergeStagedRows
  rcases readRows_files cfg s with ⟨header, bounded, read⟩ | ⟨read, none⟩
  · simp only [read, ← written]
    simp [Desk.files]
  · simp [read, none]

theorem alone_clear {s : Desk ι} {i : ι} {rows : List Record} (ready : s.progress i = .clearing rows)
    (ops : ReviewOps) :
    let s' := s.alone cfg job kind i [ops.replaceStaging, ops.resolve]
    (s'.files, s'.progress i) =
      ((clearStaged ops s.files rows.length).1, .done (clearStaged ops s.files rows.length).2) := by
  obtain ⟨replaceTraining, replaceStaging, resolve⟩ := ops
  cases replaceStaging <;> cases resolve <;>
    simp [Desk.alone, Desk.proceed, Desk.fail, clearStaged, ready, Desk.files, Sheet.text, Desk.place]

theorem alone_done {s : Desk ι} {i : ι} {answer : Except ReviewError Nat} (ended : s.progress i = .done answer)
    (oks : List Bool) : s.alone cfg job kind i oks = s := by
  induction oks with
  | nil => rfl
  | cons ok rest ih =>
    have stays : (if ok then (s.proceed cfg job kind i).1 else s.fail i) = s := by
      cases ok <;> simp [Desk.proceed, Desk.fail, ended]
    rw [Desk.alone, List.foldl_cons, stays]
    exact ih

theorem alone_open {s : Desk ι} {i : ι} (idle : s.progress i = .waiting) (oks : List Bool) :
    s.alone cfg job kind i (true :: oks) =
      (s.place i (s.firstPhase cfg job (kind i))).alone cfg job kind i oks := by
  simp [Desk.alone, Desk.proceed, idle]

/-- A discard that nothing interrupts is the request run by itself. -/
theorem alone_discard {s : Desk ι} {i : ι} (asked : kind i = .discard) (idle : s.progress i = .waiting)
    (ops : ReviewOps) :
    let s' := s.alone cfg job kind i [true, ops.replaceStaging, ops.resolve]
    (s'.files, s'.progress i) =
      ((discardStagedRows cfg ops s.files).1, .done (discardStagedRows cfg ops s.files).2) := by
  rw [alone_open idle, asked, discardStagedRows_files]
  by_cases none : (s.readStaging cfg).isEmpty = true
  · have ended : s.firstPhase cfg job .discard = .done (.error (.badRequest "Nothing staged to discard.")) := by
      simp only [Desk.firstPhase, none, if_true]
    rw [ended, alone_done (Desk.place_progress ..), if_pos none]
    simp
  · have ready : s.firstPhase cfg job .discard = .clearing (s.readStaging cfg) := by
      simp only [Desk.firstPhase, none]
      rfl
    rw [ready, if_neg none]
    exact alone_clear (Desk.place_progress ..) ops

/-- A merge that nothing interrupts is the request run by itself. -/
theorem alone_merge {s : Desk ι} {i : ι} (asked : kind i = .merge) (idle : s.progress i = .waiting)
    (ops : ReviewOps) :
    let s' := s.alone cfg job kind i [true, true, ops.replaceTraining, ops.replaceStaging, ops.resolve]
    (s'.files, s'.progress i) =
      ((mergeStagedRows cfg ops s.files).1, .done (mergeStagedRows cfg ops s.files).2) := by
  rw [alone_open idle, asked, mergeStagedRows_files]
  cases configured : cfg.trainingCsvPath with
  | false =>
    have ended : s.firstPhase cfg job .merge = .done (.error (.badRequest (notConfigured "merging"))) := by
      simp [Desk.firstPhase, configured]
    rw [ended, alone_done (Desk.place_progress ..)]
    simp
  | true =>
    by_cases none : (s.readStaging cfg).isEmpty = true
    · have ended : s.firstPhase cfg job .merge = .done (.error (.badRequest "Nothing staged to merge.")) := by
        simp only [Desk.firstPhase, configured, none, if_true]
      rw [ended, alone_done (Desk.place_progress ..), if_pos rfl, if_pos none]
      simp
    · have ready : s.firstPhase cfg job .merge = .staged (s.readStaging cfg) := by
        simp only [Desk.firstPhase, configured, none, if_true]
        rfl
      rw [ready, if_pos rfl, if_neg none]
      have read : (s.place i (.staged (s.readStaging cfg))).alone cfg job kind i
          [true, ops.replaceTraining, ops.replaceStaging, ops.resolve] =
          (s.place i (.merging (s.readStaging cfg) s.training)).alone cfg job kind i
            [ops.replaceTraining, ops.replaceStaging, ops.resolve] := by
        simp [Desk.alone, Desk.proceed, Desk.place]
      rw [read]
      cases writes : ops.replaceTraining with
      | false =>
        have ended : (s.place i (.merging (s.readStaging cfg) s.training)).alone cfg job kind i
            [false, ops.replaceStaging, ops.resolve] =
            (s.place i (.done (.error .failed))).alone cfg job kind i [ops.replaceStaging, ops.resolve] := by
          simp [Desk.alone, Desk.fail, Desk.place]
        rw [ended, alone_done (Desk.place_progress ..)]
        simp
      | true =>
        have ready : (s.place i (.merging (s.readStaging cfg) s.training)).alone cfg job kind i
            [true, ops.replaceStaging, ops.resolve] =
            ({ s with training := some (Desk.mergedSheet s.training (s.readStaging cfg)) }.place i
              (.clearing (s.readStaging cfg))).alone cfg job kind i [ops.replaceStaging, ops.resolve] := by
          simp [Desk.alone, Desk.proceed, Desk.place]
        rw [ready, if_pos rfl]
        exact alone_clear (Desk.place_progress ..) ops

/-- A trim that nothing interrupts is the request run by itself. -/
theorem alone_trim {s : Desk ι} {i : ι} (asked : kind i = .trim) (idle : s.progress i = .waiting) (ops : ReviewOps) :
    let s' := s.alone cfg job kind i [true, ops.replaceTraining]
    (s'.files, s'.progress i) =
      ((trimDdosClass cfg ops s.files job).1, .done (trimDdosClass cfg ops s.files job).2) := by
  have read : readTrainingCsv s.files.training = _ := readTrainingCsv_text s.training
  rw [alone_open idle, asked]
  unfold trimDdosClass Desk.firstPhase
  dsimp only
  cases configured : cfg.trainingCsvPath with
  | false =>
    simp only [Bool.false_eq_true, if_false]
    rw [alone_done (Desk.place_progress ..)]
    simp
  | true =>
    cases found : s.training with
    | none =>
      simp only [read, found, Option.map_none, if_true]
      rw [alone_done (Desk.place_progress ..)]
      simp
    | some sheet =>
      simp only [read, found, Option.map_some, if_true, List.isEmpty_map]
      by_cases none : sheet.rows.isEmpty = true
      · rw [if_pos none, if_pos none, alone_done (Desk.place_progress ..)]
        simp
      · have same : trimDdosSessions id job (sheet.rows.map Record.row) =
            (trimDdosSessions Record.row job sheet.rows).map (Trimmed.map Record.row) :=
          trimDdosSessions_map Record.row sheet.rows
        rw [if_neg none, if_neg none, same]
        cases trimmed : trimDdosSessions Record.row job sheet.rows with
        | none =>
          simp only [Option.map_none]
          rw [alone_done (Desk.place_progress ..)]
          simp
        | some result =>
          simp only [Option.map_some, Trimmed.map]
          by_cases within : result.dropped = 0
          · simp only [within, if_true]
            rw [alone_done (Desk.place_progress ..)]
            simp
          · simp only [within, if_false]
            cases ops.replaceTraining <;>
              simp [Desk.alone, Desk.proceed, Desk.fail, Desk.files, Desk.place, Sheet.text]

end Alone

section Laws

variable {ι : Type}

theorem flatMap_concat (rows : DeskEffect → List Record) (past : List DeskEffect) (effect : DeskEffect) :
    (past ++ [effect]).flatMap rows = past.flatMap rows ++ rows effect := by
  simp

/-- Cleared by a discard whose answer is still to come. -/
def Answering (kind : ι → ReviewRequest) (s : Desk ι) (r : Record) : Prop :=
  ∃ i rows, kind i = .discard ∧ s.progress i = .resolving rows ∧ r ∈ rows

/-- No staged row has disappeared: it is staged still, was merged, or is counted by a discard. -/
def Accounted (kind : ι → ReviewRequest) (start : Desk ι) (past : List DeskEffect) (s : Desk ι) : Prop :=
  ∀ r ∈ sheetRows start.staging ++ past.flatMap DeskEffect.stagedRows,
    r ∈ sheetRows s.staging ∨ r ∈ past.flatMap DeskEffect.mergedRows ∨
      r ∈ past.flatMap DeskEffect.discardedRows ∨ Answering kind s r

/-- No merged row is missing, unless a trim that had read it dropped it. -/
def MergedKept (past : List DeskEffect) (s : Desk ι) : Prop :=
  ∀ r ∈ past.flatMap DeskEffect.mergedRows, r ∈ sheetRows s.training ∨ r ∈ past.flatMap DeskEffect.droppedRows

/-- No staged row belongs to the run. -/
def Unstaged (s : Desk ι) (run : Nat) : Prop := ∀ r ∈ sheetRows s.staging, r.origin.map Prod.fst ≠ some run

/-- No resolved run has a row staged. -/
def ResolvedUnstaged (s : Desk ι) : Prop := ∀ run ∈ s.runs, run.resolved = true → Unstaged s run.id

/-- A file about to be replaced holds no row but those its request has read. -/
def FoundAgain (s : Desk ι) : ReviewPhase → Prop
  | .merging _ found => sheetRows s.training ⊆ sheetRows found
  | .clearing rows => sheetRows s.staging ⊆ rows
  | .trimming found _ => sheetRows s.training ⊆ found.rows
  | _ => True

/-- A request finds again what it read, the runs can be resolved once a discard has cleared the
staging file, and a run recorded before they are has no row staged since. -/
def Undisturbed (kind : ι → ReviewRequest) (s : Desk ι) : DeskEvent ι → Prop
  | .request i true => FoundAgain s (s.progress i)
  | .request i false => kind i = .discard → (s.progress i).isResolving = false
  | .append _ => True
  | .record ok => ok = true → (∃ i, (s.progress i).isResolving = true) → Unstaged s s.current

instance (s : Desk ι) : (phase : ReviewPhase) → Decidable (FoundAgain s phase)
  | .merging _ found => inferInstanceAs (Decidable (sheetRows s.training ⊆ sheetRows found))
  | .clearing rows => inferInstanceAs (Decidable (sheetRows s.staging ⊆ rows))
  | .trimming found _ => inferInstanceAs (Decidable (sheetRows s.training ⊆ found.rows))
  | .waiting | .staged _ | .resolving _ | .done _ => isTrue trivial

instance (s : Desk ι) (run : Nat) : Decidable (Unstaged s run) := inferInstanceAs (Decidable (∀ r ∈ _, _))

instance [Fintype ι] (kind : ι → ReviewRequest) (s : Desk ι) :
    (e : DeskEvent ι) → Decidable (Undisturbed kind s e)
  | .request _ true => inferInstanceAs (Decidable (FoundAgain s _))
  | .request _ false => inferInstanceAs (Decidable (_ → _))
  | .append _ => isTrue trivial
  | .record _ => inferInstanceAs (Decidable (_ → _ → _))

variable {kind : ι → ReviewRequest} {start s s' : Desk ι} {past past' : List DeskEffect}

/-- What holds of a request where it stands: rows about to be cleared are being discarded or
were merged, and when the runs are about to be resolved none of them has a row staged. -/
def PhaseFits (kind : ι → ReviewRequest) (past : List DeskEffect) (s : Desk ι) (i : ι) : ReviewPhase → Prop
  | .clearing rows => kind i = .discard ∨ rows ⊆ past.flatMap DeskEffect.mergedRows
  | .resolving _ => ∀ run ∈ s.runs, Unstaged s run.id
  | _ => True

theorem PhaseFits.mono {i : ι} {phase : ReviewPhase} (fits : PhaseFits kind past s i phase)
    (more : past.flatMap DeskEffect.mergedRows ⊆ past'.flatMap DeskEffect.mergedRows)
    (unstaged : phase.isResolving = true → (∀ run ∈ s.runs, Unstaged s run.id) → ∀ run ∈ s'.runs, Unstaged s' run.id) :
    PhaseFits kind past' s' i phase := by
  cases phase with
  | clearing rows => exact fits.imp_right fun merged => List.Subset.trans merged more
  | resolving rows => exact unstaged rfl fits
  | waiting => trivial
  | staged rows => trivial
  | merging rows found => trivial
  | trimming found result => trivial
  | done answer => trivial

/-- The three laws, with what carries them from step to step. -/
structure Conserved (kind : ι → ReviewRequest) (start : Desk ι) (past : List DeskEffect) (s : Desk ι) : Prop where
  accounted : Accounted kind start past s
  kept : MergedKept past s
  settled : ResolvedUnstaged s
  fresh : ∀ run ∈ s.runs, run.id < s.current
  phases : ∀ i, PhaseFits kind past s i (s.progress i)

section Place

variable [DecidableEq ι]

theorem phases_place {i : ι} {phase : ReviewPhase}
    (others : ∀ j, j ≠ i → PhaseFits kind past s j (s.progress j)) (own : PhaseFits kind past s i phase) (j : ι) :
    PhaseFits kind past (s.place i phase) j ((s.place i phase).progress j) := by
  change PhaseFits kind past s j (Function.update s.progress i phase j)
  by_cases same : j = i
  · subst same
    rw [Function.update_self]
    exact own
  · rw [Function.update_of_ne same]
    exact others j same

/-- Rows wait for the answer of the discard that cleared them, whatever the other requests do. -/
theorem Answering.place {i : ι} {phase : ReviewPhase} {r : Record} (answering : Answering kind s r)
    (other : kind i = .discard → (s.progress i).isResolving = false) : Answering kind (s.place i phase) r := by
  obtain ⟨j, rows, discards, resolving, among⟩ := answering
  refine ⟨j, rows, discards, ?_, among⟩
  have differs : j ≠ i := by
    intro same
    have idle := other (same ▸ discards)
    rw [← same, resolving] at idle
    cases idle
  exact (Function.update_of_ne differs _ _).trans resolving

theorem Conserved.place {i : ι} {phase : ReviewPhase} (conserved : Conserved kind start past s)
    (own : PhaseFits kind past s i phase) (other : kind i = .discard → (s.progress i).isResolving = false) :
    Conserved kind start past (s.place i phase) where
  accounted := fun r ever =>
    (conserved.accounted r ever).imp_right (Or.imp_right (Or.imp_right fun answering => answering.place other))
  kept := conserved.kept
  settled := conserved.settled
  fresh := conserved.fresh
  phases := phases_place (fun j _ => conserved.phases j) own

omit [DecidableEq ι] in
theorem merged_subset_concat (effect : DeskEffect) :
    past.flatMap DeskEffect.mergedRows ⊆ (past ++ [effect]).flatMap DeskEffect.mergedRows := by
  rw [flatMap_concat]
  exact List.subset_append_left _ _

omit [DecidableEq ι] in
theorem Conserved.nothing (conserved : Conserved kind start past s) : Conserved kind start (past ++ [.nothing]) s where
  accounted := by
    simpa only [Accounted, flatMap_concat, DeskEffect.stagedRows, DeskEffect.mergedRows, DeskEffect.discardedRows,
      List.append_nil] using conserved.accounted
  kept := by
    simpa only [MergedKept, flatMap_concat, DeskEffect.mergedRows, DeskEffect.droppedRows, List.append_nil] using
      conserved.kept
  settled := conserved.settled
  fresh := conserved.fresh
  phases := fun i => (conserved.phases i).mono (merged_subset_concat _) fun _ unstaged => unstaged

end Place

section Step

variable [DecidableEq ι] {F : Type} [Arith F] {cfg : ReviewConfig} {job : Balancing F} {i : ι}

omit [DecidableEq ι] in
theorem firstPhase_fits : PhaseFits kind past s i (s.firstPhase cfg job (kind i)) := by
  cases asked : kind i with
  | merge =>
    unfold Desk.firstPhase
    dsimp only
    split
    · split <;> trivial
    · trivial
  | discard =>
    unfold Desk.firstPhase
    dsimp only
    split
    · trivial
    · exact Or.inl asked
  | trim =>
    unfold Desk.firstPhase
    dsimp only
    split
    · split
      · trivial
      · split
        · trivial
        · split
          · trivial
          · split <;> trivial
    · trivial

/-- The rows of a merge are in the file it writes, after those it found. -/
theorem Conserved.merge {rows : List Record} {found : Option Sheet} (conserved : Conserved kind start past s)
    (phase : s.progress i = .merging rows found) (still : sheetRows s.training ⊆ sheetRows found) :
    Conserved kind start (past ++ [.merged rows])
      ({ s with training := some (Desk.mergedSheet found rows) }.place i (.clearing rows)) where
  accounted := by
    intro r ever
    simp only [flatMap_concat, DeskEffect.stagedRows, List.append_nil] at ever
    simp only [flatMap_concat, DeskEffect.mergedRows, DeskEffect.discardedRows, List.append_nil, List.mem_append]
    have idle : kind i = .discard → (s.progress i).isResolving = false := fun _ => by rw [phase]; rfl
    rcases conserved.accounted r ever with staged | merged | discarded | answering
    · exact Or.inl staged
    · exact Or.inr (Or.inl (Or.inl merged))
    · exact Or.inr (Or.inr (Or.inl discarded))
    · exact Or.inr (Or.inr (Or.inr (answering.place idle)))
  kept := by
    intro r merged
    simp only [flatMap_concat, DeskEffect.mergedRows, List.mem_append] at merged
    simp only [flatMap_concat, DeskEffect.droppedRows, List.append_nil]
    change r ∈ sheetRows found ++ rows ∨ _
    rcases merged with before | now
    · exact (conserved.kept r before).imp_left fun there => List.mem_append_left _ (still there)
    · exact Or.inl (List.mem_append_right _ now)
  settled := conserved.settled
  fresh := conserved.fresh
  phases := by
    refine phases_place (fun j _ => ?_) (Or.inr (by rw [flatMap_concat]; exact List.subset_append_right _ _))
    exact (conserved.phases j).mono (merged_subset_concat _) fun _ unstaged => unstaged

/-- Clearing a file that holds just the rows the request accounts for. -/
theorem Conserved.clear {rows : List Record} (conserved : Conserved kind start past s)
    (phase : s.progress i = .clearing rows) (still : sheetRows s.staging ⊆ rows) :
    Conserved kind start past ({ s with staging := some ⟨baseCsvHeader, []⟩ }.place i (.resolving rows)) where
  accounted := by
    intro r ever
    have own := conserved.phases i
    rw [phase] at own
    have idle : kind i = .discard → (s.progress i).isResolving = false := fun _ => by rw [phase]; rfl
    refine Or.inr ?_
    rcases conserved.accounted r ever with staged | merged | discarded | answering
    · -- the row leaves the file here: its request has merged it, or will count it
      rcases own with discards | merged
      · exact Or.inr (Or.inr ⟨i, rows, discards, Function.update_self .., still staged⟩)
      · exact Or.inl (merged (still staged))
    · exact Or.inl merged
    · exact Or.inr (Or.inl discarded)
    · exact Or.inr (Or.inr (answering.place idle))
  kept := conserved.kept
  settled := fun _ _ _ => nofun
  fresh := conserved.fresh
  phases := by
    refine phases_place (fun j _ => ?_) (fun _ _ => nofun)
    exact (conserved.phases j).mono (List.Subset.refl _) fun _ _ _ _ => nofun

/-- Resolving the runs, after which a discard counts what it cleared. -/
theorem Conserved.resolve {rows : List Record} (conserved : Conserved kind start past s)
    (phase : s.progress i = .resolving rows) :
    Conserved kind start (past ++ [if kind i = .discard then .discarded rows else .nothing])
      ({ s with runs := resolveAllRuns s.runs }.place i (.done (.ok rows.length))) where
  accounted := by
    intro r ever
    have before : r ∈ sheetRows start.staging ++ past.flatMap DeskEffect.stagedRows := by
      rw [flatMap_concat] at ever
      split at ever <;> simpa only [DeskEffect.stagedRows, List.append_nil] using ever
    rcases conserved.accounted r before with staged | merged | discarded | answering
    · exact Or.inl staged
    · exact Or.inr (Or.inl (merged_subset_concat _ merged))
    · refine Or.inr (Or.inr (Or.inl ?_))
      rw [flatMap_concat]
      exact List.mem_append_left _ discarded
    · obtain ⟨j, cleared, discards, resolving, among⟩ := answering
      by_cases same : j = i
      · subst same
        cases phase.symm.trans resolving
        refine Or.inr (Or.inr (Or.inl ?_))
        rw [flatMap_concat, if_pos discards]
        exact List.mem_append_right _ among
      · exact Or.inr (Or.inr (Or.inr ⟨j, cleared, discards, (Function.update_of_ne same _ _).trans resolving, among⟩))
  kept := by
    intro r merged
    have before : r ∈ past.flatMap DeskEffect.mergedRows := by
      rw [flatMap_concat] at merged
      split at merged <;> simpa only [DeskEffect.mergedRows, List.append_nil] using merged
    refine (conserved.kept r before).imp_right fun dropped => ?_
    rw [flatMap_concat]
    exact List.mem_append_left _ dropped
  settled := by
    intro run member _
    have own := conserved.phases i
    rw [phase] at own
    obtain ⟨old, listed, rfl⟩ := List.mem_map.mp member
    exact own old listed
  fresh := by
    intro run member
    obtain ⟨old, listed, rfl⟩ := List.mem_map.mp member
    exact conserved.fresh old listed
  phases := by
    refine phases_place (fun j _ => (conserved.phases j).mono (merged_subset_concat _) ?_) trivial
    intro _ unstaged run member
    obtain ⟨old, listed, rfl⟩ := List.mem_map.mp member
    exact unstaged old listed

theorem Conserved.trim {found : Sheet} {result : Trimmed Record} (conserved : Conserved kind start past s)
    (phase : s.progress i = .trimming found result) (still : sheetRows s.training ⊆ found.rows) :
    Conserved kind start (past ++ [.dropped (found.rows.filter (fun r => decide (r ∉ result.kept)))])
      ({ s with training := some ⟨found.header, result.kept⟩ }.place i (.done (.ok result.dropped))) where
  accounted := by
    intro r ever
    simp only [flatMap_concat, DeskEffect.stagedRows, DeskEffect.mergedRows, DeskEffect.discardedRows,
      List.append_nil] at ever ⊢
    have idle : kind i = .discard → (s.progress i).isResolving = false := fun _ => by rw [phase]; rfl
    exact (conserved.accounted r ever).imp_right (Or.imp_right (Or.imp_right fun answering => answering.place idle))
  kept := by
    intro r merged
    simp only [flatMap_concat, DeskEffect.mergedRows, List.append_nil] at merged
    simp only [flatMap_concat, DeskEffect.droppedRows, List.mem_append, List.mem_filter, decide_eq_true_eq]
    change r ∈ result.kept ∨ _
    by_cases stays : r ∈ result.kept
    · exact Or.inl stays
    · rcases conserved.kept r merged with there | dropped
      · exact Or.inr (Or.inr ⟨still there, stays⟩)
      · exact Or.inr (Or.inl dropped)
  settled := conserved.settled
  fresh := conserved.fresh
  phases := by
    refine phases_place (fun j _ => ?_) trivial
    exact (conserved.phases j).mono (merged_subset_concat _) fun _ unstaged => unstaged

omit [DecidableEq ι] in
/-- A row of the run in progress belongs to no recorded run. -/
theorem Conserved.append (conserved : Conserved kind start past s) (row : Row) :
    Conserved kind start (past ++ [(s.append row).2]) (s.append row).1 := by
  have grown : sheetRows (s.append row).1.staging =
      sheetRows s.staging ++ [⟨row, some (s.current, s.appended)⟩] := rfl
  have unstaged : ∀ run ∈ s.runs, Unstaged s run.id → Unstaged (s.append row).1 run.id := by
    intro run member before r staged
    rw [grown, List.mem_append, List.mem_singleton] at staged
    rcases staged with old | rfl
    · exact before r old
    · have older := conserved.fresh run member
      simp only [Option.map_some, ne_eq, Option.some.injEq]
      omega
  constructor
  · intro r ever
    rw [grown]
    simp only [Desk.append, flatMap_concat, DeskEffect.stagedRows, DeskEffect.mergedRows, DeskEffect.discardedRows,
      List.append_nil, ← List.append_assoc, List.mem_append, List.mem_singleton] at ever ⊢
    rcases ever with before | rfl
    · exact (conserved.accounted r (List.mem_append.mpr before)).imp_left Or.inl
    · exact Or.inl (Or.inr rfl)
  · simpa only [MergedKept, Desk.append, flatMap_concat, DeskEffect.mergedRows, DeskEffect.droppedRows,
      List.append_nil] using conserved.kept
  · intro run member resolved
    exact unstaged run member (conserved.settled run member resolved)
  · exact conserved.fresh
  · intro j
    refine (conserved.phases j).mono (merged_subset_concat _) fun _ all run member => ?_
    exact unstaged run member (all run member)

omit [DecidableEq ι] in
theorem Conserved.record {ok : Bool} (conserved : Conserved kind start past s)
    (apart : Undisturbed kind s (.record ok)) : Conserved kind start past (s.record ok) where
  accounted := conserved.accounted
  kept := conserved.kept
  settled := by
    intro run member resolved
    cases ok with
    | false => exact conserved.settled run member resolved
    | true =>
      rcases List.mem_append.mp member with old | new
      · exact conserved.settled run old resolved
      · rw [List.mem_singleton.mp new] at resolved
        cases resolved
  fresh := by
    intro run member
    change run.id < s.current + 1
    cases ok with
    | false => exact Nat.lt_succ_of_lt (conserved.fresh run member)
    | true =>
      rcases List.mem_append.mp member with old | new
      · exact Nat.lt_succ_of_lt (conserved.fresh run old)
      · rw [List.mem_singleton.mp new]
        exact Nat.lt_succ_self _
  phases := by
    intro j
    refine (conserved.phases j).mono (List.Subset.refl _) fun resolving all => ?_
    cases ok with
    | false => exact all
    | true =>
      intro run member
      rcases List.mem_append.mp member with old | new
      · exact all run old
      · rw [List.mem_singleton.mp new]
        exact apart rfl ⟨j, resolving⟩

theorem Conserved.proceed (cfg : ReviewConfig) (job : Balancing F) (conserved : Conserved kind start past s)
    (undisturbed : Undisturbed kind s (.request i true)) :
    Conserved kind start (past ++ [(s.proceed cfg job kind i).2]) (s.proceed cfg job kind i).1 := by
  have again : FoundAgain s (s.progress i) := undisturbed
  unfold Desk.proceed
  cases phase : s.progress i with
  | waiting => exact (conserved.place firstPhase_fits fun _ => by rw [phase]; rfl).nothing
  | staged rows =>
    have fits : PhaseFits kind past s i (.merging rows s.training) := trivial
    exact (conserved.place fits fun _ => by rw [phase]; rfl).nothing
  | merging rows found =>
    rw [phase] at again
    exact conserved.merge phase again
  | clearing rows =>
    rw [phase] at again
    exact (conserved.clear phase again).nothing
  | resolving rows => exact conserved.resolve phase
  | trimming found result =>
    rw [phase] at again
    exact conserved.trim phase again
  | done answer => exact conserved.nothing

theorem Conserved.fail (conserved : Conserved kind start past s)
    (apart : Undisturbed kind s (.request i false)) : Conserved kind start past (s.fail i) := by
  unfold Desk.fail
  have fits : PhaseFits kind past s i (.done (.error .failed)) := trivial
  split
  · exact conserved
  · exact conserved.place fits apart

theorem Conserved.step {e : DeskEvent ι} {mid : Desk ι} {effect : DeskEffect}
    (conserved : Conserved kind start past s) (taken : s.step cfg job kind e = some (mid, effect))
    (undisturbed : Undisturbed kind s e) : Conserved kind start (past ++ [effect]) mid := by
  cases e with
  | request i ok =>
    cases ok with
    | true =>
      have made : s.proceed cfg job kind i = (mid, effect) := Option.some.inj taken
      have next := conserved.proceed cfg job undisturbed
      rw [made] at next
      exact next
    | false =>
      cases taken
      exact (conserved.fail undisturbed).nothing
  | append row =>
    cases taken
    exact conserved.append row
  | record ok =>
    cases taken
    exact (conserved.record undisturbed).nothing

end Step

/-- No request is under way, and no resolved run has a row staged. -/
structure Opened (s : Desk ι) : Prop where
  waiting : ∀ i, s.progress i = .waiting
  settled : ResolvedUnstaged s
  fresh : ∀ run ∈ s.runs, run.id < s.current

theorem Opened.conserved (opened : Opened s) : Conserved kind s [] s where
  accounted := fun _ staged => Or.inl (by simpa using staged)
  kept := nofun
  settled := opened.settled
  fresh := opened.fresh
  phases := fun i => by rw [opened.waiting i]; trivial

end Laws

/-- For every interleaving of any number of merge, discard and trim requests with the labelling
job in which every replacement finds no row its request had not read, and no run with a row
staged is recorded while a request is about to resolve: no staged row disappears unmerged and
uncounted, no merged row is missing that no trim dropped, and no resolved run has a row staged. -/
theorem review_conserves_rows {ι F : Type} [DecidableEq ι] [Arith F] (cfg : ReviewConfig) (job : Balancing F)
    (kind : ι → ReviewRequest) (start final : Desk ι) (events : List (DeskEvent ι)) (past : List DeskEffect)
    (opened : Opened start)
    (undisturbed : Always (Desk.step cfg job kind) (fun s e _ _ => Undisturbed kind s e) start events)
    (ran : run (Desk.step cfg job kind) start events = some (final, past)) :
    Accounted kind start past final ∧ MergedKept past final ∧ ResolvedUnstaged final := by
  have conserved := run_history_of_always (I := Conserved kind start)
    (fun past s e mid effect kept taken meets => kept.step taken meets) events [] start final past opened.conserved
    undisturbed ran
  exact ⟨conserved.accounted, conserved.kept, conserved.settled⟩

/-- Neither file exists and no run was recorded. -/
def emptyDesk : Desk Bool := ⟨none, none, [], 0, 0, fun _ => .waiting⟩

theorem emptyDesk_opened : Opened emptyDesk := ⟨fun _ => rfl, nofun, nofun⟩

/-- A job whose generator leaves the sessions in order. -/
def inOrder : Balancing ℚ := ⟨fun _ => some (.finite 0), id, fun _ => .refl _⟩

/-- The job stages a row and records its run, and then one request merges it. -/
def mergeAfterRun : List (DeskEvent Bool) := .append [['a']] :: .record true :: List.replicate 5 (.request true true)

theorem mergeAfterRun_conserves :
    ∃ final past, run (Desk.step {} inOrder fun _ => .merge) emptyDesk mergeAfterRun = some (final, past) ∧
      sheetRows final.training = [⟨[['a']], some (0, 0)⟩] ∧ final.runs = [⟨0, true⟩] ∧
      Accounted (fun _ => .merge) emptyDesk past final ∧ MergedKept past final ∧ ResolvedUnstaged final := by
  refine ⟨_, _, rfl, rfl, rfl, ?_⟩
  exact review_conserves_rows {} inOrder _ emptyDesk _ mergeAfterRun _ emptyDesk_opened (by decide +kernel) rfl

/-- Two merges beside the job: the one named false writes what it read before the other wrote,
and clears what was staged since. -/
def overlappingMerges : List (DeskEvent Bool) :=
  [.append [['a']], .request false true, .request false true, .append [['b']], .request true true,
    .request true true, .request true true, .request false true, .request true true, .append [['c']],
    .request false true, .append [['d']], .record true, .request true true]

/-- Of four staged rows one is merged and missing, one is gone unmerged, and one is staged still
while its run is resolved. -/
theorem overlappingMerges_lose_rows :
    ∃ final past, run (Desk.step {} inOrder fun _ => .merge) emptyDesk overlappingMerges = some (final, past) ∧
      ¬Accounted (fun _ => .merge) emptyDesk past final ∧ ¬MergedKept past final ∧ ¬ResolvedUnstaged final := by
  refine ⟨_, _, rfl, ?_, ?_, ?_⟩
  · intro accounted
    rcases accounted ⟨[['c']], some (0, 2)⟩ (by decide +kernel) with staged | merged | discarded | ⟨i, rows, discards, -⟩
    · exact absurd staged (by decide +kernel)
    · exact absurd merged (by decide +kernel)
    · exact absurd discarded (by decide +kernel)
    · cases discards
  · intro kept
    rcases kept ⟨[['b']], some (0, 1)⟩ (by decide +kernel) with there | dropped
    · exact absurd there (by decide +kernel)
    · exact absurd dropped (by decide +kernel)
  · intro settled
    exact settled ⟨0, true⟩ (by decide +kernel) rfl ⟨[['d']], some (0, 3)⟩ (by decide +kernel) rfl

end Flod.Stage2
