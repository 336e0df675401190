import Flod.Stage2.TrainingBalance

/-! The review queue: an operator merges the staged rows into the training data, discards them,
or trims the attack class. Each request here runs by itself. The staging file is read through
the bounded reader of the capture files, and cleared whole. -/

namespace Flod.Stage2
open Flod.Lib Flod.Lib.Csv

structure ReviewConfig where
  trainingCsvPath : Bool := true
  capture : CaptureConfig := {}

/-- One row of `auto_label_runs`. -/
structure AutoLabelRun where
  id : Nat
  resolved : Bool
  deriving DecidableEq, Repr

/-- The two files, none where one does not exist, and the recorded runs. -/
structure ReviewFiles where
  staging : Option Text
  training : Option Text
  runs : List AutoLabelRun

/-- A status 400 with its text, or a file or database operation that raised. -/
inductive ReviewError where
  | badRequest (detail : String)
  | failed
  deriving DecidableEq, Repr

/-- Which operations of a request succeed. -/
structure ReviewOps where
  replaceTraining : Bool
  replaceStaging : Bool
  resolve : Bool

def ReviewOps.allSucceed : ReviewOps := ⟨true, true, true⟩

/-- `_read_training_csv`, unbounded. None if the file is missing or has no header. -/
def readTrainingCsv (training : Option Text) : Option (Row × List Row) :=
  training.bind fun text =>
    match read text with
    | [] => none
    | header :: rows => some (header, rows)

/-- The data rows of a file. -/
def rowsOf (file : Option Text) : List Row := ((readTrainingCsv file).map Prod.snd).getD []

def resolveAllRuns (runs : List AutoLabelRun) : List AutoLabelRun := runs.map (fun run => { run with resolved := true })

def notConfigured (before : String) : String :=
  "TRAINING_CSV_PATH is not configured. Set it (the same --training-csv value install.sh/update.sh take for the "
    ++ "retrain timer) before " ++ before ++ " from the dashboard."

section Requests

variable (cfg : ReviewConfig) (ops : ReviewOps) (s : ReviewFiles)

/-- Empty the staging file and resolve the runs, the end both requests share. -/
def clearStaged (answer : Nat) : ReviewFiles × Except ReviewError Nat :=
  if ops.replaceStaging then
    if ops.resolve then
      ({ s with staging := some (write [baseCsvHeader]), runs := resolveAllRuns s.runs }, .ok answer)
    else ({ s with staging := some (write [baseCsvHeader]) }, .error .failed)
  else (s, .error .failed)

def mergeStagedRows : ReviewFiles × Except ReviewError Nat :=
  if cfg.trainingCsvPath then
    match s.staging.bind (readRows cfg.capture) with
    | none => (s, .error (.badRequest "Nothing staged to merge."))
    | some (_, stagedRows, _) =>
        if stagedRows.isEmpty then (s, .error (.badRequest "Nothing staged to merge."))
        else
          let target := (readTrainingCsv s.training).getD (baseCsvHeader, [])
          if ops.replaceTraining then
            clearStaged ops { s with training := some (write (target.1 :: (target.2 ++ stagedRows))) } stagedRows.length
          else (s, .error .failed)
  else (s, .error (.badRequest (notConfigured "merging")))

def discardStagedRows : ReviewFiles × Except ReviewError Nat :=
  match s.staging.bind (readRows cfg.capture) with
  | none => (s, .error (.badRequest "Nothing staged to discard."))
  | some (_, stagedRows, _) =>
      if stagedRows.isEmpty then (s, .error (.badRequest "Nothing staged to discard."))
      else clearStaged ops s stagedRows.length

/-- `trim_ddos_class`: how many rows it drops. Nothing is written if none are. -/
def trimDdosClass {F : Type} [Arith F] (job : Balancing F) : ReviewFiles × Except ReviewError Nat :=
  if cfg.trainingCsvPath then
    match readTrainingCsv s.training with
    | none => (s, .error (.badRequest "Training CSV is empty or missing, nothing to trim."))
    | some (header, rows) =>
        if rows.isEmpty then (s, .error (.badRequest "Training CSV is empty or missing, nothing to trim."))
        else
          match trimDdosSessions id job rows with
          | none => (s, .error .failed)
          | some result =>
              if result.dropped = 0 then (s, .ok 0)
              else if ops.replaceTraining then
                ({ s with training := some (write (header :: result.kept)) }, .ok result.dropped)
              else (s, .error .failed)
  else (s, .error (.badRequest (notConfigured "trimming")))

end Requests

section Merge

variable {cfg : ReviewConfig} {ops : ReviewOps} {s after : ReviewFiles} {merged : Nat}

theorem rowsOf_write (header : Row) (rows : List Row) : rowsOf (some (write (header :: rows))) = rows := by
  simp [rowsOf, readTrainingCsv]

theorem clearStaged_ok {answer : Nat} (returned : clearStaged ops s answer = (after, .ok merged)) :
    merged = answer ∧
      after = { s with staging := some (write [baseCsvHeader]), runs := resolveAllRuns s.runs } := by
  unfold clearStaged at returned
  split at returned
  · split at returned
    · cases returned
      exact ⟨rfl, rfl⟩
    · cases returned
  · cases returned

/-- What the bounded reader returns of a file, in terms of its rows. -/
theorem readRows_rows {staging : Option Text} {header : Row} {rows : List Row} {bounded : Bool}
    (found : staging.bind (readRows cfg.capture) = some (header, rows, bounded)) :
    rows = (rowsOf staging).drop ((rowsOf staging).length - cfg.capture.autoLabelMaxQueueRows) := by
  obtain ⟨text, rfl, content⟩ := Option.bind_eq_some_iff.mp found
  unfold readRows at content
  cases parsed : read text with
  | nil => simp [parsed] at content
  | cons first rest =>
    rw [parsed] at content
    cases content
    simp [rowsOf, readTrainingCsv, parsed]

/-- A merge that returned appended the newest rows up to the bound, and emptied the file. -/
theorem mergeStagedRows_ok (returned : mergeStagedRows cfg ops s = (after, .ok merged)) :
    rowsOf after.training = rowsOf s.training ++
        (rowsOf s.staging).drop ((rowsOf s.staging).length - cfg.capture.autoLabelMaxQueueRows) ∧
      rowsOf after.staging = [] ∧
      merged = min (rowsOf s.staging).length cfg.capture.autoLabelMaxQueueRows := by
  unfold mergeStagedRows at returned
  split at returned
  · split at returned
    · cases returned
    · next header stagedRows bounded found =>
      have newest := readRows_rows found
      split at returned
      · cases returned
      · split at returned
        · obtain ⟨rfl, rfl⟩ := clearStaged_ok returned
          refine ⟨?_, rowsOf_write _ _, ?_⟩
          · rw [rowsOf_write, ← newest, rowsOf]
            cases readTrainingCsv s.training <;> rfl
          · rw [newest, List.length_drop]
            omega
        · cases returned
  · cases returned

end Merge

/-- For every staging and training file: a merge that returns has appended every staged row to
the training rows, in order, and reports the number of rows it removed, if and only if the
staging file was within the bound of its reader. -/
theorem merge_appends_every_row_iff (cfg : ReviewConfig) (ops : ReviewOps) (s after : ReviewFiles) (merged : Nat)
    (returned : mergeStagedRows cfg ops s = (after, .ok merged)) :
    (rowsOf after.training = rowsOf s.training ++ rowsOf s.staging ∧
        merged = (rowsOf s.staging).length - (rowsOf after.staging).length) ↔
      (rowsOf s.staging).length ≤ cfg.capture.autoLabelMaxQueueRows := by
  obtain ⟨training, emptied, count⟩ := mergeStagedRows_ok returned
  rw [training, emptied, count, List.append_cancel_left_eq, List.length_nil, Nat.sub_zero]
  constructor
  · rintro ⟨-, all⟩
    omega
  · intro within
    rw [Nat.sub_eq_zero_of_le within, List.drop_zero]
    exact ⟨rfl, by omega⟩

/-- A reader bounded to two rows. -/
def twoRows : ReviewConfig := { capture := { autoLabelMaxQueueRows := 2 } }

/-- A number of staged rows, one training row and one run to review. -/
def stagedUpTo (rows : List Row) : ReviewFiles :=
  ⟨some (write (baseCsvHeader :: rows)), some (write [baseCsvHeader, [['t']]]), [⟨1, false⟩]⟩

theorem mergeStagedRows_stagedUpTo (first : Row) (rest : List Row) :
    mergeStagedRows twoRows .allSucceed (stagedUpTo (first :: rest)) =
      (⟨some (write [baseCsvHeader]),
          some (write (baseCsvHeader :: [['t']] :: (first :: rest).drop (rest.length + 1 - 2))), [⟨1, true⟩]⟩,
        .ok (min (rest.length + 1) 2)) := by
  have kept : (first :: rest).drop (rest.length + 1 - 2) ≠ [] := by
    intro none
    have short := congrArg List.length none
    simp only [List.length_drop, List.length_cons, List.length_nil] at short
    omega
  simp only [mergeStagedRows, stagedUpTo, twoRows, if_true, Option.bind_some, readRows, read_write,
    List.length_cons, List.isEmpty_iff, kept, if_false, readTrainingCsv, clearStaged, ReviewOps.allSucceed,
    Option.getD_some, List.cons_append, List.nil_append, List.length_drop, resolveAllRuns, List.map_cons,
    List.map_nil]
  congr 2
  omega

theorem two_staged_rows_merged :
    ∃ after merged, mergeStagedRows twoRows .allSucceed (stagedUpTo [[['1']], [['2']]]) = (after, .ok merged) ∧
      rowsOf after.training = rowsOf (stagedUpTo [[['1']], [['2']]]).training ++ [[['1']], [['2']]] ∧ merged = 2 := by
  have returned := mergeStagedRows_stagedUpTo [['1']] [[['2']]]
  have all := (merge_appends_every_row_iff _ _ _ _ _ returned).mpr (by rw [stagedUpTo, rowsOf_write]; decide)
  rw [show rowsOf (stagedUpTo [[['1']], [['2']]]).staging = [[['1']], [['2']]] from rowsOf_write _ _] at all
  exact ⟨_, _, returned, all.1, rfl⟩

/-- One row more than the bound: the oldest is neither merged nor counted, and no longer staged. -/
theorem third_staged_row_lost :
    ∃ after merged, mergeStagedRows twoRows .allSucceed (stagedUpTo [[['1']], [['2']], [['3']]]) =
        (after, .ok merged) ∧
      rowsOf after.training = rowsOf (stagedUpTo [[['1']], [['2']], [['3']]]).training ++ [[['2']], [['3']]] ∧
      rowsOf after.staging = [] ∧ merged = 2 := by
  refine ⟨_, _, mergeStagedRows_stagedUpTo [['1']] [[['2']], [['3']]], ?_, rowsOf_write _ _, rfl⟩
  rw [rowsOf_write, stagedUpTo, rowsOf_write]
  rfl

end Flod.Stage2
