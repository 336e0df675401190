import Flod.Lib.Run
import Flod.Stage2.Scoring

/-! A capture file between its two writers. The receiver appends rows under a lock it never
waits for. The labelling job reads the file, works without the lock, and swaps in a shorter
file together with what was appended meanwhile; the trimming job does the same unlocked. -/

namespace Flod.Stage2
open Flod.Lib Flod.Lib.Csv

structure CaptureConfig where
  pretrainingMaxBytes : Nat := 52428800
  capturePendingMaxRows : Nat := 5000
  autoLabelMaxQueueRows : Nat := 50000

/-- The two files, none where one does not exist, and the rows waiting for the lock. -/
structure CaptureFiles where
  capture : Option Text
  staging : Option Text
  pending : List Row
  deriving DecidableEq

/-- How an append fares: the lock is held, the rows are written, or writing stops with an
error after some characters. -/
inductive AppendOutcome where
  | locked
  | written
  | failed (part : Nat)
  deriving DecidableEq, Repr

/-- No error. -/
def AppendOutcome.sound : AppendOutcome → Bool
  | .locked => true
  | .written => true
  | .failed _ => false

section Receiver

variable (cfg : CaptureConfig) (header : Row) (s : CaptureFiles) (row : Row)

/-- The queue with the new row, the oldest dropped past the bound. -/
def queued : List Row :=
  (s.pending ++ [row]).drop ((s.pending ++ [row]).length - cfg.capturePendingMaxRows)

/-- The file is missing or under its size limit. -/
def hasRoom : Bool :=
  match s.capture with
  | none => true
  | some text => decide (text.length < cfg.pretrainingMaxBytes)

/-- What one append writes, a header first into a new file. -/
def appendText : Text :=
  write (if s.capture.isNone then header :: queued cfg s row else queued cfg s row)

/-- `_append_csv_row`. A file at its limit costs the queue; an error leaves it waiting. -/
def appendCsvRow : AppendOutcome → CaptureFiles
  | .locked => { s with pending := queued cfg s row }
  | .written =>
      if hasRoom cfg s then
        { s with capture := some (s.capture.getD [] ++ appendText cfg header s row), pending := [] }
      else { s with pending := [] }
  | .failed part =>
      if hasRoom cfg s then
        { s with
          capture := if part = 0 then s.capture
            else some (s.capture.getD [] ++ (appendText cfg header s row).take part)
          pending := queued cfg s row }
      else { s with pending := [] }

/-- The rows an append puts in the file. -/
def appendedRows : AppendOutcome → List Row
  | .written => if hasRoom cfg s then queued cfg s row else []
  | _ => []

end Receiver

section Jobs

variable {F : Type} [Arith F] (cfg : CaptureConfig)

/-- `_read_rows`: the header, the newest rows up to the bound, and whether the bound cut any
off. None for a file without a header. -/
def readRows (text : Text) : Option (Row × List Row × Bool) :=
  match read text with
  | [] => none
  | header :: rows =>
      some (header, rows.drop (rows.length - cfg.autoLabelMaxQueueRows),
        decide (cfg.autoLabelMaxQueueRows < rows.length))

/-- Python's `<`, which no comparison with `nan` meets. -/
def PyFloat.lt : PyFloat F → PyFloat F → Bool
  | .nan, _ | _, .nan => false
  | .negInf, .negInf | .inf, _ | _, .negInf => false
  | .negInf, _ | _, .inf => true
  | .finite x, .finite y => decide (x < y)

/-- A row without a readable timestamp sorts as the oldest. -/
def sortKey (float : Field → Option (PyFloat F)) (row : Row) : PyFloat F :=
  (row[timestampCol]?.bind float).getD .negInf

/-- The newest rows up to a bound, and how many older ones were dropped. -/
def trimCsvRows (float : Field → Option (PyFloat F)) (rows : List Row) (maxRows : Nat) : List Row × Nat :=
  if rows.length ≤ maxRows then (rows, 0)
  else
    let sorted := rows.mergeSort (fun a b => !(sortKey float b).lt (sortKey float a))
    (sorted.drop (sorted.length - maxRows), sorted.length - maxRows)

/-- What the labelling job carries from its first locked section to its second. -/
structure LabelPlan where
  snapshotSize : Nat
  header : Row
  kept : List Row
  labeled : List Row

/-- The first half of `_process_capture_file`. None if there is nothing to change, or scoring
raised. -/
def planLabels (job : Labelling F) (capture : Option Text) : Option LabelPlan := do
  let text ← capture
  let (header, rows, wasBounded) ← readRows cfg text
  let (rows, dropped) := trimCsvRows job.float rows cfg.autoLabelMaxQueueRows
  let scored ← scoreRows job header rows
  if dropped = 0 ∧ scored.corrupt = 0 ∧ scored.labeled = [] ∧ wasBounded = false then none
  else some ⟨text.length, header, scored.kept, scored.labeled⟩

/-- `_read_appended_rows`. None if the file is shorter than it was, or gone. -/
def readAppendedRows (capture : Option Text) (offset : Nat) : Option (List Row) :=
  match capture with
  | none => none
  | some text => if text.length < offset then none else some (read (text.drop offset))

/-- `_append_labeled_row` where nothing fails. -/
def appendLabeledRow (staging : Option Text) (row : Row) : Option Text :=
  some (staging.getD (write [baseCsvHeader]) ++ encodeRow row)

/-- Which file operations of the second half succeed: opening and writing the staging file for
each labelled row, and creating, writing and renaming the replacement. -/
structure FileOps where
  openStaging : Nat → Bool
  writeStaging : Nat → Bool
  create : Bool
  write : Bool
  rename : Bool

def FileOps.allSucceed : FileOps := ⟨fun _ => true, fun _ => true, true, true, true⟩

def FileOps.stages (ops : FileOps) (i : Nat) : Bool := ops.openStaging i && ops.writeStaging i

/-- `_atomic_write` raises unless all of it succeeds, and then the old file stays. -/
def FileOps.replaces (ops : FileOps) : Bool := ops.create && ops.write && ops.rename

/-- The labelled rows appended one by one; an error on one is logged and passed over. -/
def stageRows (stages : Nat → Bool) : Option Text → List Row → Option Text
  | staging, [] => staging
  | staging, row :: rest =>
      stageRows (fun i => stages (i + 1)) (if stages 0 then appendLabeledRow staging row else staging) rest

/-- The second half of `_process_capture_file`. -/
def swapLabels (ops : FileOps) (plan : LabelPlan) (s : CaptureFiles) : CaptureFiles :=
  match readAppendedRows s.capture plan.snapshotSize with
  | none => s
  | some appended =>
      { s with
        staging := stageRows ops.stages s.staging plan.labeled
        capture := if ops.replaces then some (write (plan.header :: (plan.kept ++ appended))) else s.capture }

/-- The read of `_trim_capture_file_only`. None if nothing is over the bound. -/
def planTrim (float : Field → Option (PyFloat F)) (capture : Option Text) : Option (Row × List Row) := do
  let text ← capture
  let (header, rows, wasBounded) ← readRows cfg text
  let (rows, dropped) := trimCsvRows float rows cfg.autoLabelMaxQueueRows
  if dropped = 0 ∧ wasBounded = false then none else some (header, rows)

/-- Its replacement of the file, which looks at nothing. -/
def swapTrim (plan : Row × List Row) (s : CaptureFiles) : CaptureFiles :=
  { s with capture := some (write (plan.1 :: plan.2)) }

end Jobs

section Interleaving

/-- A job in two atomic parts: it reads the capture file, and later replaces it if the read
left a plan. -/
structure Job (P : Type) where
  read : Option Text → Option P
  swap : P → CaptureFiles → CaptureFiles

inductive JobPhase (P : Type) where
  | waiting
  | holding (plan : P)
  | finished

def JobPhase.isWaiting {P : Type} : JobPhase P → Bool
  | .waiting => true
  | _ => false

structure Scene (P : Type) where
  files : CaptureFiles
  phase : JobPhase P

inductive CaptureEvent where
  | append (row : Row) (outcome : AppendOutcome)
  | job
  deriving DecidableEq

/-- What an event was: the row submitted, the rows put in the file, and whether it was the
job's read. -/
structure CaptureEffect where
  submitted : Option Row
  appended : List Row
  jobRead : Bool

variable {P : Type}

/-- One run of the job among the receiver's appends. -/
def Job.step (cfg : CaptureConfig) (header : Row) (job : Job P) (s : Scene P) :
    CaptureEvent → Option (Scene P × CaptureEffect)
  | .append row outcome =>
      some ({ s with files := appendCsvRow cfg header s.files row outcome },
        ⟨some row, appendedRows cfg s.files row outcome, false⟩)
  | .job =>
      match s.phase with
      | .waiting =>
          match job.read s.files.capture with
          | none => some ({ s with phase := .finished }, ⟨none, [], true⟩)
          | some plan => some ({ s with phase := .holding plan }, ⟨none, [], true⟩)
      | .holding plan => some (⟨job.swap plan s.files, .finished⟩, ⟨none, [], false⟩)
      | .finished => some (s, ⟨none, [], false⟩)

def labelJob {F : Type} [Arith F] (cfg : CaptureConfig) (labelling : Labelling F) : Job LabelPlan :=
  ⟨planLabels cfg labelling, swapLabels .allSucceed⟩

def trimJob {F : Type} [Arith F] (cfg : CaptureConfig) (float : Field → Option (PyFloat F)) :
    Job (Row × List Row) :=
  ⟨planTrim cfg float, swapTrim⟩

/-- The rows put in the file since the job read it. -/
def appendedSince (effects : List CaptureEffect) : List Row :=
  (effects.dropWhile (fun e => !e.jobRead)).flatMap CaptureEffect.appended

/-- The job has a replacement ready and the event puts rows in the file. -/
def Overlaps (cfg : CaptureConfig) (s : Scene P) : CaptureEvent → Prop
  | .append row outcome => (∃ plan, s.phase = .holding plan) ∧ appendedRows cfg s.files row outcome ≠ []
  | .job => False

end Interleaving

end Flod.Stage2
