import Flod.Stage2.CaptureRun

/-! The queue of rows waiting for a capture file's lock. A call that gets the lock writes the
queue out; one that does not leaves its row waiting, and a full queue loses its oldest. -/

namespace Flod.Stage2
open Flod.Lib Flod.Lib.Csv

section Queue

variable (cfg : CaptureConfig) (header : Row)

/-- The rows a call removes from the front of a queue that has grown past its bound. -/
def overflowed (s : CaptureFiles) (row : Row) : List Row :=
  (s.pending ++ [row]).take ((s.pending ++ [row]).length - cfg.capturePendingMaxRows)

/-- One call of `_append_csv_row`, with the row submitted and the rows it gives up. -/
def appendCall (s : CaptureFiles) (e : Row × AppendOutcome) : Option (CaptureFiles × Row × List Row) :=
  some (appendCsvRow cfg header s e.1 e.2, e.1, overflowed cfg s e.1)

/-- No error, and the file is under its size limit wherever it is written to. -/
def Unhindered (s : CaptureFiles) (e : Row × AppendOutcome) : Prop :=
  e.2.sound = true ∧ (e.2 = .written → hasRoom cfg s = true)

instance (s : CaptureFiles) (e : Row × AppendOutcome) : Decidable (Unhindered cfg s e) :=
  inferInstanceAs (Decidable (_ ∧ _))

end Queue

/-- Each submitted row is either there or lost, and both keep the order of submission. -/
def RowsAccounted (submitted present lost : List Row) : Prop :=
  ∃ marks : List (Row × Bool), marks.map Prod.fst = submitted ∧
    (marks.filter Prod.snd).map Prod.fst = present ∧ (marks.filter (fun m => !m.2)).map Prod.fst = lost

theorem RowsAccounted.sublist {submitted present lost : List Row} (accounted : RowsAccounted submitted present lost) :
    present.Sublist submitted := by
  obtain ⟨marks, rfl, rfl, -⟩ := accounted
  exact List.filter_sublist.map _

theorem RowsAccounted.append_present {submitted present lost : List Row} (accounted : RowsAccounted submitted present lost)
    (rows : List Row) : RowsAccounted (submitted ++ rows) (present ++ rows) lost := by
  obtain ⟨marks, rfl, rfl, rfl⟩ := accounted
  refine ⟨marks ++ rows.map (·, true), ?_, ?_, ?_⟩ <;>
    simp [Function.comp_def, List.filter_map]

theorem RowsAccounted.append_lost {submitted present lost : List Row} (accounted : RowsAccounted submitted present lost)
    (rows : List Row) : RowsAccounted (submitted ++ rows) present (lost ++ rows) := by
  obtain ⟨marks, rfl, rfl, rfl⟩ := accounted
  refine ⟨marks ++ rows.map (·, false), ?_, ?_, ?_⟩ <;>
    simp [Function.comp_def, List.filter_map]

section Call

variable {cfg : CaptureConfig} {header : Row} {s : CaptureFiles} {row : Row}

theorem overflowed_append_queued : overflowed cfg s row ++ queued cfg s row = s.pending ++ [row] :=
  List.take_append_drop _ _

theorem length_queued_le : (queued cfg s row).length ≤ cfg.capturePendingMaxRows := by
  rw [queued, List.length_drop]
  omega

/-- What a call may give up: nothing, or the oldest waiting row of a queue that was full. -/
def GivesUp (cfg : CaptureConfig) (s : CaptureFiles) (lost : List Row) : Prop :=
  lost = [] ∨ ∃ oldest, s.pending.head? = some oldest ∧ lost = [oldest] ∧
    cfg.capturePendingMaxRows < s.pending.length + 1

theorem overflowed_givesUp (room : 1 ≤ cfg.capturePendingMaxRows)
    (bounded : s.pending.length ≤ cfg.capturePendingMaxRows) : GivesUp cfg s (overflowed cfg s row) := by
  unfold overflowed
  rw [List.length_append, List.length_singleton]
  by_cases full : s.pending.length = cfg.capturePendingMaxRows
  · cases waiting : s.pending with
    | nil =>
      rw [waiting, List.length_nil] at full
      omega
    | cons oldest rest =>
      have one : (oldest :: rest).length + 1 - cfg.capturePendingMaxRows = 1 := by
        rw [← waiting]
        omega
      refine Or.inr ⟨oldest, by rw [waiting]; rfl, ?_, by omega⟩
      rw [one]
      rfl
  · have none : s.pending.length + 1 - cfg.capturePendingMaxRows = 0 := by omega
    rw [none, List.take_zero]
    exact Or.inl rfl

/-- What the calls so far have come to: the rows written below those the file had, and behind
them the queue, which is the end of what was submitted. -/
structure QueueState (cfg : CaptureConfig) (header h : Row) (before submitted lost : List Row)
    (s : CaptureFiles) : Prop where
  headed : Headed header h s.capture
  bounded : s.pending.length ≤ cfg.capturePendingMaxRows
  rows : ∃ written settled, captureRows s.capture = before ++ written ∧ submitted = settled ++ s.pending ∧
    RowsAccounted settled written lost

variable {h : Row} {before submitted lost : List Row}

theorem queueState_step {e : Row × AppendOutcome} (state : QueueState cfg header h before submitted lost s)
    (unhindered : Unhindered cfg s e) :
    QueueState cfg header h before (submitted ++ [e.1]) (lost ++ overflowed cfg s e.1)
      (appendCsvRow cfg header s e.1 e.2) := by
  obtain ⟨row, outcome⟩ := e
  obtain ⟨sound, fits⟩ := unhindered
  obtain ⟨written, settled, held, rfl, accounted⟩ := state.rows
  have longer : settled ++ s.pending ++ [row] = settled ++ overflowed cfg s row ++ queued cfg s row := by
    rw [List.append_assoc, List.append_assoc, overflowed_append_queued]
  cases outcome with
  | failed part => cases sound
  | locked =>
    refine ⟨state.headed, length_queued_le, written, settled ++ overflowed cfg s row, held, longer, ?_⟩
    exact accounted.append_lost _
  | written =>
    obtain ⟨headed, below⟩ := headed_written row state.headed (fits rfl)
    have emptied : (appendCsvRow cfg header s row .written).pending = [] := by
      simp [appendCsvRow, fits rfl]
    refine ⟨headed, by rw [emptied]; exact Nat.zero_le _, written ++ queued cfg s row,
      settled ++ overflowed cfg s row ++ queued cfg s row, ?_, ?_, ?_⟩
    · rw [below, held, List.append_assoc]
    · rw [emptied, List.append_nil, longer]
    · exact (accounted.append_lost _).append_present _

end Call

theorem appendCall_submitted {cfg : CaptureConfig} {header : Row} {es : List (Row × AppendOutcome)}
    {s final : CaptureFiles} {effects : List (Row × List Row)}
    (ran : run (appendCall cfg header) s es = some (final, effects)) :
    effects.map Prod.fst = es.map Prod.fst := by
  have shows : ∀ s e mid o, appendCall cfg header s e = some (mid, o) →
      (fun o : Row × List Row => some o.1) o = (fun e : Row × AppendOutcome => some e.1) e := by
    intro s e mid o taken
    cases taken
    rfl
  simpa only [List.filterMap_eq_map'] using run_outputs shows es s final effects ran

/-- Whatever a call comes to, the queue is within its bound afterwards. -/
theorem appendCsvRow_bounded (cfg : CaptureConfig) (header : Row) (s : CaptureFiles) (row : Row)
    (outcome : AppendOutcome) :
    (appendCsvRow cfg header s row outcome).pending.length ≤ cfg.capturePendingMaxRows := by
  cases outcome with
  | locked => exact length_queued_le
  | written => cases room : hasRoom cfg s <;> simp [appendCsvRow, room]
  | failed part =>
    cases room : hasRoom cfg s with
    | true => simpa [appendCsvRow, room] using length_queued_le
    | false => simp [appendCsvRow, room]

theorem appendCall_givesUp {cfg : CaptureConfig} {header : Row} (room : 1 ≤ cfg.capturePendingMaxRows)
    (es : List (Row × AppendOutcome)) (s : CaptureFiles)
    (bounded : s.pending.length ≤ cfg.capturePendingMaxRows) :
    Always (appendCall cfg header) (fun s _ o _ => GivesUp cfg s o.2) s es := by
  refine (always_iff (I := fun s => s.pending.length ≤ cfg.capturePendingMaxRows)
    (Q := fun _ _ _ _ => True) ?_ ?_ es s bounded).mpr (always_true es s)
  · intro s e mid o _ taken _
    cases taken
    exact appendCsvRow_bounded cfg header s e.1 e.2
  · intro s e mid o bounded taken
    cases taken
    exact iff_of_true (overflowed_givesUp room bounded) trivial

/-- Calls on one path, the lock free or held as it may be: the queue stays within its bound, the
rows written and the rows waiting are the rows submitted in their order, each at most once, and
those missing were each the oldest waiting row of a full queue. -/
theorem capture_queue_in_order (cfg : CaptureConfig) (header : Row) (room : 1 ≤ cfg.capturePendingMaxRows)
    (capture staging : Option Text) (complete : Complete capture) (es : List (Row × AppendOutcome))
    (unhindered : Always (appendCall cfg header) (fun s e _ _ => Unhindered cfg s e) ⟨capture, staging, []⟩ es)
    (final : CaptureFiles) (effects : List (Row × List Row))
    (ran : run (appendCall cfg header) ⟨capture, staging, []⟩ es = some (final, effects)) :
    final.pending.length ≤ cfg.capturePendingMaxRows ∧
      (∃ written, captureRows final.capture = captureRows capture ++ written ∧
        (written ++ final.pending).Sublist (es.map Prod.fst) ∧
        RowsAccounted (es.map Prod.fst) (written ++ final.pending) (effects.flatMap Prod.snd)) ∧
      Always (appendCall cfg header) (fun s _ o _ => GivesUp cfg s o.2) ⟨capture, staging, []⟩ es := by
  have start : QueueState cfg header (captureHeader capture header) (captureRows capture) [] []
      ⟨capture, staging, []⟩ :=
    ⟨headed_start complete, Nat.zero_le _, [], [], (List.append_nil _).symm, rfl, [], rfl, rfl, rfl⟩
  have state := run_history_of_always
    (I := fun past s => QueueState cfg header (captureHeader capture header) (captureRows capture)
      (past.map Prod.fst) (past.flatMap Prod.snd) s) ?_ es [] _ final effects start unhindered ran
  · obtain ⟨written, settled, held, submitted, accounted⟩ := state.rows
    rw [List.nil_append, appendCall_submitted ran] at submitted
    have all : RowsAccounted (es.map Prod.fst) (written ++ final.pending) (effects.flatMap Prod.snd) := by
      rw [submitted]
      exact accounted.append_present _
    exact ⟨state.bounded, ⟨written, held, all.sublist, all⟩, appendCall_givesUp room es _ (Nat.zero_le _)⟩
  · intro past s e mid o state taken unhindered
    cases taken
    simpa using queueState_step state unhindered

/-- Three rows meet a held lock under a bound of two, and a fourth gets it. -/
def heldThrice : List (Row × AppendOutcome) :=
  [([['1']], .locked), ([['2']], .locked), ([['3']], .locked), ([['4']], .written)]

theorem heldThrice_in_order : ∃ final effects,
    run (appendCall { capturePendingMaxRows := 2 } [['h']]) ⟨none, none, []⟩ heldThrice = some (final, effects) ∧
    effects.flatMap Prod.snd = [[['1']], [['2']]] ∧ final.pending = [] ∧
    ∃ written, captureRows final.capture = captureRows none ++ written ∧
      (written ++ final.pending).Sublist (heldThrice.map Prod.fst) ∧
      RowsAccounted (heldThrice.map Prod.fst) (written ++ final.pending) (effects.flatMap Prod.snd) := by
  have unhindered : Always (appendCall { capturePendingMaxRows := 2 } [['h']])
      (fun s e _ _ => Unhindered { capturePendingMaxRows := 2 } s e) ⟨none, none, []⟩ heldThrice := by
    decide +kernel
  exact ⟨_, _, rfl, rfl, rfl, (capture_queue_in_order { capturePendingMaxRows := 2 } [['h']] (by decide)
    none none nofun heldThrice unhindered _ _ rfl).2.1⟩

end Flod.Stage2
