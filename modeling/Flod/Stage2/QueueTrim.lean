import Flod.Stage2.CaptureRun

/-! Which rows a capture file loses to the row bound. The bounded read keeps the last rows of the
file, which are the newest only while the file is in the order of its timestamps. A scoring run
puts the rows it scored without labelling behind those it did not score. -/

namespace Flod.Stage2
open Flod.Lib Flod.Lib.Csv

variable {F : Type} [Arith F]

/-- The receiver, the labelling job and the trimming job, one after the other. -/
inductive QueueEvent (F : Type) where
  | append (row : Row) (outcome : AppendOutcome)
  | score (job : Labelling F)
  | trim

/-- `_trim_capture_file_only` with nobody appending. -/
def trimCaptureFileOnly (cfg : CaptureConfig) (float : Field → Option (PyFloat F)) (s : CaptureFiles) :
    CaptureFiles :=
  match planTrim cfg float s.capture with
  | none => s
  | some plan => swapTrim plan s

section Queue

variable (cfg : CaptureConfig) (header : Row) (float : Field → Option (PyFloat F))

/-- What an event does to the files, with the row it submits. -/
def queueStep (s : CaptureFiles) : QueueEvent F → Option (CaptureFiles × Option Row)
  | .append row outcome => some (appendCsvRow cfg header s row outcome, some row)
  | .score job => some (processCaptureFile cfg job .allSucceed s, none)
  | .trim => some (trimCaptureFileOnly cfg float s, none)

/-- The rows a run goes on with once it has enforced the bound. -/
def retainedRows (capture : Option Text) : List Row :=
  match capture.bind (readRows cfg) with
  | none => []
  | some (_, rows, _) => (trimCsvRows float rows cfg.autoLabelMaxQueueRows).1

/-- The first row is not later than the second. -/
def NotLater (first second : Row) : Prop := (sortKey float second).lt (sortKey float first) = false

instance (first second : Row) : Decidable (NotLater float first second) := inferInstanceAs (Decidable (_ = _))

/-- No row that the bound costs is later than one that is retained. -/
def DropsOldest (s : CaptureFiles) : Prop :=
  ∀ dropped, (captureRows s.capture).Perm (dropped ++ retainedRows cfg float s.capture) →
    ∀ d ∈ dropped, ∀ r ∈ retainedRows cfg float s.capture, NotLater float d r

end Queue

section Scored

variable (job : Labelling F) (header : Row)

/-- The rows a scoring run passes over: too young, unreadable or idle. -/
def unscored (rows : List Row) : List Row :=
  (rows.filter (rightWidth header)).filter (fun row => (scorable job header row).isNone)

/-- The rows it scores without a label. -/
def undecided (rows : List Row) : List Row :=
  ((decided job (scorableRows job header (rows.filter (rightWidth header)))).filter
    (fun x => x.2.isNone)).map Prod.fst

variable {job header} in
theorem scoreRows_kept_eq {rows : List Row} {result : Scored} (scored : scoreRows job header rows = some result) :
    result.kept = unscored job header rows ++ undecided job header rows := by
  unfold scoreRows at scored
  dsimp only at scored
  split at scored
  · cases scored
    rfl
  · cases scored

theorem unscored_sublist (rows : List Row) : (unscored job header rows).Sublist rows :=
  List.filter_sublist.trans List.filter_sublist

theorem undecided_sublist (rows : List Row) : (undecided job header rows).Sublist rows := by
  have scored : ((decided job (scorableRows job header (rows.filter (rightWidth header)))).map Prod.fst).Sublist
      rows := by
    rw [decided_rows, scorableRows_rows]
    exact List.filter_sublist.trans List.filter_sublist
  exact (List.filter_sublist.map _).trans scored

end Scored

section Order

variable {cfg : CaptureConfig} {header : Row} {float : Field → Option (PyFloat F)}

/-- Of the rows a scoring run leaves in the file, none that it scored is older than one that it
did not. -/
def LeavesInOrder (cfg : CaptureConfig) (float : Field → Option (PyFloat F)) (s : CaptureFiles) :
    QueueEvent F → Prop
  | .score job => (planLabels cfg job s.capture).isSome = true →
      ∀ u ∈ unscored job (captureHeader s.capture []) (retainedRows cfg float s.capture),
        ∀ d ∈ undecided job (captureHeader s.capture []) (retainedRows cfg float s.capture), NotLater float u d
  | _ => True

theorem retainedRows_eq (cfg : CaptureConfig) (float : Field → Option (PyFloat F)) (capture : Option Text) :
    retainedRows cfg float capture =
      (captureRows capture).drop ((captureRows capture).length - cfg.autoLabelMaxQueueRows) := by
  cases capture with
  | none => simp [retainedRows, captureRows]
  | some text =>
    cases records : read text with
    | nil => simp [retainedRows, readRows, captureRows, records]
    | cons first rows => simp [retainedRows, readRows, captureRows, records, trimCsvRows_drop]

theorem dropsOldest_of_ordered {s : CaptureFiles} (ordered : (captureRows s.capture).Pairwise (NotLater float)) :
    DropsOldest cfg float s := by
  intro dropped rows d lost r kept
  rw [retainedRows_eq] at rows kept
  have split := List.take_append_drop ((captureRows s.capture).length - cfg.autoLabelMaxQueueRows)
    (captureRows s.capture)
  have same : dropped.Perm ((captureRows s.capture).take
      ((captureRows s.capture).length - cfg.autoLabelMaxQueueRows)) := by
    apply (List.perm_append_right_iff ((captureRows s.capture).drop
      ((captureRows s.capture).length - cfg.autoLabelMaxQueueRows))).mp
    rw [split]
    exact rows.symm
  rw [← split, List.pairwise_append] at ordered
  exact ordered.2.2 d (same.mem_iff.mp lost) r kept

variable (cfg float) in
/-- A scoring run leaves the file alone, or leaves in it what it kept of the rows retained. -/
theorem processCaptureFile_cases {s : CaptureFiles} {h : Row} (job : Labelling F)
    (headed : Headed header h s.capture) :
    processCaptureFile cfg job .allSucceed s = s ∨
      ∃ scored, (planLabels cfg job s.capture).isSome = true ∧ captureHeader s.capture [] = h ∧
        scoreRows job h (retainedRows cfg float s.capture) = some scored ∧
        (processCaptureFile cfg job .allSucceed s).capture = some (write (h :: scored.kept)) ∧
        (processCaptureFile cfg job .allSucceed s).pending = s.pending := by
  obtain ⟨_ | text, staging, pending⟩ := s
  · exact Or.inl rfl
  · cases planned : planLabels cfg job (some text) with
    | none => exact Or.inl (by simp [processCaptureFile, planned])
    | some plan =>
      obtain ⟨first, rows, scored, records, split, rfl⟩ := planLabels_cases planned
      have under := (headed.closed text rfl).2
      rw [records] at under
      obtain ⟨rfl, below⟩ := List.cons.inj under
      refine Or.inr ⟨scored, rfl, by simp [captureHeader, records], ?_, ?_, ?_⟩
      · rw [retainedRows_eq, ← below]
        exact split
      · simp [processCaptureFile, planned, swapLabels, readAppendedRows, FileOps.replaces, FileOps.allSucceed]
      · simp [processCaptureFile, planned, swapLabels, readAppendedRows]

variable (cfg float) in
/-- A trimming run leaves the file alone, or leaves in it the rows retained. -/
theorem trimCaptureFileOnly_cases {s : CaptureFiles} {h : Row} (headed : Headed header h s.capture) :
    trimCaptureFileOnly cfg float s = s ∨
      trimCaptureFileOnly cfg float s =
        { s with capture := some (write (h :: retainedRows cfg float s.capture)) } := by
  obtain ⟨_ | text, staging, pending⟩ := s
  · exact Or.inl rfl
  · have under := (headed.closed text rfl).2
    have planned : planTrim cfg float (some text) =
        if (captureRows (some text)).length ≤ cfg.autoLabelMaxQueueRows then none
        else some (h, retainedRows cfg float (some text)) := by
      rw [retainedRows_eq]
      simp [planTrim, readRows, under, trimCsvRows_drop]
    by_cases within : (captureRows (some text)).length ≤ cfg.autoLabelMaxQueueRows
    · exact Or.inl (by simp [trimCaptureFileOnly, planned, within])
    · exact Or.inr (by simp [trimCaptureFileOnly, planned, within, swapTrim])

/-- The file is in order with the queue behind it, and holds nothing but rows submitted. -/
structure OrderState (header : Row) (float : Field → Option (PyFloat F)) (submitted : List Row)
    (s : CaptureFiles) : Prop where
  headed : Headed header header s.capture
  ordered : (captureRows s.capture ++ s.pending).Pairwise (NotLater float)
  known : ∀ row ∈ captureRows s.capture ++ s.pending, row ∈ submitted

/-- No error, and a scoring run leaves the rows in order. -/
def KeepsOrder (cfg : CaptureConfig) (float : Field → Option (PyFloat F)) (s : CaptureFiles) : QueueEvent F → Prop
  | .append _ outcome => outcome.sound = true
  | e => LeavesInOrder cfg float s e

instance (cfg : CaptureConfig) (float : Field → Option (PyFloat F)) (s : CaptureFiles) :
    (e : QueueEvent F) → Decidable (KeepsOrder cfg float s e)
  | .append _ _ => inferInstanceAs (Decidable (_ = _))
  | .score job => inferInstanceAs (Decidable ((planLabels cfg job s.capture).isSome = true →
      ∀ u ∈ unscored job (captureHeader s.capture []) (retainedRows cfg float s.capture),
        ∀ d ∈ undecided job (captureHeader s.capture []) (retainedRows cfg float s.capture), NotLater float u d))
  | .trim => isTrue trivial

variable {submitted : List Row} {s : CaptureFiles}

variable (cfg) in
/-- The rows of the file and the queue after an append are rows that were there, in their order,
and the new one behind them. -/
theorem appendCsvRow_sublist (row : Row) {outcome : AppendOutcome} (headed : Headed header header s.capture)
    (sound : outcome.sound = true) :
    Headed header header (appendCsvRow cfg header s row outcome).capture ∧
      (captureRows (appendCsvRow cfg header s row outcome).capture ++
        (appendCsvRow cfg header s row outcome).pending).Sublist
          (captureRows s.capture ++ s.pending ++ [row]) := by
  have waiting : (queued cfg s row).Sublist (s.pending ++ [row]) := List.drop_sublist _ _
  rw [List.append_assoc]
  cases outcome with
  | failed part => cases sound
  | locked => exact ⟨headed, (List.Sublist.refl _).append waiting⟩
  | written =>
    cases room : hasRoom cfg s with
    | true =>
      obtain ⟨headed', below⟩ := headed_written row headed room
      refine ⟨headed', ?_⟩
      have emptied : (appendCsvRow cfg header s row .written).pending = [] := by simp [appendCsvRow, room]
      rw [below, emptied, List.append_nil]
      exact (List.Sublist.refl _).append waiting
    | false =>
      have skipped : appendCsvRow cfg header s row .written = { s with pending := [] } := by
        simp [appendCsvRow, room]
      rw [skipped]
      exact ⟨headed, (List.Sublist.refl _).append (List.nil_sublist _)⟩

theorem OrderState.append {row : Row} {outcome : AppendOutcome} (state : OrderState header float submitted s)
    (later : ∀ old ∈ submitted, NotLater float old row) (sound : outcome.sound = true) :
    OrderState header float (submitted ++ [row]) (appendCsvRow cfg header s row outcome) := by
  obtain ⟨headed, fewer⟩ := appendCsvRow_sublist cfg row state.headed sound
  have ordered : (captureRows s.capture ++ s.pending ++ [row]).Pairwise (NotLater float) := by
    rw [List.pairwise_append]
    refine ⟨state.ordered, List.pairwise_singleton _ _, fun old member new same => ?_⟩
    rw [List.mem_singleton.mp same]
    exact later old (state.known old member)
  refine ⟨headed, ordered.sublist fewer, fun other member => ?_⟩
  rcases List.mem_append.mp (fewer.subset member) with old | new
  · exact List.mem_append_left _ (state.known other old)
  · exact List.mem_append_right _ new

/-- A run that puts rows of the file back in order under the header. -/
theorem OrderState.rewritten {rows : List Row} {after : CaptureFiles} (state : OrderState header float submitted s)
    (replaced : after.capture = some (write (header :: rows))) (waiting : after.pending = s.pending)
    (inside : rows ⊆ captureRows s.capture) (ordered : rows.Pairwise (NotLater float)) :
    OrderState header float submitted after := by
  obtain ⟨headed, below⟩ : Headed header header (some (write (header :: rows))) ∧
      captureRows (some (write (header :: rows))) = rows :=
    headed_some (closed_write _) (read_write _)
  have known : ∀ row ∈ rows ++ s.pending, row ∈ captureRows s.capture ++ s.pending := by
    intro row member
    rcases List.mem_append.mp member with old | queued
    · exact List.mem_append_left _ (inside old)
    · exact List.mem_append_right _ queued
  obtain ⟨-, queue, across⟩ := List.pairwise_append.mp state.ordered
  refine ⟨by rw [replaced]; exact headed, ?_, ?_⟩
  · rw [replaced, waiting, below, List.pairwise_append]
    exact ⟨ordered, queue, fun old member => across old (inside member)⟩
  · rw [replaced, waiting, below]
    exact fun row member => state.known row (known row member)

theorem OrderState.score {job : Labelling F} (state : OrderState header float submitted s)
    (leaves : LeavesInOrder cfg float s (.score job)) :
    OrderState header float submitted (processCaptureFile cfg job .allSucceed s) := by
  rcases processCaptureFile_cases cfg float job state.headed with
    same | ⟨scored, planned, top, split, replaced, waiting⟩
  · rw [same]
    exact state
  · have within : (retainedRows cfg float s.capture).Sublist (captureRows s.capture) := by
      rw [retainedRows_eq]
      exact List.drop_sublist _ _
    have ordered := (List.pairwise_append.mp state.ordered).1.sublist within
    have first := unscored_sublist job header (retainedRows cfg float s.capture)
    have second := undecided_sublist job header (retainedRows cfg float s.capture)
    rw [scoreRows_kept_eq split] at replaced
    refine state.rewritten replaced waiting ?_ ?_
    · exact List.append_subset.mpr ⟨(first.trans within).subset, (second.trans within).subset⟩
    · rw [List.pairwise_append]
      have apart := leaves planned
      rw [top] at apart
      exact ⟨ordered.sublist first, ordered.sublist second, apart⟩

theorem OrderState.trim (state : OrderState header float submitted s) :
    OrderState header float submitted (trimCaptureFileOnly cfg float s) := by
  rcases trimCaptureFileOnly_cases cfg float state.headed with same | replaced
  · rw [same]
    exact state
  · rw [replaced]
    have within : (retainedRows cfg float s.capture).Sublist (captureRows s.capture) := by
      rw [retainedRows_eq]
      exact List.drop_sublist _ _
    exact state.rewritten rfl rfl within.subset ((List.pairwise_append.mp state.ordered).1.sublist within)

theorem orderState_step {past : List (Option Row)} {e : QueueEvent F} {mid : CaptureFiles} {o : Option Row}
    (state : (past.filterMap id).Pairwise (NotLater float) → OrderState header float (past.filterMap id) s)
    (taken : queueStep cfg header float s e = some (mid, o)) (orderly : KeepsOrder cfg float s e) :
    ((past ++ [o]).filterMap id).Pairwise (NotLater float) →
      OrderState header float ((past ++ [o]).filterMap id) mid := by
  intro times
  rw [List.filterMap_append] at times ⊢
  obtain ⟨before, -, across⟩ := List.pairwise_append.mp times
  cases e with
  | append row outcome =>
    cases taken
    exact (state before).append (fun old member => across old member row (by simp)) orderly
  | score job =>
    cases taken
    simpa using (state before).score orderly
  | trim =>
    cases taken
    simpa using (state before).trim

end Order

/-- After appends in the order of their times and runs of the two jobs, one after the other, of
which no scoring run left a row it scored behind a younger one it did not, no row that the bound
costs the next run is later than one the run retains. -/
theorem bound_drops_oldest (cfg : CaptureConfig) (header : Row) (float : Field → Option (PyFloat F))
    (staging : Option Text) (es : List (QueueEvent F)) (final : CaptureFiles) (submitted : List (Option Row))
    (times : (submitted.filterMap id).Pairwise (NotLater float))
    (orderly : Always (queueStep cfg header float) (fun s e _ _ => KeepsOrder cfg float s e) ⟨none, staging, []⟩ es)
    (ran : run (queueStep cfg header float) ⟨none, staging, []⟩ es = some (final, submitted)) :
    DropsOldest cfg float final := by
  have start : OrderState header float [] ⟨none, staging, []⟩ :=
    ⟨⟨fun _ => rfl, nofun⟩, List.Pairwise.nil, nofun⟩
  have state := run_history_of_always
    (I := fun past s => (past.filterMap id).Pairwise (NotLater float) →
      OrderState header float (past.filterMap id) s)
    (fun past s e mid o state taken orderly => orderState_step state taken orderly)
    es [] _ final submitted (fun _ => start) orderly ran
  exact dropsOldest_of_ordered (List.pairwise_append.mp (state times).ordered).1

/-- A row to label and one too young for it, the file scored, and two more rows. -/
def labelledFirst : List (QueueEvent ℚ) :=
  [.append (capturedAt ['5']) .written, .append (capturedAt (List.replicate 7 '8')) .written,
    .score sureLabelling, .append (capturedAt (List.replicate 7 '9')) .locked,
    .append (capturedAt (List.replicate 7 '9')) .written]

theorem labelledFirst_drops_oldest : ∃ final submitted,
    run (queueStep { autoLabelMaxQueueRows := 2 } baseCsvHeader readSeconds) ⟨none, none, []⟩ labelledFirst =
      some (final, submitted) ∧
    (captureRows final.capture).length = 3 ∧ DropsOldest { autoLabelMaxQueueRows := 2 } readSeconds final := by
  have computed : ∃ final submitted,
      run (queueStep { autoLabelMaxQueueRows := 2 } baseCsvHeader readSeconds) ⟨none, none, []⟩ labelledFirst =
        some (final, submitted) ∧ (captureRows final.capture).length = 3 ∧
      (submitted.filterMap id).Pairwise (NotLater readSeconds) := by
    decide +kernel
  obtain ⟨final, submitted, ran, three, times⟩ := computed
  exact ⟨final, submitted, ran, three, bound_drops_oldest { autoLabelMaxQueueRows := 2 } baseCsvHeader readSeconds
    none labelledFirst final submitted times (by decide +kernel) ran⟩

theorem wavering_one_per_class (rows : List (Features ℚ)) :
    ∀ proba ∈ rows.map (fun f => if f.entropy = 1 then ([0, 1, 0] : List ℚ) else [1, 0, 0]),
      proba.length = [0, 1, 2].length := by
  intro proba member
  obtain ⟨f, -, rfl⟩ := List.mem_map.mp member
  split <;> rfl

theorem wavering_trained : ([0, 1, 2] : List Nat) ≠ [] := List.cons_ne_nil 0 [1, 2]

/-- A model that agrees with the sure one on windows of entropy one only. -/
def wavering : Classifier ℚ where
  classes := [0, 1, 2]
  predictProba rows := rows.map (fun f => if f.entropy = 1 then [0, 1, 0] else [1, 0, 0])
  trained := wavering_trained
  one_each _ := List.length_map _
  one_per_class := wavering_one_per_class

def waveringLabelling : Labelling ℚ := { sureLabelling with secondClf := wavering }

/-- A row the two models disagree on. -/
def disputedAt (time : Field) : Row := ['2'] :: List.replicate 10 ['1'] ++ [time, []]

/-- A row to label, one to dispute and one too young come in, and the file is scored. -/
def scoredOnce : List (QueueEvent ℚ) :=
  [.append (capturedAt ['5']) .written, .append (disputedAt ['6']) .written,
    .append (capturedAt (List.replicate 7 '8')) .written, .score waveringLabelling]

/-- Two more rows then bring it over a bound of three. -/
def overThree : List (QueueEvent ℚ) :=
  scoredOnce ++ [.append (capturedAt (List.replicate 7 '9')) .written,
    .append (capturedAt (List.replicate 7 '9')) .written]

/-- The trim that follows drops a row of time 8888888 and retains one of time 6. -/
theorem younger_dropped : ∃ final submitted,
    run (queueStep { autoLabelMaxQueueRows := 3 } baseCsvHeader readSeconds) ⟨none, none, []⟩ overThree =
      some (final, submitted) ∧
    (submitted.filterMap id).Pairwise (NotLater readSeconds) ∧
    captureRows final.capture = [capturedAt (List.replicate 7 '8'), disputedAt ['6'],
      capturedAt (List.replicate 7 '9'), capturedAt (List.replicate 7 '9')] ∧
    captureRows (trimCaptureFileOnly { autoLabelMaxQueueRows := 3 } readSeconds final).capture =
      [disputedAt ['6'], capturedAt (List.replicate 7 '9'), capturedAt (List.replicate 7 '9')] ∧
    ¬ DropsOldest { autoLabelMaxQueueRows := 3 } readSeconds final := by
  have computed : ∃ final submitted,
      run (queueStep { autoLabelMaxQueueRows := 3 } baseCsvHeader readSeconds) ⟨none, none, []⟩ overThree =
        some (final, submitted) ∧
      (submitted.filterMap id).Pairwise (NotLater readSeconds) ∧
      captureRows final.capture = [capturedAt (List.replicate 7 '8'), disputedAt ['6'],
        capturedAt (List.replicate 7 '9'), capturedAt (List.replicate 7 '9')] ∧
      captureRows (trimCaptureFileOnly { autoLabelMaxQueueRows := 3 } readSeconds final).capture =
        [disputedAt ['6'], capturedAt (List.replicate 7 '9'), capturedAt (List.replicate 7 '9')] := by
    decide +kernel
  obtain ⟨final, submitted, ran, times, rows, trimmed⟩ := computed
  refine ⟨final, submitted, ran, times, rows, trimmed, fun oldest => ?_⟩
  have retained := retainedRows_eq { autoLabelMaxQueueRows := 3 } readSeconds final.capture
  rw [rows] at retained
  have later := oldest [capturedAt (List.replicate 7 '8')] (by rw [rows, retained]; rfl) _ List.mem_cons_self
    (disputedAt ['6']) (by rw [retained]; exact List.mem_cons_self)
  exact absurd later (by decide)

end Flod.Stage2
