import Flod.Lib.Dict
import Flod.Stage2.SessionTrim

/-! The trim as a standalone script. It reads the rows by the names of their columns, writes the
session into the row itself, and numbers the sessions before it counts the classes. On the rows of
a training file it drops what the trim of the dashboard drops. -/

namespace Flod.Scripts
open Flod.Lib Flod.Lib.Csv Flod.Lib.Runs Flod.Stage2

/-- A value of a row: a text of the file, a number the script put there, or nothing where the line
was too short. -/
inductive Cell where
  | text (t : Field)
  | number (n : Nat)
  | absent
deriving DecidableEq

/-- A row by the names of its columns. -/
abbrev Record := Dict Field Cell

def labelName : Field := "label".toList

def timestampName : Field := "timestamp".toList

def sessionKey : Field := "_session_id".toList

/-- The cells of a line, with nothing for the columns it does not reach. -/
def cells (header row : Row) : List Cell :=
  row.map Cell.text ++ List.replicate (header.length - row.length) .absent

/-- One row of `csv.DictReader`. What a line has beyond the header nothing reads again. -/
def readRecord (header row : Row) : Record :=
  (header.zip (cells header row)).foldl (fun d x => d.set x.1 x.2) Dict.empty

/-- The row written back: the values of the header's columns. None is a missing column. -/
def writeRecord (header : Row) (r : Record) : Option (List Cell) := header.mapM r.get?

section Trim

variable {F : Type} [Arith F] (job : Balancing F)

/-- `float(r["timestamp"])`, where it raises nothing. -/
def timeOf (r : Record) : Option (PyFloat F) :=
  match r.get? timestampName with
  | some (.text t) => job.float t
  | _ => none

/-- Session numbers for rows in the order of their times, each put into its row. -/
def tagRecords : Option (PyFloat F × Cell) → Nat → List (Record × PyFloat F) → Option (List Record)
  | _, _, [] => some []
  | previous, session, (r, ts) :: rest =>
      (r.get? labelName).bind fun label =>
        let isNew := match previous with
          | none => true
          | some (previousTs, previousLabel) => ts.gapAfter previousTs || decide (label ≠ previousLabel)
        let own := if isNew then session + 1 else session
        (tagRecords (some (ts, label)) own rest).map (r.set sessionKey (.number own) :: ·)

/-- `assign_sessions`. None is an exception: a time that is no number, or no label column. -/
def assignSessions (rows : List Record) : Option (List Record) := do
  let timed ← rows.mapM (fun r => (timeOf job r).map (fun ts => (r, ts)))
  tagRecords none 0 (timed.mergeSort (fun a b => !b.2.lt a.2))

/-- `row["_session_id"]`, a number once the sessions are assigned. -/
def sessionOf (r : Record) : Nat :=
  match r.get? sessionKey with
  | some (.number n) => n
  | _ => 0

def hasLabel (label : Field) (r : Record) : Bool := decide (r.get? labelName = some (.text label))

/-- `trim_ddos_sessions` of the script. -/
def trimDdosSessions (rows : List Record) : Option (Trimmed Record) := do
  let tagged ← assignSessions job rows
  let count label := tagged.countP (hasLabel label)
  let cap := min (count normalLabel) (count flashCrowdLabel)
  if count ddosLabel ≤ cap then pure ⟨tagged, 0, cap⟩
  else
    let attacks := tagged.filter (hasLabel ddosLabel)
    let size id := attacks.countP (fun r => sessionOf r = id)
    let kept := keepSessions size cap (job.shuffle (attacks.map sessionOf).eraseDups) ([], 0)
    let stays := tagged.filter (fun r => !hasLabel ddosLabel r || decide (sessionOf r ∈ kept.1))
    pure ⟨stays, count ddosLabel - kept.2, cap⟩

/-- How a run of the script ends. -/
inductive FileOutcome where
  | refused
  | raised
  | nothingToTrim
  | dryRun (dropped cap : Nat)
  | wrote (rows : List (List Cell))

/-- `main`, after the file is read and before it is written. -/
def trimFile (header : Row) (rows : List Row) (dryRun : Bool) : FileOutcome :=
  if header.contains labelName && header.contains timestampName then
    match trimDdosSessions job (rows.map (readRecord header)) with
    | none => .raised
    | some result =>
        if result.dropped = 0 then .nothingToTrim
        else if dryRun then .dryRun result.dropped result.cap
        else match result.kept.mapM (writeRecord header) with
          | none => .raised
          | some written => .wrote written
  else .refused

end Trim

section Records

theorem readRecord_entries {header row : Row} (distinct : header.Nodup) (width : row.length = header.length) :
    (readRecord header row).entries = header.zip (row.map Cell.text) := by
  have full : cells header row = row.map Cell.text := by simp [cells, width]
  have fold : ∀ (pairs : List (Field × Cell)) (d : Record), (pairs.foldl (fun d x => d.set x.1 x.2) d).entries =
      pairs.foldl (fun entries e => Dict.putIn e.1 e.2 entries) d.entries := by
    intro pairs
    induction pairs with
    | nil =>
      intro d
      rfl
    | cons pair rest ih =>
      intro d
      rw [List.foldl_cons, ih, List.foldl_cons]
      rfl
  have names : (header.zip (row.map Cell.text)).map Prod.fst = header := List.map_fst_zip (by simp [width])
  rw [readRecord, full, fold]
  exact Dict.foldl_putIn _ [] (by rw [List.nil_append, names]; exact distinct)

theorem readRecord_get? {header row : Row} {i : Nat} {name : Field} (distinct : header.Nodup)
    (width : row.length = header.length) (named : header[i]? = some name) :
    (readRecord header row).get? name = row[i]?.map Cell.text := by
  have bound : i < row.length := width ▸ (List.getElem?_eq_some_iff.mp named).1
  rw [List.getElem?_eq_getElem bound, Option.map_some, Dict.get?_eq_some_iff, readRecord_entries distinct width]
  apply List.mem_of_getElem? (i := i)
  rw [List.getElem?_zip_eq_some]
  exact ⟨named, by rw [List.getElem?_map, List.getElem?_eq_getElem bound, Option.map_some]⟩

theorem mapM_places {α β : Type} {f : α → Option β} : ∀ (names : List α) (values : List β),
    names.length = values.length → (∀ (i : Nat) (name : α), names[i]? = some name → f name = values[i]?) →
      names.mapM f = some values
  | [], [], _, _ => rfl
  | [], _ :: _, size, _ => by simp at size
  | _ :: _, [], size, _ => by simp at size
  | name :: names, value :: values, size, places => by
    have first : f name = some value := places 0 name rfl
    have later := mapM_places names values (by simpa using size)
      (fun i other found => places (i + 1) other found)
    rw [List.mapM_cons, first, later]
    rfl

/-- A training row with the number of its session, as the script holds it. -/
def marked (x : Row × Nat) : Record := (readRecord baseCsvHeader x.1).set sessionKey (.number x.2)

variable {x : Row × Nat} (width : x.1.length = 13)
include width

theorem marked_get? {i : Nat} {name : Field} (named : baseCsvHeader[i]? = some name) :
    (marked x).get? name = x.1[i]?.map Cell.text := by
  have other : name ≠ sessionKey := by
    intro same
    have inside := List.mem_of_getElem? named
    rw [same] at inside
    exact absurd inside (by decide)
  rw [marked, Dict.get?_set_of_ne _ _ other]
  exact readRecord_get? (by decide) width named

theorem labelOf_text : x.1[labelCol]?.map Cell.text = some (.text (labelOf id x.1)) := by
  have bound : labelCol < x.1.length := by rw [width]; decide
  rw [labelOf, id, List.getElem?_eq_getElem bound]
  rfl

theorem hasLabel_marked (label : Field) : hasLabel label (marked x) = decide (labelOf id x.1 = label) := by
  have named : (marked x).get? labelName = some (.text (labelOf id x.1)) := by
    rw [marked_get? width (by decide : baseCsvHeader[labelCol]? = some labelName), labelOf_text width]
  simp [hasLabel, named]

omit width in
theorem sessionOf_marked : sessionOf (marked x) = x.2 := by simp [sessionOf, marked]

/-- What the script puts into a row is not written back. -/
theorem writeRecord_marked : writeRecord baseCsvHeader (marked x) = some (x.1.map Cell.text) := by
  apply mapM_places
  · rw [List.length_map, width]
    decide
  · intro i name named
    rw [marked_get? width named, List.getElem?_map]

end Records

section Agreement

variable {F : Type} [Arith F] {job : Balancing F}

theorem tagRecords_marked : ∀ (timed : List (Row × PyFloat F)) (previous : Option (PyFloat F × Field)) (n : Nat),
    (∀ x ∈ timed, x.1.length = 13) →
      tagRecords (previous.map (fun p => (p.1, .text p.2))) n (timed.map (Prod.map (readRecord baseCsvHeader) id)) =
        some ((tagSessions id previous n timed).map marked)
  | [], _, _, _ => rfl
  | (row, ts) :: rest, previous, n, wide => by
    have width : row.length = 13 := wide (row, ts) List.mem_cons_self
    have named : (readRecord baseCsvHeader row).get? labelName = some (.text (labelOf id row)) := by
      have place : baseCsvHeader[labelCol]? = some labelName := by decide
      rw [readRecord_get? (by decide) width place]
      exact labelOf_text (x := (row, n)) width
    have again := fun own => tagRecords_marked rest (some (ts, labelOf id row)) own
      (fun x inside => wide x (List.mem_cons_of_mem _ inside))
    cases previous with
    | none =>
      simp only [List.map_cons, Prod.map_apply, id_eq, tagRecords, named, Option.bind_some, Option.map_none,
        if_true, tagSessions]
      rw [show some (ts, Cell.text (labelOf id row)) =
        (some (ts, labelOf id row)).map (fun p => (p.1, Cell.text p.2)) from rfl, again]
      rfl
    | some p =>
      simp only [List.map_cons, Prod.map_apply, id_eq, tagRecords, named, Option.bind_some, Option.map_some,
        ne_eq, Cell.text.injEq, tagSessions]
      rw [show some (ts, Cell.text (labelOf id row)) =
        (some (ts, labelOf id row)).map (fun p => (p.1, Cell.text p.2)) from rfl, again]
      rfl

omit [Arith F] in
theorem timeOf_readRecord {row : Row} (width : row.length = 13) :
    timeOf job (readRecord baseCsvHeader row) = (id row)[timestampCol]?.bind job.float := by
  have place : baseCsvHeader[timestampCol]? = some timestampName := by decide
  rw [timeOf, readRecord_get? (by decide) width place, id]
  cases row[timestampCol]? <;> rfl

omit [Arith F] in
theorem mapM_timeOf {rows : List Row} (wide : ∀ r ∈ rows, r.length = 13) :
    (rows.map (readRecord baseCsvHeader)).mapM (fun r => (timeOf job r).map (fun ts => (r, ts))) =
      (timedRows id job rows).map (List.map (Prod.map (readRecord baseCsvHeader) id)) := by
  unfold timedRows
  induction rows with
  | nil => rfl
  | cons row rest ih =>
    have later := ih (fun r inside => wide r (List.mem_cons_of_mem row inside))
    rw [List.map_cons, List.mapM_cons, List.mapM_cons, later, timeOf_readRecord (wide row List.mem_cons_self)]
    cases (id row)[timestampCol]?.bind job.float with
    | none => rfl
    | some ts =>
      cases rest.mapM (fun r => ((id r)[timestampCol]?.bind job.float).map (fun ts => (r, ts))) <;> rfl

/-- The script tags the rows as the trim of the dashboard does. -/
theorem assignSessions_marked {rows : List Row} (wide : ∀ r ∈ rows, r.length = 13) :
    assignSessions job (rows.map (readRecord baseCsvHeader)) =
      (Stage2.assignSessions id job rows).map (List.map marked) := by
  unfold assignSessions
  rw [mapM_timeOf wide]
  show ((timedRows id job rows).map _).bind _ = ((timedRows id job rows).bind _).map _
  cases read : timedRows id job rows with
  | none => rfl
  | some timed =>
    have inside : ∀ x ∈ timed.mergeSort (fun a b => !b.2.lt a.2), x.1.length = 13 := by
      intro x member
      apply wide
      rw [← mapM_timed read]
      exact List.mem_map_of_mem (List.mem_mergeSort.mp member)
    have sorted : (timed.map (Prod.map (readRecord baseCsvHeader) id)).mergeSort (fun a b => !b.2.lt a.2) =
        (timed.mergeSort (fun a b => !b.2.lt a.2)).map (Prod.map (readRecord baseCsvHeader) id) := by
      rw [List.map_mergeSort]
      intro a _ b _
      rfl
    simp only [Option.map_some, Option.bind_some, sorted]
    exact tagRecords_marked _ none 0 inside

/-- Sorted and tagged or not, the rows of a class are as many. -/
theorem count_marked {rows : List Row} {tagged : List (Row × Nat)}
    (assigned : Stage2.assignSessions id job rows = some tagged) (wide : ∀ x ∈ tagged, x.1.length = 13)
    (label : Field) : (tagged.map marked).countP (hasLabel label) =
      rows.countP (fun r => labelOf id r = label) := by
  calc (tagged.map marked).countP (hasLabel label)
      = (tagged.map Prod.fst).countP (fun r => labelOf id r = label) := by
        rw [List.countP_map, List.countP_map]
        apply List.countP_congr
        intro x inside
        rw [Function.comp_apply, hasLabel_marked (wide x inside)]
        rfl
    _ = rows.countP (fun r => labelOf id r = label) := (assignSessions_rows assigned).countP_eq _

theorem attacks_marked {tagged : List (Row × Nat)} (wide : ∀ x ∈ tagged, x.1.length = 13) :
    (tagged.map marked).filter (hasLabel ddosLabel) =
      (tagged.filter (fun x => decide (labelOf id x.1 = ddosLabel))).map marked := by
  rw [List.filter_map]
  congr 1
  apply List.filter_congr
  intro x inside
  exact hasLabel_marked (wide x inside) ddosLabel

theorem stays_marked {tagged : List (Row × Nat)} (wide : ∀ x ∈ tagged, x.1.length = 13) (ids : List Nat) :
    (tagged.map marked).filter (fun r => !hasLabel ddosLabel r || decide (sessionOf r ∈ ids)) =
      (tagged.filter (fun x => decide (labelOf id x.1 ≠ ddosLabel) || decide (x.2 ∈ ids))).map marked := by
  rw [List.filter_map]
  congr 1
  apply List.filter_congr
  intro x inside
  rw [Function.comp_apply, hasLabel_marked (wide x inside), sessionOf_marked, decide_not]

theorem write_marked {tagged : List (Row × Nat)} (wide : ∀ x ∈ tagged, x.1.length = 13) :
    (tagged.map marked).mapM (writeRecord baseCsvHeader) = some ((tagged.map Prod.fst).map (List.map Cell.text)) := by
  induction tagged with
  | nil => rfl
  | cons x rest ih =>
    have later := ih (fun y inside => wide y (List.mem_cons_of_mem x inside))
    rw [List.map_cons, List.mapM_cons, writeRecord_marked (wide x List.mem_cons_self), later]
    rfl

/-- The script's result is that of the dashboard's trim, row by row in the script's form. -/
theorem trimDdosSessions_marked (job : Balancing F) (rows : List Row) (wide : ∀ r ∈ rows, r.length = 13)
    (timed : ∀ r ∈ rows, ∃ ts, r[timestampCol]?.bind job.float = some ts) :
    ∃ (kept : List (Row × Nat)) (dashboard : Trimmed Row),
      Stage2.trimDdosSessions id job rows = some dashboard ∧
      trimDdosSessions job (rows.map (readRecord baseCsvHeader)) =
        some ⟨kept.map marked, dashboard.dropped, dashboard.cap⟩ ∧
      (∀ x ∈ kept, x.1.length = 13) ∧ (0 < dashboard.dropped → kept.map Prod.fst = dashboard.kept) := by
  obtain ⟨sessions, found⟩ := sessionsOf_some id job rows timed
  obtain ⟨tagged, assigned⟩ : ∃ tagged, Stage2.assignSessions id job rows = some tagged := by
    rw [assignSessions_eq, found]
    exact ⟨_, rfl⟩
  have inside : ∀ x ∈ tagged, x.1.length = 13 := fun x member =>
    wide x.1 ((assignSessions_rows assigned).subset (List.mem_map_of_mem member))
  have labelled : rows.all (fun r => decide (labelCol < (id r).length)) = true := by
    apply List.all_eq_true.mpr
    intro r member
    simp [wide r member, labelCol]
  unfold trimDdosSessions Stage2.trimDdosSessions
  rw [assignSessions_marked wide, assigned]
  dsimp only
  rw [if_pos labelled]
  simp only [Option.map_some, Option.bind_eq_bind, Option.bind_some, count_marked assigned inside,
    attacks_marked inside, stays_marked inside, List.countP_map, List.map_map, Function.comp_def, sessionOf_marked]
  split
  · exact ⟨tagged, _, rfl, rfl, inside, fun some_row => absurd some_row (Nat.lt_irrefl 0)⟩
  · exact ⟨_, _, rfl, rfl, fun x member => inside x (List.mem_of_mem_filter member), fun _ => rfl⟩

/-- On the rows of a training file the script and the trim of the dashboard drop as many rows under
the same cap, and where any are dropped they leave the same rows in the same order. -/
theorem script_agrees (job : Balancing F) (rows : List Row) (wide : ∀ r ∈ rows, r.length = 13)
    (timed : ∀ r ∈ rows, ∃ ts, r[timestampCol]?.bind job.float = some ts) :
    ∃ script dashboard, trimDdosSessions job (rows.map (readRecord baseCsvHeader)) = some script ∧
      Stage2.trimDdosSessions id job rows = some dashboard ∧
      script.dropped = dashboard.dropped ∧ script.cap = dashboard.cap ∧
      (0 < dashboard.dropped →
        script.kept.mapM (writeRecord baseCsvHeader) = some (dashboard.kept.map (List.map Cell.text))) := by
  obtain ⟨kept, dashboard, trims, ran, inside, same⟩ := trimDdosSessions_marked job rows wide timed
  refine ⟨_, dashboard, ran, trims, rfl, rfl, fun some_row => ?_⟩
  rw [← same some_row]
  exact write_marked inside

theorem twoAttacks_agree : ∃ script dashboard,
    trimDdosSessions reversing (twoAttacks.map (readRecord baseCsvHeader)) = some script ∧
    Stage2.trimDdosSessions id reversing twoAttacks = some dashboard ∧ dashboard.dropped = 2 ∧
    script.dropped = 2 ∧
    script.kept.mapM (writeRecord baseCsvHeader) = some (dashboard.kept.map (List.map Cell.text)) := by
  obtain ⟨script, dashboard, ran, trims, dropped, -, rows⟩ := script_agrees reversing twoAttacks (by decide)
    (fun r member => (reversing_timed _ (by decide) r member).imp fun _ read => read.1)
  have computed := trim_sorted twoAttacks (by decide) (by decide +kernel)
  rw [trims, Option.some.injEq] at computed
  have two : dashboard.dropped = 2 := computed ▸ by decide +kernel
  exact ⟨script, dashboard, ran, trims, two, dropped.trans two, rows (by omega)⟩

/-- A run on a training file writes the rows the dashboard's trim keeps, or leaves the file alone
where nothing is to be dropped. -/
theorem trimFile_writes (job : Balancing F) (rows : List Row) (wide : ∀ r ∈ rows, r.length = 13)
    (timed : ∀ r ∈ rows, ∃ ts, r[timestampCol]?.bind job.float = some ts) :
    ∃ dashboard, Stage2.trimDdosSessions id job rows = some dashboard ∧
      trimFile job baseCsvHeader rows false =
        if dashboard.dropped = 0 then .nothingToTrim else .wrote (dashboard.kept.map (List.map Cell.text)) := by
  obtain ⟨kept, dashboard, trims, ran, inside, same⟩ := trimDdosSessions_marked job rows wide timed
  have columns : (baseCsvHeader.contains labelName && baseCsvHeader.contains timestampName) = true := by decide
  refine ⟨dashboard, trims, ?_⟩
  rw [trimFile, if_pos columns, ran]
  dsimp only
  split
  · rfl
  · rename_i some_row
    rw [if_neg Bool.false_ne_true, write_marked inside, same (Nat.pos_of_ne_zero some_row)]

end Agreement

end Flod.Scripts
