import Flod.Stage2.CaptureFile

/-! Capping the attack class of the training data. Rows are told apart into sessions by time
and label, and whole attack sessions are dropped in a shuffled order until the rest fit. -/

namespace Flod.Stage2
open Flod.Lib Flod.Lib.Csv

variable {F : Type} [Arith F]

/-- What the trim takes from Python: reading a number, and the order in which a generator with
a fixed seed puts the sessions. -/
structure Balancing (F : Type) where
  float : Field → Option (PyFloat F)
  shuffle : List Nat → List Nat
  shuffle_perm : ∀ ids, (shuffle ids).Perm ids

def normalLabel : Field := ['0']

def flashCrowdLabel : Field := ['1']

def ddosLabel : Field := ['2']

def sessionGapSeconds : F := 30

/-- `ts - prev_ts > SESSION_GAP_SECONDS`. The difference of equal infinities is not a number. -/
def PyFloat.gapAfter : PyFloat F → PyFloat F → Bool
  | .finite ts, .finite previous => decide (sessionGapSeconds < ts - previous)
  | .finite _, .negInf => true
  | .inf, .finite _ => true
  | .inf, .negInf => true
  | _, _ => false

section Trim

variable {R : Type} (view : R → Row) (job : Balancing F)

/-- The label column, which every row was found to have. -/
def labelOf (r : R) : Field := (view r)[labelCol]?.getD []

/-- Session numbers for rows in the order of their times. -/
def tagSessions : Option (PyFloat F × Field) → Nat → List (R × PyFloat F) → List (R × Nat)
  | _, _, [] => []
  | previous, session, (r, ts) :: rest =>
      let isNew := match previous with
        | none => true
        | some (previousTs, previousLabel) => ts.gapAfter previousTs || decide (labelOf view r ≠ previousLabel)
      let own := if isNew then session + 1 else session
      (r, own) :: tagSessions (some (ts, labelOf view r)) own rest

/-- `_assign_sessions`. None is the exception a timestamp that is no number raises. -/
def assignSessions (rows : List R) : Option (List (R × Nat)) := do
  let timed ← rows.mapM (fun r => ((view r)[timestampCol]?.bind job.float).map (fun ts => (r, ts)))
  pure (tagSessions view none 0 (timed.mergeSort (fun a b => !b.2.lt a.2)))

/-- Which sessions stay: in shuffled order, each one that still fits under the cap. -/
def keepSessions (size : Nat → Nat) (cap : Nat) : List Nat → List Nat × Nat → List Nat × Nat
  | [], kept => kept
  | id :: rest, kept =>
      if kept.2 + size id ≤ cap then keepSessions size cap rest (id :: kept.1, kept.2 + size id)
      else keepSessions size cap rest kept

structure Trimmed (R : Type) where
  kept : List R
  dropped : Nat
  cap : Nat

def Trimmed.map {R S : Type} (f : R → S) (result : Trimmed R) : Trimmed S :=
  ⟨result.kept.map f, result.dropped, result.cap⟩

/-- `trim_ddos_sessions`. None is the exception a row without a label or a readable time raises. -/
def trimDdosSessions (rows : List R) : Option (Trimmed R) :=
  if rows.all (fun r => decide (labelCol < (view r).length)) then
    let count label := rows.countP (fun r => labelOf view r = label)
    let cap := min (count normalLabel) (count flashCrowdLabel)
    if count ddosLabel ≤ cap then some ⟨rows, 0, cap⟩
    else do
      let tagged ← assignSessions view job rows
      let attacks := tagged.filter (fun x => decide (labelOf view x.1 = ddosLabel))
      let size id := attacks.countP (fun x => x.2 = id)
      let kept := keepSessions size cap (job.shuffle (attacks.map Prod.snd).eraseDups) ([], 0)
      let stays := tagged.filter (fun x => decide (labelOf view x.1 ≠ ddosLabel) || decide (x.2 ∈ kept.1))
      pure ⟨stays.map Prod.fst, count ddosLabel - kept.2, cap⟩
  else none

variable {view job}

theorem tagSessions_rows (previous : Option (PyFloat F × Field)) (session : Nat) (timed : List (R × PyFloat F)) :
    (tagSessions view previous session timed).map Prod.fst = timed.map Prod.fst := by
  induction timed generalizing previous session with
  | nil => rfl
  | cons x rest ih =>
    obtain ⟨r, ts⟩ := x
    unfold tagSessions
    rw [List.map_cons, List.map_cons, ih]

omit [Arith F] in
theorem mapM_timed {rows : List R} {timed : List (R × PyFloat F)}
    (read : rows.mapM (fun r => ((view r)[timestampCol]?.bind job.float).map (fun ts => (r, ts))) = some timed) :
    timed.map Prod.fst = rows := by
  induction rows generalizing timed with
  | nil =>
    cases read
    rfl
  | cons r rest ih =>
    rw [List.mapM_cons] at read
    simp only [Option.bind_eq_bind, Option.bind_eq_some_iff, Option.map_eq_some_iff] at read
    obtain ⟨_, ⟨ts, -, rfl⟩, later, readLater, made⟩ := read
    cases made
    rw [List.map_cons, ih readLater]

/-- Every row gets a session, and no row is added. -/
theorem assignSessions_rows {rows : List R} {tagged : List (R × Nat)}
    (assigned : assignSessions view job rows = some tagged) : (tagged.map Prod.fst).Perm rows := by
  simp only [assignSessions, Option.bind_eq_bind, Option.bind_eq_some_iff] at assigned
  obtain ⟨timed, read, made⟩ := assigned
  cases made
  rw [tagSessions_rows, ← mapM_timed read]
  exact (List.mergeSort_perm _ _).map _

section Map

variable {S : Type} (f : S → R)

theorem tagSessions_map (previous : Option (PyFloat F × Field)) (session : Nat) (timed : List (S × PyFloat F)) :
    tagSessions view previous session (timed.map (Prod.map f id)) =
      (tagSessions (view ∘ f) previous session timed).map (Prod.map f id) := by
  induction timed generalizing previous session with
  | nil => rfl
  | cons x rest ih =>
    obtain ⟨r, ts⟩ := x
    simp only [List.map_cons, Prod.map_apply, id_eq]
    unfold tagSessions
    dsimp only
    rw [ih]
    rfl

omit [Arith F] in
theorem mapM_timed_map (rows : List S) :
    (rows.map f).mapM (fun r => ((view r)[timestampCol]?.bind job.float).map (fun ts => (r, ts))) =
      (rows.mapM (fun r => ((view (f r))[timestampCol]?.bind job.float).map (fun ts => (r, ts)))).map
        (List.map (Prod.map f id)) := by
  induction rows with
  | nil => rfl
  | cons r rest ih =>
    rw [List.map_cons, List.mapM_cons, List.mapM_cons, ih]
    cases (view (f r))[timestampCol]?.bind job.float with
    | none => rfl
    | some ts =>
      cases rest.mapM (fun r => ((view (f r))[timestampCol]?.bind job.float).map (fun ts => (r, ts))) <;> rfl

theorem assignSessions_map (rows : List S) :
    assignSessions view job (rows.map f) = (assignSessions (view ∘ f) job rows).map (List.map (Prod.map f id)) := by
  unfold assignSessions
  rw [mapM_timed_map]
  simp only [Function.comp_apply, Option.bind_eq_bind, Option.bind_map, Option.map_bind]
  congr 1
  funext timed
  simp only [Option.pure_def, Option.map_some, ← tagSessions_map]
  rw [List.map_mergeSort]
  intro a _ b _
  rfl

/-- The trim looks at nothing of a row but what is written in it. -/
theorem trimDdosSessions_map (rows : List S) :
    trimDdosSessions view job (rows.map f) = (trimDdosSessions (view ∘ f) job rows).map (Trimmed.map f) := by
  unfold trimDdosSessions
  simp only [List.all_map, List.countP_map, assignSessions_map]
  rw [apply_ite (Option.map (Trimmed.map f)), apply_ite (Option.map (Trimmed.map f))]
  refine if_congr Iff.rfl (if_congr Iff.rfl rfl ?_) rfl
  cases assignSessions (view ∘ f) job rows with
  | none => rfl
  | some tagged =>
    have labels : ∀ label, (tagged.map (Prod.map f id)).filter (fun x => decide (labelOf view x.1 = label)) =
        (tagged.filter (fun x => decide (labelOf (view ∘ f) x.1 = label))).map (Prod.map f id) := fun _ =>
      List.filter_map
    simp only [Option.map_some, Option.bind_eq_bind, Option.bind_some, labels, List.countP_map, List.map_map,
      List.filter_map, Option.pure_def, Trimmed.map]
    rfl

end Map

end Trim

end Flod.Stage2
