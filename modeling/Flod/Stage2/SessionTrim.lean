import Flod.Lib.Lists
import Flod.Lib.Runs
import Flod.Stage2.CaptureRun
import Flod.Stage2.TrainingBalance

/-! The trim in terms of sessions. The sessions are the runs of the rows in the order of their
times; the trim keeps or drops them whole, and whether the training still sees the same sessions
afterwards depends on what stood on both sides of those it dropped. -/

namespace Flod.Stage2
open Flod.Lib Flod.Lib.Csv Flod.Lib.Runs

variable {F : Type} [Arith F] {R : Type}

section Sessions

variable (view : R → Row) (job : Balancing F)

/-- The row goes on with the session of the row before it. -/
def sameSession (before x : R × PyFloat F) : Bool :=
  !(x.2.gapAfter before.2 || decide (labelOf view x.1 ≠ labelOf view before.1))

/-- The rows with the times read from them. -/
def timedRows (rows : List R) : Option (List (R × PyFloat F)) :=
  rows.mapM (fun r => ((view r)[timestampCol]?.bind job.float).map (fun ts => (r, ts)))

def byTime (timed : List (R × PyFloat F)) : List (R × PyFloat F) := timed.mergeSort (fun a b => !b.2.lt a.2)

/-- The sessions of a list of rows: its rows by time, divided where a gap is too long or the
label changes. -/
def sessionsOf (rows : List R) : Option (List (List (R × PyFloat F))) :=
  (timedRows view job rows).map (fun timed => (byTime timed).splitBy (sameSession view))

variable {view job}

omit [Arith F] in
variable (view job) in
/-- Rows beside the times read from them are read as they are. -/
theorem timedRows_pairs (timed : List (R × PyFloat F))
    (reads : ∀ x ∈ timed, (view x.1)[timestampCol]?.bind job.float = some x.2) :
    timedRows view job (timed.map Prod.fst) = some timed := by
  induction timed with
  | nil => rfl
  | cons x rest ih =>
    have later := ih (fun y inside => reads y (List.mem_cons_of_mem x inside))
    unfold timedRows at later ⊢
    rw [List.map_cons, List.mapM_cons, reads x List.mem_cons_self, later]
    rfl

omit [Arith F] in
theorem timedRows_reads {rows : List R} {timed : List (R × PyFloat F)}
    (read : timedRows view job rows = some timed) :
    ∀ x ∈ timed, (view x.1)[timestampCol]?.bind job.float = some x.2 := by
  unfold timedRows at read
  induction rows generalizing timed with
  | nil =>
    cases read
    intro x inside
    cases inside
  | cons r rest ih =>
    rw [List.mapM_cons] at read
    simp only [Option.bind_eq_bind, Option.bind_eq_some_iff, Option.map_eq_some_iff] at read
    obtain ⟨_, ⟨ts, found, rfl⟩, later, readLater, made⟩ := read
    cases made
    intro x inside
    cases List.mem_cons.mp inside with
    | inl first =>
      rw [first]
      exact Option.bind_eq_some_iff.mpr found
    | inr other => exact ih readLater x other

variable (view job) in
/-- The times of rows that all have one. -/
def readings (rows : List R) : List (R × PyFloat F) :=
  rows.map (fun r => (r, ((view r)[timestampCol]?.bind job.float).getD .nan))

omit [Arith F] in
variable (view job) in
theorem timedRows_readings (rows : List R)
    (timed : ∀ r ∈ rows, ∃ ts, (view r)[timestampCol]?.bind job.float = some ts) :
    timedRows view job rows = some (readings view job rows) := by
  have same : (readings view job rows).map Prod.fst = rows := by
    rw [readings, List.map_map]
    exact List.map_id' rows
  have reads := timedRows_pairs view job (readings view job rows)
  rw [same] at reads
  apply reads
  intro x inside
  obtain ⟨r, member, rfl⟩ := List.mem_map.mp inside
  obtain ⟨ts, found⟩ := timed r member
  rw [found]
  rfl

variable (view job) in
theorem sessionsOf_some (rows : List R)
    (timed : ∀ r ∈ rows, ∃ ts, (view r)[timestampCol]?.bind job.float = some ts) :
    ∃ sessions, sessionsOf view job rows = some sessions :=
  ⟨_, by rw [sessionsOf, timedRows_readings view job rows timed, Option.map_some]⟩

variable (view job) in
theorem sessionsOf_sorted (rows : List R)
    (timed : ∀ r ∈ rows, ∃ ts, (view r)[timestampCol]?.bind job.float = some ts)
    (sorted : (readings view job rows).Pairwise (fun a b => (!b.2.lt a.2) = true)) :
    sessionsOf view job rows = some ((readings view job rows).splitBy (sameSession view)) := by
  rw [sessionsOf, timedRows_readings view job rows timed, Option.map_some, byTime,
    List.mergeSort_of_pairwise sorted]

/-- The pass that numbers the sessions numbers the runs. -/
theorem tagSessions_number : ∀ (timed : List (R × PyFloat F)) (previous : Option (R × PyFloat F)) (session : Nat),
    tagSessions view (previous.map (fun p => (p.2, labelOf view p.1))) session timed =
      (number (sameSession view) previous session timed).map (fun x => (x.1.1, x.2))
  | [], _, _ => rfl
  | (r, ts) :: rest, previous, session => by
    have again := tagSessions_number rest (some (r, ts))
    cases previous with
    | none =>
      simp only [tagSessions, number, Option.map_none, Option.any_none, Bool.false_eq_true, if_false, if_true,
        List.map_cons]
      exact congrArg _ (again (session + 1))
    | some p =>
      cases same : sameSession view p (r, ts) with
      | false =>
        have fresh : (ts.gapAfter p.2 || decide (labelOf view r ≠ labelOf view p.1)) = true := by
          rw [sameSession, Bool.not_eq_false'] at same
          exact same
        simp only [tagSessions, number, Option.map_some, Option.any_some, same, fresh, Bool.false_eq_true,
          if_false, if_true, List.map_cons]
        exact congrArg _ (again (session + 1))
      | true =>
        have goes : (ts.gapAfter p.2 || decide (labelOf view r ≠ labelOf view p.1)) = false := by
          rw [sameSession, Bool.not_eq_true'] at same
          exact same
        simp only [tagSessions, number, Option.map_some, Option.any_some, same, goes, Bool.false_eq_true,
          if_false, if_true, List.map_cons]
        exact congrArg _ (again session)

theorem assignSessions_eq (rows : List R) : assignSessions view job rows =
    (sessionsOf view job rows).map (fun sessions => (numbered 1 sessions).map (fun x => (x.1.1, x.2))) := by
  have tags : ∀ timed : List (R × PyFloat F), tagSessions view none 0 (byTime timed) =
      (numbered 1 ((byTime timed).splitBy (sameSession view))).map (fun x => (x.1.1, x.2)) := by
    intro timed
    rw [← number_splitBy 0]
    exact tagSessions_number (byTime timed) none 0
  unfold assignSessions sessionsOf
  rw [Option.map_map]
  show (timedRows view job rows).bind (fun timed => some (tagSessions view none 0 (byTime timed))) = _
  cases timedRows view job rows with
  | none => rfl
  | some timed => exact congrArg some (tags timed)

theorem sessionsOf_alike {rows : List R} {sessions : List (List (R × PyFloat F))}
    (found : sessionsOf view job rows = some sessions) :
    ∀ session ∈ sessions, ∀ x ∈ session, ∀ y ∈ session, labelOf view x.1 = labelOf view y.1 := by
  obtain ⟨timed, _, rfl⟩ := Option.map_eq_some_iff.mp found
  intro session member
  have chain : (session.map (fun x => labelOf view x.1)).IsChain Eq := by
    rw [List.isChain_map]
    apply (List.isChain_of_mem_splitBy member).imp
    intro x y same
    rw [sameSession, Bool.not_eq_true', Bool.or_eq_false_iff, decide_eq_false_iff_not, not_not] at same
    exact same.2.symm
  intro x first y second
  exact chain.pairwise.forall_of_forall (fun _ _ => rfl) (List.mem_map_of_mem first) (List.mem_map_of_mem second)

end Sessions

section Training

/-- The rows of the frame that start a session: the first, and every one whose time is more than
the gap after the time of the row before it, or whose label is another. -/
def newSession : List (F × Field) → List Bool
  | [] => []
  | first :: rest => true :: List.zipWith
      (fun before x => decide (sessionGapSeconds < x.1 - before.1) || decide (x.2 ≠ before.2)) (first :: rest) rest

/-- `cumsum` of a column of flags. -/
def cumsum : Nat → List Bool → List Nat
  | _, [] => []
  | n, flag :: rest => (n + flag.toNat) :: cumsum (n + flag.toNat) rest

/-- The session column the training derives for rows in the order of their times. -/
def sessionId (frame : List (F × Field)) : List Nat := cumsum 0 (newSession frame)

theorem tagSessions_cumsum (view : R → Row) : ∀ (frame : List (R × F)) (before : R × F) (n : Nat),
    tagSessions view (some (.finite before.2, labelOf view before.1)) n
        (frame.map (fun x => (x.1, .finite x.2))) =
      (frame.map Prod.fst).zip (cumsum n (List.zipWith
        (fun a b => decide (sessionGapSeconds < b.1 - a.1) || decide (b.2 ≠ a.2))
        ((before :: frame).map (fun x => (x.2, labelOf view x.1))) (frame.map (fun x => (x.2, labelOf view x.1)))))
  | [], _, _ => rfl
  | x :: rest, before, n => by
    have again := tagSessions_cumsum view rest x
    cases fresh : decide (sessionGapSeconds < x.2 - before.2) ||
        decide (labelOf view x.1 ≠ labelOf view before.1) with
    | false =>
      simp only [List.map_cons, List.zipWith_cons_cons, tagSessions, PyFloat.gapAfter, fresh, cumsum,
        Bool.false_eq_true, if_false, Bool.toNat_false, Nat.add_zero, List.zip_cons_cons]
      exact congrArg _ (again n)
    | true =>
      simp only [List.map_cons, List.zipWith_cons_cons, tagSessions, PyFloat.gapAfter, fresh, cumsum,
        if_true, Bool.toNat_true, List.zip_cons_cons]
      exact congrArg _ (again (n + 1))

/-- The trim numbers the sessions as the training does. -/
theorem tagSessions_sessionId (view : R → Row) (frame : List (R × F)) :
    tagSessions view none 0 (frame.map (fun x => (x.1, .finite x.2))) =
      (frame.map Prod.fst).zip (sessionId (frame.map (fun x => (x.2, labelOf view x.1)))) := by
  cases frame with
  | nil => rfl
  | cons first rest => exact congrArg _ (tagSessions_cumsum view rest first 1)

end Training

section Greedy

variable {β : Type} {size : Nat → Nat} {cap : Nat}

theorem keepSessions_cons (id : Nat) (rest : List Nat) (kept : List Nat × Nat) :
    keepSessions size cap (id :: rest) kept =
      keepSessions size cap rest (if kept.2 + size id ≤ cap then (id :: kept.1, kept.2 + size id) else kept) := by
  rw [keepSessions]
  split <;> rfl

variable (size cap) in
/-- What has been kept only grows, stays under the cap, and is taken from those offered. -/
theorem keepSessions_grows (ids : List Nat) : ∀ kept : List Nat × Nat, kept.2 ≤ cap →
    kept.1 ⊆ (keepSessions size cap ids kept).1 ∧ kept.2 ≤ (keepSessions size cap ids kept).2 ∧
    (keepSessions size cap ids kept).2 ≤ cap := by
  induction ids with
  | nil =>
    intro kept under
    exact ⟨List.Subset.refl _, Nat.le_refl _, under⟩
  | cons id rest ih =>
    intro kept under
    rw [keepSessions_cons]
    split
    · rename_i fits
      obtain ⟨more, above, below⟩ := ih (id :: kept.1, kept.2 + size id) fits
      exact ⟨fun x inside => more (List.mem_cons_of_mem id inside), by simp only at above; omega, below⟩
    · exact ih kept under

variable (size) in
/-- A session is left out only where it does not fit beside what is kept in the end. -/
theorem keepSessions_refused (ids : List Nat) : ∀ kept : List Nat × Nat, kept.2 ≤ cap → ∀ id ∈ ids,
    id ∉ (keepSessions size cap ids kept).1 → cap < (keepSessions size cap ids kept).2 + size id := by
  induction ids with
  | nil =>
    intro kept _ id inside
    cases inside
  | cons first rest ih =>
    intro kept under id inside out
    rw [keepSessions_cons] at out ⊢
    split at out <;> rename_i fits
    · rw [if_pos fits]
      have grows := keepSessions_grows size cap rest (first :: kept.1, kept.2 + size first) fits
      cases List.mem_cons.mp inside with
      | inl same => exact absurd (grows.1 (same ▸ List.mem_cons_self)) out
      | inr later => exact ih _ fits id later out
    · rw [if_neg fits]
      have grows := keepSessions_grows size cap rest kept under
      cases List.mem_cons.mp inside with
      | inl same =>
        subst same
        omega
      | inr later => exact ih kept under id later out

theorem countP_session {id : Nat} {ids : List Nat} (new : id ∉ ids) (all : List (β × Nat)) :
    all.countP (fun x => decide (x.2 ∈ id :: ids)) =
      all.countP (fun x => decide (x.2 ∈ ids)) + all.countP (fun x => x.2 = id) := by
  induction all with
  | nil => rfl
  | cons x rest ih =>
    rw [List.countP_cons, List.countP_cons, List.countP_cons, ih]
    by_cases same : x.2 = id
    · simp only [same, List.mem_cons_self, decide_true, if_true, new, decide_false, Bool.false_eq_true, if_false]
      omega
    · simp only [List.mem_cons, same, false_or, decide_false, Bool.false_eq_true, if_false]
      omega

/-- The count is that of the elements whose session is kept. -/
theorem keepSessions_total (all : List (β × Nat)) (ids : List Nat) : ∀ kept : List Nat × Nat, ids.Nodup →
    (∀ id ∈ ids, id ∉ kept.1) → kept.2 = all.countP (fun x => decide (x.2 ∈ kept.1)) →
    (keepSessions (fun id => all.countP (fun x => x.2 = id)) cap ids kept).2 =
      all.countP (fun x => decide
        (x.2 ∈ (keepSessions (fun id => all.countP (fun x => x.2 = id)) cap ids kept).1)) := by
  induction ids with
  | nil =>
    intro kept _ _ total
    exact total
  | cons id rest ih =>
    intro kept distinct fresh total
    have apart := List.nodup_cons.mp distinct
    rw [keepSessions_cons]
    split
    · apply ih _ apart.2
      · intro later inside taken
        cases List.mem_cons.mp taken with
        | inl same => exact apart.1 (same ▸ inside)
        | inr old => exact fresh later (List.mem_cons_of_mem id inside) old
      · rw [total, countP_session (fresh id List.mem_cons_self)]
    · exact ih kept apart.2 (fun later inside => fresh later (List.mem_cons_of_mem id inside)) total

end Greedy

section Balance

variable (view : R → Row) (job : Balancing F)

def isDdos (r : R) : Bool := decide (labelOf view r = ddosLabel)

/-- The smaller of the other two classes. -/
def ddosCap (rows : List R) : Nat :=
  min (rows.countP (fun r => labelOf view r = normalLabel)) (rows.countP (fun r => labelOf view r = flashCrowdLabel))

/-- What the trim promises of its result, with the sessions it started from and which of them stay. -/
structure Balanced (rows : List R) (sessions : List (List (R × PyFloat F))) (stays : List Bool)
    (result : Trimmed R) : Prop where
  marked : stays.length = sessions.length
  whole : result.kept.Perm ((select sessions stays).flatten.map Prod.fst)
  others : (result.kept.filter (fun r => !isDdos view r)).Perm (rows.filter (fun r => !isDdos view r))
  attack : ∀ (i : Nat) (session : List (R × PyFloat F)), sessions[i]? = some session → stays[i]? = some false →
    ∀ x ∈ session, isDdos view x.1 = true
  capped : result.kept.countP (isDdos view) ≤ ddosCap view rows
  cap : result.cap = ddosCap view rows
  removed : result.kept.length + result.dropped = rows.length
  maximal : ∀ (i : Nat) (session : List (R × PyFloat F)), sessions[i]? = some session → stays[i]? = some false →
    ddosCap view rows < result.kept.countP (isDdos view) + session.length

variable {view job}

theorem sessionsOf_rows {rows : List R} {sessions : List (List (R × PyFloat F))}
    (found : sessionsOf view job rows = some sessions) : (sessions.flatten.map Prod.fst).Perm rows := by
  obtain ⟨timed, read, rfl⟩ := Option.map_eq_some_iff.mp found
  rw [List.flatten_splitBy, ← mapM_timed read]
  exact (List.mergeSort_perm _ _).map _

theorem balanced_small {rows : List R} {sessions : List (List (R × PyFloat F))}
    (found : sessionsOf view job rows = some sessions)
    (small : rows.countP (fun r => labelOf view r = ddosLabel) ≤ ddosCap view rows) :
    Balanced view rows sessions (sessions.map (fun _ => true)) ⟨rows, 0, ddosCap view rows⟩ where
  marked := List.length_map _
  whole := by
    rw [select_all]
    exact (sessionsOf_rows found).symm
  others := List.Perm.refl _
  attack := by
    intro i session here out
    rw [List.getElem?_map, here] at out
    cases out
  capped := small
  cap := rfl
  removed := rfl
  maximal := by
    intro i session here out
    rw [List.getElem?_map, here] at out
    cases out

variable (view job) in
/-- The DDoS rows with their sessions, as the trim collects them. -/
def attackRows (sessions : List (List (R × PyFloat F))) : List ((R × PyFloat F) × Nat) :=
  (numbered 1 sessions).filter (fun x => isDdos view x.1.1)

variable (view job) in
/-- The sessions chosen, and how many rows they have. -/
def keptSessions (sessions : List (List (R × PyFloat F))) (cap : Nat) : List Nat × Nat :=
  keepSessions (fun id => (attackRows view sessions).countP (fun x => x.2 = id)) cap
    (job.shuffle ((attackRows view sessions).map Prod.snd).eraseDups) ([], 0)

variable (view job) in
/-- Which sessions stay. -/
def staying (sessions : List (List (R × PyFloat F))) (cap : Nat) : List Bool :=
  marks (fun session id => session.all (fun x => !isDdos view x.1) ||
    decide (id ∈ (keptSessions view job sessions cap).1)) 1 sessions

variable {sessions : List (List (R × PyFloat F))}

omit [Arith F] in
/-- The rows the trim returns are those of the sessions that stay. -/
theorem stays_rows (cap : Nat) (alike : ∀ session ∈ sessions, ∀ x ∈ session, ∀ y ∈ session,
      labelOf view x.1 = labelOf view y.1) :
    ((numbered 1 sessions).filter (fun x => !isDdos view x.1.1 ||
      decide (x.2 ∈ (keptSessions view job sessions cap).1))).map Prod.fst =
        (select sessions (staying view job sessions cap)).flatten := by
  apply filter_numbered
  intro session member x inside id
  congr 1
  rw [Bool.eq_iff_iff, List.all_eq_true]
  apply Iff.intro
  · intro other y too
    simpa [isDdos, alike session member y too x inside] using other
  · intro others
    exact others x inside

omit [Arith F] in
theorem keptSessions_total (cap : Nat) : (keptSessions view job sessions cap).2 =
    (attackRows view sessions).countP (fun x => decide (x.2 ∈ (keptSessions view job sessions cap).1)) := by
  apply keepSessions_total
  · exact (job.shuffle_perm _).nodup_iff.mpr (nodup_eraseDups _)
  · intro id _ taken
    cases taken
  · simp

omit [Arith F] in
theorem keptSessions_le (cap : Nat) : (keptSessions view job sessions cap).2 ≤ cap :=
  (keepSessions_grows _ cap _ ([], 0) (Nat.zero_le cap)).2.2

omit [Arith F] in
/-- A session that does not stay has only DDoS rows, and is too long for what the cap leaves. -/
theorem staying_refused (cap : Nat) (alike : ∀ session ∈ sessions, ∀ x ∈ session, ∀ y ∈ session,
      labelOf view x.1 = labelOf view y.1) (full : [] ∉ sessions) {i : Nat} {session : List (R × PyFloat F)}
    (here : sessions[i]? = some session) (out : (staying view job sessions cap)[i]? = some false) :
    (∀ x ∈ session, isDdos view x.1 = true) ∧ cap < (keptSessions view job sessions cap).2 + session.length := by
  have member : session ∈ sessions := List.mem_of_getElem? here
  rw [staying, marks_at, here, Option.map_some, Option.some.injEq, Bool.or_eq_false_iff,
    decide_eq_false_iff_not] at out
  have attack : ∀ x ∈ session, isDdos view x.1 = true := by
    obtain ⟨y, inside, ddos⟩ := List.all_eq_false.mp out.1
    intro x too
    simpa [isDdos, alike session member x too y inside] using ddos
  have rows := filter_number sessions 1 i session here
  have size : (attackRows view sessions).countP (fun x => x.2 = 1 + i) = session.length := by
    have only : ∀ x ∈ (numbered 1 sessions).filter (fun x => decide (x.2 = 1 + i)), isDdos view x.1.1 = true := by
      intro x inside
      exact attack x.1 (rows ▸ List.mem_map_of_mem inside)
    calc (attackRows view sessions).countP (fun x => x.2 = 1 + i)
        = ((numbered 1 sessions).filter (fun x => decide (x.2 = 1 + i))).countP (fun x => isDdos view x.1.1) := by
          rw [attackRows, List.countP_filter, List.countP_filter]
          simp only [Bool.and_comm]
      _ = ((numbered 1 sessions).filter (fun x => decide (x.2 = 1 + i))).length := List.countP_eq_length.mpr only
      _ = session.length := by rw [← List.length_map Prod.fst, rows]
  have offered : 1 + i ∈ job.shuffle ((attackRows view sessions).map Prod.snd).eraseDups := by
    apply (job.shuffle_perm _).mem_iff.mpr
    rw [List.mem_eraseDups]
    have some_row : 0 < (attackRows view sessions).countP (fun x => x.2 = 1 + i) := by
      rw [size]
      apply List.length_pos_iff.mpr
      intro empty
      exact full (empty ▸ member)
    obtain ⟨x, inside, number⟩ := List.countP_pos_iff.mp some_row
    rw [← of_decide_eq_true number]
    exact List.mem_map_of_mem inside
  have refused := keepSessions_refused (fun id => (attackRows view sessions).countP (fun x => x.2 = id)) _
    ([], 0) (Nat.zero_le cap) (1 + i) offered out.2
  rw [size] at refused
  exact ⟨attack, refused⟩

variable (view job) in
/-- The result of a trim that drops something. -/
def trimmedTo (rows : List R) (sessions : List (List (R × PyFloat F))) : Trimmed R :=
  ⟨(select sessions (staying view job sessions (ddosCap view rows))).flatten.map Prod.fst,
    rows.countP (isDdos view) - (keptSessions view job sessions (ddosCap view rows)).2, ddosCap view rows⟩

theorem trimDdosSessions_eq {rows : List R} (labelled : ∀ r ∈ rows, labelCol < (view r).length)
    (found : sessionsOf view job rows = some sessions) : trimDdosSessions view job rows =
      some (if rows.countP (isDdos view) ≤ ddosCap view rows then ⟨rows, 0, ddosCap view rows⟩
        else trimmedTo view job rows sessions) := by
  have wide : rows.all (fun r => decide (labelCol < (view r).length)) = true := by simpa using labelled
  have tagged : assignSessions view job rows = some ((numbered 1 sessions).map (fun x => (x.1.1, x.2))) := by
    rw [assignSessions_eq, found, Option.map_some]
  have attacks : ((numbered 1 sessions).map (fun x => (x.1.1, x.2))).filter
      (fun x => decide (labelOf view x.1 = ddosLabel)) = (attackRows view sessions).map (fun x => (x.1.1, x.2)) :=
    List.filter_map
  unfold trimDdosSessions
  dsimp only
  rw [if_pos wide]
  by_cases small : rows.countP (isDdos view) ≤ ddosCap view rows
  · rw [if_pos small]
    exact if_pos small
  · rw [if_neg small]
    apply (if_neg small).trans
    rw [tagged]
    simp only [Option.bind_eq_bind, Option.bind_some, attacks, List.countP_map, List.map_map, List.filter_map,
      Option.pure_def]
    rw [trimmedTo, ← stays_rows _ (sessionsOf_alike found), List.map_map]
    simp only [isDdos, ← decide_not]
    rfl

theorem numbered_rows {rows : List R} (found : sessionsOf view job rows = some sessions) :
    ((numbered 1 sessions).map (fun x => x.1.1)).Perm rows := by
  have order := sessionsOf_rows found
  rw [← numbered_elements sessions 1, List.map_map] at order
  exact order

theorem trimmedTo_kept {rows : List R} (found : sessionsOf view job rows = some sessions) :
    (trimmedTo view job rows sessions).kept = ((numbered 1 sessions).filter (fun x => !isDdos view x.1.1 ||
      decide (x.2 ∈ (keptSessions view job sessions (ddosCap view rows)).1))).map (fun x => x.1.1) := by
  rw [trimmedTo, ← stays_rows _ (sessionsOf_alike found), List.map_map]
  rfl

theorem trimmedTo_ddos {rows : List R} (found : sessionsOf view job rows = some sessions) :
    (trimmedTo view job rows sessions).kept.countP (isDdos view) =
      (keptSessions view job sessions (ddosCap view rows)).2 := by
  rw [trimmedTo_kept found, keptSessions_total, attackRows, List.countP_map, List.countP_filter, List.countP_filter]
  apply List.countP_congr
  intro x _
  cases ddos : isDdos view x.1.1 <;> simp [ddos]

theorem trimmedTo_others {rows : List R} (found : sessionsOf view job rows = some sessions) :
    ((trimmedTo view job rows sessions).kept.filter (fun r => !isDdos view r)).Perm
      (rows.filter (fun r => !isDdos view r)) := by
  have same : (trimmedTo view job rows sessions).kept.filter (fun r => !isDdos view r) =
      ((numbered 1 sessions).map (fun x => x.1.1)).filter (fun r => !isDdos view r) := by
    rw [trimmedTo_kept found, List.filter_map, List.filter_map, List.filter_filter]
    congr 1
    apply List.filter_congr
    intro x _
    cases ddos : isDdos view x.1.1 <;> simp [ddos]
  rw [same]
  exact (numbered_rows found).filter _

theorem keptSessions_le_all {rows : List R} (found : sessionsOf view job rows = some sessions) (cap : Nat) :
    (keptSessions view job sessions cap).2 ≤ rows.countP (isDdos view) := by
  calc (keptSessions view job sessions cap).2
      ≤ (attackRows view sessions).length := by
        rw [keptSessions_total]
        exact List.countP_le_length
    _ = ((numbered 1 sessions).map (fun x => x.1.1)).countP (isDdos view) := by
        rw [attackRows, ← List.countP_eq_length_filter, List.countP_map]
        rfl
    _ = rows.countP (isDdos view) := (numbered_rows found).countP_eq _

variable (view) in
theorem length_by_class (rows : List R) :
    rows.length = rows.countP (isDdos view) + (rows.filter (fun r => !isDdos view r)).length := by
  rw [← List.countP_eq_length_filter, List.length_eq_countP_add_countP (isDdos view)]
  simp

/-- What the trim returns when it drops something is as promised. -/
theorem balanced_trimmed {rows : List R} (found : sessionsOf view job rows = some sessions) :
    Balanced view rows sessions (staying view job sessions (ddosCap view rows))
      (trimmedTo view job rows sessions) := by
  have alike := sessionsOf_alike found
  have full : [] ∉ sessions := by
    obtain ⟨timed, _, rfl⟩ := Option.map_eq_some_iff.mp found
    exact List.nil_notMem_splitBy _ _
  have kept := trimmedTo_ddos found
  have others := trimmedTo_others found
  refine ⟨marks_length _ _ _, List.Perm.refl _, others, ?_, ?_, rfl, ?_, ?_⟩
  · intro i session here out
    exact (staying_refused _ alike full here out).1
  · rw [kept]
    exact keptSessions_le _
  · have before := length_by_class view rows
    have after := length_by_class view (trimmedTo view job rows sessions).kept
    have fewer := keptSessions_le_all found (ddosCap view rows)
    have same := others.length_eq
    rw [kept] at after
    show _ + (rows.countP (isDdos view) - (keptSessions view job sessions (ddosCap view rows)).2) = rows.length
    omega
  · intro i session here out
    rw [kept]
    exact (staying_refused _ alike full here out).2

variable (view job) in
/-- Whatever the order the sessions are shuffled into: every row of the other classes is kept,
DDoS sessions are kept or dropped whole, those kept are within the cap, and none is dropped that
would have fitted beside them. -/
theorem trim_keeps_whole_sessions (rows : List R) (labelled : ∀ r ∈ rows, labelCol < (view r).length)
    (timed : ∀ r ∈ rows, ∃ ts, (view r)[timestampCol]?.bind job.float = some ts) :
    ∃ sessions stays result, sessionsOf view job rows = some sessions ∧
      trimDdosSessions view job rows = some result ∧ Balanced view rows sessions stays result := by
  obtain ⟨sessions, found⟩ := sessionsOf_some view job rows timed
  have trims := trimDdosSessions_eq labelled found
  by_cases small : rows.countP (isDdos view) ≤ ddosCap view rows
  · rw [if_pos small] at trims
    exact ⟨sessions, _, _, found, trims, balanced_small found small⟩
  · rw [if_neg small] at trims
    exact ⟨sessions, _, _, found, trims, balanced_trimmed found⟩

/-- A training row with a time and a label. -/
def trainingRow (time label : Field) : Row := List.replicate 11 ['1'] ++ [time, label]

/-- Whole numbers for times; the sessions in reverse order. -/
def reversing : Balancing ℚ := ⟨readSeconds, List.reverse, List.reverse_perm⟩

/-- Two normal rows, a flash crowd, and two attacks, of two rows and of one. -/
def twoAttacks : List Row :=
  [trainingRow ['1'] normalLabel, trainingRow ['2'] normalLabel, trainingRow ['5', '0'] flashCrowdLabel,
    trainingRow ['9', '0'] ddosLabel, trainingRow ['9', '1'] ddosLabel, trainingRow ['9', '9', '9'] ddosLabel]

theorem reversing_timed (rows : List Row) (wide : ∀ r ∈ rows, timestampCol < r.length) :
    ∀ r ∈ rows, ∃ ts, (id r)[timestampCol]?.bind reversing.float = some ts ∧ ts ≠ .nan := by
  intro r member
  rw [id, List.getElem?_eq_getElem (wide r member)]
  exact ⟨_, rfl, by simp⟩

/-- The trim of rows in order, computed without sorting them. -/
theorem trim_sorted (rows : List Row) (wide : ∀ r ∈ rows, labelCol < r.length)
    (sorted : (readings id reversing rows).Pairwise (fun a b => (!b.2.lt a.2) = true)) :
    trimDdosSessions id reversing rows = some
      (if rows.countP (isDdos id) ≤ ddosCap id rows then ⟨rows, 0, ddosCap id rows⟩
        else trimmedTo id reversing rows ((readings id reversing rows).splitBy (sameSession id))) := by
  apply trimDdosSessions_eq wide
  apply sessionsOf_sorted _ _ _ _ sorted
  intro r member
  exact (reversing_timed rows (fun r member => Nat.lt_of_succ_lt (wide r member)) r member).imp fun _ read => read.1

theorem twoAttacks_balanced : ∃ sessions stays result, sessionsOf id reversing twoAttacks = some sessions ∧
    result.dropped = 2 ∧ result.cap = 1 ∧ Balanced id twoAttacks sessions stays result := by
  obtain ⟨sessions, stays, result, found, trims, balanced⟩ := trim_keeps_whole_sessions id reversing twoAttacks
    (by decide) (fun r member => (reversing_timed _ (by decide) r member).imp fun _ read => read.1)
  rw [trim_sorted twoAttacks (by decide) (by decide +kernel), Option.some.injEq] at trims
  subst trims
  exact ⟨sessions, stays, _, found, by decide +kernel, by decide +kernel, balanced⟩

end Balance

section Redetection

/-- The order of the times that are numbers. -/
def PyFloat.rank : PyFloat F → WithBot (WithTop F)
  | .finite x => ((x : WithTop F) : WithBot (WithTop F))
  | .inf => ((⊤ : WithTop F) : WithBot (WithTop F))
  | .negInf => ⊥
  | .nan => ⊥

theorem PyFloat.not_lt_iff_rank {a b : PyFloat F} (first : a ≠ .nan) (second : b ≠ .nan) :
    (!b.lt a) = decide (a.rank ≤ b.rank) := by
  cases a with
  | nan => exact absurd rfl first
  | finite x =>
    cases b with
    | finite y => simp [PyFloat.lt, PyFloat.rank, ← decide_not]
    | nan => exact absurd rfl second
    | inf => simp [PyFloat.lt, PyFloat.rank]
    | negInf => simp [PyFloat.lt, PyFloat.rank]
  | inf => cases b <;> simp_all [PyFloat.lt, PyFloat.rank]
  | negInf => cases b <;> simp_all [PyFloat.lt, PyFloat.rank]

variable {view : R → Row} {job : Balancing F}

theorem byTime_sublist {timed part : List (R × PyFloat F)} (numbers : ∀ x ∈ timed, x.2 ≠ .nan)
    (inside : part.Sublist (byTime timed)) : byTime part = part := by
  have ranked : byTime timed = timed.mergeSort (fun a b => decide (a.2.rank ≤ b.2.rank)) := by
    have mapped := List.map_mergeSort (f := id) (l := timed) (r := fun a b => !b.2.lt a.2)
      (s := fun a b => decide (a.2.rank ≤ b.2.rank))
      (fun a first b second => PyFloat.not_lt_iff_rank (numbers a first) (numbers b second))
    rw [List.map_id, List.map_id] at mapped
    exact mapped
  have sorted : (byTime timed).Pairwise (fun a b => decide (a.2.rank ≤ b.2.rank) = true) := by
    rw [ranked]
    apply List.pairwise_mergeSort
    · intro a b c first second
      exact decide_eq_true ((of_decide_eq_true first).trans (of_decide_eq_true second))
    · intro a b
      simpa using le_total a.2.rank b.2.rank
  have number : ∀ x ∈ part, x.2 ≠ .nan := fun x member =>
    numbers x (List.mem_mergeSort.mp (inside.subset member))
  apply List.mergeSort_of_pairwise
  apply (sorted.sublist inside).imp_of_mem
  intro a b first second before
  rw [PyFloat.not_lt_iff_rank (number a first) (number b second)]
  exact before

variable (view) in
/-- No session goes on from the one before it: the label differs or the gap is too long. -/
def StillApart (sessions : List (List (R × PyFloat F))) : Prop :=
  sessions.IsChain fun a b => ∃ ha hb, sameSession view (a.getLast ha) (b.head hb) = false

/-- The sessions found among the rows of chosen sessions. -/
theorem sessionsOf_select {rows : List R} {sessions : List (List (R × PyFloat F))}
    (found : sessionsOf view job rows = some sessions)
    (numbers : ∀ r ∈ rows, (view r)[timestampCol]?.bind job.float ≠ some .nan) (stays : List Bool) :
    sessionsOf view job ((select sessions stays).flatten.map Prod.fst) = some (select sessions stays) ↔
      StillApart view (select sessions stays) := by
  obtain ⟨timed, read, rfl⟩ := Option.map_eq_some_iff.mp found
  have inside : (select ((byTime timed).splitBy (sameSession view)) stays).flatten.Sublist (byTime timed) := by
    have parts := (select_sublist ((byTime timed).splitBy (sameSession view)) stays).flatten
    rw [List.flatten_splitBy] at parts
    exact parts
  have reads := timedRows_reads read
  have number : ∀ x ∈ timed, x.2 ≠ .nan := by
    intro x member nan
    apply numbers x.1 (mapM_timed read ▸ List.mem_map_of_mem member)
    rw [reads x member, nan]
  have again : timedRows view job ((select ((byTime timed).splitBy (sameSession view)) stays).flatten.map Prod.fst) =
      some (select ((byTime timed).splitBy (sameSession view)) stays).flatten :=
    timedRows_pairs view job _ (fun x member => reads x (List.mem_mergeSort.mp (inside.subset member)))
  rw [sessionsOf, again, Option.map_some, byTime_sublist number inside, Option.some.injEq]
  exact splitBy_select _ _ _

variable (view job) in
/-- The training finds the sessions that were kept, and no others, exactly where none of them goes
on from the one that comes before it once the dropped ones are gone. -/
theorem trim_keeps_detection (rows : List R) (labelled : ∀ r ∈ rows, labelCol < (view r).length)
    (timed : ∀ r ∈ rows, ∃ ts, (view r)[timestampCol]?.bind job.float = some ts ∧ ts ≠ .nan) :
    ∃ sessions stays result, sessionsOf view job rows = some sessions ∧
      trimDdosSessions view job rows = some result ∧
      result.kept.Perm ((select sessions stays).flatten.map Prod.fst) ∧
      (sessionsOf view job result.kept = some (select sessions stays) ↔
        StillApart view (select sessions stays)) := by
  obtain ⟨sessions, found⟩ := sessionsOf_some view job rows
    (fun r member => (timed r member).imp (fun _ read => read.1))
  have numbers : ∀ r ∈ rows, (view r)[timestampCol]?.bind job.float ≠ some .nan := by
    intro r member nan
    obtain ⟨ts, read, number⟩ := timed r member
    rw [read, Option.some.injEq] at nan
    exact number nan
  have trims := trimDdosSessions_eq labelled found
  by_cases small : rows.countP (isDdos view) ≤ ddosCap view rows
  · rw [if_pos small] at trims
    refine ⟨sessions, _, _, found, trims, (balanced_small found small).whole, ?_⟩
    rw [select_all]
    have same : sessionsOf view job rows = some sessions ↔ StillApart view sessions := by
      obtain ⟨timed, _, rfl⟩ := Option.map_eq_some_iff.mp found
      exact iff_of_true found (List.isChain_getLast_head_splitBy _ _)
    exact same
  · rw [if_neg small] at trims
    exact ⟨sessions, _, _, found, trims, (balanced_trimmed found).whole,
      sessionsOf_select found numbers _⟩

theorem twoAttacks_detected : ∃ sessions stays result, sessionsOf id reversing twoAttacks = some sessions ∧
    trimDdosSessions id reversing twoAttacks = some result ∧ result.dropped = 2 ∧
    (sessionsOf id reversing result.kept = some (select sessions stays) ↔
      StillApart id (select sessions stays)) := by
  obtain ⟨sessions, stays, result, found, trims, -, detected⟩ := trim_keeps_detection id reversing twoAttacks
    (by decide) (reversing_timed _ (by decide))
  have computed := trim_sorted twoAttacks (by decide) (by decide +kernel)
  rw [trims, Option.some.injEq] at computed
  exact ⟨sessions, stays, result, found, trims, computed ▸ by decide +kernel, detected⟩

/-- Two rows of normal traffic with an attack between them. -/
def interrupted : List Row :=
  [trainingRow ['0'] normalLabel, trainingRow ['1'] ddosLabel, trainingRow ['2'] normalLabel]

/-- The same without the attack. -/
def rejoined : List Row := [trainingRow ['0'] normalLabel, trainingRow ['2'] normalLabel]

/-- Without the attack the two normal sessions are one. -/
theorem interrupted_merges : ∃ sessions result found,
    sessionsOf id reversing interrupted = some sessions ∧
    sessions.map (List.map Prod.fst) =
      [[trainingRow ['0'] normalLabel], [trainingRow ['1'] ddosLabel], [trainingRow ['2'] normalLabel]] ∧
    trimDdosSessions id reversing interrupted = some result ∧ result.kept = rejoined ∧ result.dropped = 1 ∧
    sessionsOf id reversing rejoined = some found ∧ found.map (List.map Prod.fst) = [rejoined] := by
  have times := fun rows wide r member =>
    (reversing_timed rows wide r member).imp fun _ read => read.1
  exact ⟨_, _, _, sessionsOf_sorted _ _ interrupted (times _ (by decide)) (by decide +kernel),
    by decide +kernel, trim_sorted interrupted (by decide) (by decide +kernel), by decide +kernel,
    by decide +kernel, sessionsOf_sorted _ _ rejoined (times _ (by decide)) (by decide +kernel),
    by decide +kernel⟩

end Redetection

end Flod.Stage2
