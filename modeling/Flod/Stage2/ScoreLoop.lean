import Flod.Lib.Lists
import Flod.Stage2.CaptureRun

/-! The two passes of the scoring loop. The first sorts the rows out and collects those to be
scored; the second matches the collected rows with what the models answered, by position.
Every row has one fate, and which one is said in terms of the row, the clock it met and the
models' answers to its own features. -/

namespace Flod.Stage2
open Flod.Lib Flod.Lib.Csv

variable {F : Type} [Arith F]

/-- What the first pass has sorted out so far. -/
structure Scan (F : Type) where
  kept : List Row
  scorable : List (Row × Features F)
  corrupt : Nat

/-- A row of the first pass with the clock it meets: the time is read anew for each row. -/
def readyAt (job : Labelling F) (header : Row) (x : Row × F) : Option (Features F) :=
  scorable { job with now := x.2 } header x.1

def scanRow (job : Labelling F) (header : Row) (s : Scan F) (x : Row × F) : Scan F :=
  if rightWidth header x.1 then
    match readyAt job header x with
    | none => { s with kept := s.kept ++ [x.1] }
    | some features => { s with scorable := s.scorable ++ [(x.1, features)] }
  else { s with corrupt := s.corrupt + 1 }

/-- One turn of the second pass, over the rows kept and those labelled. None is the exception a
row without a label column raises. -/
def settleRow (job : Labelling F) (s : List Row × List Row) (x : (Row × Features F) × List F × List F) :
    Option (List Row × List Row) :=
  match decideLabel job x.2.1 x.2.2 with
  | none => some (s.1 ++ [x.1.1], s.2)
  | some label => if labelCol < x.1.1.length then some (s.1, s.2 ++ [labeledRow x.1.1 label]) else none

/-- `_score_rows`, as it runs: each row comes with what the clock reads when its turn comes. -/
def scoreLoop (job : Labelling F) (header : Row) (timed : List (Row × F)) : Option Scored :=
  let scan := timed.foldl (scanRow job header) ⟨[], [], 0⟩
  let features := scan.scorable.map Prod.snd
  let probas := (job.clf.predictProba features).zip (job.secondClf.predictProba features)
  ((scan.scorable.zip probas).foldlM (settleRow job) (scan.kept, [])).map
    (fun s => { kept := s.1, labeled := s.2, corrupt := scan.corrupt })

section Columns

theorem column_at {header row : Row} {i : Nat} {name : String} (distinct : header.Nodup)
    (width : row.length = header.length) (named : header[i]? = some name.toList) :
    column header row name = row[i]? := by
  have keys : (header.zip row).map Prod.fst = header := List.map_fst_zip (by omega)
  rw [column, lookup_reverse _ _ (by rw [keys]; exact distinct)]
  exact lookup_zip header row i _ distinct width.symm named

end Columns

section Readings

/-- The finite number a row has in one place. -/
def numberAt (float : Field → Option (PyFloat F)) (row : Row) (i : Nat) : Option F :=
  match row[i]?.bind float with
  | some (.finite x) => some x
  | _ => none

/-- The features are those of the row: eleven finite numbers in the first eleven columns, and
the three derived from them. -/
structure ReadsAs (float : Field → Option (PyFloat F)) (row : Row) (f : Features F) : Prop where
  columns : (List.range 11).map (numberAt float row) =
    [some f.entropy, some f.ewmaRate, some f.meanH, some f.meanR, some f.sigmaH, some f.sigmaR,
      some f.protoRatio, some f.dominantIpRatio, some f.sourcePortEntropy, some f.ttlVariance,
      some f.fingerprintDiversity]
  deltaRate : f.deltaRate = f.ewmaRate - f.meanR
  deltaEntropy : f.deltaEntropy = f.entropy - f.meanH
  dominantRate : f.dominantRate = f.ewmaRate * f.dominantIpRatio

variable {job : Labelling F}

omit [Arith F] in
theorem finiteColumn_at {header row : Row} {i : Nat} {name : String} (distinct : header.Nodup)
    (width : row.length = header.length) (named : header[i]? = some name.toList) :
    finiteColumn job header row name = numberAt job.float row i := by
  rw [finiteColumn, column_at distinct width named]
  rfl

theorem rowToFeatures_iff {header row : Row} (distinct : header.Nodup) (base : baseCsvHeader <+: header)
    (width : row.length = header.length) (f : Features F) :
    rowToFeatures job header row = some f ↔ ReadsAs job.float row f := by
  obtain ⟨more, rfl⟩ := base
  have place : ∀ (i : Nat) (name : String), (baseCsvHeader ++ more)[i]? = some name.toList →
      finiteColumn job (baseCsvHeader ++ more) row name = numberAt job.float row i :=
    fun i name named => finiteColumn_at distinct width named
  unfold rowToFeatures
  rw [place 0 "entropy" rfl, place 1 "ewma_rate" rfl, place 2 "mean_h" rfl, place 3 "mean_r" rfl,
    place 4 "sigma_h" rfl, place 5 "sigma_r" rfl, place 6 "proto_ratio" rfl,
    place 7 "dominant_ip_ratio" rfl, place 8 "source_port_entropy" rfl, place 9 "ttl_variance" rfl,
    place 10 "fingerprint_diversity" rfl]
  apply Iff.intro
  · intro read
    obtain ⟨_, h0, read⟩ := Option.bind_eq_some_iff.mp read
    obtain ⟨_, h1, read⟩ := Option.bind_eq_some_iff.mp read
    obtain ⟨_, h2, read⟩ := Option.bind_eq_some_iff.mp read
    obtain ⟨_, h3, read⟩ := Option.bind_eq_some_iff.mp read
    obtain ⟨_, h4, read⟩ := Option.bind_eq_some_iff.mp read
    obtain ⟨_, h5, read⟩ := Option.bind_eq_some_iff.mp read
    obtain ⟨_, h6, read⟩ := Option.bind_eq_some_iff.mp read
    obtain ⟨_, h7, read⟩ := Option.bind_eq_some_iff.mp read
    obtain ⟨_, h8, read⟩ := Option.bind_eq_some_iff.mp read
    obtain ⟨_, h9, read⟩ := Option.bind_eq_some_iff.mp read
    obtain ⟨_, h10, read⟩ := Option.bind_eq_some_iff.mp read
    obtain rfl := Option.some.inj read
    refine ⟨?_, rfl, rfl, rfl⟩
    simp only [List.range_succ, List.range_zero, List.nil_append, List.cons_append, List.map_cons, List.map_nil,
      h0, h1, h2, h3, h4, h5, h6, h7, h8, h9, h10]
  · intro reads
    have columns := reads.columns
    simp only [List.range_succ, List.range_zero, List.nil_append, List.cons_append, List.map_cons,
      List.map_nil, List.cons.injEq, and_true] at columns
    obtain ⟨h0, h1, h2, h3, h4, h5, h6, h7, h8, h9, h10⟩ := columns
    simp only [h0, h1, h2, h3, h4, h5, h6, h7, h8, h9, h10, Option.bind_eq_bind, Option.bind_some,
      Option.pure_def, Option.some.injEq]
    rw [← reads.deltaRate, ← reads.deltaEntropy, ← reads.dominantRate]

/-- The age of a timestamp, in hours, reaches the delay. -/
def OldEnough (job : Labelling F) (now : F) : PyFloat F → Prop
  | .finite t => job.delayHours ≤ (now - t) / ((3600 : Nat) : F)
  | .negInf => True
  | _ => False

/-- A model saved at this time was trained after the row was captured. -/
def CapturedBefore : PyFloat F → F → Prop
  | .finite t, saved => t < saved
  | .negInf, _ => True
  | _, _ => False

theorem isRowEligible_iff {first second : F} (times : job.modelMtimes = [first, second]) (now : F)
    (t : PyFloat F) : isRowEligible { job with now := now } t = true ↔
      OldEnough job now t ∧ CapturedBefore t first ∧ CapturedBefore t second := by
  cases t with
  | finite t => by_cases young : (now - t) / 3600 < job.delayHours <;>
      simp [isRowEligible, OldEnough, CapturedBefore, times, young, not_le.mpr, not_lt.mp]
  | inf => simp [isRowEligible, OldEnough]
  | negInf => simp [isRowEligible, OldEnough, CapturedBefore]
  | nan => simp [isRowEligible, OldEnough, times]

/-- Nothing was seen in the window the row describes. -/
def IdleRow (f : Features F) : Prop :=
  f.entropy = 0 ∧ f.protoRatio = 0 ∧ f.dominantIpRatio = 0 ∧ f.sourcePortEntropy = 0 ∧
    f.ttlVariance = 0 ∧ f.fingerprintDiversity = 0

theorem isRowDegenerate_iff (f : Features F) : isRowDegenerate f = true ↔ IdleRow f := by
  simp [isRowDegenerate, IdleRow]

/-- What sends a row of the right width to the models. -/
structure ReadyRow (job : Labelling F) (first second now : F) (row : Row) (f : Features F) : Prop where
  old : ∃ t, row[timestampCol]?.bind job.float = some t ∧ OldEnough job now t ∧
    CapturedBefore t first ∧ CapturedBefore t second
  readsAs : ReadsAs job.float row f
  notIdle : ¬ IdleRow f

theorem readyAt_iff {header row : Row} {first second now : F} (times : job.modelMtimes = [first, second])
    (distinct : header.Nodup) (base : baseCsvHeader <+: header) (width : row.length = header.length)
    (f : Features F) : readyAt job header (row, now) = some f ↔ ReadyRow job first second now row f := by
  have reads : ∀ g : Features F, rowToFeatures { job with now := now } header row = some g ↔ ReadsAs job.float row g :=
    fun g => rowToFeatures_iff distinct base width g
  unfold readyAt scorable
  cases stamp : row[timestampCol]?.bind job.float with
  | none =>
    simp only [reduceCtorEq, false_iff]
    intro ready
    obtain ⟨t, found, -⟩ := ready.old
    rw [stamp] at found
    cases found
  | some t =>
    dsimp only
    have eligible := isRowEligible_iff times now t
    split
    · rename_i passes
      rw [Option.filter_eq_some_iff, reads, Bool.not_eq_true', ← Bool.not_eq_true, isRowDegenerate_iff]
      apply Iff.intro
      · intro read
        exact ⟨⟨t, stamp, eligible.mp passes⟩, read.1, read.2⟩
      · intro ready
        exact ⟨ready.readsAs, ready.notIdle⟩
    · rename_i fails
      simp only [reduceCtorEq, false_iff]
      intro ready
      obtain ⟨t', found, gates⟩ := ready.old
      rw [stamp, Option.some.injEq] at found
      subst found
      exact fails (eligible.mpr gates)

end Readings

section Agreement

/-- The place of the largest probability, the first of them where several are largest. -/
def Top (proba : List F) (k : Nat) (p : F) : Prop :=
  proba[k]? = some p ∧ (∀ y ∈ proba, y ≤ p) ∧ ∀ j < k, ∀ y, proba[j]? = some y → y < p

theorem argmax_lt {proba : List F} (some_class : proba ≠ []) : argmax proba < proba.length := by
  obtain ⟨x, inside, largest⟩ := proba.toFinset.exists_max_image id
    (by simpa [List.toFinset_nonempty_iff] using some_class)
  apply List.findIdx_lt_length_of_exists
  refine ⟨x, by simpa using inside, ?_⟩
  simpa using largest

theorem top_iff {proba : List F} {k : Nat} {p : F} (some_class : proba ≠ []) :
    Top proba k p ↔ argmax proba = k ∧ proba[k]? = some p := by
  apply Iff.intro
  · intro top
    obtain ⟨bound, here⟩ := List.getElem?_eq_some_iff.mp top.1
    refine ⟨(List.findIdx_eq bound).mpr ⟨?_, fun j before => ?_⟩, top.1⟩
    · simpa [here] using top.2.1
    · have less : proba[j] < p := top.2.2 j before _ (List.getElem?_eq_getElem (by omega))
      have beaten : ∃ y ∈ proba, proba[j] < y := ⟨p, here ▸ List.getElem_mem bound, less⟩
      simpa using beaten
  · intro first
    obtain ⟨rfl, here⟩ := first
    have bound := argmax_lt some_class
    have value : proba[argmax proba] = p := (List.getElem?_eq_some_iff.mp here).2
    have largest : ∀ y ∈ proba, y ≤ p := by
      have found : proba.all (fun y => decide (y ≤ proba[argmax proba])) = true := List.findIdx_getElem (w := bound)
      rw [value] at found
      simpa using found
    refine ⟨here, largest, fun j before y at_j => ?_⟩
    have beaten := List.not_of_lt_findIdx before
    obtain ⟨z, inside, more⟩ : ∃ z ∈ proba, proba[j] < z := by simpa using beaten
    have same : proba[j] = y := (List.getElem?_eq_some_iff.mp at_j).2
    exact same ▸ more.trans_le (largest z inside)

/-- Both models name the class, from the same list of classes and each with enough confidence. -/
def Agree (job : Labelling F) (rf second : List F) (c : Nat) : Prop :=
  job.clf.classes = job.secondClf.classes ∧ ∃ k p q, Top rf k p ∧ Top second k q ∧
    job.confidenceThreshold ≤ p ∧ job.confidenceThreshold ≤ q ∧ job.clf.classes[k]? = some c

theorem decideLabel_iff {job : Labelling F} {rf second : List F} (c : Nat) (some_class : rf ≠ [])
    (some_other : second ≠ []) : decideLabel job rf second = some c ↔ Agree job rf second c := by
  have place := List.getElem?_eq_getElem (argmax_lt some_class)
  have other := List.getElem?_eq_getElem (argmax_lt some_other)
  apply Iff.intro
  · intro decides
    unfold decideLabel at decides
    split at decides
    · cases decides
    · rename_i classes
      dsimp only at decides
      split at decides
      · cases decides
      · rename_i tops
        split at decides
        · cases decides
        · rename_i sure
          have same : argmax rf = argmax second := not_not.mp tops
          simp only [List.getD_eq_getElem?_getD, place, other, Option.getD_some, not_or, not_lt] at sure
          exact ⟨not_not.mp classes, argmax rf, _, _, (top_iff some_class).mpr ⟨rfl, place⟩,
            (top_iff some_other).mpr ⟨same.symm, by rw [same]; exact other⟩, sure.1, sure.2, decides⟩
  · intro agree
    obtain ⟨classes, k, p, q, first, second, sure, sureToo, named⟩ := agree
    have rfTop := (top_iff some_class).mp first
    have secondTop := (top_iff some_other).mp second
    simp [decideLabel, classes, rfTop.1, secondTop.1, List.getD_eq_getElem?_getD, rfTop.2, secondTop.2,
      not_lt.mpr sure, not_lt.mpr sureToo, ← named]

end Agreement

section Fates

/-- What becomes of a row. -/
inductive Fate where
  | kept
  | labelled (c : Nat)
  | dropped
deriving DecidableEq

variable (job : Labelling F) (header : Row)

/-- The features of a row the first pass collects. -/
def collected (x : Row × F) : Option (Features F) :=
  if rightWidth header x.1 then readyAt job header x else none

/-- What the first pass collects, in order. -/
def collectedRows (timed : List (Row × F)) : List (Row × Features F) :=
  timed.filterMap (fun x => (collected job header x).map (fun f => (x.1, f)))

/-- The input both models are given. -/
def batch (timed : List (Row × F)) : List (Features F) := (collectedRows job header timed).map Prod.snd

/-- How many rows before the one at `i` are in the batch. -/
def turn (timed : List (Row × F)) (i : Nat) : Nat := (batch job header (timed.take i)).length

/-- The fate of a row, given the answer that stands at its turn. -/
def fateOf (x : Row × F) (answer : Option (List F × List F)) : Fate :=
  if rightWidth header x.1 then
    match (collected job header x).bind (fun _ => answer.bind (fun a => decideLabel job a.1 a.2)) with
    | none => .kept
    | some c => .labelled c
  else .dropped

/-- The fates of all rows, where each collected row takes the next answer. -/
def fates : List (Row × F) → List (List F × List F) → List Fate
  | [], _ => []
  | x :: rest, answers => fateOf job header x answers.head? ::
      fates rest (if (collected job header x).isSome then answers.tail else answers)

/-- The rows with one fate, as they came. -/
def keptOf (timed : List (Row × F)) (ends : List Fate) : List Row :=
  (timed.zip ends).filterMap (fun x => if x.2 = .kept then some x.1.1 else none)

def labelledOf (timed : List (Row × F)) (ends : List Fate) : List (Row × Nat) :=
  (timed.zip ends).filterMap (fun x => match x.2 with
    | .labelled c => some (x.1.1, c)
    | _ => none)

def droppedOf (timed : List (Row × F)) (ends : List Fate) : List Row :=
  (timed.zip ends).filterMap (fun x => if x.2 = .dropped then some x.1.1 else none)

/-- The rows the first pass leaves where they are. -/
def passedOver (timed : List (Row × F)) : List Row :=
  timed.filterMap (fun x =>
    if rightWidth header x.1 ∧ (collected job header x).isNone then some x.1 else none)

variable {job header}

theorem scanRow_eq (s : Scan F) (x : Row × F) : scanRow job header s x =
    ⟨s.kept ++ passedOver job header [x], s.scorable ++ collectedRows job header [x],
      s.corrupt + [x].countP (fun y => !rightWidth header y.1)⟩ := by
  cases width : rightWidth header x.1 with
  | false => simp [scanRow, passedOver, collectedRows, collected, width]
  | true =>
    cases ready : readyAt job header x <;>
      simp [scanRow, passedOver, collectedRows, collected, width, ready]

theorem scan_eq (timed : List (Row × F)) : ∀ s : Scan F, timed.foldl (scanRow job header) s =
    ⟨s.kept ++ passedOver job header timed, s.scorable ++ collectedRows job header timed,
      s.corrupt + timed.countP (fun x => !rightWidth header x.1)⟩ := by
  induction timed with
  | nil =>
    intro s
    simp [passedOver, collectedRows]
  | cons x rest ih =>
    intro s
    rw [List.foldl_cons, ih, scanRow_eq]
    simp only [passedOver, collectedRows, List.append_assoc, ← List.filterMap_append,
      List.singleton_append, Nat.add_assoc, ← List.countP_append]

variable (job) in
/-- A scored row gets no label, or has a column to put it in. -/
def hasLabelColumn (x : (Row × Features F) × List F × List F) : Bool :=
  (decideLabel job x.2.1 x.2.2).isNone || decide (labelCol < x.1.1.length)

/-- The second pass as a whole: it fails where a row without a label column is to be labelled. -/
theorem settle_eq (scored : List ((Row × Features F) × List F × List F)) : ∀ s : List Row × List Row,
    scored.foldlM (settleRow job) s =
      if scored.all (hasLabelColumn job) then
        some (s.1 ++ scored.filterMap (fun x => if decideLabel job x.2.1 x.2.2 = none then some x.1.1 else none),
          s.2 ++ scored.filterMap (fun x => (decideLabel job x.2.1 x.2.2).map (labeledRow x.1.1)))
      else none := by
  induction scored with
  | nil =>
    intro s
    simp
  | cons x rest ih =>
    intro s
    rw [List.foldlM_cons, List.all_cons]
    cases decides : decideLabel job x.2.1 x.2.2 with
    | none =>
      have turns : settleRow job s x = some (s.1 ++ [x.1.1], s.2) := by simp [settleRow, decides]
      have test : hasLabelColumn job x = true := by simp [hasLabelColumn, decides]
      rw [turns, test, Bool.true_and]
      simp [ih, decides]
    | some c =>
      by_cases wide : labelCol < x.1.1.length
      · have turns : settleRow job s x = some (s.1, s.2 ++ [labeledRow x.1.1 c]) := by
          simp [settleRow, decides, wide]
        have test : hasLabelColumn job x = true := by simp [hasLabelColumn, wide]
        rw [turns, test, Bool.true_and]
        simp [ih, decides]
      · have turns : settleRow job s x = none := by simp [settleRow, decides, wide]
        have test : hasLabelColumn job x = false := by simp [hasLabelColumn, decides, wide]
        rw [turns, test]
        simp

@[simp]
theorem collectedRows_cons (x : Row × F) (rest : List (Row × F)) :
    collectedRows job header (x :: rest) =
      ((collected job header x).map (fun f => (x.1, f))).toList ++ collectedRows job header rest := by
  cases found : collected job header x <;> simp [collectedRows, found]

@[simp]
theorem collectedRows_nil : collectedRows job header [] = [] := rfl

theorem rightWidth_of_collected {x : Row × F} {f : Features F} (found : collected job header x = some f) :
    rightWidth header x.1 = true := by
  unfold collected at found
  split at found
  · assumption
  · cases found

theorem collectedRows_width (timed : List (Row × F)) :
    ∀ x ∈ collectedRows job header timed, x.1.length = header.length := by
  intro x inside
  obtain ⟨y, _, found⟩ := List.mem_filterMap.mp inside
  obtain ⟨f, ready, rfl⟩ := Option.map_eq_some_iff.mp found
  have width := rightWidth_of_collected ready
  exact eq_of_beq width

@[simp]
theorem collectedRows_none {x : Row × F} (left : collected job header x = none) (rest : List (Row × F)) :
    collectedRows job header (x :: rest) = collectedRows job header rest := by
  simp [left]

theorem passedOver_some {x : Row × F} {f : Features F} (found : collected job header x = some f)
    (rest : List (Row × F)) : passedOver job header (x :: rest) = passedOver job header rest := by
  simp [passedOver, found]

/-- A collected row takes the first answer left. -/
theorem fates_some {x : Row × F} {f : Features F} (found : collected job header x = some f)
    (rest : List (Row × F)) (a : List F × List F) (later : List (List F × List F)) :
    fates job header (x :: rest) (a :: later) =
      fateOf job header x (some a) :: fates job header rest later := by
  simp [fates, found]

theorem fates_none {x : Row × F} (left : collected job header x = none) (rest : List (Row × F))
    (answers : List (List F × List F)) : fates job header (x :: rest) answers =
      fateOf job header x none :: fates job header rest answers := by
  simp [fates, fateOf, left]

/-- As multisets, the rows kept by the two passes are the rows whose fate is to be kept. -/
theorem kept_perm (timed : List (Row × F)) : ∀ answers : List (List F × List F),
    answers.length = (collectedRows job header timed).length →
      (passedOver job header timed ++ ((collectedRows job header timed).zip answers).filterMap
        (fun x => if decideLabel job x.2.1 x.2.2 = none then some x.1.1 else none)).Perm
      (keptOf timed (fates job header timed answers)) := by
  induction timed with
  | nil =>
    intro answers _
    simp [passedOver, collectedRows, keptOf, fates]
  | cons x rest ih =>
    intro answers fits
    cases found : collected job header x with
    | none =>
      have again := ih answers (by simpa [found] using fits)
      rw [fates_none found, collectedRows_none found]
      cases width : rightWidth header x.1 with
      | false => simpa [passedOver, keptOf, fateOf, width] using again
      | true => simpa [passedOver, keptOf, fateOf, width, found] using again
    | some f =>
      obtain ⟨a, later, rfl⟩ := List.exists_cons_of_length_pos (l := answers) (by simp [fits, found])
      have again := ih later (by simpa [found] using fits)
      have width : rightWidth header x.1 = true := rightWidth_of_collected found
      rw [fates_some found, passedOver_some found]
      cases decides : decideLabel job a.1 a.2 with
      | none =>
        have last := List.perm_middle.trans (again.cons x.1)
        simpa [keptOf, fateOf, width, found, decides] using last
      | some c => simpa [keptOf, fateOf, width, found, decides] using again

/-- The rows labelled are those with that fate, in the order they came. -/
theorem labelled_eq (timed : List (Row × F)) : ∀ answers : List (List F × List F),
    answers.length = (collectedRows job header timed).length →
      labelledOf timed (fates job header timed answers) =
        ((collectedRows job header timed).zip answers).filterMap
          (fun x => (decideLabel job x.2.1 x.2.2).map (fun c => (x.1.1, c))) := by
  induction timed with
  | nil =>
    intro answers _
    rfl
  | cons x rest ih =>
    intro answers fits
    cases found : collected job header x with
    | none =>
      have again := ih answers (by simpa [found] using fits)
      rw [fates_none found, collectedRows_none found, ← again]
      cases width : rightWidth header x.1 <;> simp [labelledOf, fateOf, width, found]
    | some f =>
      obtain ⟨a, later, rfl⟩ := List.exists_cons_of_length_pos (l := answers) (by simp [fits, found])
      have again := ih later (by simpa [found] using fits)
      have width : rightWidth header x.1 = true := rightWidth_of_collected found
      rw [fates_some found]
      cases decides : decideLabel job a.1 a.2 <;>
        simp [labelledOf, fateOf, width, found, decides, ← again]

variable (job header) in
theorem fates_length (timed : List (Row × F)) : ∀ answers : List (List F × List F),
    (fates job header timed answers).length = timed.length := by
  induction timed with
  | nil =>
    intro answers
    rfl
  | cons x rest ih =>
    intro answers
    simp [fates, ih]

theorem turn_succ (x : Row × F) (rest : List (Row × F)) (i : Nat) :
    turn job header (x :: rest) (i + 1) =
      (if (collected job header x).isSome then 1 else 0) + turn job header rest i := by
  cases found : collected job header x <;> simp [turn, batch, found, Nat.add_comm]

/-- Which answer a row meets: that of its own turn. -/
theorem fates_at (timed : List (Row × F)) : ∀ (answers : List (List F × List F)) (i : Nat) (x : Row × F),
    timed[i]? = some x → (fates job header timed answers)[i]? =
      some (fateOf job header x answers[turn job header timed i]?) := by
  induction timed with
  | nil =>
    intro answers i x here
    simp at here
  | cons y rest ih =>
    intro answers i x here
    cases i with
    | zero =>
      have same : y = x := by simpa using here
      simp [fates, same, turn, batch, collectedRows, List.head?_eq_getElem?]
    | succ i =>
      rw [turn_succ, fates, List.getElem?_cons_succ, ih _ i x (by simpa using here)]
      split
      · rw [List.getElem?_tail, Nat.add_comm]
      · rw [Nat.zero_add]

/-- A collected row's features stand in the batch at the row's turn. -/
theorem batch_at (timed : List (Row × F)) : ∀ (i : Nat) (x : Row × F) (f : Features F),
    timed[i]? = some x → collected job header x = some f →
      (batch job header timed)[turn job header timed i]? = some f := by
  induction timed with
  | nil =>
    intro i x f here _
    simp at here
  | cons y rest ih =>
    intro i x f here found
    cases i with
    | zero =>
      have same : y = x := by simpa using here
      subst same
      simp [turn, batch, found, collectedRows_nil]
    | succ i =>
      have later := ih i x f (by simpa using here) found
      rw [turn_succ]
      cases first : collected job header y with
      | none => simpa [batch, first] using later
      | some g => simpa [batch, first, Nat.add_comm 1] using later

theorem fateOf_dropped (x : Row × F) (answer : Option (List F × List F)) :
    fateOf job header x answer = .dropped ↔ x.1.length ≠ header.length := by
  unfold fateOf
  split
  · rename_i width
    have same : x.1.length = header.length := eq_of_beq width
    split <;> simp [same]
  · rename_i width
    simpa [rightWidth] using width

theorem fateOf_labelled (x : Row × F) (answer : Option (List F × List F)) (c : Nat) :
    fateOf job header x answer = .labelled c ↔
      ∃ f a, collected job header x = some f ∧ answer = some a ∧ decideLabel job a.1 a.2 = some c := by
  cases found : collected job header x with
  | none => cases width : rightWidth header x.1 <;> simp [fateOf, found, width]
  | some f =>
    have width := rightWidth_of_collected found
    cases answer with
    | none => simp [fateOf, found, width]
    | some a => cases decides : decideLabel job a.1 a.2 <;> simp [fateOf, found, width, decides]

omit [Arith F] in
theorem rows_by_fate : ∀ (timed : List (Row × F)) (ends : List Fate), ends.length = timed.length →
    (timed.map Prod.fst).Perm
      (keptOf timed ends ++ (labelledOf timed ends).map Prod.fst ++ droppedOf timed ends)
  | [], _, _ => by simp [keptOf, labelledOf, droppedOf]
  | x :: rest, [], fits => by simp at fits
  | x :: rest, fate :: ends, fits => by
    have again := (rows_by_fate rest ends (by simpa using fits)).cons x.1
    cases fate with
    | kept => simpa [keptOf, labelledOf, droppedOf] using again
    | labelled c =>
      rw [List.append_assoc] at again
      have moved := again.trans List.perm_middle.symm
      simpa [keptOf, labelledOf, droppedOf] using moved
    | dropped =>
      have moved := again.trans List.perm_middle.symm
      simpa [keptOf, labelledOf, droppedOf] using moved

variable (job header) in
/-- The two models' answers, side by side. -/
def answers (timed : List (Row × F)) : List (List F × List F) :=
  (job.clf.predictProba (batch job header timed)).zip (job.secondClf.predictProba (batch job header timed))

variable (job header) in
theorem answers_length (timed : List (Row × F)) :
    (answers job header timed).length = (collectedRows job header timed).length := by
  simp [answers, job.clf.one_each, job.secondClf.one_each, batch]

theorem labelledOf_width (timed : List (Row × F)) :
    ∀ x ∈ labelledOf timed (fates job header timed (answers job header timed)), x.1.length = header.length := by
  intro x inside
  rw [labelled_eq timed _ (answers_length job header timed)] at inside
  obtain ⟨y, scored, found⟩ := List.mem_filterMap.mp inside
  obtain ⟨c, _, rfl⟩ := Option.map_eq_some_iff.mp found
  exact collectedRows_width timed y.1 (List.of_mem_zip scored).1

theorem droppedOf_length (timed : List (Row × F)) : ∀ answers : List (List F × List F),
    (droppedOf timed (fates job header timed answers)).length =
      timed.countP (fun x => !rightWidth header x.1) := by
  induction timed with
  | nil =>
    intro answers
    rfl
  | cons x rest ih =>
    intro answers
    have apart : fateOf job header x answers.head? = .dropped ↔ x.1.length ≠ header.length :=
      fateOf_dropped x answers.head?
    rw [fates, List.countP_cons, ← ih (if (collected job header x).isSome then answers.tail else answers)]
    cases width : rightWidth header x.1 with
    | true =>
      have fits : x.1.length = header.length := eq_of_beq width
      have stays : fateOf job header x answers.head? ≠ .dropped := fun lost => apart.mp lost fits
      simp [droppedOf, stays]
    | false =>
      have differs : x.1.length ≠ header.length := by simpa [rightWidth] using width
      simp [droppedOf, apart.mpr differs]

theorem scoreLoop_eq (timed : List (Row × F)) : scoreLoop job header timed =
    let scored := (collectedRows job header timed).zip (answers job header timed)
    if scored.all (hasLabelColumn job) then some {
      kept := passedOver job header timed ++
        scored.filterMap (fun x => if decideLabel job x.2.1 x.2.2 = none then some x.1.1 else none)
      labeled := scored.filterMap (fun x => (decideLabel job x.2.1 x.2.2).map (labeledRow x.1.1))
      corrupt := timed.countP (fun x => !rightWidth header x.1) }
    else none := by
  unfold scoreLoop
  rw [scan_eq]
  simp only [List.nil_append, Nat.zero_add]
  rw [settle_eq, apply_ite (Option.map _)]
  rfl

variable (job) in
theorem scoreLoop_returns (base : baseCsvHeader <+: header) (timed : List (Row × F)) :
    ∃ result, scoreLoop job header timed = some result ∧
      result.kept.Perm (keptOf timed (fates job header timed (answers job header timed))) ∧
      result.labeled = (labelledOf timed (fates job header timed (answers job header timed))).map
        (fun x => labeledRow x.1 x.2) ∧
      result.corrupt = (droppedOf timed (fates job header timed (answers job header timed))).length := by
  have fits := answers_length job header timed
  have wide : ((collectedRows job header timed).zip (answers job header timed)).all (hasLabelColumn job) = true := by
    apply List.all_eq_true.mpr
    intro x inside
    have width := collectedRows_width timed x.1 (List.of_mem_zip inside).1
    have long : labelCol < header.length := base.length_le
    simp [hasLabelColumn, width, long]
  rw [scoreLoop_eq]
  dsimp only
  rw [if_pos wide]
  refine ⟨_, rfl, kept_perm timed _ fits, ?_, (droppedOf_length timed _).symm⟩
  rw [labelled_eq timed _ fits, List.map_filterMap]
  apply List.filterMap_congr
  intro x _
  rw [Option.map_map]
  rfl

theorem collectedRows_const (rows : List Row) :
    collectedRows job header (rows.map (fun row => (row, job.now))) =
      scorableRows job header (rows.filter (rightWidth header)) := by
  unfold collectedRows scorableRows
  rw [List.filterMap_map, List.filterMap_filter]
  apply List.filterMap_congr
  intro row _
  cases width : rightWidth header row <;> simp [collected, readyAt, width]

theorem passedOver_const (rows : List Row) :
    passedOver job header (rows.map (fun row => (row, job.now))) =
      (rows.filter (rightWidth header)).filter (fun row => (scorable job header row).isNone) := by
  unfold passedOver
  rw [List.filterMap_map, List.filter_filter, ← List.filterMap_eq_filter]
  apply List.filterMap_congr
  intro row _
  cases width : rightWidth header row <;>
    cases ready : scorable job header row <;> simp [collected, readyAt, width, ready, Option.guard]

section Decisions

variable {α : Type} (row : α → Row) (label : α → Option Nat)

omit [Arith F] in
theorem decisions_kept (scored : List α) :
    ((scored.map (fun x => (row x, label x))).filter (fun x => x.2.isNone)).map Prod.fst =
      scored.filterMap (fun x => if label x = none then some (row x) else none) := by
  induction scored with
  | nil => rfl
  | cons x rest ih => cases found : label x <;> simp [found, ← ih]

omit [Arith F] in
theorem decisions_labelled (scored : List α) :
    (chosen (scored.map (fun x => (row x, label x)))).map (fun x => labeledRow x.1 x.2) =
      scored.filterMap (fun x => (label x).map (labeledRow (row x))) := by
  unfold chosen
  induction scored with
  | nil => rfl
  | cons x rest ih => cases found : label x <;> simp [found, ← ih]

omit [Arith F] in
theorem decisions_all (scored : List α) :
    (chosen (scored.map (fun x => (row x, label x)))).all (fun x => decide (labelCol < x.1.length)) =
      scored.all (fun x => (label x).isNone || decide (labelCol < (row x).length)) := by
  unfold chosen
  induction scored with
  | nil => rfl
  | cons x rest ih => cases found : label x <;> simp [found, ← ih]

end Decisions

/-- With one clock for all rows, the loop computes the three lists at once. -/
theorem scoreLoop_const (rows : List Row) :
    scoreLoop job header (rows.map (fun row => (row, job.now))) = scoreRows job header rows := by
  have torn : (rows.map (fun row => (row, job.now))).countP (fun x => !rightWidth header x.1) =
      (rows.filter (fun row => !rightWidth header row)).length := by
    rw [List.countP_map, List.countP_eq_length_filter]
    rfl
  rw [scoreLoop_eq, torn]
  unfold scoreRows decided
  dsimp only
  rw [answers, batch, collectedRows_const, passedOver_const, decisions_kept, decisions_labelled, decisions_all]
  rfl

end Fates

/-- The staged form of a row: its first thirteen columns, the last of them the label. -/
def Staged (row : Row) (c : Nat) (out : Row) : Prop :=
  out.length = 13 ∧ out[12]? = some (toString c).toList ∧ ∀ j < 12, out[j]? = row[j]?

theorem labeledRow_staged {row : Row} (c : Nat) (wide : 13 ≤ row.length) : Staged row c (labeledRow row c) := by
  have size : (row.take 13).length = 13 := by simp [wide]
  refine ⟨by simp [labeledRow, baseCsvHeader, wide], ?_, fun j before => ?_⟩
  · simp [labeledRow, baseCsvHeader, labelCol, size]
  · have other : (12 : Nat) ≠ j := by omega
    have early : j < 13 := by omega
    simp [labeledRow, baseCsvHeader, labelCol, List.getElem?_set_ne other, early]

/-- What a label takes: the row fits the header and is ready, the answers at its turn are those
to its own features, and they agree. -/
def Earned (job : Labelling F) (header : Row) (first second : F) (timed : List (Row × F)) (i : Nat)
    (row : Row) (now : F) (c : Nat) : Prop :=
  row.length = header.length ∧ ∃ features rf other,
    ReadyRow job first second now row features ∧
    (batch job header timed)[turn job header timed i]? = some features ∧
    (job.clf.predictProba (batch job header timed))[turn job header timed i]? = some rf ∧
    (job.secondClf.predictProba (batch job header timed))[turn job header timed i]? = some other ∧
    Agree job rf other c

omit [Arith F] in
theorem nonempty_of_answer (model : Classifier F) {rows : List (Features F)} {i : Nat} {proba : List F}
    (answered : (model.predictProba rows)[i]? = some proba) : proba ≠ [] := by
  have size := model.one_per_class rows proba (List.mem_of_getElem? answered)
  intro empty
  apply model.trained
  apply List.eq_nil_of_length_eq_zero
  rw [← size, empty]
  rfl

theorem earned_iff {job : Labelling F} {header row : Row} {first second now : F} {timed : List (Row × F)}
    {i : Nat} (times : job.modelMtimes = [first, second]) (distinct : header.Nodup)
    (base : baseCsvHeader <+: header) (here : timed[i]? = some (row, now)) (c : Nat) :
    fateOf job header (row, now) (answers job header timed)[turn job header timed i]? = .labelled c ↔
      Earned job header first second timed i row now c := by
  rw [fateOf_labelled]
  apply Iff.intro
  · intro labelled
    obtain ⟨features, answer, found, answered, decides⟩ := labelled
    have width : row.length = header.length := eq_of_beq (rightWidth_of_collected found)
    have ready : readyAt job header (row, now) = some features := by
      simpa [collected, rightWidth, width] using found
    obtain ⟨rf, other⟩ := List.getElem?_zip_eq_some.mp answered
    exact ⟨width, features, answer.1, answer.2, (readyAt_iff times distinct base width features).mp ready,
      batch_at timed i _ features here found, rf, other,
      (decideLabel_iff c (nonempty_of_answer _ rf) (nonempty_of_answer _ other)).mp decides⟩
  · intro earned
    obtain ⟨width, features, rf, other, ready, -, answered, answeredToo, agree⟩ := earned
    have found := (readyAt_iff times distinct base width features).mpr ready
    exact ⟨features, (rf, other), by simpa [collected, rightWidth, width] using found,
      List.getElem?_zip_eq_some.mpr ⟨answered, answeredToo⟩,
      (decideLabel_iff c (nonempty_of_answer _ answered) (nonempty_of_answer _ answeredToo)).mpr agree⟩

/-- Both models saved, one after the other, since the older rows below were captured. -/
def savedTwice : Labelling ℚ := { sureLabelling with modelMtimes := [200, 300] }

/-- A row to label, one torn, one too young and one whose clock came later. -/
def mixedRows : List (Row × ℚ) :=
  [(capturedAt ['5'], 1000000), ([['5']], 1000000), (capturedAt (List.replicate 7 '9'), 1000001),
    (capturedAt ['6'], 1000002)]

end Flod.Stage2
