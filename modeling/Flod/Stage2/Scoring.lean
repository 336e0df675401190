import Flod.Lib.Arith
import Flod.Lib.Csv

/-! Which captured rows get a label: the row must be old enough, captured before either model
was trained, readable and not idle, and both models must agree with confidence. -/

namespace Flod.Stage2
open Flod.Lib Flod.Lib.Csv

variable {F : Type} [Arith F]

/-- What `float` makes of a text. -/
inductive PyFloat (F : Type) where
  | finite (x : F)
  | inf
  | negInf
  | nan

/-- `FEATURE_COLS`. -/
structure Features (F : Type) where
  entropy : F
  ewmaRate : F
  meanH : F
  meanR : F
  sigmaH : F
  sigmaR : F
  protoRatio : F
  dominantIpRatio : F
  deltaRate : F
  deltaEntropy : F
  dominantRate : F
  sourcePortEntropy : F
  ttlVariance : F
  fingerprintDiversity : F

/-- A trained model: its classes, and one probability for each of them and each row given. -/
structure Classifier (F : Type) where
  classes : List Nat
  predictProba : List (Features F) → List (List F)
  trained : classes ≠ []
  one_each : ∀ rows, (predictProba rows).length = rows.length
  one_per_class : ∀ rows, ∀ proba ∈ predictProba rows, proba.length = classes.length

/-- What one run of the labelling knows beside the file: the models and when they were saved,
the clock, the settings, and how texts are read as numbers. -/
structure Labelling (F : Type) where
  clf : Classifier F
  secondClf : Classifier F
  modelMtimes : List F
  now : F
  delayHours : F
  confidenceThreshold : F
  float : Field → Option (PyFloat F)

/-- `BASE_CSV_HEADER`. -/
def baseCsvHeader : Row :=
  ["entropy", "ewma_rate", "mean_h", "mean_r", "sigma_h", "sigma_r", "proto_ratio",
    "dominant_ip_ratio", "source_port_entropy", "ttl_variance", "fingerprint_diversity",
    "timestamp", "label"].map String.toList

def timestampCol : Nat := 11

def labelCol : Nat := 12

/-- Comparisons with a timestamp that is no number all fail; an infinite one is never old
enough, or older than anything. -/
def isRowEligible (job : Labelling F) : PyFloat F → Bool
  | .finite t =>
      if (job.now - t) / 3600 < job.delayHours then false else job.modelMtimes.all (fun m => decide (t < m))
  | .inf => false
  | .negInf => true
  | .nan => job.modelMtimes.isEmpty

/-- Every one of `DEGENERATE_FIELDS` reads zero. -/
def isRowDegenerate (f : Features F) : Bool :=
  [f.entropy, f.protoRatio, f.dominantIpRatio, f.sourcePortEntropy, f.ttlVariance,
    f.fingerprintDiversity].all (fun v => decide (v = 0))

/-- `by_name[name]`: of columns with one name, the last. -/
def column (header row : Row) (name : String) : Option Field :=
  (header.zip row).reverse.lookup name.toList

/-- A finite number in a named column. -/
def finiteColumn (job : Labelling F) (header row : Row) (name : String) : Option F :=
  match (column header row name).bind job.float with
  | some (.finite x) => some x
  | _ => none

/-- None where a column is missing, is no number, or is not finite. -/
def rowToFeatures (job : Labelling F) (header row : Row) : Option (Features F) := do
  let entropy ← finiteColumn job header row "entropy"
  let ewmaRate ← finiteColumn job header row "ewma_rate"
  let meanH ← finiteColumn job header row "mean_h"
  let meanR ← finiteColumn job header row "mean_r"
  let sigmaH ← finiteColumn job header row "sigma_h"
  let sigmaR ← finiteColumn job header row "sigma_r"
  let protoRatio ← finiteColumn job header row "proto_ratio"
  let dominantIpRatio ← finiteColumn job header row "dominant_ip_ratio"
  let sourcePortEntropy ← finiteColumn job header row "source_port_entropy"
  let ttlVariance ← finiteColumn job header row "ttl_variance"
  let fingerprintDiversity ← finiteColumn job header row "fingerprint_diversity"
  pure { entropy, ewmaRate, meanH, meanR, sigmaH, sigmaR, protoRatio, dominantIpRatio,
         deltaRate := ewmaRate - meanR, deltaEntropy := entropy - meanH,
         dominantRate := ewmaRate * dominantIpRatio,
         sourcePortEntropy, ttlVariance, fingerprintDiversity }

/-- The features of a row that is to be scored. None for a row that stays where it is. -/
def scorable (job : Labelling F) (header row : Row) : Option (Features F) :=
  match row[timestampCol]?.bind job.float with
  | none => none
  | some t =>
      if isRowEligible job t then (rowToFeatures job header row).filter (fun f => !isRowDegenerate f) else none

/-- The first of the largest. -/
def argmax (proba : List F) : Nat := proba.findIdx (fun x => proba.all (fun y => decide (y ≤ x)))

/-- The class both models put first, each with enough confidence. -/
def decideLabel (job : Labelling F) (rfProba secondProba : List F) : Option Nat :=
  if job.clf.classes ≠ job.secondClf.classes then none
  else
    let top := argmax rfProba
    let secondTop := argmax secondProba
    if top ≠ secondTop then none
    else if rfProba.getD top 0 < job.confidenceThreshold ∨
        secondProba.getD secondTop 0 < job.confidenceThreshold then none
    else job.clf.classes[top]?

/-- The staged form of a row: the base columns, with the label filled in. -/
def labeledRow (row : Row) (label : Nat) : Row :=
  (row.take baseCsvHeader.length).set labelCol (toString label).toList

def rightWidth (header row : Row) : Bool := row.length == header.length

/-- The rows to be scored, with their features. -/
def scorableRows (job : Labelling F) (header : Row) (fit : List Row) : List (Row × Features F) :=
  fit.filterMap (fun row => (scorable job header row).map (fun f => (row, f)))

/-- The scored rows, one batch for each model, with the label decided for each. -/
def decided (job : Labelling F) (rows : List (Row × Features F)) : List (Row × Option Nat) :=
  let probas := (job.clf.predictProba (rows.map Prod.snd)).zip (job.secondClf.predictProba (rows.map Prod.snd))
  (rows.zip probas).map (fun x => (x.1.1, decideLabel job x.2.1 x.2.2))

/-- The rows that got a label. -/
def chosen (rows : List (Row × Option Nat)) : List (Row × Nat) :=
  rows.filterMap (fun x => x.2.map (fun label => (x.1, label)))

structure Scored where
  kept : List Row
  labeled : List Row
  corrupt : Nat

/-- `_score_rows`. A row of the wrong width is dropped. None is the exception a labelled row
without a label column raises. -/
def scoreRows (job : Labelling F) (header : Row) (rows : List Row) : Option Scored :=
  let fit := rows.filter (rightWidth header)
  let results := decided job (scorableRows job header fit)
  if (chosen results).all (fun x => decide (labelCol < x.1.length)) then
    some {
      kept := fit.filter (fun row => (scorable job header row).isNone) ++
        (results.filter (fun x => x.2.isNone)).map Prod.fst
      labeled := (chosen results).map (fun x => labeledRow x.1 x.2)
      corrupt := (rows.filter (fun row => !rightWidth header row)).length }
  else none

section Split

variable (job : Labelling F) (header : Row)

theorem scorableRows_rows (fit : List Row) :
    (scorableRows job header fit).map Prod.fst = fit.filter (fun row => (scorable job header row).isSome) := by
  unfold scorableRows
  induction fit with
  | nil => rfl
  | cons row rest ih => cases found : scorable job header row <;> simp [found, ih]

/-- A model answers for every row it is given, so no scored row is lost. -/
theorem decided_rows (rows : List (Row × Features F)) :
    (decided job rows).map Prod.fst = rows.map Prod.fst := by
  have answered : rows.length ≤ ((job.clf.predictProba (rows.map Prod.snd)).zip
      (job.secondClf.predictProba (rows.map Prod.snd))).length := by
    simp [List.length_zip, job.clf.one_each, job.secondClf.one_each]
  rw [decided, List.map_map]
  calc (rows.zip _).map (fun x => x.1.1)
      = ((rows.zip _).map Prod.fst).map Prod.fst := by rw [List.map_map]; rfl
    _ = rows.map Prod.fst := by rw [List.map_fst_zip answered]

omit [Arith F] in
theorem chosen_rows (rows : List (Row × Option Nat)) :
    (chosen rows).map Prod.fst = (rows.filter (fun x => x.2.isSome)).map Prod.fst := by
  unfold chosen
  induction rows with
  | nil => rfl
  | cons row rest ih =>
    obtain ⟨fields, label⟩ := row
    cases label <;> simp [ih]

omit [Arith F] in
theorem perm_none_some {α β : Type} (found : α → Option β) (rows : List α) :
    rows.Perm (rows.filter (fun x => (found x).isNone) ++ rows.filter (fun x => (found x).isSome)) := by
  have split := List.filter_append_perm (fun x => (found x).isNone) rows
  simpa [Option.not_isNone] using split.symm

variable {job header}

/-- The rows of the right width are those kept and those labelled, each once. -/
theorem scoreRows_splits {rows : List Row} {result : Scored}
    (scored : scoreRows job header rows = some result) :
    ∃ picked : List (Row × Nat),
      (rows.filter (rightWidth header)).Perm (result.kept ++ picked.map Prod.fst) ∧
      result.labeled = picked.map (fun x => labeledRow x.1 x.2) := by
  unfold scoreRows at scored
  dsimp only at scored
  split at scored
  · cases scored
    refine ⟨_, ?_, rfl⟩
    set fit := rows.filter (rightWidth header)
    set results := decided job (scorableRows job header fit)
    have labels : (fit.filter (fun row => (scorable job header row).isSome)).Perm
        ((results.filter (fun x => x.2.isNone)).map Prod.fst ++ (chosen results).map Prod.fst) := by
      rw [← scorableRows_rows, ← decided_rows, chosen_rows, ← List.map_append]
      exact (perm_none_some Prod.snd results).map Prod.fst
    rw [List.append_assoc]
    exact (perm_none_some (scorable job header) fit).trans (labels.append_left _)
  · cases scored

theorem scoreRows_kept {rows : List Row} {result : Scored}
    (scored : scoreRows job header rows = some result) : ∀ row ∈ result.kept, rightWidth header row = true := by
  obtain ⟨picked, split, -⟩ := scoreRows_splits scored
  intro row member
  have inside : row ∈ rows.filter (rightWidth header) := split.mem_iff.mpr (List.mem_append_left _ member)
  exact (List.mem_filter.mp inside).2

end Split

end Flod.Stage2
