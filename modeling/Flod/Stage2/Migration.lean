import Flod.Lib.Transaction
import Mathlib.Logic.Function.Iterate

/-! The migration that lets `logs.rate` be unset. The table is renamed, rebuilt and its rows
copied across; the rename and the rebuilding stand by themselves, so a failure after them is
not undone by the rollback. -/

namespace Flod.Stage2
open Flod.Lib

/-- A table of incident rows, each under its id. -/
structure IncidentTable (R : Type) where
  rateNotNull : Bool
  rows : List (Nat × R)

/-- The tables the migrations look at. -/
structure Database (R : Type) where
  logs : Option (IncidentTable R)
  logsPreMigration : Option (IncidentTable R)
  victimIp : Bool

variable {R : Type}

namespace Database

/-- `TABLES["logs"]`, which leaves an existing table alone. -/
def createLogs (db : Database R) : Database R :=
  { db with logs := some (db.logs.getD ⟨false, []⟩) }

def addVictimIp (db : Database R) : Database R := { db with victimIp := true }

def renameLogs (db : Database R) : Database R :=
  { db with logs := none, logsPreMigration := db.logs }

/-- The rows of the old table with their ids. -/
def copyRows (db : Database R) : Database R :=
  { db with logs := db.logs.map (fun table =>
      { table with rows := table.rows ++ (db.logsPreMigration.map IncidentTable.rows).getD [] }) }

def dropOld (db : Database R) : Database R := { db with logsPreMigration := none }

/-- The incident rows anyone can read. -/
def incidents (db : Database R) : List (Nat × R) := (db.logs.map IncidentTable.rows).getD []

end Database

/-- The statements of `_relax_logs_rate`. -/
inductive RelaxStatement where
  | pragma
  | rename
  | create
  | insert
  | drop
  | commit
  deriving DecidableEq, Repr

/-- The statements inside the `try`. A table cannot take a name that is in use. -/
def RelaxStatement.exec : RelaxStatement → SqlConnection (Database R) → Option (SqlConnection (Database R))
  | .pragma, c => some c
  | .rename, c =>
      if c.contents.logsPreMigration.isSome then none else some (c.alterLayout Database.renameLogs)
  | .create, c => some (c.alterLayout Database.createLogs)
  | .insert, c => some (c.alterRows Database.copyRows)
  | .drop, c => some (c.alterLayout Database.dropOld)
  | .commit, c => some c.commit

/-- A failed migration is logged and passed over; the query before it may raise. The flag says
whether it returned. -/
def relaxLogsRate (fails : Option RelaxStatement) (c : SqlConnection (Database R)) :
    SqlConnection (Database R) × Bool :=
  if fails = some .pragma then (c, false)
  else if (c.contents.logs.map IncidentTable.rateNotNull).getD false then
    let migrated := c.script RelaxStatement.exec fails [.rename, .create, .insert, .drop, .commit]
    if migrated.2 then (migrated.1, true) else (migrated.1.rollback, true)
  else (c, true)

/-- An index on `logs` cannot be created without the table. -/
def applySchema (fails : Option RelaxStatement) (c : SqlConnection (Database R)) :
    SqlConnection (Database R) × Bool :=
  let created := c.alterLayout Database.createLogs
  let widened := if created.contents.victimIp then created else created.alterLayout Database.addVictimIp
  let relaxed := relaxLogsRate fails widened
  if relaxed.2 ∧ relaxed.1.contents.logs.isSome then (relaxed.1.commit, true) else (relaxed.1, false)

/-- The database once `apply` has returned or raised and the connection is closed. -/
def afterApply (fails : Option RelaxStatement) (db : Database R) : Database R :=
  (applySchema fails (.opened db)).1.stored

/-! What each failure leaves behind. -/

section Outcomes

variable {db : Database R} {table : IncidentTable R} {fails : Option RelaxStatement}

/-- Nothing is changed if the table is not in the way, if the query or the rename fails, or if
the name of the old table is taken. -/
theorem relaxLogsRate_untouched
    (untouched : (db.logs.map IncidentTable.rateNotNull).getD false = false ∨ fails = some .pragma ∨
      fails = some .rename ∨ db.logsPreMigration.isSome = true) :
    (relaxLogsRate fails (.opened db)).1 = .opened db := by
  unfold relaxLogsRate
  by_cases raised : fails = some .pragma
  · simp [raised]
  · by_cases strict : (db.logs.map IncidentTable.rateNotNull).getD false = true
    · have stops : (SqlConnection.opened db).script RelaxStatement.exec fails
          [.rename, .create, .insert, .drop, .commit] = (.opened db, false) := by
        rcases untouched with loose | query | rename | taken
        · rw [loose] at strict
          cases strict
        · exact absurd query raised
        · simp [SqlConnection.script, rename]
        · by_cases rename : fails = some .rename
          · simp [SqlConnection.script, rename]
          · simp [SqlConnection.script, rename, RelaxStatement.exec, taken]
      simp [raised, strict, stops]
    · simp [raised, strict]

variable (strict : db.logs = some table ∧ table.rateNotNull = true) (free : db.logsPreMigration = none)

include strict free

theorem relaxLogsRate_done :
    (relaxLogsRate none (.opened db)).1 =
      .opened { db with logs := some ⟨false, table.rows⟩, logsPreMigration := none } := by
  simp [relaxLogsRate, SqlConnection.script, RelaxStatement.exec, strict, free, Database.renameLogs,
    Database.createLogs, Database.copyRows, Database.dropOld, SqlConnection.commit]

theorem relaxLogsRate_create :
    (relaxLogsRate (some .create) (.opened db)).1 =
      .opened { db with logs := none, logsPreMigration := some table } := by
  simp [relaxLogsRate, SqlConnection.script, RelaxStatement.exec, strict, free, Database.renameLogs]

/-- Past the rebuilding, the rollback undoes the copy and leaves the empty table. -/
theorem relaxLogsRate_rebuilt (late : fails = some .insert ∨ fails = some .drop ∨ fails = some .commit) :
    (relaxLogsRate fails (.opened db)).1 =
      .opened { db with logs := some ⟨false, []⟩, logsPreMigration := some table } := by
  rcases late with rfl | rfl | rfl <;>
    simp [relaxLogsRate, SqlConnection.script, RelaxStatement.exec, strict, free, Database.renameLogs,
      Database.createLogs]

end Outcomes

/-- The database as the migration of `logs` finds it. -/
def prepared (db : Database R) : Database R := { db.createLogs with victimIp := true }

theorem afterApply_of_relaxed {fails : Option RelaxStatement} {db left : Database R}
    (relaxed : (relaxLogsRate fails (.opened (prepared db))).1 = .opened left) :
    afterApply fails db = left := by
  have widened : (if ((SqlConnection.opened db).alterLayout Database.createLogs).contents.victimIp then
      (SqlConnection.opened db).alterLayout Database.createLogs
      else ((SqlConnection.opened db).alterLayout Database.createLogs).alterLayout Database.addVictimIp) =
      .opened (prepared db) := by
    rcases db with ⟨logs, old, victimIp⟩
    cases victimIp <;> rfl
  unfold afterApply applySchema
  simp only [widened, relaxed]
  split <;> rfl

theorem prepared_logs {db : Database R} {table : IncidentTable R} (found : db.logs = some table) :
    (prepared db).logs = some table := by
  simp [prepared, Database.createLogs, found]

/-- A run in which nothing fails keeps every readable row. -/
theorem incidents_afterApply (db : Database R) : (afterApply none db).incidents = db.incidents := by
  have same : (prepared db).incidents = db.incidents := by
    cases found : db.logs <;> simp [Database.incidents, prepared, Database.createLogs, found]
  by_cases strict : ((prepared db).logs.map IncidentTable.rateNotNull).getD false = true
  · cases old : (prepared db).logsPreMigration with
    | none =>
      obtain ⟨table, found, notNull⟩ : ∃ table, (prepared db).logs = some table ∧
          table.rateNotNull = true := by
        cases found : (prepared db).logs with
        | none => simp [found] at strict
        | some table => exact ⟨table, rfl, by simpa [found] using strict⟩
      rw [afterApply_of_relaxed (relaxLogsRate_done ⟨found, notNull⟩ old), ← same]
      simp [Database.incidents, found]
    | some table =>
      have taken : (prepared db).logsPreMigration.isSome = true := by simp [old]
      rw [afterApply_of_relaxed (relaxLogsRate_untouched (Or.inr (Or.inr (Or.inr taken)))), same]
  · have loose : ((prepared db).logs.map IncidentTable.rateNotNull).getD false = false := by
      simpa using strict
    rw [afterApply_of_relaxed (relaxLogsRate_untouched (Or.inl loose)), same]

theorem incidents_later_runs (later : Nat) (db : Database R) :
    ((afterApply none)^[later] db).incidents = db.incidents := by
  induction later with
  | zero => rfl
  | succ later ih => rw [Function.iterate_succ_apply', incidents_afterApply, ih]

/-- The statements whose failure leaves the table as it was. -/
def Harmless (fails : Option RelaxStatement) (db : Database R) : Prop :=
  fails = none ∨ fails = some .pragma ∨ fails = some .rename ∨ db.logsPreMigration.isSome = true

theorem incidents_of_harmless {db : Database R} {table : IncidentTable R} {fails : Option RelaxStatement}
    (found : db.logs = some table) (harmless : Harmless fails db) :
    (afterApply fails db).incidents = table.rows := by
  have rows : db.incidents = table.rows := by simp [Database.incidents, found]
  have kept : (prepared db).incidents = table.rows := by
    simp [Database.incidents, prepared_logs found]
  rcases harmless with rfl | untouched
  · rw [incidents_afterApply, rows]
  · rw [afterApply_of_relaxed (relaxLogsRate_untouched (Or.inr untouched)), kept]

theorem incidents_of_harmful {db : Database R} {table : IncidentTable R} {fails : Option RelaxStatement}
    (strict : db.logs = some table ∧ table.rateNotNull = true) (harmful : ¬ Harmless fails db) :
    (afterApply fails db).incidents = [] := by
  simp only [Harmless, not_or] at harmful
  obtain ⟨fault, query, rename, taken⟩ := harmful
  have free : (prepared db).logsPreMigration = none := by
    simpa [prepared, Database.createLogs] using taken
  have table' := prepared_logs strict.1
  by_cases create : fails = some .create
  · subst create
    rw [afterApply_of_relaxed (relaxLogsRate_create ⟨table', strict.2⟩ free)]
    rfl
  · have late : fails = some .insert ∨ fails = some .drop ∨ fails = some .commit := by
      cases fails with
      | none => exact absurd rfl fault
      | some statement => cases statement <;> simp_all
    rw [afterApply_of_relaxed (relaxLogsRate_rebuilt ⟨table', strict.2⟩ free late)]
    rfl

/-- Every incident row of a legacy table stays readable under its id, through this run of the
schema and any number of later ones, exactly if the failing statement comes before the table is
renamed, the renaming is refused, or there is no row to lose. -/
theorem incidents_survive_iff (db : Database R) (table : IncidentTable R) (found : db.logs = some table)
    (strict : table.rateNotNull = true) (fails : Option RelaxStatement) :
    (∀ later : Nat, ∀ row ∈ table.rows, row ∈ ((afterApply none)^[later] (afterApply fails db)).incidents) ↔
      Harmless fails db ∨ table.rows = [] := by
  simp only [incidents_later_runs, forall_const]
  by_cases harmless : Harmless fails db
  · simp [incidents_of_harmless found harmless, harmless]
  · simp only [incidents_of_harmful ⟨found, strict⟩ harmless, harmless, false_or, List.not_mem_nil]
    exact ⟨List.eq_nil_iff_forall_not_mem.mpr, List.eq_nil_iff_forall_not_mem.mp⟩

/-- A legacy table with one incident. -/
def oneIncident : Database String := ⟨some ⟨true, [(7, "192.0.2.1 Blocked")]⟩, none, false⟩

/-- A rename that fails is made up for by the next run. -/
theorem oneIncident_survives_rename :
    (7, "192.0.2.1 Blocked") ∈ (afterApply none (afterApply (some .rename) oneIncident)).incidents := by
  have harmless : Harmless (some .rename) oneIncident := Or.inr (Or.inr (Or.inl rfl))
  have survives := (incidents_survive_iff oneIncident _ rfl rfl (some .rename)).mpr (Or.inl harmless)
  exact survives 1 _ List.mem_cons_self

/-- If the table cannot be created there is none, and the next run creates an empty one. If the
copy fails the empty one is there at once. -/
theorem oneIncident_lost :
    (afterApply (some .create) oneIncident).logs.isNone = true ∧
      (afterApply none (afterApply (some .create) oneIncident)).logs.isSome = true ∧
      (afterApply none (afterApply (some .create) oneIncident)).incidents = [] ∧
      (afterApply (some .insert) oneIncident).incidents = [] ∧
      (afterApply none (afterApply (some .insert) oneIncident)).incidents = [] := by
  decide

end Flod.Stage2
