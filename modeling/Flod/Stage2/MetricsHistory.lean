import Flod.Lib.Arith
import Flod.Lib.RowIds
import Flod.Lib.Run
import Flod.Lib.Transaction

/-! The history of measurements and its trimming. Every call is a transaction that may fail at any
of its steps; what it had done is rolled back, but not the time of the last purge, which is set
before the delete. -/

namespace Flod.Stage2
open Flod.Lib Flod.Lib.RowIds

variable {F : Type} [Arith F]

def metricsRetentionRows : Nat := 1000

def purgeIntervalSeconds : F := 60

/-- One row of `metrics_history`, but for its id. -/
structure Measurement (F : Type) where
  timestamp : F
  ewmaRate : F
  entropy : F
  meanH : F
  meanR : F
  sigmaH : F
  sigmaR : F
  kMultiplier : F
  victimIp : String

/-- The table, and `_last_purge`. -/
structure MetricsStore (F : Type) where
  history : Table (Measurement F)
  lastPurge : Option F

/-- The step of a transaction that raises, if one does. -/
inductive MetricsFault where
  | opening
  | insert
  | delete
  | committing
deriving DecidableEq

/-- A transaction on its way: the connection, `_last_purge`, and the table before and after the
delete, where there was one. -/
structure Purging (F : Type) where
  connection : SqlConnection (Table (Measurement F))
  lastPurge : Option F
  deleted : Option (Table (Measurement F) × Table (Measurement F))

/-- `_purge_metrics_history`. None of the connection's changes is left where the delete raises, but
the time is. -/
def purgeMetricsHistoryOn (force : Bool) (now : F) (fault : Option MetricsFault)
    (connection : SqlConnection (Table (Measurement F))) (lastPurge : Option F) : Purging F × Bool :=
  if !force && lastPurge.any (fun last => decide (now - last < purgeIntervalSeconds)) then
    (⟨connection, lastPurge, none⟩, true)
  else if fault = some .delete then (⟨connection, some now, none⟩, false)
  else
    let next := connection.alterRows (Table.deleteBelow metricsRetentionRows)
    (⟨next, some now, some (connection.contents, next.contents)⟩, true)

/-- The end of a transaction: committed, or closed and so rolled back. The purge it did counts only
where it is committed. -/
def finishMetrics (fault : Option MetricsFault) (tried : Purging F × Bool) :
    MetricsStore F × Option (Table (Measurement F) × Table (Measurement F)) :=
  if tried.2 ∧ fault ≠ some .committing then
    (⟨tried.1.connection.commit.contents, tried.1.lastPurge⟩, tried.1.deleted)
  else (⟨tried.1.connection.rollback.contents, tried.1.lastPurge⟩, none)

/-- `log_metrics_history`, with the purge that was committed. -/
def logMetricsHistory (store : MetricsStore F) (row : Measurement F) (now : F) (fault : Option MetricsFault) :
    MetricsStore F × Option (Table (Measurement F) × Table (Measurement F)) :=
  if fault = some .opening ∨ fault = some .insert then (store, none)
  else
    finishMetrics fault (purgeMetricsHistoryOn false now fault
      ((SqlConnection.opened store.history).alterRows (fun t => t.insert row)) store.lastPurge)

/-- `purge_metrics_history`. -/
def purgeMetricsHistory (store : MetricsStore F) (now : F) (fault : Option MetricsFault) :
    MetricsStore F × Option (Table (Measurement F) × Table (Measurement F)) :=
  if fault = some .opening then (store, none)
  else finishMetrics fault (purgeMetricsHistoryOn true now fault (.opened store.history) store.lastPurge)

/-- A call, with the clock it reads and where it fails. -/
inductive MetricsCall (F : Type) where
  | log (row : Measurement F) (now : F) (fault : Option MetricsFault)
  | purge (now : F) (fault : Option MetricsFault)

/-- The writer as a machine; each call yields the purge it committed, if any. -/
def metricsStep (store : MetricsStore F) :
    MetricsCall F → Option (MetricsStore F × Option (Table (Measurement F) × Table (Measurement F)))
  | .log row now fault => some (logMetricsHistory store row now fault)
  | .purge now fault => some (purgeMetricsHistory store now fault)

/-- The table as the purge of a call meets it: the one stored, with the row that the call inserts. -/
def MetricsCall.seen (store : MetricsStore F) : MetricsCall F → Table (Measurement F)
  | .log row _ _ => store.history.insert row
  | .purge _ _ => store.history

/-- What a purge that is committed does: it meets the table that its transaction sees, and leaves it
without the rows whose id is not among the newest. -/
def KeepsNewestRows (seen : Table (Measurement F)) (purge : Option (Table (Measurement F) × Table (Measurement F)))
    (after : MetricsStore F) : Prop :=
  ∀ before left, purge = some (before, left) →
    before = seen ∧ left = before.deleteOthers metricsRetentionRows ∧ after.history = left

section Transactions

variable {force : Bool} {now : F} {fault : Option MetricsFault}
  {connection : SqlConnection (Table (Measurement F))} {lastPurge : Option F}

/-- A purge changes only what its own transaction sees. -/
theorem purgeMetricsHistoryOn_stored :
    (purgeMetricsHistoryOn force now fault connection lastPurge).1.connection.stored = connection.stored := by
  unfold purgeMetricsHistoryOn
  split
  · rfl
  · split <;> rfl

theorem purgeMetricsHistoryOn_successive (seen : connection.contents.Successive) :
    (purgeMetricsHistoryOn force now fault connection lastPurge).1.connection.contents.Successive := by
  unfold purgeMetricsHistoryOn
  split
  · exact seen
  · split
    · exact seen
    · exact seen.deleteBelow metricsRetentionRows

theorem purgeMetricsHistoryOn_deleted (seen : connection.contents.Successive)
    {before left : Table (Measurement F)}
    (deleted : (purgeMetricsHistoryOn force now fault connection lastPurge).1.deleted = some (before, left)) :
    before = connection.contents ∧ left = before.deleteOthers metricsRetentionRows ∧
      (purgeMetricsHistoryOn force now fault connection lastPurge).1.connection.contents = left := by
  unfold purgeMetricsHistoryOn at deleted ⊢
  split at deleted
  · cases deleted
  · rename_i due
    rw [if_neg due]
    split at deleted
    · cases deleted
    · rename_i goes
      rw [if_neg goes]
      cases deleted
      exact ⟨rfl, Table.deleteBelow_eq seen metricsRetentionRows, rfl⟩

variable (force now fault connection lastPurge) in
/-- Committed or rolled back, a transaction leaves successive ids, and a committed purge leaves
the newest rows. -/
theorem finishMetrics_keeps (stored : connection.stored.Successive) (seen : connection.contents.Successive) :
    (finishMetrics fault (purgeMetricsHistoryOn force now fault connection lastPurge)).1.history.Successive ∧
      KeepsNewestRows connection.contents
        (finishMetrics fault (purgeMetricsHistoryOn force now fault connection lastPurge)).2
        (finishMetrics fault (purgeMetricsHistoryOn force now fault connection lastPurge)).1 := by
  unfold finishMetrics
  split
  · refine ⟨purgeMetricsHistoryOn_successive seen, fun before left deleted => ?_⟩
    exact purgeMetricsHistoryOn_deleted seen deleted
  · refine ⟨?_, fun before left deleted => nomatch deleted⟩
    show (purgeMetricsHistoryOn force now fault connection lastPurge).1.connection.stored.Successive
    rw [purgeMetricsHistoryOn_stored]
    exact stored

theorem metricsStep_keeps {store next : MetricsStore F} {call : MetricsCall F}
    {purge : Option (Table (Measurement F) × Table (Measurement F))} (successive : store.history.Successive)
    (stepped : metricsStep store call = some (next, purge)) :
    next.history.Successive ∧ KeepsNewestRows (call.seen store) purge next := by
  have idle : KeepsNewestRows (call.seen store) none store := fun before left deleted => nomatch deleted
  cases call with
  | log row now fault =>
    have result : logMetricsHistory store row now fault = (next, purge) := Option.some.inj stepped
    unfold logMetricsHistory at result
    split at result
    · cases result
      exact ⟨successive, idle⟩
    · have keeps := finishMetrics_keeps false now fault
        ((SqlConnection.opened store.history).alterRows (fun t => t.insert row)) store.lastPurge successive
        (successive.insert row)
      rw [result] at keeps
      exact keeps
  | purge now fault =>
    have result : purgeMetricsHistory store now fault = (next, purge) := Option.some.inj stepped
    unfold purgeMetricsHistory at result
    split at result
    · cases result
      exact ⟨successive, idle⟩
    · have keeps := finishMetrics_keeps true now fault (SqlConnection.opened store.history) store.lastPurge
        successive successive
      rw [result] at keeps
      exact keeps

end Transactions

theorem purgeMetricsHistory_commits (store : MetricsStore F) (now : F) :
    (purgeMetricsHistory store now none).2 =
      some (store.history, store.history.deleteBelow metricsRetentionRows) := rfl

/-- In every run of calls from an empty table, failures at any step included, each purge that is
committed deletes exactly the rows whose id is not among the newest of those it meets. -/
theorem purges_keep_newest (counter : Nat) (lastPurge : Option F) (calls : List (MetricsCall F)) :
    Always metricsStep (fun store call purge after => KeepsNewestRows (call.seen store) purge after)
      ⟨⟨[], counter⟩, lastPurge⟩ calls := by
  have kept : ∀ (store : MetricsStore F) (call : MetricsCall F) (next : MetricsStore F)
      (purge : Option (Table (Measurement F) × Table (Measurement F))), store.history.Successive →
      metricsStep store call = some (next, purge) → True → next.history.Successive :=
    fun _ _ _ _ successive stepped _ => (metricsStep_keeps successive stepped).1
  have every := always_iff (P := fun store call purge after => KeepsNewestRows (call.seen store) purge after) kept
    (fun _ _ _ _ successive stepped => iff_true_intro (metricsStep_keeps successive stepped).2)
    calls ⟨⟨[], counter⟩, lastPurge⟩ (Table.successive_empty counter)
  exact every.mpr (always_true calls _)

/-- So many rows logged in one second, and a forced purge. -/
def crowdedCalls (rows : Nat) : List (MetricsCall ℚ) :=
  List.replicate rows (.log ⟨0, 0, 0, 0, 0, 0, 0, 0, "10.0.0.1"⟩ 0 none) ++ [.purge 0 none]

theorem run_logs (row : Measurement ℚ) (rows : Nat) :
    ∃ store purges, run metricsStep ⟨⟨[], 0⟩, some 0⟩ (List.replicate rows (.log row 0 none)) = some (store, purges) ∧
      store.history.rows.length = rows ∧ store.history.Successive ∧ store.lastPurge = some 0 := by
  induction rows with
  | zero => exact ⟨_, [], rfl, rfl, Table.successive_empty 0, rfl⟩
  | succ rows ih =>
    obtain ⟨store, purges, ran, size, successive, last⟩ := ih
    have recent : (0 : ℚ) < purgeIntervalSeconds := by norm_num [purgeIntervalSeconds]
    have logged : metricsStep store (.log row 0 none) = some (⟨store.history.insert row, some 0⟩, none) := by
      simp [metricsStep, logMetricsHistory, purgeMetricsHistoryOn, finishMetrics, last, recent, SqlConnection.commit,
        SqlConnection.alterRows, SqlConnection.opened, SqlConnection.contents]
    rw [List.replicate_succ']
    exact ⟨_, _, run_concat ran logged, by simp [Table.insert, size], successive.insert row, rfl⟩

/-- With one row more than are retained, the purge drops a row. -/
theorem crowdedCalls_keep_newest :
    ∃ final purges before left, run metricsStep ⟨⟨[], 0⟩, some 0⟩ (crowdedCalls 1001) = some (final, purges) ∧
      some (before, left) ∈ purges ∧ before.rows.length = 1001 ∧ left.rows.length = 1000 ∧
      Always metricsStep (fun store call purge after => KeepsNewestRows (call.seen store) purge after)
        ⟨⟨[], 0⟩, some 0⟩ (crowdedCalls 1001) := by
  obtain ⟨store, purges, ran, size, successive, -⟩ := run_logs ⟨0, 0, 0, 0, 0, 0, 0, 0, "10.0.0.1"⟩ 1001
  refine ⟨_, _, store.history, store.history.deleteBelow metricsRetentionRows, run_concat ran rfl, ?_, size, ?_,
    purges_keep_newest 0 (some 0) (crowdedCalls 1001)⟩
  · rw [← purgeMetricsHistory_commits store 0]
    exact List.mem_append_right _ (List.mem_singleton_self _)
  · rw [Table.deleteBelow_length successive, size]
    rfl

end Flod.Stage2
