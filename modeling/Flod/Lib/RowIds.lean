import Mathlib.Data.List.Basic

/-! A table whose rows are numbered as they are inserted. Where the numbers of the rows it has are
successive, deleting up to a distance below the largest is the same as deleting all but the newest,
and leaves them successive. -/

namespace Flod.Lib.RowIds

variable {R : Type}

/-- The rows with their ids, and the largest id given out. -/
structure Table (R : Type) where
  rows : List (Nat × R)
  counter : Nat

namespace Table

def ids (t : Table R) : List Nat := t.rows.map Prod.fst

def insert (t : Table R) (r : R) : Table R := ⟨t.rows ++ [(t.counter + 1, r)], t.counter + 1⟩

/-- `DELETE ... WHERE id <= (SELECT MAX(id) ...) - count`. An empty table has no largest id, and the
comparison with it holds of no row. -/
def deleteBelow (count : Nat) (t : Table R) : Table R :=
  match t.ids.max? with
  | none => t
  | some top => { t with rows := t.rows.filter (fun r => !decide ((r.1 : Int) ≤ (top : Int) - count)) }

/-- `SELECT id ... ORDER BY id DESC LIMIT count`. -/
def newest (count : Nat) (t : Table R) : List Nat := (t.ids.mergeSort (fun a b => decide (b ≤ a))).take count

/-- `DELETE ... WHERE id NOT IN (SELECT id ... ORDER BY id DESC LIMIT count)`. -/
def deleteOthers (count : Nat) (t : Table R) : Table R :=
  { t with rows := t.rows.filter (fun r => decide (r.1 ∈ t.newest count)) }

/-- The ids of the rows are successive, up to the last one given out. -/
def Successive (t : Table R) : Prop :=
  ∃ first, t.ids = List.range' first t.rows.length ∧ first + t.rows.length = t.counter + 1

theorem successive_empty (counter : Nat) : Successive (⟨[], counter⟩ : Table R) := ⟨counter + 1, rfl, rfl⟩

theorem Successive.insert {t : Table R} (successive : t.Successive) (r : R) : (t.insert r).Successive := by
  obtain ⟨first, ids, last⟩ := successive
  have size : (t.insert r).rows.length = t.rows.length + 1 := by simp [Table.insert]
  refine ⟨first, ?_, ?_⟩
  · have added : (t.insert r).ids = t.ids ++ [t.counter + 1] := by simp [Table.insert, Table.ids]
    rw [added, ids, size, List.range'_concat, Nat.one_mul, last]
  · rw [size]
    show first + (t.rows.length + 1) = t.counter + 1 + 1
    omega

theorem mergeSort_descending {l : List Nat} (ascending : l.Pairwise (· < ·)) :
    l.mergeSort (fun a b => decide (b ≤ a)) = l.reverse := by
  have tested : (l.mergeSort (fun a b => decide (b ≤ a))).Pairwise (fun a b => decide (b ≤ a) = true) := by
    apply List.pairwise_mergeSort
    · intro a b c first second
      exact decide_eq_true (Nat.le_trans (of_decide_eq_true second) (of_decide_eq_true first))
    · intro a b
      simpa using Nat.le_total b a
  have sorted : (l.mergeSort (fun a b => decide (b ≤ a))).Pairwise (fun a b => b ≤ a) :=
    tested.imp of_decide_eq_true
  have reversed : l.reverse.Pairwise (fun a b => b ≤ a) := by
    rw [List.pairwise_reverse]
    exact ascending.imp Nat.le_of_lt
  apply List.Perm.eq_of_pairwise _ sorted reversed
    ((List.mergeSort_perm _ _).trans (List.reverse_perm l).symm)
  intro a b _ _ first second
  omega

section Delete

variable {t : Table R} (successive : t.Successive) (count : Nat)
include successive

theorem deleteBelow_rows :
    (t.deleteBelow count).rows = t.rows.filter (fun r => decide (t.counter < r.1 + count)) := by
  obtain ⟨first, ids, last⟩ := successive
  unfold deleteBelow
  split
  · rename_i none
    have empty : t.rows = [] := List.map_eq_nil_iff.mp (List.max?_eq_none_iff.mp none)
    rw [empty]
    rfl
  · rename_i top found
    have largest := List.max?_eq_some_iff.mp found
    rw [ids] at largest
    have inside := List.mem_range'_1.mp largest.1
    have counter : t.counter ≤ top := largest.2 t.counter (List.mem_range'_1.mpr ⟨by omega, by omega⟩)
    apply List.filter_congr
    intro r _
    rw [← decide_not, decide_eq_decide]
    omega

theorem deleteOthers_rows :
    (t.deleteOthers count).rows = t.rows.filter (fun r => decide (t.counter < r.1 + count)) := by
  obtain ⟨first, ids, last⟩ := successive
  have newest : t.newest count =
      (List.range' (first + (t.rows.length - count)) (t.rows.length - (t.rows.length - count))).reverse := by
    rw [Table.newest, ids, mergeSort_descending List.pairwise_lt_range', List.take_reverse, List.length_range',
      List.drop_range', Nat.mul_one]
  apply List.filter_congr
  intro r member
  have inside : r.1 ∈ t.ids := List.mem_map_of_mem member
  rw [ids, List.mem_range'_1] at inside
  rw [newest, decide_eq_decide, List.mem_reverse, List.mem_range'_1]
  omega

omit successive in
theorem deleteBelow_counter : (t.deleteBelow count).counter = t.counter := by
  unfold deleteBelow
  split <;> rfl

/-- Deleting below the largest id keeps the newest rows. -/
theorem deleteBelow_eq : t.deleteBelow count = t.deleteOthers count := by
  have rows : (t.deleteBelow count).rows = (t.deleteOthers count).rows := by
    rw [deleteBelow_rows successive, deleteOthers_rows successive]
  have counter : (t.deleteBelow count).counter = (t.deleteOthers count).counter := deleteBelow_counter count
  cases below : t.deleteBelow count
  cases others : t.deleteOthers count
  rw [below, others] at rows counter
  exact congrArg₂ Table.mk rows counter

theorem deleteBelow_ids {first : Nat} (ids : t.ids = List.range' first t.rows.length)
    (last : first + t.rows.length = t.counter + 1) : (t.deleteBelow count).ids =
      List.range' (first + (t.rows.length - count)) (t.rows.length - (t.rows.length - count)) := by
  have rows := deleteBelow_rows successive count
  have parts : List.range' first t.rows.length = List.range' first (t.rows.length - count) ++
      List.range' (first + (t.rows.length - count)) (t.rows.length - (t.rows.length - count)) := by
    rw [List.range'_append_1]
    congr 1
    omega
  have older : (List.range' first (t.rows.length - count)).filter
      (fun id => decide (t.counter < id + count)) = [] := by
    apply List.filter_eq_nil_iff.mpr
    intro id inside
    rw [List.mem_range'_1] at inside
    rw [decide_eq_true_eq]
    omega
  have newer : (List.range' (first + (t.rows.length - count)) (t.rows.length - (t.rows.length - count))).filter
      (fun id => decide (t.counter < id + count)) =
        List.range' (first + (t.rows.length - count)) (t.rows.length - (t.rows.length - count)) := by
    apply List.filter_eq_self.mpr
    intro id inside
    rw [List.mem_range'_1] at inside
    rw [decide_eq_true_eq]
    omega
  have filtered : (t.deleteBelow count).ids = t.ids.filter (fun id => decide (t.counter < id + count)) := by
    rw [Table.ids, rows, Table.ids, List.filter_map]
    rfl
  rw [filtered, ids, parts, List.filter_append, older, newer, List.nil_append]

theorem deleteBelow_length : (t.deleteBelow count).rows.length = t.rows.length - (t.rows.length - count) := by
  obtain ⟨first, ids, last⟩ := id successive
  rw [← List.length_map Prod.fst]
  show (t.deleteBelow count).ids.length = _
  rw [deleteBelow_ids successive count ids last, List.length_range']

theorem Successive.deleteBelow : (t.deleteBelow count).Successive := by
  obtain ⟨first, ids, last⟩ := id successive
  have size := deleteBelow_length successive count
  refine ⟨first + (t.rows.length - count), by rw [deleteBelow_ids successive count ids last, size], ?_⟩
  rw [size, deleteBelow_counter]
  omega

end Delete

end Table

end Flod.Lib.RowIds
