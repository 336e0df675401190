import Mathlib.Data.Finset.Card
import Flod.Lib.Dict

/-! Counting how often each key occurs in a map that takes no new key once it is full. As
long as the keys fit, the counts of any choice of keys add up to their occurrences. Beyond
that the keys it holds are still counted in full, and any other met a full map. -/

namespace Flod.Lib

variable {K : Type} [DecidableEq K]

/-- A key already present always counts; a new one only below the capacity. -/
def countCapped (capacity : Nat) (d : Dict K Nat) (key : K) (count : Nat) : Dict K Nat :=
  match d.get? key with
  | some existing => d.set key (existing + count)
  | none => if capacity ≤ d.size then d else d.set key count

/-- The map has counted exactly the keys seen. -/
structure CountsOf (seen : List K) (d : Dict K Nat) : Prop where
  keys : ∀ key, key ∈ d.keys ↔ key ∈ seen
  counts : ∀ picked : K → Bool,
    (d.entries.map (fun e => if picked e.1 then e.2 else 0)).sum = seen.countP picked

namespace CountsOf

variable {seen : List K} {d : Dict K Nat} {key : K} {capacity : Nat}

omit [DecidableEq K] in
theorem empty : CountsOf ([] : List K) Dict.empty where
  keys := fun _ => Iff.rfl
  counts := fun _ => rfl

theorem size (tallied : CountsOf seen d) : d.size = seen.toFinset.card := by
  have same : d.keys.toFinset = seen.toFinset := by
    ext key
    simp [tallied.keys]
  have once : d.keys.toFinset.card = d.keys.length := List.toFinset_card_of_nodup d.nodup
  rw [← same, once, Dict.keys, List.length_map, Dict.size]

theorem add (tallied : CountsOf seen d) (key : K) {n : Nat} (more : 0 < n) :
    CountsOf (seen ++ List.replicate n key) (d.set key (d.getD key 0 + n)) where
  keys := by
    intro other
    rw [Dict.mem_keys_set, tallied.keys, List.mem_append, List.mem_replicate]
    have apart := more.ne'
    tauto
  counts := by
    intro picked
    rw [List.countP_append, ← tallied.counts picked, List.countP_replicate]
    apply Dict.sum_putIn (fun e => if picked e.1 then e.2 else 0)
    by_cases here : picked key = true
    · cases found : Dict.lookupIn key d.entries with
      | none => simp [here, Dict.getD, Dict.get?, found]
      | some old => simp [here, Dict.getD, Dict.get?, found]
    · cases found : Dict.lookupIn key d.entries with
      | none => simp [here]
      | some old => simp [here]

theorem set (tallied : CountsOf seen d) (key : K) :
    CountsOf (seen ++ [key]) (d.set key (d.getD key 0 + 1)) :=
  tallied.add key Nat.one_pos

omit [DecidableEq K] in
theorem sum_values (tallied : CountsOf seen d) : d.values.sum = seen.length := by
  simpa [Dict.values] using tallied.counts (fun _ => true)

theorem getD_eq_count (tallied : CountsOf seen d) (key : K) : d.getD key 0 = seen.count key := by
  have held := Dict.sum_entries_of_key (fun n : Nat => n) d key
  have summed := tallied.counts (fun other => other == key)
  simp only [beq_iff_eq] at summed
  rw [Dict.getD, List.count, ← summed, held, Option.map_id']

theorem eq_count (tallied : CountsOf seen d) {n : Nat} (found : d.get? key = some n) : n = seen.count key := by
  rw [← tallied.getD_eq_count, Dict.getD, found, Option.getD_some]

theorem positive (tallied : CountsOf seen d) : ∀ c ∈ d.values, 0 < c := by
  intro c member
  obtain ⟨⟨key, n⟩, entry, rfl⟩ := List.mem_map.mp member
  have found := (Dict.get?_eq_some_iff d key n).mpr entry
  rw [tallied.eq_count found, List.count_pos_iff, ← tallied.keys]
  exact Dict.mem_keys_of_get? found

theorem count (tallied : CountsOf seen d) (room : (seen ++ [key]).toFinset.card ≤ capacity) :
    CountsOf (seen ++ [key]) (countCapped capacity d key 1) := by
  have counted := tallied.set key
  unfold countCapped
  cases found : d.get? key with
  | some existing =>
    rw [Dict.getD, found] at counted
    exact counted
  | none =>
    rw [Dict.getD, found] at counted
    have new : key ∉ seen := by
      rw [← tallied.keys, Dict.mem_keys_iff, found]
      simp
    have more : (seen ++ [key]).toFinset.card = seen.toFinset.card + 1 := by
      rw [List.toFinset_append, Finset.union_comm, List.toFinset_cons, List.toFinset_nil,
        insert_empty_eq, Finset.singleton_union, Finset.card_insert_of_notMem (by simpa using new)]
    have below : ¬ capacity ≤ d.size := by
      rw [tallied.size]
      omega
    simp only [if_neg below]
    exact counted

end CountsOf

theorem card_toFinset_le_append (seen more : List K) :
    seen.toFinset.card ≤ (seen ++ more).toFinset.card := by
  rw [List.toFinset_append]
  exact Finset.card_le_card Finset.subset_union_left

/-- A key that came while there was room is counted from its first occurrence on. -/
structure CountsHeld (capacity : Nat) (seen : List K) (d : Dict K Nat) : Prop where
  bounded : d.size ≤ capacity
  counts : ∀ key n, d.get? key = some n → n = seen.countP (fun other => decide (other = key))
  full : ∀ key ∈ seen, d.get? key = none → capacity ≤ d.size

section CountsHeld

variable {seen : List K} {d : Dict K Nat} {capacity : Nat}

theorem CountsHeld.empty (capacity : Nat) : CountsHeld capacity ([] : List K) Dict.empty where
  bounded := Nat.zero_le _
  counts := by simp
  full := by simp

theorem countP_key_of_ne {key other : K} (seen : List K) (apart : other ≠ key) :
    (seen ++ [key]).countP (fun k => decide (k = other)) = seen.countP (fun k => decide (k = other)) := by
  simp [List.countP_append, Ne.symm apart]

/-- Entering the right number for the key that came, within the capacity. -/
theorem CountsHeld.set (held : CountsHeld capacity seen d) {key : K} {count : Nat}
    (counted : count = seen.countP (fun k => decide (k = key)) + 1)
    (bounded : (d.set key count).size ≤ capacity) (grows : d.size ≤ (d.set key count).size) :
    CountsHeld capacity (seen ++ [key]) (d.set key count) := by
  refine ⟨bounded, fun other n here => ?_, fun other came absent => ?_⟩
  · rw [Dict.get?_set] at here
    split at here
    · next same =>
      cases here
      rw [← same, counted]
      simp [List.countP_append]
    · next apart =>
      rw [countP_key_of_ne seen (Ne.symm apart)]
      exact held.counts other n here
  · rw [Dict.get?_set] at absent
    split at absent
    · cases absent
    · next apart =>
      have full := held.full other (by simpa [Ne.symm apart] using came) absent
      exact full.trans grows

theorem CountsHeld.count (held : CountsHeld capacity seen d) (key : K) :
    CountsHeld capacity (seen ++ [key]) (countCapped capacity d key 1) := by
  unfold countCapped
  cases found : d.get? key with
  | some existing =>
    have size := Dict.size_set_of_mem d (existing + 1) (Dict.mem_keys_of_get? found)
    have bounded := held.bounded
    exact held.set (by rw [← held.counts key existing found]) (by omega) (by omega)
  | none =>
    by_cases crowded : capacity ≤ d.size
    · simp only [if_pos crowded]
      refine ⟨held.bounded, fun other n here => ?_, fun _ _ _ => crowded⟩
      have apart : other ≠ key := by
        rintro rfl
        rw [found] at here
        cases here
      rw [countP_key_of_ne seen apart]
      exact held.counts other n here
    · simp only [if_neg crowded]
      -- with room left, the key has not come before
      have new : seen.countP (fun k => decide (k = key)) = 0 := by
        rw [List.countP_eq_zero]
        intro k came same
        exact crowded (held.full key (of_decide_eq_true same ▸ came) found)
      have absent : key ∉ d.keys := by
        rw [Dict.mem_keys_iff, found]
        simp
      have size := Dict.size_set_of_not_mem d 1 absent
      exact held.set (by rw [new]) (by omega) (by omega)

theorem mem_keys_countCapped {key other : K} (count : Nat) (member : other ∈ d.keys) :
    other ∈ (countCapped capacity d key count).keys := by
  unfold countCapped
  split
  · exact (Dict.mem_keys_set _ _ _ _).mpr (Or.inr member)
  · split
    · exact member
    · exact (Dict.mem_keys_set _ _ _ _).mpr (Or.inr member)

theorem mem_keys_countCapped_self {key : K} (count : Nat) (room : d.size < capacity) :
    key ∈ (countCapped capacity d key count).keys := by
  unfold countCapped
  split
  · exact (Dict.mem_keys_set _ _ _ _).mpr (Or.inl rfl)
  · rw [if_neg (not_le.mpr room)]
    exact (Dict.mem_keys_set _ _ _ _).mpr (Or.inl rfl)

end CountsHeld

end Flod.Lib
