import Flod.Lib.Dict
import Mathlib.Algebra.BigOperators.Fin

/-! A bounded hash map that holds one value per processor for every key. A processor
reads and writes only its own value; a reader sees all of them. Weighing the entries
whose key meets a condition reduces every update to one addition. -/

namespace Flod.Lib

theorem sum_filter {α : Type} (l : List α) (p : α → Prop) [DecidablePred p] (h : α → Nat) :
    ((l.filter (fun a => decide (p a))).map h).sum = (l.map (fun a => if p a then h a else 0)).sum := by
  rw [List.sum_map_ite]
  simp

@[ext] structure PerCpuMap (cpus : Nat) (K V : Type) where
  capacity : Nat
  slots : Dict K (Fin cpus → V)
  bounded : slots.size ≤ capacity

namespace PerCpuMap

variable {cpus : Nat} {K V : Type}

def empty (capacity : Nat) : PerCpuMap cpus K V := ⟨capacity, Dict.empty, Nat.zero_le _⟩

def keys (m : PerCpuMap cpus K V) : List K := m.slots.keys

variable [DecidableEq K]

/-- What one processor reads. -/
def get (m : PerCpuMap cpus K V) (cpu : Fin cpus) (key : K) : Option V :=
  (m.slots.get? key).map (fun values => values cpu)

/-- What user space reads. -/
def getAll (m : PerCpuMap cpus K V) (key : K) : Option (Fin cpus → V) := m.slots.get? key

/-- A key is present, or there is room for it. -/
def Admits (m : PerCpuMap cpus K V) (key : K) : Prop := key ∈ m.keys ∨ m.slots.size < m.capacity

instance (m : PerCpuMap cpus K V) (key : K) : Decidable (m.Admits key) :=
  inferInstanceAs (Decidable (_ ∨ _))

/-- Overwrite the values of a key, if the map admits it. -/
def put (m : PerCpuMap cpus K V) (key : K) (values : Fin cpus → V) : Option (PerCpuMap cpus K V) :=
  if admits : m.Admits key then
    some
      { m with
        slots := m.slots.set key values
        bounded := by
          by_cases member : key ∈ m.slots.keys
          · rw [Dict.size_set_of_mem m.slots values member]
            exact m.bounded
          · rw [Dict.size_set_of_not_mem m.slots values member]
            exact admits.resolve_left member }
  else none

def remove (m : PerCpuMap cpus K V) (key : K) : PerCpuMap cpus K V :=
  { m with
    slots := m.slots.erase key
    bounded := (Dict.size_erase_le m.slots key).trans m.bounded }

variable [Zero V]

/-- Write one processor's value. A new key starts at zero on the others, and fails in
a full map. -/
def insert (m : PerCpuMap cpus K V) (cpu : Fin cpus) (key : K) (value : V) :
    Option (PerCpuMap cpus K V) :=
  m.put key (Function.update ((m.getAll key).getD 0) cpu value)

/-- Update one processor's value in place, if the key is present. -/
def modify (m : PerCpuMap cpus K V) (cpu : Fin cpus) (key : K) (f : V → V) : PerCpuMap cpus K V :=
  match m.get cpu key with
  | some value => (m.insert cpu key (f value)).getD m
  | none => m

/-- Read, change and write back one processor's value. A full map is left as it is. -/
def upsert (m : PerCpuMap cpus K V) (cpu : Fin cpus) (key : K) (f : V → V) : PerCpuMap cpus K V :=
  (m.insert cpu key (f ((m.get cpu key).getD 0))).getD m

omit [Zero V] in
theorem put_of_admits {m : PerCpuMap cpus K V} {key : K} (admits : m.Admits key)
    (values : Fin cpus → V) :
    ∃ next, m.put key values = some next ∧ next.slots = m.slots.set key values ∧
      next.capacity = m.capacity := by
  refine ⟨_, dif_pos admits, rfl, rfl⟩

theorem upsert_of_admits {m : PerCpuMap cpus K V} {key : K} (admits : m.Admits key) (cpu : Fin cpus)
    (f : V → V) :
    (m.upsert cpu key f).slots =
      m.slots.set key (Function.update ((m.getAll key).getD 0) cpu (f ((m.getAll key).getD 0 cpu))) := by
  have read : (m.get cpu key).getD 0 = (m.getAll key).getD 0 cpu := by
    unfold get getAll
    cases m.slots.get? key <;> rfl
  obtain ⟨next, stored, slots, _⟩ := put_of_admits admits
    (Function.update ((m.getAll key).getD 0) cpu (f ((m.getAll key).getD 0 cpu)))
  rw [upsert, insert, read, stored, Option.getD_some, slots]

theorem upsert_of_refused {m : PerCpuMap cpus K V} {key : K} (refused : ¬ m.Admits key) (cpu : Fin cpus)
    (f : V → V) : m.upsert cpu key f = m := by
  rw [upsert, insert, put, dif_neg refused, Option.getD_none]

@[simp] theorem upsert_capacity (m : PerCpuMap cpus K V) (cpu : Fin cpus) (key : K) (f : V → V) :
    (m.upsert cpu key f).capacity = m.capacity := by
  by_cases admits : m.Admits key
  · rw [upsert, insert]
    obtain ⟨next, stored, _, same⟩ := put_of_admits admits
      (Function.update ((m.getAll key).getD 0) cpu (f ((m.get cpu key).getD 0)))
    rw [stored, Option.getD_some, same]
  · rw [upsert_of_refused admits]

theorem mem_keys_upsert {m : PerCpuMap cpus K V} {key : K} (admits : m.Admits key) (cpu : Fin cpus)
    (f : V → V) (other : K) : other ∈ (m.upsert cpu key f).keys ↔ other = key ∨ other ∈ m.keys := by
  unfold keys
  rw [upsert_of_admits admits, Dict.mem_keys_set]

/-- Seeding an absent key with zero and then updating in place is one read, change and
write back. -/
theorem seed_modify (m : PerCpuMap cpus K V) (cpu : Fin cpus) (key : K) (f : V → V) :
    ((if (m.get cpu key).isNone then m.insert cpu key 0 else some m).map
      (fun seeded => seeded.modify cpu key f)).getD m = m.upsert cpu key f := by
  cases found : m.slots.get? key with
  | some values =>
    have read : m.get cpu key = some (values cpu) := by simp [get, found]
    simp [read, modify, upsert]
  | none =>
    have read : m.get cpu key = none := by simp [get, found]
    by_cases admits : m.Admits key
    · obtain ⟨seeded, stored, slots, capacity⟩ := put_of_admits admits
        (Function.update ((m.getAll key).getD 0) cpu 0)
      have present : seeded.slots.get? key = some (Function.update ((m.getAll key).getD 0) cpu 0) := by
        rw [slots, Dict.get?_set_self]
      have again : seeded.Admits key := Or.inl (Dict.mem_keys_of_get? present)
      have updated := upsert_of_admits again cpu f
      have reading : seeded.get cpu key = some 0 := by simp [get, present]
      have whole : seeded.modify cpu key f = seeded.upsert cpu key f := by
        simp [modify, upsert, reading]
      rw [read, Option.isNone_none, if_pos rfl, insert, stored, Option.map_some, Option.getD_some, whole]
      ext1
      · rw [upsert_capacity, upsert_capacity, capacity]
      · rw [updated, upsert_of_admits admits, slots, Dict.set_set]
        simp [getAll, slots, found]
    · rw [upsert_of_refused admits, read, Option.isNone_none, if_pos rfl, insert, put, dif_neg admits]
      rfl

/-- What a processor has stored for a key: zero, if the key is absent. -/
def own (m : PerCpuMap cpus K V) (cpu : Fin cpus) (key : K) : V := (m.getAll key).getD 0 cpu

theorem get_getD (m : PerCpuMap cpus K V) (cpu : Fin cpus) (key : K) :
    (m.get cpu key).getD 0 = m.own cpu key := by
  unfold get own getAll
  cases m.slots.get? key <;> rfl

theorem own_insert {m m' : PerCpuMap cpus K V} {cpu : Fin cpus} {key : K} {value : V}
    (inserted : m.insert cpu key value = some m') (other : K) :
    (fun i => m'.own i other) =
      if key = other then Function.update (fun i => m.own i key) cpu value else fun i => m.own i other := by
  unfold insert put at inserted
  split at inserted
  · cases inserted
    funext i
    unfold own getAll
    rw [Dict.get?_set]
    split <;> rfl
  · cases inserted

theorem mem_keys_insert {m m' : PerCpuMap cpus K V} {cpu : Fin cpus} {key : K} {value : V}
    (inserted : m.insert cpu key value = some m') (other : K) :
    other ∈ m'.keys ↔ other = key ∨ other ∈ m.keys := by
  unfold insert put at inserted
  split at inserted
  · cases inserted
    exact Dict.mem_keys_set _ _ _ _
  · cases inserted

theorem insert_isSome {m : PerCpuMap cpus K V} {key : K} (admits : m.Admits key) (cpu : Fin cpus) (value : V) :
    (m.insert cpu key value).isSome = true := by
  rw [insert, put, dif_pos admits]
  rfl

theorem modify_of_mem {m : PerCpuMap cpus K V} {key : K} (member : key ∈ m.keys) (cpu : Fin cpus) (f : V → V) :
    m.insert cpu key (f (m.own cpu key)) = some (m.modify cpu key f) := by
  obtain ⟨values, found⟩ := Dict.get?_of_mem_keys member
  have read : m.get cpu key = some (m.own cpu key) := by simp [get, own, getAll, found]
  obtain ⟨next, inserted⟩ := Option.isSome_iff_exists.mp
    (insert_isSome (Or.inl member : m.Admits key) cpu (f (m.own cpu key)))
  rw [modify, read]
  simp [inserted]

theorem own_remove (m : PerCpuMap cpus K V) (key other : K) (cpu : Fin cpus) :
    (m.remove key).own cpu other = if key = other then 0 else m.own cpu other := by
  unfold own getAll remove
  dsimp only
  rw [Dict.get?_erase]
  split <;> rfl

omit [Zero V] in
theorem mem_keys_remove (m : PerCpuMap cpus K V) (key other : K) :
    other ∈ (m.remove key).keys ↔ other ≠ key ∧ other ∈ m.keys := by
  unfold keys remove
  dsimp only
  rw [Dict.mem_keys_iff, Dict.mem_keys_iff, Dict.get?_erase]
  by_cases same : key = other
  · simp [same]
  · simp [same, Ne.symm same]

/-- The entries whose key meets a condition, weighed by a figure of each value. -/
def weight (g : V → Nat) (P : K → Prop) [DecidablePred P] (m : PerCpuMap cpus K V) : Nat :=
  (m.slots.entries.map (fun e => if P e.1 then ∑ cpu, g (e.2 cpu) else 0)).sum

omit [DecidableEq K] [Zero V] in
theorem sum_update (g : V → Nat) (values : Fin cpus → V) (cpu : Fin cpus) (f : V → V) {change : Nat}
    (adds : g (f (values cpu)) = g (values cpu) + change) :
    ∑ i, g (Function.update values cpu (f (values cpu)) i) = (∑ i, g (values i)) + change := by
  have moved : (fun i => g (Function.update values cpu (f (values cpu)) i)) =
      Function.update (fun i => g (values i)) cpu (g (values cpu) + change) := by
    funext i
    by_cases same : i = cpu
    · subst same
      simp [adds]
    · simp [same]
  have apart := Finset.add_sum_erase Finset.univ (fun i => g (values i)) (Finset.mem_univ cpu)
  rw [moved, Finset.sum_update_of_mem (Finset.mem_univ cpu), ← apart, Finset.erase_eq]
  omega

theorem weight_upsert {m : PerCpuMap cpus K V} {key : K} (admits : m.Admits key) (cpu : Fin cpus)
    {g : V → Nat} {f : V → V} {change : Nat} (adds : ∀ v, g (f v) = g v + change) (zero : g 0 = 0)
    (P : K → Prop) [DecidablePred P] :
    (m.upsert cpu key f).weight g P = m.weight g P + if P key then change else 0 := by
  unfold weight
  rw [upsert_of_admits admits]
  apply Dict.sum_putIn
  have old : ∑ i, g ((m.getAll key).getD 0 i) =
      ((m.slots.get? key).map (fun values => ∑ i, g (values i))).getD 0 := by
    unfold getAll
    cases m.slots.get? key with
    | none => simp [zero]
    | some values => rfl
  by_cases holds : P key
  · simp only [if_pos holds]
    rw [sum_update g _ cpu f (adds _), old]
    rfl
  · simp only [if_neg holds]
    cases Dict.lookupIn key m.slots.entries <;> rfl

omit [Zero V] in
/-- Read each key and remove it, in the order of the keys. -/
def drain (m : PerCpuMap cpus K V) : List (K × (Fin cpus → V)) × PerCpuMap cpus K V :=
  m.keys.foldl (fun acc key =>
    (match acc.2.getAll key with
      | some values => acc.1 ++ [(key, values)]
      | none => acc.1, acc.2.remove key)) ([], m)

omit [Zero V] in
/-- With nothing else touching the map, a drain returns every entry and leaves it empty. -/
theorem drain_eq (m : PerCpuMap cpus K V) : m.drain = (m.slots.entries, empty m.capacity) := by
  have loop : ∀ (entries : List (K × (Fin cpus → V))) (m : PerCpuMap cpus K V)
      (acc : List (K × (Fin cpus → V))), m.slots.entries = entries →
      (entries.map Prod.fst).foldl (fun acc key =>
        (match acc.2.getAll key with
          | some values => acc.1 ++ [(key, values)]
          | none => acc.1, acc.2.remove key)) (acc, m) = (acc ++ entries, empty m.capacity) := by
    intro entries
    induction entries with
    | nil =>
      rintro ⟨capacity, ⟨entries, nodup⟩, bounded⟩ acc same
      cases same
      simp [empty, Dict.empty]
    | cons entry rest ih =>
      intro m acc same
      rcases entry with ⟨key, values⟩
      have distinct := m.slots.nodup
      rw [same, List.map_cons, List.nodup_cons] at distinct
      have found : m.getAll key = some values := by
        simp [getAll, Dict.get?, same, Dict.lookupIn]
      have left : (m.remove key).slots.entries = rest := by
        have kept : ∀ e ∈ rest, e.1 ≠ key := by
          intro e member hit
          exact distinct.1 (List.mem_map.mpr ⟨e, member, hit⟩)
        simpa [remove, Dict.erase, same] using kept
      rw [List.map_cons, List.foldl_cons, found]
      rw [ih (m.remove key) (acc ++ [(key, values)]) left]
      simp [remove]
  exact loop m.slots.entries m [] rfl

/-- The map holds exactly the keys seen, each with the number of times it was seen. -/
structure Tallies (m : PerCpuMap cpus K Nat) (seen : List K) : Prop where
  keys : ∀ key, key ∈ m.keys ↔ key ∈ seen
  counts : ∀ e ∈ m.slots.entries, ∑ cpu, e.2 cpu = seen.count e.1

theorem tallies_empty (capacity : Nat) : Tallies (empty capacity : PerCpuMap cpus K Nat) [] :=
  ⟨fun _ => Iff.rfl, fun _ member => absurd member List.not_mem_nil⟩

theorem Tallies.size {m : PerCpuMap cpus K Nat} {seen : List K} (tallies : Tallies m seen) :
    m.slots.size = seen.toFinset.card := by
  have same : m.slots.keys.Perm seen.dedup :=
    (List.perm_ext_iff_of_nodup m.slots.nodup seen.nodup_dedup).mpr fun key => by
      rw [List.mem_dedup]
      exact tallies.keys key
  rw [List.card_toFinset, ← same.length_eq]
  simp [Dict.keys, Dict.size]

theorem Tallies.upsert {m : PerCpuMap cpus K Nat} {seen : List K} (tallies : Tallies m seen) {key : K}
    (admits : m.Admits key) (cpu : Fin cpus) : Tallies (m.upsert cpu key (· + 1)) (seen ++ [key]) where
  keys other := by
    rw [mem_keys_upsert admits, tallies.keys, List.mem_append, List.mem_singleton, or_comm]
  counts e member := by
    rw [upsert_of_admits admits] at member
    rw [List.count_append, List.count_singleton]
    rcases (Dict.mem_set_iff _ _ _ _).mp member with rfl | ⟨old, other⟩
    · have added := sum_update id ((m.getAll key).getD 0) cpu (· + 1) rfl
      simp only [id] at added
      rw [added, BEq.rfl, if_pos rfl]
      cases found : m.slots.get? key with
      | none =>
        have unseen : key ∉ seen := by
          rw [← tallies.keys, PerCpuMap.keys, Dict.mem_keys_iff, found]
          simp
        simp [getAll, found, List.count_eq_zero_of_not_mem unseen]
      | some values =>
        have counted := tallies.counts (key, values) ((Dict.get?_eq_some_iff _ _ _).mp found)
        simp [getAll, found, counted]
    · rw [tallies.counts e old, if_neg (by simpa using Ne.symm other), Nat.add_zero]

theorem foldl_upsert_capacity (updates : List (Fin cpus × K)) (m : PerCpuMap cpus K Nat) :
    (updates.foldl (fun m e => m.upsert e.1 e.2 (· + 1)) m).capacity = m.capacity := by
  induction updates generalizing m with
  | nil => rfl
  | cons e rest ih => exact (ih _).trans (m.upsert_capacity e.1 e.2 _)

/-- A map with room for the distinct keys of some traffic counts it exactly. -/
theorem tallies_foldl (updates : List (Fin cpus × K)) {capacity : Nat}
    (room : (updates.map Prod.snd).toFinset.card ≤ capacity) :
    Tallies (updates.foldl (fun m e => m.upsert e.1 e.2 (· + 1)) (empty capacity))
      (updates.map Prod.snd) := by
  induction updates using List.reverseRecOn with
  | nil => exact tallies_empty capacity
  | append_singleton updates last ih =>
    rw [List.map_append, List.map_singleton, List.toFinset_append] at room
    rw [List.map_append, List.map_singleton, List.foldl_append, List.foldl_cons, List.foldl_nil]
    have grows : (updates.map Prod.snd).toFinset.card ≤
        ((updates.map Prod.snd).toFinset ∪ [last.2].toFinset).card :=
      Finset.card_le_card Finset.subset_union_left
    have before := ih (grows.trans room)
    refine before.upsert ?_ last.1
    by_cases known : last.2 ∈ updates.map Prod.snd
    · exact Or.inl ((before.keys last.2).mpr known)
    · have apart : Disjoint (updates.map Prod.snd).toFinset [last.2].toFinset := by
        simpa using known
      have one : [last.2].toFinset.card = 1 := rfl
      rw [Finset.card_union_of_disjoint apart, one] at room
      refine Or.inr ?_
      rw [before.size, foldl_upsert_capacity]
      exact room

omit [Zero V] in
theorem card_le_capacity {m : PerCpuMap cpus K V} {seen : List K} (held : ∀ key ∈ seen, key ∈ m.keys) :
    seen.toFinset.card ≤ m.capacity := by
  have inside : seen.toFinset ⊆ m.keys.toFinset := by
    intro key member
    exact List.mem_toFinset.mpr (held key (List.mem_toFinset.mp member))
  calc seen.toFinset.card ≤ m.keys.toFinset.card := Finset.card_le_card inside
    _ ≤ m.keys.length := m.keys.toFinset_card_le
    _ = m.slots.size := by simp [keys, Dict.keys, Dict.size]
    _ ≤ m.capacity := m.bounded

end PerCpuMap

end Flod.Lib
