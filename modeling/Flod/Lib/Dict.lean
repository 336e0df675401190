import Mathlib.Algebra.BigOperators.Group.List.Basic
import Mathlib.Algebra.Ring.Nat
import Mathlib.Data.List.Nodup

/-! Finite maps that iterate in insertion order. A key is stored once, which the
structure carries; overwriting a value leaves the key in its place. A map of the source
that promises no order is walked by a `Walk`. -/

namespace Flod.Lib

/-- An order in which a map can be walked: some arrangement of what is in it. -/
structure Walk (α : Type) where
  order : List α → List α
  perm : ∀ entries, (order entries).Perm entries

namespace Walk

variable {α : Type}

def inserted : Walk α := ⟨id, List.Perm.refl⟩

@[simp] theorem mem_order (walk : Walk α) {x : α} {entries : List α} : x ∈ walk.order entries ↔ x ∈ entries :=
  (walk.perm entries).mem_iff

@[simp] theorem order_eq_nil (walk : Walk α) {entries : List α} : walk.order entries = [] ↔ entries = [] := by
  rw [← List.length_eq_zero_iff, (walk.perm entries).length_eq, List.length_eq_zero_iff]

end Walk

structure Dict (K V : Type) where
  entries : List (K × V)
  nodup : (entries.map Prod.fst).Nodup

namespace Dict

variable {K V : Type}

def empty : Dict K V := ⟨[], by simp⟩

def keys (d : Dict K V) : List K := d.entries.map Prod.fst

def values (d : Dict K V) : List V := d.entries.map Prod.snd

def size (d : Dict K V) : Nat := d.entries.length

/-- The same keys in the same order, each value replaced. -/
def mapValues {W : Type} (f : V → W) (d : Dict K V) : Dict K W :=
  ⟨d.entries.map (fun e => (e.1, f e.2)), by simpa [Function.comp_def] using d.nodup⟩

/-- The entries that pass a test. -/
def filter (test : K × V → Bool) (d : Dict K V) : Dict K V :=
  ⟨d.entries.filter test, d.nodup.sublist (List.filter_sublist.map _)⟩

/-- The first entries in a stable sort. -/
def keepFirst (le : K × V → K × V → Bool) (count : Nat) (d : Dict K V) : Dict K V :=
  ⟨(d.entries.mergeSort le).take count, by
    have sorted : ((d.entries.mergeSort le).map Prod.fst).Nodup :=
      ((List.mergeSort_perm d.entries le).map Prod.fst).nodup_iff.mpr d.nodup
    exact sorted.sublist ((List.take_sublist _ _).map _)⟩

variable [DecidableEq K]

def lookupIn (key : K) : List (K × V) → Option V
  | [] => none
  | (k, v) :: rest => if k = key then some v else lookupIn key rest

def putIn (key : K) (value : V) : List (K × V) → List (K × V)
  | [] => [(key, value)]
  | (k, v) :: rest => if k = key then (key, value) :: rest else (k, v) :: putIn key value rest

theorem lookupIn_putIn (key other : K) (value : V) (entries : List (K × V)) :
    lookupIn other (putIn key value entries) =
      if key = other then some value else lookupIn other entries := by
  induction entries with
  | nil => simp [putIn, lookupIn]
  | cons entry rest ih =>
    rcases entry with ⟨k, v⟩
    by_cases same : k = key
    · subst same
      by_cases hit : k = other <;> simp [putIn, lookupIn, hit]
    · by_cases hit : k = other
      · have apart : key ≠ other := fun h => same (hit.trans h.symm)
        simp only [putIn, if_neg same, lookupIn, if_pos hit, if_neg apart]
      · simp [putIn, lookupIn, same, hit, ih]

theorem keys_putIn (key : K) (value : V) (entries : List (K × V)) :
    (putIn key value entries).map Prod.fst =
      if key ∈ entries.map Prod.fst then entries.map Prod.fst
      else entries.map Prod.fst ++ [key] := by
  induction entries with
  | nil => simp [putIn]
  | cons entry rest ih =>
    rcases entry with ⟨k, v⟩
    by_cases same : k = key
    · simp [putIn, same]
    · have apart : key ≠ k := fun h => same h.symm
      simp only [putIn, if_neg same, List.map_cons, ih, List.mem_cons, apart, false_or]
      split <;> simp

theorem lookupIn_isSome (key : K) (entries : List (K × V)) :
    (lookupIn key entries).isSome ↔ key ∈ entries.map Prod.fst := by
  induction entries with
  | nil => simp [lookupIn]
  | cons entry rest ih =>
    rcases entry with ⟨k, v⟩
    by_cases same : k = key
    · simp [lookupIn, same]
    · have apart : key ≠ k := fun h => same h.symm
      simpa [lookupIn, same, apart] using ih

theorem lookupIn_eq_some (key : K) (value : V) (entries : List (K × V))
    (nodup : (entries.map Prod.fst).Nodup) :
    lookupIn key entries = some value ↔ (key, value) ∈ entries := by
  induction entries with
  | nil => simp [lookupIn]
  | cons entry rest ih =>
    rcases entry with ⟨k, v⟩
    simp only [List.map_cons, List.nodup_cons] at nodup
    by_cases same : k = key
    · subst same
      have absent : (k, value) ∉ rest := fun member =>
        nodup.1 (List.mem_map.mpr ⟨_, member, rfl⟩)
      simp [lookupIn, absent, eq_comm]
    · have apart : key ≠ k := fun h => same h.symm
      simpa [lookupIn, same, apart] using ih nodup.2

def get? (d : Dict K V) (key : K) : Option V := lookupIn key d.entries

def getD (d : Dict K V) (key : K) (default : V) : V := (d.get? key).getD default

def set (d : Dict K V) (key : K) (value : V) : Dict K V :=
  ⟨putIn key value d.entries, by
    rw [keys_putIn]
    split
    · exact d.nodup
    · next absent => exact d.nodup.append (by simp) (by simpa using absent)⟩

def erase (d : Dict K V) (key : K) : Dict K V :=
  ⟨d.entries.filter (fun e => e.1 ≠ key), d.nodup.sublist (List.filter_sublist.map _)⟩

@[simp] theorem get?_empty (key : K) : (empty : Dict K V).get? key = none := rfl

@[simp] theorem get?_set_self (d : Dict K V) (key : K) (value : V) :
    (d.set key value).get? key = some value := by
  simp [get?, set, lookupIn_putIn]

theorem get?_set (d : Dict K V) (key other : K) (value : V) :
    (d.set key value).get? other = if key = other then some value else d.get? other :=
  lookupIn_putIn key other value d.entries

theorem get?_set_of_ne (d : Dict K V) {key other : K} (value : V) (apart : other ≠ key) :
    (d.set key value).get? other = d.get? other := by
  rw [get?_set, if_neg (Ne.symm apart)]

theorem putIn_putIn (key : K) (first second : V) (entries : List (K × V)) :
    putIn key second (putIn key first entries) = putIn key second entries := by
  induction entries with
  | nil => simp [putIn]
  | cons entry rest ih =>
    rcases entry with ⟨k, v⟩
    by_cases same : k = key
    · simp [putIn, same]
    · simp [putIn, same, ih]

theorem set_set (d : Dict K V) (key : K) (first second : V) :
    (d.set key first).set key second = d.set key second := by
  simp only [set, putIn_putIn]

theorem set_of_get? {d : Dict K V} {key : K} {value : V} (found : d.get? key = some value) :
    d.set key value = d := by
  rcases d with ⟨entries, nodup⟩
  have stored : ∀ list : List (K × V), lookupIn key list = some value → putIn key value list = list := by
    intro list held
    induction list with
    | nil => cases held
    | cons entry rest ih =>
      by_cases same : entry.1 = key
      · simp only [lookupIn, if_pos same, Option.some.injEq] at held
        rw [putIn, if_pos same, ← same, ← held]
      · simp only [lookupIn, if_neg same] at held
        rw [putIn, if_neg same, ih held]
  simp only [set, stored entries found]

theorem mem_keys_iff (d : Dict K V) (key : K) : key ∈ d.keys ↔ (d.get? key).isSome :=
  (lookupIn_isSome key d.entries).symm

theorem get?_eq_some_iff (d : Dict K V) (key : K) (value : V) :
    d.get? key = some value ↔ (key, value) ∈ d.entries :=
  lookupIn_eq_some key value d.entries d.nodup

theorem get?_mapValues {W : Type} (f : V → W) (d : Dict K V) (key : K) :
    (d.mapValues f).get? key = (d.get? key).map f := by
  simp only [get?, mapValues]
  induction d.entries with
  | nil => rfl
  | cons entry rest ih =>
    rcases entry with ⟨k, v⟩
    by_cases same : k = key
    · simp [lookupIn, same]
    · simpa [lookupIn, same] using ih

theorem mem_mapValues_iff {W : Type} (f : V → W) (d : Dict K V) (key : K) (value : W) :
    (key, value) ∈ (d.mapValues f).entries ↔ ∃ v, d.get? key = some v ∧ f v = value := by
  rw [← get?_eq_some_iff, get?_mapValues, Option.map_eq_some_iff]

theorem mem_keys_of_get? {d : Dict K V} {key : K} {value : V} (found : d.get? key = some value) :
    key ∈ d.keys := by
  rw [mem_keys_iff, found]
  rfl

theorem get?_of_mem_keys {d : Dict K V} {key : K} (member : key ∈ d.keys) :
    ∃ value, d.get? key = some value :=
  Option.isSome_iff_exists.mp ((mem_keys_iff d key).mp member)

theorem mem_keys_set (d : Dict K V) (key other : K) (value : V) :
    other ∈ (d.set key value).keys ↔ other = key ∨ other ∈ d.keys := by
  simp only [mem_keys_iff, get?_set]
  by_cases same : key = other
  · simp [same]
  · simp [same, Ne.symm same]

theorem keys_set_of_mem (d : Dict K V) {key : K} (value : V) (member : key ∈ d.keys) :
    (d.set key value).keys = d.keys := by
  change (putIn key value d.entries).map Prod.fst = d.keys
  rw [keys_putIn, if_pos (show key ∈ d.entries.map Prod.fst from member)]
  rfl

theorem size_set_of_mem (d : Dict K V) {key : K} (value : V) (member : key ∈ d.keys) :
    (d.set key value).size = d.size := by
  have same := congrArg List.length (keys_set_of_mem d value member)
  simpa [keys, size] using same

theorem size_set_of_not_mem (d : Dict K V) {key : K} (value : V) (absent : key ∉ d.keys) :
    (d.set key value).size = d.size + 1 := by
  have longer := congrArg List.length (keys_putIn key value d.entries)
  rw [if_neg (show key ∉ d.entries.map Prod.fst from absent)] at longer
  simpa [size, set] using longer

theorem size_le_set (d : Dict K V) (key : K) (value : V) : d.size ≤ (d.set key value).size := by
  by_cases member : key ∈ d.keys
  · exact (size_set_of_mem d value member).ge
  · rw [size_set_of_not_mem d value member]
    omega

theorem get?_erase (d : Dict K V) (key other : K) :
    (d.erase key).get? other = if key = other then none else d.get? other := by
  rcases d with ⟨entries, nodup⟩
  unfold get? erase
  dsimp only
  induction entries with
  | nil => simp [lookupIn]
  | cons e entries ih =>
    have later := ih (List.nodup_cons.mp nodup).2
    by_cases gone : e.1 = key
    · subst gone
      by_cases same : e.1 = other
      · simpa [same] using later
      · simpa [lookupIn, same] using later
    · by_cases same : e.1 = other
      · simp [lookupIn, gone, ← same, Ne.symm gone]
      · simpa [lookupIn, gone, same] using later

theorem get?_filter_eq_some (test : K × V → Bool) (d : Dict K V) (key : K) (value : V) :
    (d.filter test).get? key = some value ↔ d.get? key = some value ∧ test (key, value) = true := by
  rw [get?_eq_some_iff, get?_eq_some_iff]
  exact List.mem_filter

theorem mem_keys_erase (d : Dict K V) (key other : K) :
    other ∈ (d.erase key).keys ↔ other ≠ key ∧ other ∈ d.keys := by
  rw [mem_keys_iff, mem_keys_iff, get?_erase]
  by_cases same : key = other
  · simp [same]
  · simp [same, Ne.symm same]

theorem erase_of_not_mem {d : Dict K V} {key : K} (absent : key ∉ d.keys) :
    d.erase key = d := by
  have same : d.entries.filter (fun e => e.1 ≠ key) = d.entries := by
    apply List.filter_eq_self.mpr
    intro e inside
    simp only [ne_eq, decide_eq_true_eq]
    intro equal
    exact absent (equal ▸ List.mem_map_of_mem inside)
  cases d
  simp only [erase, mk.injEq]
  exact same

theorem size_erase_le (d : Dict K V) (key : K) : (d.erase key).size ≤ d.size :=
  List.length_filter_le _ _

omit [DecidableEq K] in
@[simp] theorem keys_mapValues {W : Type} (f : V → W) (d : Dict K V) : (d.mapValues f).keys = d.keys := by
  simp [keys, mapValues, Function.comp_def]

omit [DecidableEq K] in
@[simp] theorem size_mapValues {W : Type} (f : V → W) (d : Dict K V) : (d.mapValues f).size = d.size := by
  simp [size, mapValues]

omit [DecidableEq K] in
theorem mapValues_mapValues {W X : Type} (f : V → W) (g : W → X) (d : Dict K V) :
    (d.mapValues f).mapValues g = d.mapValues (fun v => g (f v)) := by
  simp only [mapValues, List.map_map, Function.comp_def]

theorem mapValues_set {W : Type} (f : V → W) (d : Dict K V) (key : K) (value : V) :
    (d.set key value).mapValues f = (d.mapValues f).set key (f value) := by
  have entries : ∀ list : List (K × V), (putIn key value list).map (fun e => (e.1, f e.2)) =
      putIn key (f value) (list.map (fun e => (e.1, f e.2))) := by
    intro list
    induction list with
    | nil => rfl
    | cons entry rest ih =>
      by_cases same : entry.1 = key
      · simp [putIn, same]
      · simp [putIn, same, ih]
  simp only [mapValues, set, entries]

omit [DecidableEq K] in
theorem size_le_of_keys_subset {W : Type} {d : Dict K V} {e : Dict K W} (within : d.keys ⊆ e.keys) :
    d.size ≤ e.size := by
  have shorter := (List.subperm_of_subset d.nodup within).length_le
  simpa [keys, size] using shorter

/-- Overwriting a value changes a sum over the entries by what it changes that entry. -/
theorem sum_putIn (h : K × V → Nat) {key : K} {value : V} {change : Nat} (entries : List (K × V))
    (step : h (key, value) = ((lookupIn key entries).map (fun old => h (key, old))).getD 0 + change) :
    ((putIn key value entries).map h).sum = (entries.map h).sum + change := by
  induction entries with
  | nil => simpa [putIn, lookupIn] using step
  | cons entry rest ih =>
    rcases entry with ⟨k, v⟩
    by_cases same : k = key
    · subst same
      simp only [lookupIn, if_true, Option.map_some, Option.getD_some] at step
      simp only [putIn, if_true, List.map_cons, List.sum_cons, step]
      omega
    · simp only [lookupIn, if_neg same] at step
      simp only [putIn, if_neg same, List.map_cons, List.sum_cons, ih step]
      omega

theorem putIn_of_not_mem {key : K} (value : V) {entries : List (K × V)}
    (absent : key ∉ entries.map Prod.fst) : putIn key value entries = entries ++ [(key, value)] := by
  induction entries with
  | nil => rfl
  | cons entry rest ih =>
    rcases entry with ⟨k, v⟩
    simp only [List.map_cons, List.mem_cons, not_or] at absent
    rw [putIn, if_neg (Ne.symm absent.1), ih absent.2, List.cons_append]

theorem foldl_putIn (pairs acc : List (K × V)) (distinct : ((acc ++ pairs).map Prod.fst).Nodup) :
    pairs.foldl (fun entries e => putIn e.1 e.2 entries) acc = acc ++ pairs := by
  induction pairs generalizing acc with
  | nil => simp
  | cons pair rest ih =>
    have absent : pair.1 ∉ acc.map Prod.fst := by
      intro member
      rw [List.map_append, List.map_cons] at distinct
      exact (List.nodup_append.mp distinct).2.2 _ member _ List.mem_cons_self rfl
    rw [List.foldl_cons, putIn_of_not_mem pair.2 absent, ih (acc ++ [pair]) (by simpa using distinct)]
    simp

theorem getD_set (d : Dict K V) (key other : K) (value default : V) :
    (d.set key value).getD other default = if key = other then value else d.getD other default := by
  rw [getD, get?_set, getD]
  split <;> rfl

theorem mem_set_iff (d : Dict K V) (key : K) (value : V) (e : K × V) :
    e ∈ (d.set key value).entries ↔ e = (key, value) ∨ e ∈ d.entries ∧ e.1 ≠ key := by
  rcases e with ⟨k, v⟩
  rw [← get?_eq_some_iff, get?_set, ← get?_eq_some_iff]
  by_cases same : key = k
  · subst same
    simp [eq_comm]
  · simp [same, Ne.symm same]

theorem sum_entries_of_key {M : Type} [AddCommMonoid M] (g : V → M) (d : Dict K V) (key : K) :
    (d.entries.map (fun e => if e.1 = key then g e.2 else 0)).sum = ((d.get? key).map g).getD 0 := by
  rcases d with ⟨entries, nodup⟩
  unfold get?
  induction entries with
  | nil => rfl
  | cons e entries ih =>
    rw [List.map_cons, List.nodup_cons] at nodup
    rw [List.map_cons, List.sum_cons, ih nodup.2, lookupIn]
    by_cases same : e.1 = key
    · have absent : lookupIn key entries = none := by
        rw [← Option.not_isSome_iff_eq_none, lookupIn_isSome, ← same]
        exact nodup.1
      simp [same, absent]
    · simp [same]

end Dict

end Flod.Lib
