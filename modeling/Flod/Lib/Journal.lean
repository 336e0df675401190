import Flod.Lib.Dict

/-! A map kept up to date by a journal. Each entry sets the value of its key or removes it.
Read forwards, every entry takes effect; read from the newest entry backwards, only the first
one met for each key does. Both leave each key as its latest entry says. -/

namespace Flod.Lib.Journal

variable {K V E : Type} [DecidableEq K] (key : E → K) (value : E → Option V)

/-- One entry taking effect. -/
def enter (d : Dict K V) (e : E) : Dict K V :=
  match value e with
  | some v => d.set (key e) v
  | none => d.erase (key e)

/-- The newest entry of a key in a journal read from its newest entry. -/
def latest (k : K) (newestFirst : List E) : Option E := newestFirst.find? (fun e => decide (key e = k))

/-- What the latest entry of a key says, if the journal has one. -/
def stands (k : K) (newestFirst : List E) : Option V := (latest key k newestFirst).bind value

/-- The journal read backwards, past every key already seen. -/
def rebuild : List E → List K → Dict K V → Dict K V
  | [], _, d => d
  | e :: rest, seen, d =>
      if key e ∈ seen then rebuild rest seen d else rebuild rest (key e :: seen) (enter key value d e)

variable {key value}

theorem get?_enter (d : Dict K V) (e : E) (k : K) :
    (enter key value d e).get? k = if key e = k then value e else d.get? k := by
  unfold enter
  cases value e with
  | some v => simp only [Dict.get?_set]
  | none => simp only [Dict.get?_erase]

theorem stands_cons (k : K) (e : E) (older : List E) :
    stands key value k (e :: older) = if key e = k then value e else stands key value k older := by
  unfold stands latest
  rw [List.find?_cons]
  by_cases same : key e = k <;> simp [same]

theorem get?_enter_of_stands {d : Dict K V} {newestFirst : List E} (e : E)
    (follows : ∀ k, d.get? k = stands key value k newestFirst) (k : K) :
    (enter key value d e).get? k = stands key value k (e :: newestFirst) := by
  rw [get?_enter, stands_cons, follows]

theorem get?_rebuild (newestFirst : List E) (seen : List K) (d : Dict K V) (k : K) :
    (rebuild key value newestFirst seen d).get? k =
      if k ∈ seen ∨ latest key k newestFirst = none then d.get? k else stands key value k newestFirst := by
  induction newestFirst generalizing seen d with
  | nil => simp [rebuild, latest]
  | cons e older ih =>
    unfold rebuild
    by_cases same : key e = k
    · subst same
      by_cases met : key e ∈ seen
      · rw [if_pos met, ih, if_pos (Or.inl met), if_pos (Or.inl met)]
      · rw [if_neg met, ih, if_pos (Or.inl List.mem_cons_self), get?_enter, if_pos rfl, stands_cons, if_pos rfl,
          if_neg]
        simp [met, latest]
    · have behind : latest key k (e :: older) = latest key k older := by simp [latest, same]
      have unaffected : stands key value k (e :: older) = stands key value k older := by
        rw [stands_cons, if_neg same]
      split
      · rw [ih, behind, unaffected]
      · rw [ih, get?_enter, if_neg same, behind, unaffected]
        simp only [List.mem_cons, Ne.symm same, false_or]

/-- Read backwards from nothing, a journal gives each key what its latest entry says. -/
theorem get?_rebuild_empty (newestFirst : List E) (k : K) :
    (rebuild key value newestFirst [] Dict.empty).get? k = stands key value k newestFirst := by
  rw [get?_rebuild]
  split
  · next unentered =>
    have none : latest key k newestFirst = none := unentered.resolve_left List.not_mem_nil
    simp [stands, none]
  · rfl

/-- The newest entries alone say the same of every key they have an entry for, and nothing of
the others. -/
theorem stands_take {k : K} (newestFirst : List E) (count : Nat) :
    stands key value k (newestFirst.take count) =
      if k ∈ (newestFirst.take count).map key then stands key value k newestFirst else none := by
  induction newestFirst generalizing count with
  | nil => simp [stands, latest]
  | cons e older ih =>
    cases count with
    | zero => simp [stands, latest]
    | succ count =>
      rw [List.take_succ_cons, stands_cons, stands_cons, ih]
      by_cases same : key e = k
      · simp [same]
      · simp [same, Ne.symm same]

end Flod.Lib.Journal
