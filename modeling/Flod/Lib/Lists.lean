import Mathlib.Data.List.Nodup

/-! Facts about lists: looking up in association lists, and removing duplicates. -/

namespace Flod.Lib

variable {α β : Type} [BEq α] [LawfulBEq α]

/-- Where no name comes twice, the last entry of a name is the first. -/
theorem lookup_reverse (k : α) :
    ∀ (entries : List (α × β)), (entries.map Prod.fst).Nodup → entries.reverse.lookup k = entries.lookup k
  | [], _ => rfl
  | (name, value) :: rest, distinct => by
    have apart := List.nodup_cons.mp distinct
    rw [List.reverse_cons, List.lookup_append, lookup_reverse k rest apart.2]
    by_cases same : k = name
    · subst same
      have missing : rest.lookup k = none := by
        apply List.lookup_eq_none_iff.mpr
        intro entry inside
        apply bne_iff_ne.mpr
        intro equal
        exact apart.1 (List.mem_map.mpr ⟨entry, inside, equal.symm⟩)
      simp [missing]
    · simp [List.lookup_cons, beq_false_of_ne same]

theorem lookup_zip :
    ∀ (names : List α) (values : List β) (i : Nat) (k : α), names.Nodup → names.length = values.length →
      names[i]? = some k → (names.zip values).lookup k = values[i]?
  | [], _, _, _, _, _, found => by simp at found
  | name :: names, [], _, _, _, fits, _ => by simp at fits
  | name :: names, value :: values, 0, k, _, _, found => by
    have same : name = k := by simpa using found
    simp [same]
  | name :: names, value :: values, i + 1, k, distinct, fits, found => by
    have apart := List.nodup_cons.mp distinct
    have later : names[i]? = some k := by simpa using found
    have other : k ≠ name := fun same => apart.1 (same ▸ List.mem_of_getElem? later)
    rw [List.zip_cons_cons, List.lookup_cons, beq_false_of_ne other]
    exact lookup_zip names values i k apart.2 (by simpa using fits) later

theorem nodup_eraseDups (l : List α) : l.eraseDups.Nodup := by
  induction size : l.length using Nat.strongRecOn generalizing l with
  | ind n ih =>
    cases l with
    | nil => exact List.nodup_nil
    | cons a rest =>
      have shorter : (rest.filter (fun b => !b == a)).length < n := by
        have most := List.length_filter_le (fun b => !b == a) rest
        rw [List.length_cons] at size
        omega
      rw [List.eraseDups_cons, List.nodup_cons]
      refine ⟨?_, ih _ shorter _ rfl⟩
      intro again
      simpa using (List.mem_filter.mp (List.mem_eraseDups.mp again)).2

end Flod.Lib
