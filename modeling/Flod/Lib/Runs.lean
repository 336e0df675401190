import Mathlib.Data.List.SplitBy

/-! Numbering the runs of a list. One pass that counts up where an element does not go on from
the one before it gives every element the number of its run, the runs being those of
`List.splitBy`; choosing elements by the number of their run keeps or drops whole runs. -/

namespace Flod.Lib.Runs

variable {α : Type}

/-- Every element with a number, which goes up where `r` fails between neighbours. -/
def number (r : α → α → Bool) : Option α → Nat → List α → List (α × Nat)
  | _, _, [] => []
  | previous, n, a :: rest =>
      let own := if previous.any (fun p => r p a) then n else n + 1
      (a, own) :: number r (some a) own rest

/-- The elements of the groups, each with the number of its group. -/
def numbered : Nat → List (List α) → List (α × Nat)
  | _, [] => []
  | n, group :: rest => group.map (fun a => (a, n)) ++ numbered (n + 1) rest

/-- Which groups stay, going by the group and its number. -/
def marks (keep : List α → Nat → Bool) : Nat → List (List α) → List Bool
  | _, [] => []
  | n, group :: rest => keep group n :: marks keep (n + 1) rest

/-- The groups that stay. -/
def select {β : Type} (groups : List β) (stays : List Bool) : List β :=
  ((groups.zip stays).filter Prod.snd).map Prod.fst

section Number

variable {r : α → α → Bool}

theorem number_run (m : List α) : ∀ (run : List α) (previous : Option α) (n : Nat) (a : α),
    ((a :: run).IsChain fun x y => r x y) →
      number r previous n (a :: run ++ m) =
        (a :: run).map (fun x => (x, if previous.any (fun p => r p a) then n else n + 1)) ++
          number r (some ((a :: run).getLast (List.cons_ne_nil a run)))
            (if previous.any (fun p => r p a) then n else n + 1) m
  | [], previous, n, a, _ => rfl
  | b :: run, previous, n, a, chain => by
    have apart := List.isChain_cons_cons.mp chain
    have again := number_run m run (some a) (if previous.any (fun p => r p a) then n else n + 1) b apart.2
    simp only [Option.any_some, apart.1, if_true] at again
    show (a, _) :: number r (some a) _ (b :: run ++ m) = _
    rw [again]
    rfl

/-- Runs that do not go on from one another have successive numbers. -/
theorem number_flatten : ∀ (groups : List (List α)) (previous : Option α) (n : Nat), [] ∉ groups →
    (∀ group ∈ groups, group.IsChain fun x y => r x y) →
    (groups.IsChain fun a b => ∃ ha hb, r (a.getLast ha) (b.head hb) = false) →
    (∀ p ∈ previous, ∀ group ∈ groups.head?, ∀ b ∈ group.head?, r p b = false) →
      number r previous n groups.flatten = numbered (n + 1) groups
  | [], _, _, _, _, _, _ => rfl
  | [] :: rest, _, _, full, _, _, _ => absurd List.mem_cons_self full
  | (a :: run) :: rest, previous, n, full, chains, apart, fresh => by
    have starts : previous.any (fun p => r p a) = false := by
      cases previous with
      | none => rfl
      | some p => exact fresh p rfl (a :: run) rfl a rfl
    have first := number_run rest.flatten run previous n a (chains _ List.mem_cons_self)
    simp only [starts, Bool.false_eq_true, if_false] at first
    rw [List.flatten_cons, first, numbered]
    apply congrArg
    apply number_flatten rest _ (n + 1) (fun empty => full (List.mem_cons_of_mem _ empty))
      (fun group inside => chains group (List.mem_cons_of_mem _ inside)) apart.tail
    intro p last group next b head
    obtain ⟨_, hb, separate⟩ := (List.isChain_cons.mp apart).1 group next
    cases last
    rw [← List.head_of_mem_head? head]
    exact separate

theorem number_splitBy (n : Nat) (l : List α) : number r none n l = numbered (n + 1) (l.splitBy r) := by
  have runs := number_flatten (l.splitBy r) none n (List.nil_notMem_splitBy r l)
    (fun _ inside => List.isChain_of_mem_splitBy inside) (List.isChain_getLast_head_splitBy r l)
    (fun _ missing => by cases missing)
  rw [List.flatten_splitBy] at runs
  exact runs

end Number

section Choose

theorem numbered_ge : ∀ (groups : List (List α)) (n : Nat), ∀ x ∈ numbered n groups, n ≤ x.2
  | [], _, _, inside => by cases inside
  | group :: rest, n, x, inside => by
    rw [numbered, List.mem_append] at inside
    cases inside with
    | inl first =>
      obtain ⟨a, _, rfl⟩ := List.mem_map.mp first
      exact Nat.le_refl n
    | inr later =>
      have above := numbered_ge rest (n + 1) x later
      omega

theorem numbered_elements : ∀ (groups : List (List α)) (n : Nat), (numbered n groups).map Prod.fst = groups.flatten
  | [], _ => rfl
  | group :: rest, n => by
    rw [numbered, List.map_append, numbered_elements rest, List.map_map, List.flatten_cons]
    congr 1
    exact List.map_id' group

theorem filter_number : ∀ (groups : List (List α)) (n i : Nat) (group : List α), groups[i]? = some group →
    ((numbered n groups).filter (fun x => decide (x.2 = n + i))).map Prod.fst = group
  | [], _, _, _, found => by simp at found
  | first :: rest, n, 0, group, found => by
    have same : first = group := by simpa using found
    have later : (numbered (n + 1) rest).filter (fun x => decide (x.2 = n)) = [] := by
      apply List.filter_eq_nil_iff.mpr
      intro x inside
      have above := numbered_ge rest (n + 1) x inside
      simp only [decide_eq_true_eq]
      omega
    simp [numbered, List.filter_map, Function.comp_def, later, same]
  | first :: rest, n, i + 1, group, found => by
    have again := filter_number rest (n + 1) i group (by simpa using found)
    have shift : n + 1 + i = n + (i + 1) := by omega
    rw [shift] at again
    simpa [numbered, List.filter_map, Function.comp_def] using again

theorem marks_at (keep : List α → Nat → Bool) : ∀ (groups : List (List α)) (n i : Nat),
    (marks keep n groups)[i]? = groups[i]?.map (fun group => keep group (n + i))
  | [], _, _ => by simp [marks]
  | group :: rest, n, 0 => by simp [marks]
  | group :: rest, n, i + 1 => by
    have shift : n + 1 + i = n + (i + 1) := by omega
    rw [marks, List.getElem?_cons_succ, marks_at keep rest, List.getElem?_cons_succ, shift]

theorem marks_length (keep : List α → Nat → Bool) : ∀ (groups : List (List α)) (n : Nat),
    (marks keep n groups).length = groups.length
  | [], _ => rfl
  | group :: rest, n => by rw [marks, List.length_cons, marks_length keep rest, List.length_cons]

/-- A choice that is the same for all of a group keeps or drops the group. -/
theorem filter_numbered {keep : List α → Nat → Bool} {p : α × Nat → Bool} :
    ∀ (groups : List (List α)) (n : Nat), (∀ group ∈ groups, ∀ a ∈ group, ∀ k, p (a, k) = keep group k) →
      ((numbered n groups).filter p).map Prod.fst = (select groups (marks keep n groups)).flatten
  | [], _, _ => rfl
  | group :: rest, n, agree => by
    have later := filter_numbered rest (n + 1) (fun g inside => agree g (List.mem_cons_of_mem _ inside))
    have first := agree group List.mem_cons_self
    rw [numbered, List.filter_append, List.map_append, later]
    cases stays : keep group n with
    | true =>
      have all : (group.map (fun a => (a, n))).filter p = group.map (fun a => (a, n)) := by
        apply List.filter_eq_self.mpr
        intro x inside
        obtain ⟨a, member, rfl⟩ := List.mem_map.mp inside
        rw [first a member n, stays]
      rw [all]
      simp [select, marks, stays, Function.comp_def]
    | false =>
      have none : (group.map (fun a => (a, n))).filter p = [] := by
        apply List.filter_eq_nil_iff.mpr
        intro x inside
        obtain ⟨a, member, rfl⟩ := List.mem_map.mp inside
        simp [first a member n, stays]
      rw [none]
      simp [select, marks, stays]

theorem select_sublist {β : Type} : ∀ (groups : List β) (stays : List Bool), (select groups stays).Sublist groups
  | [], _ => List.nil_sublist _
  | group :: rest, [] => by simp [select]
  | group :: rest, true :: stays => by simpa [select] using select_sublist rest stays
  | group :: rest, false :: stays => by simpa [select] using (select_sublist rest stays).cons group

theorem select_all {β : Type} (groups : List β) : select groups (groups.map (fun _ => true)) = groups := by
  induction groups with
  | nil => rfl
  | cons group rest ih =>
    have again := congrArg (List.cons group) ih
    simpa [select] using again

end Choose

/-- Groups chosen among the runs of a list are the runs of what they join to exactly where none
goes on from the one chosen before it. -/
theorem splitBy_select (r : α → α → Bool) (l : List α) (stays : List Bool) :
    (select (l.splitBy r) stays).flatten.splitBy r = select (l.splitBy r) stays ↔
      (select (l.splitBy r) stays).IsChain fun a b => ∃ ha hb, r (a.getLast ha) (b.head hb) = false := by
  have inside := (select_sublist (l.splitBy r) stays).subset
  apply Iff.intro
  · intro same
    rw [← same]
    exact List.isChain_getLast_head_splitBy r _
  · intro apart
    exact List.splitBy_flatten (fun empty => List.nil_notMem_splitBy r l (inside empty))
      (fun group member => List.isChain_of_mem_splitBy (inside member)) apart

end Flod.Lib.Runs
