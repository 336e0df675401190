import Flod.Lib.Dict

/-! A store with a cap that is cut back to less than the cap whenever it is passed. Where the
entries come best first, a cut leaves the first ones and the store fills up again behind them, so
what it holds in the end is a piece of the front and a piece of the back. -/

namespace Flod.Lib.CutBack

variable {α : Type}

/-- One entry more, and back to the first `keep` where there are more than `most`. -/
def add (most keep : Nat) (held : List α) (x : α) : List α :=
  if held.length < most then held ++ [x] else (held ++ [x]).take keep

/-- How many entries stand behind the front once `count` have been added. -/
def behind (most keep count : Nat) : Nat := (count - (most + 1)) % (most + 1 - keep)

/-- What is held once all of a list has been added. -/
def held (most keep : Nat) (l : List α) : List α :=
  if l.length ≤ most then l else l.take keep ++ l.drop (l.length - behind most keep l.length)

section Numbers

variable {most keep : Nat}

variable (most keep) in
theorem behind_le (count : Nat) (below : keep ≤ most) : behind most keep count ≤ most - keep := by
  have less : behind most keep count < most + 1 - keep := Nat.mod_lt _ (by omega)
  omega

variable (most keep) in
theorem behind_le_count (count : Nat) : behind most keep count ≤ count - (most + 1) :=
  Nat.mod_le _ _

theorem behind_first : behind most keep (most + 1) = 0 := by
  rw [behind, Nat.sub_self, Nat.zero_mod]

theorem behind_succ {count : Nat} (past : most < count) (room : behind most keep count < most - keep) :
    behind most keep (count + 1) = behind most keep count + 1 := by
  unfold behind at room ⊢
  have shift : count + 1 - (most + 1) = count - (most + 1) + 1 := by omega
  rw [shift, Nat.add_mod, Nat.mod_eq_of_lt (by omega : 1 < most + 1 - keep), Nat.mod_eq_of_lt (by omega)]

theorem behind_wrap {count : Nat} (below : keep ≤ most) (past : most < count)
    (full : behind most keep count = most - keep) : behind most keep (count + 1) = 0 := by
  unfold behind at full ⊢
  have shift : count + 1 - (most + 1) = count - (most + 1) + 1 := by omega
  have whole : (count - (most + 1)) % (most + 1 - keep) + 1 = most + 1 - keep := by omega
  rw [shift, ← Nat.mod_add_mod, whole, Nat.mod_self]

end Numbers

theorem add_held {most keep : Nat} (below : keep ≤ most) (l : List α) (x : α) :
    add most keep (held most keep l) x = held most keep (l ++ [x]) := by
  have longer : (l ++ [x]).length = l.length + 1 := by simp
  by_cases few : l.length < most
  · have now : held most keep l = l := if_pos (by omega)
    rw [now, add, if_pos few, held, if_pos (by omega)]
  · by_cases exactly : l.length = most
    · have now : held most keep l = l := if_pos (by omega)
      rw [now, add, if_neg few, held, if_neg (by omega), longer, exactly, behind_first, Nat.sub_zero,
        List.drop_of_length_le (by omega), List.append_nil]
    · have past : most < l.length := by omega
      have back := behind_le most keep l.length below
      have part := behind_le_count most keep l.length
      have now : held most keep l = l.take keep ++ l.drop (l.length - behind most keep l.length) :=
        if_neg (by omega)
      have front : (l.take keep).length = keep := by
        rw [List.length_take]
        omega
      have size : (held most keep l).length = keep + behind most keep l.length := by
        rw [now, List.length_append, front, List.length_drop]
        omega
      have frontLonger : (l ++ [x]).take keep = l.take keep := List.take_append_of_le_length (by omega)
      rw [add, size]
      by_cases room : behind most keep l.length < most - keep
      · have shift : l.length + 1 - (behind most keep l.length + 1) = l.length - behind most keep l.length := by omega
        rw [if_pos (by omega), now, held, if_neg (by omega), longer, behind_succ past room, frontLonger, shift,
          List.drop_append_of_le_length (by omega), List.append_assoc]
      · have again : (l.take keep ++ l.drop (l.length - behind most keep l.length) ++ [x]).take keep = l.take keep := by
          rw [List.append_assoc, List.take_append_of_le_length (by omega), List.take_of_length_le (by omega)]
        rw [if_neg (by omega), now, again, held, if_neg (by omega), longer, behind_wrap below past (by omega),
          Nat.sub_zero, List.drop_of_length_le (by omega), List.append_nil, frontLonger]

theorem foldl_add_held {most keep : Nat} (below : keep ≤ most) (l : List α) :
    ∀ before : List α, l.foldl (add most keep) (held most keep before) = held most keep (before ++ l) := by
  induction l with
  | nil =>
    intro before
    rw [List.append_nil]
    rfl
  | cons x rest ih =>
    intro before
    rw [List.foldl_cons, add_held below, ih, List.append_assoc]
    rfl

theorem foldl_add {most keep : Nat} (below : keep ≤ most) (l : List α) :
    l.foldl (add most keep) [] = held most keep l := by
  have whole := foldl_add_held below l []
  rw [List.nil_append] at whole
  have nothing : held most keep ([] : List α) = [] := if_pos (Nat.zero_le most)
  rw [nothing] at whole
  exact whole

theorem add_sublist (most keep : Nat) (l : List α) (x : α) : (add most keep l x).Sublist (l ++ [x]) := by
  unfold add
  split
  · exact List.Sublist.refl _
  · exact List.take_sublist _ _

theorem held_sublist {most keep : Nat} (below : keep ≤ most) (l : List α) : (held most keep l).Sublist l := by
  unfold held
  split
  · exact List.Sublist.refl l
  · have part := behind_le_count most keep l.length
    have front : (l.take (l.length - behind most keep l.length)).take keep = l.take keep := by
      rw [List.take_take, Nat.min_eq_left (by omega)]
    have parts : ((l.take (l.length - behind most keep l.length)).take keep ++
        l.drop (l.length - behind most keep l.length)).Sublist l := by
      have whole := (List.take_sublist keep (l.take (l.length - behind most keep l.length))).append_right
        (l.drop (l.length - behind most keep l.length))
      rw [List.take_append_drop] at whole
      exact whole
    rw [front] at parts
    exact parts

theorem held_map {β : Type} (f : α → β) (most keep : Nat) (l : List α) :
    held most keep (l.map f) = (held most keep l).map f := by
  unfold held
  rw [List.length_map]
  split
  · rfl
  · rw [List.map_append, List.map_take, List.map_drop]

section Best

variable {β : Type} [Preorder β] (worth : α → β) {most keep : Nat} {l : List α}

/-- Nothing that was added is missing while something of less worth is held. -/
def KeepsBest (l held : List α) : Prop := ∀ a ∈ l, a ∉ held → ∀ b ∈ held, worth a ≤ worth b

theorem worth_antitone (sorted : l.Pairwise (fun a b => worth b ≤ worth a)) {i j : Nat} (bound : j < l.length)
    (before : i ≤ j) : worth l[j] ≤ worth l[i] := by
  by_cases same : i = j
  · subst same
    exact le_refl _
  · exact List.pairwise_iff_getElem.mp sorted i j (by omega) bound (by omega)

/-- The front of a list that comes best first is worth no less than the rest. -/
theorem keepsBest_take (sorted : l.Pairwise (fun a b => worth b ≤ worth a)) (n : Nat) :
    KeepsBest worth l (l.take n) := by
  intro a inside out b front
  rw [← List.take_append_drop n l] at inside sorted
  have later : a ∈ l.drop n := (List.mem_append.mp inside).resolve_left out
  exact (List.pairwise_append.mp sorted).2.2 b front a later

theorem cut_not_mem {part : Nat} (distinct : l.Nodup) (bound : keep < l.length) (gap : keep < l.length - part) :
    l[keep] ∉ l.take keep ++ l.drop (l.length - part) := by
  intro again
  cases List.mem_append.mp again with
  | inl front =>
    obtain ⟨i, early, same⟩ := List.mem_take_iff_getElem.mp front
    have equal := distinct.getElem_inj_iff.mp same
    omega
  | inr back =>
    obtain ⟨i, late, same⟩ := List.mem_drop_iff_getElem.mp back
    have equal := distinct.getElem_inj_iff.mp same
    omega

theorem last_mem {part : Nat} (nonempty : l ≠ []) (added : part ≠ 0) : l.getLast nonempty ∈ l.drop (l.length - part) := by
  have some_left : l.drop (l.length - part) ≠ [] := by
    have count := List.length_pos_of_ne_nil nonempty
    apply List.ne_nil_of_length_pos
    rw [List.length_drop]
    omega
  rw [← List.getLast_drop some_left]
  exact List.getLast_mem some_left

/-- Among entries that come best first, the best are held exactly where the store has not been
cut, has just been cut, or where those cut off are worth no more than the last one added. -/
theorem keepsBest_held_iff (below : keep ≤ most) (distinct : l.Nodup)
    (sorted : l.Pairwise (fun a b => worth b ≤ worth a)) :
    KeepsBest worth l (held most keep l) ↔
      l.length ≤ most ∨ behind most keep l.length = 0 ∨
        ∃ a b, l[keep]? = some a ∧ l.getLast? = some b ∧ worth a ≤ worth b := by
  have part := behind_le_count most keep l.length
  by_cases few : l.length ≤ most
  · rw [held, if_pos few]
    exact iff_of_true (fun a inside out => absurd inside out) (Or.inl few)
  · have bound : keep < l.length := by omega
    have nonempty : l ≠ [] := fun empty => by simp [empty] at bound
    rw [held, if_neg few]
    by_cases cut : behind most keep l.length = 0
    · rw [cut, Nat.sub_zero, List.drop_length, List.append_nil]
      exact iff_of_true (keepsBest_take worth sorted keep) (Or.inr (Or.inl rfl))
    · apply Iff.intro
      · intro best
        right; right
        refine ⟨l[keep], l.getLast nonempty, List.getElem?_eq_getElem bound, List.getLast?_eq_some_getLast nonempty, ?_⟩
        apply best _ (List.getElem_mem bound)
        · exact cut_not_mem distinct bound (by omega)
        · exact List.mem_append_right _ (last_mem nonempty cut)
      · intro condition
        obtain ⟨a, b, first, last, worse⟩ := (condition.resolve_left few).resolve_left cut
        obtain ⟨_, front⟩ := List.getElem?_eq_some_iff.mp first
        have back : l[l.length - 1] = b := by
          rw [List.getLast?_eq_some_getLast nonempty, Option.some.injEq, List.getLast_eq_getElem] at last
          exact last
        intro x inside out y within
        obtain ⟨i, iBound, rfl⟩ := List.getElem_of_mem inside
        obtain ⟨j, jBound, rfl⟩ := List.getElem_of_mem ((held_sublist below l).subset (by rw [held, if_neg few]; exact within))
        have late : keep ≤ i := by
          by_contra early
          apply out
          exact List.mem_append_left _ (List.mem_take_iff_getElem.mpr ⟨i, by omega, rfl⟩)
        calc worth l[i] ≤ worth l[keep] := worth_antitone worth sorted iBound late
          _ = worth a := by rw [front]
          _ ≤ worth b := worse
          _ = worth l[l.length - 1] := by rw [back]
          _ ≤ worth l[j] := worth_antitone worth sorted (by omega) (by omega)

end Best

section Keep

variable {K V : Type} {le : K × V → K × V → Bool}

theorem keepFirst_subset (d : Dict K V) (count : Nat) : (d.keepFirst le count).entries ⊆ d.entries := by
  intro e inside
  exact List.mem_mergeSort.mp (List.mem_of_mem_take inside)

theorem keepFirst_size_le (d : Dict K V) (count : Nat) : (d.keepFirst le count).size ≤ count :=
  List.length_take_le _ _

theorem keepFirst_of_pairwise {d : Dict K V} (count : Nat) (sorted : d.entries.Pairwise (fun a b => le a b = true)) :
    (d.keepFirst le count).entries = d.entries.take count := by
  show (d.entries.mergeSort le).take count = d.entries.take count
  rw [List.mergeSort_of_pairwise sorted]

theorem keepFirst_best (trans : ∀ a b c, le a b = true → le b c = true → le a c = true)
    (total : ∀ a b, (le a b || le b a) = true) (d : Dict K V) (count : Nat) {lost kept : K × V}
    (was : lost ∈ d.entries) (out : lost ∉ (d.keepFirst le count).entries)
    (stays : kept ∈ (d.keepFirst le count).entries) : le kept lost = true := by
  have sorted := List.pairwise_mergeSort trans total d.entries
  rw [← List.take_append_drop count (d.entries.mergeSort le)] at sorted
  have cut : lost ∈ (d.entries.mergeSort le).drop count := by
    have inside : lost ∈ (d.entries.mergeSort le).take count ++ (d.entries.mergeSort le).drop count := by
      rw [List.take_append_drop]
      exact List.mem_mergeSort.mpr was
    exact (List.mem_append.mp inside).resolve_left out
  exact (List.pairwise_append.mp sorted).2.2 kept stays lost cut

end Keep

end Flod.Lib.CutBack
