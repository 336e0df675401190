import Mathlib.Data.List.Forall2

/-! Checks made one after the other, each of which may end the whole. A sequence passes if
every check does, and otherwise ends the way its first failing check ends. -/

namespace Flod.Lib

variable {E A B : Type}

theorem bind_eq_ok {x : Except E A} {f : A → Except E B} {b : B} :
    (x >>= f) = .ok b ↔ ∃ a, x = .ok a ∧ f a = .ok b := by
  cases x with
  | error e => simp [bind, Except.bind]
  | ok a => simp [bind, Except.bind]

theorem bind_eq_error {x : Except E A} {f : A → Except E B} {e : E} :
    (x >>= f) = .error e ↔ x = .error e ∨ ∃ a, x = .ok a ∧ f a = .error e := by
  cases x with
  | error e => simp [bind, Except.bind]
  | ok a => simp [bind, Except.bind]

/-- The first item that does not pass, and what becomes of it. -/
def FirstOf (passes fails : A → Prop) (items : List A) : Prop :=
  ∃ before item after, items = before ++ item :: after ∧ (∀ x ∈ before, passes x) ∧ fails item

theorem firstOf_cons {passes fails : A → Prop} {item : A} {items : List A} :
    FirstOf passes fails (item :: items) ↔ fails item ∨ (passes item ∧ FirstOf passes fails items) := by
  constructor
  · rintro ⟨before, x, after, split, passed, failed⟩
    cases before with
    | nil =>
      cases split
      exact Or.inl failed
    | cons first before =>
      cases split
      exact Or.inr ⟨passed _ List.mem_cons_self, before, x, after, rfl,
        fun y member => passed y (List.mem_cons_of_mem _ member), failed⟩
  · rintro (failed | ⟨pass, before, x, after, rfl, passed, failed⟩)
    · exact ⟨[], item, items, rfl, by simp, failed⟩
    · refine ⟨item :: before, x, after, rfl, ?_, failed⟩
      intro y member
      rcases List.mem_cons.mp member with rfl | later
      · exact pass
      · exact passed y later

theorem mapM_eq_ok {f : A → Except E B} {items : List A} {results : List B} :
    items.mapM f = .ok results ↔ List.Forall₂ (fun item result => f item = .ok result) items results := by
  induction items generalizing results with
  | nil =>
    rw [List.mapM_nil]
    constructor
    · intro same
      cases same
      exact .nil
    · intro paired
      cases paired
      rfl
  | cons item items ih =>
    rw [List.mapM_cons, bind_eq_ok]
    constructor
    · rintro ⟨result, passed, later⟩
      obtain ⟨rest, mapped, same⟩ := bind_eq_ok.mp later
      cases same
      exact .cons passed (ih.mp mapped)
    · intro paired
      cases paired with
      | cons passed later => exact ⟨_, passed, bind_eq_ok.mpr ⟨_, ih.mpr later, rfl⟩⟩

theorem mapM_isOk_iff {f : A → Except E B} {items : List A} :
    (∃ results, items.mapM f = .ok results) ↔ ∀ item ∈ items, ∃ result, f item = .ok result := by
  induction items with
  | nil => exact ⟨fun _ => by simp, fun _ => ⟨[], rfl⟩⟩
  | cons item items ih =>
    rw [List.forall_mem_cons, ← ih]
    constructor
    · rintro ⟨results, mapped⟩
      cases mapM_eq_ok.mp mapped with
      | cons passed later => exact ⟨⟨_, passed⟩, _, mapM_eq_ok.mpr later⟩
    · rintro ⟨⟨result, passed⟩, rest, mapped⟩
      exact ⟨result :: rest, mapM_eq_ok.mpr (.cons passed (mapM_eq_ok.mp mapped))⟩

theorem mapM_eq_error {f : A → Except E B} {items : List A} {e : E} :
    items.mapM f = .error e ↔ FirstOf (fun item => ∃ b, f item = .ok b) (fun item => f item = .error e) items := by
  induction items with
  | nil =>
    rw [List.mapM_nil]
    constructor
    · intro same
      cases same
    · rintro ⟨before, item, after, split, -⟩
      simp at split
  | cons item items ih =>
    rw [List.mapM_cons, bind_eq_error, firstOf_cons, ← ih]
    constructor
    · rintro (failed | ⟨b, passed, later⟩)
      · exact Or.inl failed
      · rcases bind_eq_error.mp later with failed | ⟨rest, -, same⟩
        · exact Or.inr ⟨⟨b, passed⟩, failed⟩
        · cases same
    · rintro (failed | ⟨⟨b, passed⟩, later⟩)
      · exact Or.inl failed
      · exact Or.inr ⟨b, passed, bind_eq_error.mpr (Or.inl later)⟩

end Flod.Lib
