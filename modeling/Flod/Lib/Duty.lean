import Mathlib.Data.List.TakeWhile

/-! A list of things to do under one handler: the first that raises ends it, and whatever was
owed from there on stays undone. -/

namespace Flod.Lib

structure Duty where
  raises : Bool
  owed : Bool
  deriving DecidableEq, Repr

/-- What is left from the first duty that raises on. -/
def undone (duties : List Duty) : List Duty := duties.dropWhile (fun d => !d.raises)

/-- Nothing owed is left undone. -/
def Met (duties : List Duty) : Prop := ∀ d ∈ undone duties, d.owed = false

instance (duties : List Duty) : Decidable (Met duties) := inferInstanceAs (Decidable (∀ d ∈ _, _))

variable {duties more : List Duty}

theorem undone_eq_nil_iff : undone duties = [] ↔ ∀ d ∈ duties, d.raises = false := by
  simp [undone, List.dropWhile_eq_nil_iff]

theorem met_append_of_clear (clear : ∀ d ∈ duties, d.raises = false) : Met (duties ++ more) ↔ Met more := by
  have empty : duties.dropWhile (fun d => !d.raises) = [] := undone_eq_nil_iff.mpr clear
  unfold Met undone
  rw [List.dropWhile_append, empty]
  rfl

theorem met_append_of_raises (raised : ∃ d ∈ duties, d.raises = true) :
    Met (duties ++ more) ↔ Met duties ∧ ∀ d ∈ more, d.owed = false := by
  obtain ⟨d, member, raises⟩ := raised
  have left : undone duties ≠ [] := by
    intro empty
    rw [undone_eq_nil_iff.mp empty d member] at raises
    cases raises
  have split : undone (duties ++ more) = undone duties ++ more := by
    unfold undone at left ⊢
    rw [List.dropWhile_append, if_neg (by rwa [List.isEmpty_iff])]
  unfold Met
  rw [split]
  exact List.forall_mem_append

/-- Where only what is owed raises, nothing may raise. -/
theorem met_iff_clear (owing : ∀ d ∈ duties, d.raises = true → d.owed = true) :
    Met duties ↔ ∀ d ∈ duties, d.raises = false := by
  constructor
  · intro met
    induction duties with
    | nil => exact nofun
    | cons d rest ih =>
      cases raised : d.raises with
      | true =>
        have first : d ∈ undone (d :: rest) := by simp [undone, raised]
        exact absurd (met d first) (by rw [owing d List.mem_cons_self raised]; exact nofun)
      | false =>
        have same : undone (d :: rest) = undone rest := by simp [undone, raised]
        unfold Met at met
        rw [same] at met
        intro other member
        rcases List.mem_cons.mp member with rfl | later
        · exact raised
        · exact ih (fun e found => owing e (List.mem_cons_of_mem d found)) met other later
  · intro clear d member
    rw [undone_eq_nil_iff.mpr clear] at member
    cases member

end Flod.Lib
