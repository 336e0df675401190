import Mathlib.Data.List.Basic

/-! The changes of a signal. A signal that reports only where it changes reports values that
alternate, whatever it does in between. -/

namespace Flod.Lib.Edges

/-- The values a signal changes to. -/
def changes : Bool → List Bool → List Bool
  | _, [] => []
  | before, now :: rest => if now = before then changes now rest else now :: changes now rest

theorem changes_concat (now : Bool) : ∀ (l : List Bool) (before : Bool),
    changes before (l ++ [now]) = changes before l ++ if now = l.getLastD before then [] else [now]
  | [], before => by
    show (if now = before then [] else [now]) = [] ++ _
    rfl
  | x :: rest, before => by
    have again := changes_concat now rest x
    rw [List.cons_append, changes, changes, again, List.getLastD_cons]
    split
    · rfl
    · rw [List.cons_append]

theorem changes_alternate : ∀ (l : List Bool) (before : Bool), (before :: changes before l).IsChain (· ≠ ·)
  | [], before => List.IsChain.singleton before
  | now :: rest, before => by
    have again := changes_alternate rest now
    rw [changes]
    split
    · rename_i same
      rw [← same]
      exact again
    · rename_i apart
      exact List.isChain_cons_cons.mpr ⟨Ne.symm apart, again⟩

end Flod.Lib.Edges
