import Mathlib.Algebra.BigOperators.Group.Finset.Basic
import Mathlib.Algebra.Order.Group.Defs
import Mathlib.Algebra.Order.Monoid.Defs

/-! A limiter that admits while fewer than a number of failures lie in a sliding window, as a
ledger: what was admitted and not yet verified, what was verified and not yet recorded, and what
was recorded. The bound on verifications is kept as long as admission counts all three. -/

namespace Flod.Lib.Throttle

section Counts

variable {ι P : Type} [Fintype ι] [DecidableEq ι]

/-- A count over requests, before and after one of them moves. -/
theorem sum_update_eq (weight : P → Nat) (f : ι → P) (i : ι) (p : P) :
    ∃ rest, ∑ j, weight (f j) = rest + weight (f i) ∧ ∑ j, weight (Function.update f i p j) = rest + weight p := by
  refine ⟨∑ j ∈ Finset.univ.erase i, weight (f j), ?_, ?_⟩
  · rw [Finset.sum_erase_add _ _ (Finset.mem_univ i)]
  · have others : ∑ j ∈ Finset.univ.erase i, weight (Function.update f i p j) =
        ∑ j ∈ Finset.univ.erase i, weight (f j) := by
      apply Finset.sum_congr rfl
      intro j member
      rw [Function.update_of_ne (Finset.ne_of_mem_erase member)]
    rw [← Finset.sum_erase_add _ _ (Finset.mem_univ i), others, Function.update_self]

end Counts

variable {T : Type} [AddCommGroup T] [LinearOrder T]

/-- The failures no older than the window. -/
def recent (window now : T) (failures : List T) : List T := failures.filter (fun t => decide (now - t ≤ window))

/-- How many of the times are no earlier. -/
def since (a : T) (times : List T) : Nat := times.countP (fun t => decide (a ≤ t))

/-- How many of the times lie in the window that opens at a time. -/
def within (window a : T) (times : List T) : Nat := times.countP (fun t => decide (a ≤ t ∧ t ≤ a + window))

omit [AddCommGroup T] in
theorem since_concat (a t : T) (times : List T) :
    since a (times ++ [t]) = since a times + if a ≤ t then 1 else 0 := by
  simp [since, List.countP_append, List.countP_cons]

theorem within_concat (window a t : T) (times : List T) :
    within window a (times ++ [t]) = within window a times + if a ≤ t ∧ t ≤ a + window then 1 else 0 := by
  simp [within, List.countP_append, List.countP_cons]

theorem within_le_since (window a : T) (times : List T) : within window a times ≤ since a times := by
  apply List.countP_mono_left
  intro t _ inside
  simp only [decide_eq_true_eq] at inside ⊢
  exact inside.1

omit [AddCommGroup T] in
theorem since_eq_zero {a clock : T} {times : List T} (past : ∀ t ∈ times, t ≤ clock) (later : clock < a) :
    since a times = 0 := by
  refine List.countP_eq_zero.mpr fun t member inside => ?_
  exact absurd (of_decide_eq_true inside) (not_le_of_gt ((past t member).trans_lt later))

/-- What the window forgets is older than anything a later window asks for. -/
theorem since_recent [IsOrderedAddMonoid T] {window now a : T} (failures : List T) (reaches : now ≤ a + window) :
    since a (recent window now failures) = since a failures := by
  rw [since, recent, List.countP_filter]
  refine List.countP_congr fun t _ => ?_
  simp only [Bool.and_eq_true, decide_eq_true_eq, and_iff_left_iff_imp]
  intro inside
  calc now - t ≤ now - a := sub_le_sub_left inside now
    _ ≤ window := sub_le_iff_le_add'.mpr reaches

theorem since_le_recent [IsOrderedAddMonoid T] {window now a : T} (failures : List T) (reaches : now ≤ a + window) :
    since a failures ≤ (recent window now failures).length := by
  rw [← since_recent failures reaches]
  exact List.countP_le_length

/-- The ledger of one key. Whatever window is still open, its verifications are covered by
failures recorded in it and by those owing, and with the admitted ones they fit the limit. -/
structure Limited (limit : Nat) (window clock : T) (verified failures : List T) (admitted owing : Nat) : Prop where
  past : ∀ v ∈ verified, v ≤ clock
  covered : ∀ a, clock ≤ a + window → since a verified ≤ since a failures + owing
  fits : ∀ a, clock ≤ a + window → since a verified + admitted ≤ limit
  bounded : ∀ a, within window a verified ≤ limit

namespace Limited

variable {limit : Nat} {window clock : T} {verified failures : List T} {admitted owing : Nat}

theorem start (window clock : T) (failures : List T) : Limited limit window clock [] failures 0 0 where
  past := nofun
  covered := fun _ _ => Nat.zero_le _
  fits := fun _ _ => Nat.zero_le _
  bounded := fun _ => Nat.zero_le _

theorem pass {now : T} (l : Limited limit window clock verified failures admitted owing) (later : clock ≤ now) :
    Limited limit window now verified failures admitted owing where
  past := fun v member => (l.past v member).trans later
  covered := fun a reaches => l.covered a (later.trans reaches)
  fits := fun a reaches => l.fits a (later.trans reaches)
  bounded := l.bounded

theorem prune [IsOrderedAddMonoid T] (l : Limited limit window clock verified failures admitted owing) :
    Limited limit window clock verified (recent window clock failures) admitted owing where
  past := l.past
  covered := by
    intro a reaches
    rw [since_recent failures reaches]
    exact l.covered a reaches
  fits := l.fits
  bounded := l.bounded

/-- One more is admitted, where failures in the window and everything in flight leave room. -/
theorem letIn [IsOrderedAddMonoid T] (l : Limited limit window clock verified failures admitted owing)
    (room : (recent window clock failures).length + admitted + owing < limit) :
    Limited limit window clock verified failures (admitted + 1) owing where
  past := l.past
  covered := l.covered
  fits := by
    intro a reaches
    have covered := l.covered a reaches
    have recorded := since_le_recent failures reaches
    omega
  bounded := l.bounded

theorem withdraw (l : Limited limit window clock verified failures (admitted + 1) owing) :
    Limited limit window clock verified failures admitted owing where
  past := l.past
  covered := l.covered
  fits := fun a reaches => Nat.le_of_succ_le (l.fits a reaches)
  bounded := l.bounded

theorem owe (l : Limited limit window clock verified failures admitted owing) :
    Limited limit window clock verified failures admitted (owing + 1) where
  past := l.past
  covered := fun a reaches => Nat.le_succ_of_le (l.covered a reaches)
  fits := l.fits
  bounded := l.bounded

theorem verify (l : Limited limit window clock verified failures (admitted + 1) owing) :
    Limited limit window clock (verified ++ [clock]) failures admitted (owing + 1) where
  past := by
    intro v member
    rcases List.mem_append.mp member with before | now
    · exact l.past v before
    · exact (List.mem_singleton.mp now).le
  covered := by
    intro a reaches
    have covered := l.covered a reaches
    rw [since_concat]
    split <;> omega
  fits := by
    intro a reaches
    have fits := l.fits a reaches
    rw [since_concat]
    split <;> omega
  bounded := by
    intro a
    have bounded := l.bounded a
    rw [within_concat]
    split
    · next inside =>
      -- the window is still open, and the request was counted in it when it was admitted
      have fits := l.fits a inside.2
      have less := within_le_since window a verified
      omega
    · exact bounded

theorem record (l : Limited limit window clock verified failures admitted (owing + 1)) :
    Limited limit window clock verified (failures ++ [clock]) admitted owing where
  past := l.past
  covered := by
    intro a reaches
    rw [since_concat]
    split
    · have covered := l.covered a reaches
      omega
    · next later =>
      rw [since_eq_zero l.past (not_le.mp later)]
      exact Nat.zero_le _
  fits := l.fits
  bounded := l.bounded

end Limited

end Flod.Lib.Throttle
