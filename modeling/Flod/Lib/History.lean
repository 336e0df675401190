import Mathlib.Data.List.Basic

/-! Statements about everything that has happened so far: a property of each event
together with its past, and streaks at the end of a history. -/

namespace Flod.Lib

variable {E : Type}

/-- Each event of `events` meets `Q` with everything before it, starting from `past`. -/
def ThroughoutFrom (Q : List E → E → Prop) : List E → List E → Prop
  | _, [] => True
  | past, e :: rest => Q past e ∧ ThroughoutFrom Q (past ++ [e]) rest

def Throughout (Q : List E → E → Prop) (events : List E) : Prop := ThroughoutFrom Q [] events

section Past

variable {Q : List E → E → Prop}

instance decidableThroughoutFrom [∀ past e, Decidable (Q past e)] :
    (past events : List E) → Decidable (ThroughoutFrom Q past events)
  | _, [] => isTrue trivial
  | past, e :: rest =>
      letI := decidableThroughoutFrom (past ++ [e]) rest
      inferInstanceAs (Decidable (Q past e ∧ ThroughoutFrom Q (past ++ [e]) rest))

instance [∀ past e, Decidable (Q past e)] (events : List E) : Decidable (Throughout Q events) :=
  decidableThroughoutFrom [] events

theorem throughoutFrom_append (past first second : List E) :
    ThroughoutFrom Q past (first ++ second) ↔
      ThroughoutFrom Q past first ∧ ThroughoutFrom Q (past ++ first) second := by
  induction first generalizing past with
  | nil => simp [ThroughoutFrom]
  | cons e rest ih => simp [ThroughoutFrom, ih, and_assoc]

theorem throughout_append {first second : List E} :
    Throughout Q (first ++ second) ↔ Throughout Q first ∧ ThroughoutFrom Q first second := by
  simp [Throughout, throughoutFrom_append]

end Past

/-- The history ends in at least `n` events that all meet `P`. -/
def Streak (P : E → Prop) (n : Nat) (history : List E) : Prop :=
  n ≤ history.length ∧ ∀ e ∈ history.drop (history.length - n), P e

instance (P : E → Prop) [DecidablePred P] (n : Nat) (history : List E) :
    Decidable (Streak P n history) :=
  inferInstanceAs (Decidable (_ ∧ _))

variable {P : E → Prop} {n m : Nat} {history : List E}

theorem streak_zero (history : List E) : Streak P 0 history := by simp [Streak]

theorem Streak.mono (streak : Streak P n history) (le : m ≤ n) : Streak P m history := by
  refine ⟨Nat.le_trans le streak.1, fun e member => streak.2 e ?_⟩
  have shorter : history.length - n ≤ history.length - m := by omega
  exact (List.drop_sublist_drop_left history shorter).subset member

theorem Streak.concat (streak : Streak P n history) {e : E} (meets : P e) :
    Streak P (n + 1) (history ++ [e]) := by
  have reach := streak.1
  refine ⟨by simpa using reach, fun x member => ?_⟩
  have same : (history ++ [e]).length - (n + 1) = history.length - n := by simp
  rw [same, List.drop_append_of_le_length (Nat.sub_le _ _), List.mem_append, List.mem_singleton] at member
  rcases member with earlier | rfl
  · exact streak.2 x earlier
  · exact meets

theorem Streak.of_concat {e : E} (streak : Streak P (n + 1) (history ++ [e])) :
    P e ∧ Streak P n history := by
  obtain ⟨reach, all⟩ := streak
  have room : n ≤ history.length := by simpa using reach
  have same : (history ++ [e]).length - (n + 1) = history.length - n := by simp
  rw [same, List.drop_append_of_le_length (Nat.sub_le _ _)] at all
  refine ⟨all e (by simp), room, ?_⟩
  intro x member
  exact all x (List.mem_append_left _ member)

theorem Streak.getLast (streak : Streak P (n + 1) history) : ∀ e ∈ history.getLast?, P e := by
  intro e last
  obtain ⟨earlier, rfl⟩ := List.getLast?_eq_some_iff.mp last
  exact streak.of_concat.1

/-- A number that counts up with every event that meets `P` and starts again at the others
is the length of the longest streak. -/
theorem streak_concat_iff {count : Nat} {e : E} [Decidable (P e)]
    (counts : ∀ n, Streak P n history ↔ n ≤ count) (n : Nat) :
    Streak P n (history ++ [e]) ↔ n ≤ if P e then count + 1 else 0 := by
  cases n with
  | zero => simp [streak_zero]
  | succ n =>
    by_cases meets : P e
    · rw [if_pos meets, Nat.add_le_add_iff_right, ← counts n]
      exact ⟨fun streak => streak.of_concat.2, fun streak => streak.concat meets⟩
    · rw [if_neg meets]
      constructor
      · intro streak
        exact absurd streak.of_concat.1 meets
      · intro none
        omega

end Flod.Lib
