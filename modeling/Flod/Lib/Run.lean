import Mathlib.Data.List.Forall2

/-! Runs of a machine whose step may stop it. Each step yields an output, and a
run keeps them in order. Invariants over the outputs so far are proved by one
induction here and by a single step elsewhere. -/

namespace Flod.Lib

variable {S E O : Type}

/-- The machine run over all events, or none once a step stops it. -/
def run (step : S → E → Option (S × O)) : S → List E → Option (S × List O)
  | s, [] => some (s, [])
  | s, e :: es =>
      match step s e with
      | none => none
      | some (mid, o) =>
          match run step mid es with
          | none => none
          | some (final, os) => some (final, o :: os)

variable {step : S → E → Option (S × O)}

theorem run_cons {s final : S} {e : E} {es : List E} {os : List O}
    (ran : run step s (e :: es) = some (final, os)) :
    ∃ mid o rest, step s e = some (mid, o) ∧ run step mid es = some (final, rest) ∧
      os = o :: rest := by
  simp only [run] at ran
  cases first : step s e with
  | none => simp [first] at ran
  | some pair =>
    rcases pair with ⟨mid, o⟩
    cases later : run step mid es with
    | none => simp [first, later] at ran
    | some result =>
      rcases result with ⟨last, rest⟩
      simp only [first, later, Option.some.injEq, Prod.mk.injEq] at ran
      obtain ⟨rfl, rfl⟩ := ran
      exact ⟨mid, o, rest, rfl, later, rfl⟩

theorem run_concat {s mid final : S} {es : List E} {e : E} {os : List O} {o : O}
    (ran : run step s es = some (mid, os)) (taken : step mid e = some (final, o)) :
    run step s (es ++ [e]) = some (final, os ++ [o]) := by
  induction es generalizing s os with
  | nil =>
    simp only [run, Option.some.injEq, Prod.mk.injEq] at ran
    obtain ⟨rfl, rfl⟩ := ran
    simp only [List.nil_append, run, taken]
  | cons first es ih =>
    obtain ⟨next, o', rest, stepped, later, rfl⟩ := run_cons ran
    simp only [List.cons_append, run, stepped, ih later]

theorem run_append {s final : S} {first second : List E} {os : List O}
    (ran : run step s (first ++ second) = some (final, os)) :
    ∃ mid os₁ os₂, run step s first = some (mid, os₁) ∧ run step mid second = some (final, os₂) ∧
      os = os₁ ++ os₂ := by
  induction first generalizing s os with
  | nil => exact ⟨s, [], os, rfl, ran, rfl⟩
  | cons e first ih =>
    obtain ⟨next, o, rest, taken, later, rfl⟩ := run_cons ran
    obtain ⟨mid, os₁, os₂, ran₁, ran₂, rfl⟩ := ih later
    exact ⟨mid, o :: os₁, os₂, by simp only [run, taken, ran₁], ran₂, rfl⟩

theorem run_join {s mid final : S} {first second : List E} {os₁ os₂ : List O}
    (ran₁ : run step s first = some (mid, os₁)) (ran₂ : run step mid second = some (final, os₂)) :
    run step s (first ++ second) = some (final, os₁ ++ os₂) := by
  induction first generalizing s os₁ with
  | nil =>
    simp only [run, Option.some.injEq, Prod.mk.injEq] at ran₁
    obtain ⟨rfl, rfl⟩ := ran₁
    exact ran₂
  | cons e first ih =>
    obtain ⟨next, o, rest, taken, later, rfl⟩ := run_cons ran₁
    simp only [List.cons_append, run, taken, ih later]

theorem run_paired {s final : S} {es : List E} {os : List O} (ran : run step s es = some (final, os)) :
    run (fun s e => (step s e).map (fun result => (result.1, (e, result.2)))) s es =
      some (final, es.zip os) := by
  induction es generalizing s os with
  | nil =>
    simp only [run, Option.some.injEq, Prod.mk.injEq] at ran
    obtain ⟨rfl, rfl⟩ := ran
    rfl
  | cons e es ih =>
    obtain ⟨mid, o, rest, first, later, rfl⟩ := run_cons ran
    simp only [run, first, Option.map_some, ih later, List.zip_cons_cons]

theorem run_length {s final : S} {es : List E} {os : List O} (ran : run step s es = some (final, os)) :
    os.length = es.length := by
  induction es generalizing s os with
  | nil =>
    simp only [run, Option.some.injEq, Prod.mk.injEq] at ran
    rw [← ran.2, List.length_nil, List.length_nil]
  | cons e es ih =>
    obtain ⟨mid, o, rest, -, later, rfl⟩ := run_cons ran
    rw [List.length_cons, List.length_cons, ih later]

theorem run_isSome (total : ∀ s e, (step s e).isSome = true) (es : List E) (s : S) :
    (run step s es).isSome = true := by
  induction es generalizing s with
  | nil => rfl
  | cons e es ih =>
    obtain ⟨⟨mid, o⟩, first⟩ := Option.isSome_iff_exists.mp (total s e)
    obtain ⟨⟨final, os⟩, later⟩ := Option.isSome_iff_exists.mp (ih mid)
    simp only [run, first, later, Option.isSome_some]

/-- Whether a run goes through and how it ends can be computed. -/
instance decidableEnds {P : S → List O → Prop} [∀ s os, Decidable (P s os)] :
    (result : Option (S × List O)) → Decidable (∃ final os, result = some (final, os) ∧ P final os)
  | none => isFalse (fun ⟨_, _, ran, _⟩ => nomatch ran)
  | some (final, os) =>
      decidable_of_iff (P final os)
        ⟨fun holds => ⟨final, os, rfl, holds⟩, fun ⟨_, _, ran, holds⟩ => by cases ran; exact holds⟩

/-- A condition on every step a run takes: the state before it, its event, its output
and the state after it. A step that stops the machine meets every condition. -/
def Always (step : S → E → Option (S × O)) (P : S → E → O → S → Prop) : S → List E → Prop
  | _, [] => True
  | s, e :: es => ∀ mid o, step s e = some (mid, o) → P s e o mid ∧ Always step P mid es

instance decidableAlways {P : S → E → O → S → Prop} [∀ s e o mid, Decidable (P s e o mid)] :
    (s : S) → (es : List E) → Decidable (Always step P s es)
  | _, [] => isTrue trivial
  | s, e :: es =>
      match taken : step s e with
      | none => isTrue (fun mid o other => by rw [taken] at other; cases other)
      | some (mid, o) =>
          letI : Decidable (Always step P mid es) := decidableAlways mid es
          decidable_of_iff (P s e o mid ∧ Always step P mid es)
            ⟨fun both mid' o' other => by rw [taken] at other; cases other; exact both,
              fun all => all mid o taken⟩

/-- An invariant of the state together with everything output so far, on runs
whose steps all meet a condition. -/
theorem run_history_of_always {I : List O → S → Prop} {C : S → E → O → S → Prop}
    (preserved : ∀ past s e mid o, I past s → step s e = some (mid, o) → C s e o mid →
      I (past ++ [o]) mid)
    (es : List E) (past : List O) (s final : S) (os : List O) (start : I past s)
    (all : Always step C s es) (ran : run step s es = some (final, os)) :
    I (past ++ os) final := by
  induction es generalizing past s os with
  | nil =>
    simp only [run, Option.some.injEq, Prod.mk.injEq] at ran
    obtain ⟨rfl, rfl⟩ := ran
    simpa using start
  | cons e es ih =>
    obtain ⟨mid, o, rest, first, later, rfl⟩ := run_cons ran
    obtain ⟨meets, more⟩ := all mid o first
    have next := ih (past ++ [o]) mid rest (preserved past s e mid o start first meets) more later
    simpa using next

theorem always_true (es : List E) (s : S) : Always step (fun _ _ _ _ => True) s es := by
  induction es generalizing s with
  | nil => trivial
  | cons e es ih => exact fun mid _ _ => ⟨trivial, ih mid⟩

theorem always_of_step {P : S → E → O → S → Prop}
    (met : ∀ s e mid o, step s e = some (mid, o) → P s e o mid) (es : List E) (s : S) :
    Always step P s es := by
  induction es generalizing s with
  | nil => trivial
  | cons e es ih => exact fun mid o taken => ⟨met s e mid o taken, ih mid⟩

/-- A condition on the steps of a run holds on both parts of it. -/
theorem Always.append {P : S → E → O → S → Prop} {first second : List E} {s mid : S} {os : List O}
    (all : Always step P s (first ++ second)) (ran : run step s first = some (mid, os)) :
    Always step P s first ∧ Always step P mid second := by
  induction first generalizing s os with
  | nil =>
    simp only [run, Option.some.injEq, Prod.mk.injEq] at ran
    exact ⟨trivial, ran.1 ▸ all⟩
  | cons e first ih =>
    obtain ⟨next, o, rest, taken, later, rfl⟩ := run_cons ran
    obtain ⟨now, others⟩ := all next o taken
    obtain ⟨front, back⟩ := ih others later
    refine ⟨fun mid' o' same => ?_, back⟩
    rw [taken] at same
    cases same
    exact ⟨now, front⟩

/-- A condition every event meets by itself can be added to one on the steps. -/
theorem Always.and_events {P : E → Prop} {Q : S → E → O → S → Prop} {es : List E} {s : S}
    (met : Always step Q s es) (all : ∀ e ∈ es, P e) :
    Always step (fun s e o mid => P e ∧ Q s e o mid) s es := by
  induction es generalizing s with
  | nil => trivial
  | cons e es ih =>
    intro mid o taken
    obtain ⟨now, later⟩ := met mid o taken
    exact ⟨⟨all e List.mem_cons_self, now⟩, ih later fun e member => all e (List.mem_cons_of_mem _ member)⟩

theorem run_history {I : List O → S → Prop}
    (preserved : ∀ past s e mid o, I past s → step s e = some (mid, o) → I (past ++ [o]) mid)
    (es : List E) (past : List O) (s final : S) (os : List O) (start : I past s)
    (ran : run step s es = some (final, os)) : I (past ++ os) final :=
  run_history_of_always (fun past s e mid o inv taken _ => preserved past s e mid o inv taken)
    es past s final os start (always_true es s) ran

/-- What each output shows of its event, the outputs of a run show of its events. -/
theorem run_outputs {T : Type} {shown : O → Option T} {given : E → Option T}
    (shows : ∀ s e mid o, step s e = some (mid, o) → shown o = given e)
    (es : List E) (s final : S) (os : List O) (ran : run step s es = some (final, os)) :
    os.filterMap shown = es.filterMap given := by
  induction es generalizing s os with
  | nil =>
    simp only [run, Option.some.injEq, Prod.mk.injEq] at ran
    simp [← ran.2]
  | cons e es ih =>
    obtain ⟨mid, o, rest, first, later, rfl⟩ := run_cons ran
    rw [List.filterMap_cons, List.filterMap_cons, shows s e mid o first, ih mid rest later]

/-- Two step conditions that agree wherever an invariant holds agree on whole runs, if
the steps that meet them keep the invariant. -/
theorem always_iff {P Q : S → E → O → S → Prop} {I : S → Prop}
    (preserved : ∀ s e mid o, I s → step s e = some (mid, o) → Q s e o mid → I mid)
    (agree : ∀ s e mid o, I s → step s e = some (mid, o) → (P s e o mid ↔ Q s e o mid))
    (es : List E) (s : S) (start : I s) :
    Always step P s es ↔ Always step Q s es := by
  induction es generalizing s with
  | nil => exact Iff.rfl
  | cons e es ih =>
    refine forall_congr' fun mid => forall_congr' fun o => forall_congr' fun taken => ?_
    rw [agree s e mid o start taken]
    exact and_congr_right fun met => ih mid (preserved s e mid o start taken met)

/-- Two machines run on the same events, one of them under a condition. A relation
that every pair of steps keeps relates the final states, and pairs the outputs. -/
theorem run_simulates {S' O' : Type} {step' : S' → E → Option (S' × O')} {R : S → S' → Prop}
    {Q : O → O' → Prop} {C : S → E → O → S → Prop}
    (simulates : ∀ s s' e mid o mid' o', R s s' → C s e o mid → step s e = some (mid, o) →
      step' s' e = some (mid', o') → R mid mid' ∧ Q o o')
    (es : List E) (s final : S) (s' final' : S') (os : List O) (os' : List O') (start : R s s')
    (all : Always step C s es) (ran : run step s es = some (final, os))
    (ran' : run step' s' es = some (final', os')) : R final final' ∧ List.Forall₂ Q os os' := by
  induction es generalizing s s' os os' with
  | nil =>
    simp only [run, Option.some.injEq, Prod.mk.injEq] at ran ran'
    obtain ⟨rfl, rfl⟩ := ran
    obtain ⟨rfl, rfl⟩ := ran'
    exact ⟨start, .nil⟩
  | cons e es ih =>
    obtain ⟨mid, o, rest, first, later, rfl⟩ := run_cons ran
    obtain ⟨mid', o', rest', first', later', rfl⟩ := run_cons ran'
    obtain ⟨meets, more⟩ := all mid o first
    obtain ⟨related, paired⟩ := simulates s s' e mid o mid' o' start meets first first'
    obtain ⟨last, outputs⟩ := ih mid mid' rest rest' related more later later'
    exact ⟨last, .cons paired outputs⟩

end Flod.Lib
