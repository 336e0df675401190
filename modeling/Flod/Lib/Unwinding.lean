import Flod.Lib.History
import Flod.Lib.Run

/-! Runs compared by what an observer sees of them. The observer sees some of the events, a
view of the state and an image of every output; if the other events are silent where they
occur, they do not interfere with what is seen. -/

namespace Flod.Lib

variable {S E O V W : Type}

/-- What is seen of a step or of a whole run. -/
def shown (view : S → V) (seen : O → W) (result : Option (S × O)) : Option (V × W) :=
  result.map (fun r => (view r.1, seen r.2))

variable {step : S → E → Option (S × O)} {view : S → V} {seen : O → List W}

/-- States that look the same take steps that look the same. -/
def Respects (step : S → E → Option (S × O)) (view : S → V) (seen : O → W) (e : E) : Prop :=
  ∀ s s', view s = view s' → shown view seen (step s e) = shown view seen (step s' e)

theorem run_eq_none {s : S} {e : E} {es : List E} (stops : step s e = none) :
    run step s (e :: es) = none := by
  simp only [run, stops]

theorem shown_run_cons {s mid : S} {e : E} {o : O} {es : List E} (taken : step s e = some (mid, o)) :
    shown view (List.flatMap seen) (run step s (e :: es)) =
      (shown view (List.flatMap seen) (run step mid es)).map (fun r => (r.1, seen o ++ r.2)) := by
  simp only [run, taken, shown]
  cases run step mid es with
  | none => rfl
  | some result => rfl

theorem shown_run_congr {s s' : S} {e e' : E} {es es' : List E}
    (first : shown view seen (step s e) = shown view seen (step s' e'))
    (later : ∀ mid o mid', step s e = some (mid, o) → view mid = view mid' →
      shown view (List.flatMap seen) (run step mid es) =
        shown view (List.flatMap seen) (run step mid' es')) :
    shown view (List.flatMap seen) (run step s (e :: es)) =
      shown view (List.flatMap seen) (run step s' (e' :: es')) := by
  cases taken : step s e with
  | none =>
    cases taken' : step s' e' with
    | none => rw [run_eq_none taken, run_eq_none taken']
    | some result' => simp [shown, taken, taken'] at first
  | some result =>
    cases taken' : step s' e' with
    | none => simp [shown, taken, taken'] at first
    | some result' =>
      simp only [shown, taken, taken', Option.map_some, Option.some.injEq, Prod.mk.injEq] at first
      rw [shown_run_cons taken, shown_run_cons taken', later _ _ _ taken first.1, first.2]

/-- Events that are all seen: the runs of states that look the same look the same. -/
theorem run_respects (es : List E) (respects : ∀ e ∈ es, Respects step view seen e) {s s' : S}
    (same : view s = view s') :
    shown view (List.flatMap seen) (run step s es) = shown view (List.flatMap seen) (run step s' es) := by
  induction es generalizing s s' with
  | nil => simp [run, shown, same]
  | cons e es ih =>
    apply shown_run_congr (respects e List.mem_cons_self s s' same)
    intro mid o mid' _ same
    exact ih (fun e member => respects e (List.mem_cons_of_mem _ member)) same

/-- Events whose hidden part is erased: if steps look the same with and without it, runs do. -/
theorem run_erased {erase : E → E}
    (erased : ∀ s s' e, view s = view s' → shown view seen (step s e) = shown view seen (step s' (erase e)))
    (es : List E) {s s' : S} (same : view s = view s') :
    shown view (List.flatMap seen) (run step s es) =
      shown view (List.flatMap seen) (run step s' (es.map erase)) := by
  induction es generalizing s s' with
  | nil => simp [run, shown, same]
  | cons e es ih =>
    apply shown_run_congr (erased s s' e same)
    intro mid o mid' _ same
    exact ih same

/-- Runs over events that look alike one by one look alike. -/
theorem run_alike {es es' : List E}
    (alike : List.Forall₂ (fun e e' => ∀ s s', view s = view s' →
      shown view seen (step s e) = shown view seen (step s' e')) es es') {s s' : S} (same : view s = view s') :
    shown view (List.flatMap seen) (run step s es) = shown view (List.flatMap seen) (run step s' es') := by
  induction alike generalizing s s' with
  | nil => simp [run, shown, same]
  | cons first _ ih =>
    apply shown_run_congr (first s s' same)
    intro mid o mid' _ same
    exact ih same

theorem map_snd_of_shown {first second : Option (S × List O)}
    (same : shown view (List.flatMap List.singleton) first = shown view (List.flatMap List.singleton) second) :
    first.map Prod.snd = second.map Prod.snd := by
  have each : ∀ os : List O, os.flatMap List.singleton = os := List.flatMap_singleton'
  have alike := congrArg (Option.map Prod.snd) same
  simpa only [shown, Option.map_map, Function.comp_def, each] using alike

variable {visible : E → Bool} {I : List E → S → Prop} {C : List E → E → Prop}

/-- A run looks like the run of the visible events alone, if every hidden event meets a
condition on its past under which it is silent. -/
theorem run_visible
    (kept : ∀ past s e mid o, I past s → step s e = some (mid, o) → I (past ++ [e]) mid)
    (respects : ∀ e, visible e = true → Respects step view seen e)
    (silent : ∀ past s e, visible e = false → I past s → C past e →
      ∃ mid o, step s e = some (mid, o) ∧ view mid = view s ∧ seen o = [])
    {past es : List E} {s s' : S} (inv : I past s) (met : ThroughoutFrom C past es)
    (same : view s = view s') :
    shown view (List.flatMap seen) (run step s es) =
      shown view (List.flatMap seen) (run step s' (es.filter visible)) := by
  induction es generalizing past s s' with
  | nil => simp [run, shown, same]
  | cons e es ih =>
    obtain ⟨here, later⟩ := met
    cases kind : visible e with
    | false =>
      obtain ⟨mid, o, taken, unseen, quiet⟩ := silent past s e kind inv here
      have rest := ih (kept past s e mid o inv taken) later (unseen.trans same)
      rw [shown_run_cons taken, rest, quiet, List.filter_cons_of_neg (by simp [kind])]
      simp
    | true =>
      rw [List.filter_cons_of_pos kind]
      apply shown_run_congr (respects e kind s s' same)
      intro mid o mid' taken alike
      exact ih (kept past s e mid o inv taken) later alike

/-- A run whose hidden events are silent wherever they occur looks like the run without them. -/
theorem run_filtered {es : List E} (respects : ∀ e ∈ es, visible e = true → Respects step view seen e)
    (silent : ∀ e ∈ es, visible e = false → ∀ s, ∃ mid o, step s e = some (mid, o) ∧ view mid = view s ∧ seen o = [])
    {s s' : S} (same : view s = view s') :
    shown view (List.flatMap seen) (run step s es) =
      shown view (List.flatMap seen) (run step s' (es.filter visible)) := by
  induction es generalizing s s' with
  | nil => simp [run, shown, same]
  | cons e es ih =>
    have rest : ∀ {s s' : S}, view s = view s' → shown view (List.flatMap seen) (run step s es) =
        shown view (List.flatMap seen) (run step s' (es.filter visible)) :=
      ih (fun e member => respects e (List.mem_cons_of_mem _ member))
        (fun e member => silent e (List.mem_cons_of_mem _ member))
    cases kind : visible e with
    | false =>
      obtain ⟨mid, o, taken, unseen, quiet⟩ := silent e List.mem_cons_self kind s
      rw [shown_run_cons taken, rest (unseen.trans same), quiet, List.filter_cons_of_neg (by simp [kind])]
      simp
    | true =>
      rw [List.filter_cons_of_pos kind]
      apply shown_run_congr (respects e List.mem_cons_self kind s s' same)
      intro mid o mid' _ alike
      exact rest alike

/-- Two runs whose hidden events are all silent and whose visible events are the same look
the same. -/
theorem run_noninterference
    (kept : ∀ past s e mid o, I past s → step s e = some (mid, o) → I (past ++ [e]) mid)
    (respects : ∀ e, visible e = true → Respects step view seen e)
    (silent : ∀ past s e, visible e = false → I past s → C past e →
      ∃ mid o, step s e = some (mid, o) ∧ view mid = view s ∧ seen o = [])
    {es es' : List E} {s : S} (inv : I [] s) (met : Throughout C es) (met' : Throughout C es')
    (same : es.filter visible = es'.filter visible) :
    shown view (List.flatMap seen) (run step s es) = shown view (List.flatMap seen) (run step s es') := by
  calc shown view (List.flatMap seen) (run step s es)
      = shown view (List.flatMap seen) (run step s (es.filter visible)) :=
        run_visible kept respects silent inv met rfl
    _ = shown view (List.flatMap seen) (run step s (es'.filter visible)) := by rw [same]
    _ = shown view (List.flatMap seen) (run step s es') :=
        (run_visible kept respects silent inv met' rfl).symm

end Flod.Lib
