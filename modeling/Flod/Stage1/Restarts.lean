import Flod.Stage1.AnalysisRun

/-! Runs of the loop one after the other. Each starts from a file of baselines that an
earlier one saved, or from none, and an invariant of single targets is carried through
the files as it is through the windows. -/

namespace Flod.Stage1
open Flod.Lib Flod.Net

variable {F : Type} [Arith F]

/-- The files a chain of runs can leave behind: under configurations of one kind, every
check meeting a condition. A missing, corrupt or expired file counts as none. -/
inductive SavedBy (allowed : AnalysisConfig F → Prop)
    (C : AnalysisConfig F → Reading F → AnalysisState F → IpAddr → Prop) : Option (PersistedState F) → Prop
  | absent : SavedBy allowed C none
  | saved {cfg : AnalysisConfig F} {persisted : Option (PersistedState F)} {began : Instant}
      {its : List (Iteration F)} {final : AnalysisState F} {outs : List (List (Effect F))}
      {s : PersistedState F} (earlier : SavedBy allowed C persisted) (kind : allowed cfg)
      (meets : EveryCheck cfg persisted (C cfg) (AnalysisState.start began) its)
      (ran : run (iterate cfg persisted) (AnalysisState.start began) its = some (final, outs))
      (member : .baselineSaved s ∈ outs.flatten) : SavedBy allowed C (some s)

/-- A property of targets, with the one it leaves of saved baselines, that creation, counting
and closing keep. -/
structure Survives (cfg : AnalysisConfig F) (C : Reading F → AnalysisState F → IpAddr → Prop)
    (T : TargetState F → Prop) (B : PersistedBaseline F → Prop) : Prop where
  fresh : ∀ p now ts, (∀ b ∈ p, B b) → TargetState.new cfg.ewmaAlpha p now = some ts → T ts
  counted : ∀ ts ts', T ts → ts.SameBaseline ts' → T ts'
  closes : ∀ reading st v ts after w, T ts → C reading st v → st.targetsMap.get? v = some ts →
    shouldClose reading.now ts = true → closeWindow cfg reading v ts = some (after, w) → T after
  saved : ∀ ts, T ts → B ts.toPersisted

/-- Every baseline a file holds. -/
def AllSaved (B : PersistedBaseline F → Prop) (persisted : Option (PersistedState F)) : Prop :=
  ∀ v, ∀ b ∈ lookup persisted v, B b

variable {cfg : AnalysisConfig F} {persisted : Option (PersistedState F)}
  {T : TargetState F → Prop} {B : PersistedBaseline F → Prop}

theorem mem_settle_saved {reading : Reading F} {st : AnalysisState F} {v : IpAddr} {after : TargetState F}
    {w : ClosedWindow F} {s : PersistedState F} (member : .baselineSaved s ∈ (settle reading st v after w).2) :
    s = snapshot (st.targetsMap.set v after) reading.timestamp := by
  simp only [settle, List.mem_append] at member
  rcases member with (flows | window) | saved
  · split at flows
    · simp at flows
    · cases flows
  · simp at window
  · split at saved
    · simpa using saved
    · cases saved

/-- One run: the property holds of every target it ends with, and of every baseline it saves. -/
theorem loop_survives {C : Reading F → AnalysisState F → IpAddr → Prop} (survives : Survives cfg C T B)
    (loaded : AllSaved B persisted) {began : Instant} {its : List (Iteration F)} {final : AnalysisState F}
    {outs : List (List (Effect F))} (meets : EveryCheck cfg persisted C (AnalysisState.start began) its)
    (ran : run (iterate cfg persisted) (AnalysisState.start began) its = some (final, outs)) :
    (∀ v ts, final.targetsMap.get? v = some ts → T ts) ∧
      ∀ s, .baselineSaved s ∈ outs.flatten → AllSaved B (some s) := by
  refine loop_history (I := fun past targets => (∀ v ts, targets.get? v = some ts → T ts) ∧
      ∀ s, .baselineSaved s ∈ past → AllSaved B (some s)) ?_ ?_ ⟨?_, by simp⟩ meets ran
  · intro past now before after inv admits
    refine ⟨fun v ts' found' => ?_, inv.2⟩
    cases found : before.get? v with
    | none =>
      obtain ⟨-, ts, created, same⟩ := admits.created v ts' found found'
      exact survives.counted ts ts' (survives.fresh _ now ts (loaded v) created) same
    | some ts =>
      obtain ⟨other, here, same⟩ := admits.kept v ts found
      rw [found'] at here
      cases here
      exact survives.counted ts ts' (inv.1 v ts found) same
  · intro past reading st v ts after w inv met found due closing
    have all : ∀ u tu, (st.targetsMap.set v after).get? u = some tu → T tu := by
      intro u tu foundAfter
      by_cases same : u = v
      · subst same
        rw [Dict.get?_set_self] at foundAfter
        cases foundAfter
        exact survives.closes reading st u ts after w (inv.1 u ts found) met found due closing
      · rw [Dict.get?_set_of_ne _ _ same] at foundAfter
        exact inv.1 u tu foundAfter
    refine ⟨all, fun s member => ?_⟩
    rcases List.mem_append.mp member with earlier | now
    · exact inv.2 s earlier
    · rw [mem_settle_saved now]
      intro u b kept
      simp only [lookup, snapshot, Option.bind_some, Dict.get?_mapValues, Option.mem_def,
        Option.map_eq_some_iff] at kept
      obtain ⟨tu, foundAfter, rfl⟩ := kept
      exact survives.saved tu (all u tu foundAfter)
  · intro v ts found
    cases found

theorem SavedBy.allSaved {allowed : AnalysisConfig F → Prop}
    {C : AnalysisConfig F → Reading F → AnalysisState F → IpAddr → Prop}
    (survives : ∀ cfg, allowed cfg → Survives cfg (C cfg) T B) (saved : SavedBy allowed C persisted) :
    AllSaved B persisted := by
  induction saved with
  | absent =>
    intro v b kept
    cases kept
  | saved earlier kind meets ran member ih => exact (loop_survives (survives _ kind) ih meets ran).2 _ member

end Flod.Stage1
