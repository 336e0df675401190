import Flod.Lib.Run
import Flod.Stage2.Config
import Mathlib.Logic.Function.Basic

/-! The rule that caps throttled sources. Its cap is part of the rule, so a new cap means
removing the old rule and inserting another, while requests overlap and the service may crash
between any two commands. -/

namespace Flod.Stage2
open Flod.Lib

variable {F : Type} [Arith F]

/-! Settings and the request that changes them. -/

/-- The settings file over its defaults, the cap of the rule included. -/
structure StoredConfig (F : Type) where
  base : EnforcementConfig F
  ratelimitHashlimitPps : Int

/-- `DEFAULT_ENFORCEMENT_CONFIG` in full. -/
def StoredConfig.default : StoredConfig F := ⟨EnforcementConfig.default, 50⟩

structure EnforcementConfigPayload (F : Type) where
  dominantIpRatioBlockThreshold : Option F := none
  dominantIpRatioExtremeThreshold : Option F := none
  blockRateFloorPps : Option F := none
  ratelimitRateFloorPps : Option F := none
  blockSigmaMultiplier : Option F := none
  blockHysteresisWindows : Option Int := none
  blockDurationSeconds : Option Int := none
  ratelimitDurationSeconds : Option Int := none
  ratelimitHashlimitPps : Option Int := none

/-- The error of a value below or above its bounds. -/
def outOfBounds (key : String) (lo : F × String) (hi : Option (F × String)) (value : F) : Option String :=
  if value < lo.1 then some (key ++ " must be >= " ++ lo.2)
  else
    match hi with
    | none => none
    | some hi => if hi.1 < value then some (key ++ " must be <= " ++ hi.2) else none

namespace EnforcementConfigPayload

/-- Every value sent, checked in the order of the fields. The first error is the answer. -/
def rejected (p : EnforcementConfigPayload F) : Option String :=
  let ratio (key : String) := outOfBounds key (0, "0.0") (some ((1 : F), "1.0"))
  let rate (key : String) := outOfBounds key ((0 : F), "0.0") none
  let whole (key : String) (lo : Int) (n : Int) := outOfBounds key ((lo : F), toString lo) none (n : F)
  ([p.dominantIpRatioBlockThreshold.bind (ratio "dominant_ip_ratio_block_threshold"),
    p.dominantIpRatioExtremeThreshold.bind (ratio "dominant_ip_ratio_extreme_threshold"),
    p.blockRateFloorPps.bind (rate "block_rate_floor_pps"),
    p.ratelimitRateFloorPps.bind (rate "ratelimit_rate_floor_pps"),
    p.blockSigmaMultiplier.bind (rate "block_sigma_multiplier"),
    p.blockHysteresisWindows.bind (whole "block_hysteresis_windows" 0),
    p.blockDurationSeconds.bind (whole "block_duration_seconds" 1),
    p.ratelimitDurationSeconds.bind (whole "ratelimit_duration_seconds" 1),
    p.ratelimitHashlimitPps.bind (whole "ratelimit_hashlimit_pps" 1)] : List (Option String)).reduceOption.head?

/-- `{**current, **updates}`. -/
def merge (p : EnforcementConfigPayload F) (current : StoredConfig F) : StoredConfig F where
  base :=
    { dominantIpRatioBlockThreshold :=
        p.dominantIpRatioBlockThreshold.getD current.base.dominantIpRatioBlockThreshold
      dominantIpRatioExtremeThreshold :=
        p.dominantIpRatioExtremeThreshold.getD current.base.dominantIpRatioExtremeThreshold
      blockRateFloorPps := p.blockRateFloorPps.getD current.base.blockRateFloorPps
      ratelimitRateFloorPps := p.ratelimitRateFloorPps.getD current.base.ratelimitRateFloorPps
      blockSigmaMultiplier := p.blockSigmaMultiplier.getD current.base.blockSigmaMultiplier
      blockHysteresisWindows :=
        (p.blockHysteresisWindows.map Int.toNat).getD current.base.blockHysteresisWindows
      blockDurationSeconds := (p.blockDurationSeconds.map Int.toNat).getD current.base.blockDurationSeconds
      ratelimitDurationSeconds :=
        (p.ratelimitDurationSeconds.map Int.toNat).getD current.base.ratelimitDurationSeconds }
  ratelimitHashlimitPps := p.ratelimitHashlimitPps.getD current.ratelimitHashlimitPps

/-- The new cap, if the request sends one that differs from the one it read. -/
def newCap (p : EnforcementConfigPayload F) (current : StoredConfig F) : Option Int :=
  p.ratelimitHashlimitPps.filter (fun pps => decide (pps ≠ current.ratelimitHashlimitPps))

variable {p : EnforcementConfigPayload F} {current : StoredConfig F}

omit [Arith F] in
theorem merge_cap_of_none (p : EnforcementConfigPayload F) (none : p.newCap current = none) :
    (p.merge current).ratelimitHashlimitPps = current.ratelimitHashlimitPps := by
  unfold newCap at none
  cases sent : p.ratelimitHashlimitPps with
  | none => simp [merge, sent]
  | some pps => simpa [merge, sent] using none

omit [Arith F] in
theorem merge_cap_of_some (p : EnforcementConfigPayload F) {pps : Int} (some : p.newCap current = some pps) :
    (p.merge current).ratelimitHashlimitPps = pps := by
  have sent := (Option.filter_eq_some_iff.mp some).1
  simp [merge, sent]

end EnforcementConfigPayload

/-! The commands, one at a time. -/

inductive Chain where
  | input
  | forward
  deriving DecidableEq, Repr

/-- What a request or the start of the service does next. The rule commands keep what the
request answers once they are through; the start answers nothing. -/
inductive CapTask (F : Type) where
  | setup
  | read (payload : EnforcementConfigPayload F)
  | write (payload : EnforcementConfigPayload F) (current : StoredConfig F)
  | delete (chain : Chain) (old new : Int) (answer : StoredConfig F)
  | check (chain : Chain) (pps : Int) (answer : Option (StoredConfig F))
  | insert (chain : Chain) (pps : Int) (answer : Option (StoredConfig F))

/-- The settings, the caps of the hashlimit rules of each chain, and what is under way. -/
structure CapState (F : Type) where
  stored : StoredConfig F
  rules : Chain → List Int
  up : Bool
  tasks : List (CapTask F)

inductive CapEvent (F : Type) where
  | start
  | crash
  | request (payload : EnforcementConfigPayload F)
  | step (i : Nat)

/-- A 422 with its detail, or the settings as saved. -/
abbrev CapAnswer (F : Type) := Except String (StoredConfig F)

namespace CapState

def cap (s : CapState F) : Int := s.stored.ratelimitHashlimitPps

def setRules (s : CapState F) (chain : Chain) (caps : List Int) : CapState F :=
  { s with rules := Function.update s.rules chain caps }

/-- A task's next command: the state, what is left of the task, and the answer if it is done. -/
def perform (s : CapState F) : CapTask F → CapState F × Option (CapTask F) × Option (CapAnswer F)
  | .setup => (s, some (.check .input s.cap none), none)
  | .read payload =>
      match payload.rejected with
      | some detail => (s, none, some (.error detail))
      | none => (s, some (.write payload s.stored), none)
  | .write payload current =>
      let new := payload.merge current
      match payload.newCap current with
      | none => ({ s with stored := new }, none, some (.ok new))
      | some pps =>
          ({ s with stored := new }, some (.delete .input current.ratelimitHashlimitPps pps new), none)
  -- `iptables -D` removes the first rule that matches, if any.
  | .delete .input old new answer =>
      (s.setRules .input ((s.rules .input).erase old), some (.delete .forward old new answer), none)
  | .delete .forward old new answer =>
      (s.setRules .forward ((s.rules .forward).erase old), some (.check .input new (some answer)), none)
  | .check .input pps answer =>
      if pps ∈ s.rules .input then (s, some (.check .forward pps answer), none)
      else (s, some (.insert .input pps answer), none)
  | .insert .input pps answer =>
      (s.setRules .input (pps :: s.rules .input), some (.check .forward pps answer), none)
  | .check .forward pps answer =>
      if pps ∈ s.rules .forward then (s, none, answer.map .ok)
      else (s, some (.insert .forward pps answer), none)
  | .insert .forward pps answer =>
      (s.setRules .forward (pps :: s.rules .forward), none, answer.map .ok)

/-- A start does nothing to a service that is up, a request nothing to one that is down. A
crash takes everything under way with it and leaves the file and the rules. -/
def step (s : CapState F) : CapEvent F → Option (CapState F × Option (CapAnswer F))
  | .start => some (if s.up then s else { s with up := true, tasks := [.setup] }, none)
  | .crash => some ({ s with up := false, tasks := [] }, none)
  | .request payload => some (if s.up then { s with tasks := s.tasks ++ [.read payload] } else s, none)
  | .step i =>
      match s.tasks[i]? with
      | none => some (s, none)
      | some task =>
          let done := s.perform task
          some ({ done.1 with tasks := s.tasks.take i ++ done.2.1.toList ++ s.tasks.drop (i + 1) }, done.2.2)

/-- The service has started and no request is in progress. -/
def AtRest (s : CapState F) : Prop := s.up = true ∧ s.tasks = []

instance (s : CapState F) : Decidable s.AtRest := inferInstanceAs (Decidable (_ ∧ _))

/-- Each chain holds one hashlimit rule, with the stored cap. -/
def Exact (s : CapState F) : Prop := ∀ chain, s.rules chain = [s.cap]

end CapState

/-! What the code leaves to chance. -/

/-- The task is about to work on the rules. -/
def CapTask.busy : CapTask F → Bool
  | .read _ => false
  | .write _ _ => false
  | _ => true

/-- The old rule is still in one of the chains. -/
def CapTask.deletes : CapTask F → Bool
  | .delete _ _ _ _ => true
  | _ => false

/-- A write finds the cap it read still stored and, if it changes it, nothing else at work on
the rules. -/
def CapTask.InTurn (s : CapState F) : CapTask F → Prop
  | .write payload current => current.ratelimitHashlimitPps = s.cap ∧
      (payload.newCap current = none ∨ ∀ task ∈ s.tasks, task.busy = false)
  | _ => True

instance (s : CapState F) : (task : CapTask F) → Decidable (task.InTurn s)
  | .write _ _ => inferInstanceAs (Decidable (_ ∧ _))
  | .setup => isTrue trivial
  | .read _ => isTrue trivial
  | .delete _ _ _ _ => isTrue trivial
  | .check _ _ _ => isTrue trivial
  | .insert _ _ _ => isTrue trivial

/-- Writes come in turn, and no crash between a write and the removal of the old rules. -/
def CapState.Sequenced (s : CapState F) : CapEvent F → Prop
  | .crash => ∀ task ∈ s.tasks, task.deletes = false
  | .step i => ∀ task ∈ s.tasks[i]?, task.InTurn s
  | _ => True

instance (s : CapState F) : (e : CapEvent F) → Decidable (s.Sequenced e)
  | .crash => inferInstanceAs (Decidable (∀ task ∈ s.tasks, task.deletes = false))
  | .step i => inferInstanceAs (Decidable (∀ task ∈ s.tasks[i]?, task.InTurn s))
  | .start => isTrue trivial
  | .request _ => isTrue trivial

/-! The rules at every point of an undisturbed change. -/

namespace CapState

/-- No rule, or the one with the stored cap. -/
def AtMostCap (s : CapState F) (chain : Chain) : Prop := s.rules chain = [] ∨ s.rules chain = [s.cap]

/-- What the rules are when a task is about to work on them. -/
def Finds (s : CapState F) : CapTask F → Prop
  | .setup => ∀ chain, s.AtMostCap chain
  | .read _ => False
  | .write _ _ => False
  | .delete .input old new _ => new = s.cap ∧ s.rules .input = [old] ∧ s.rules .forward = [old]
  | .delete .forward old new _ => new = s.cap ∧ s.rules .input = [] ∧ s.rules .forward = [old]
  | .check .input pps _ => pps = s.cap ∧ ∀ chain, s.AtMostCap chain
  | .insert .input pps _ => pps = s.cap ∧ s.rules .input = [] ∧ s.AtMostCap .forward
  | .check .forward pps _ => pps = s.cap ∧ s.rules .input = [s.cap] ∧ s.AtMostCap .forward
  | .insert .forward pps _ => pps = s.cap ∧ s.rules .input = [s.cap] ∧ s.rules .forward = []

/-- At most one task works on the rules, and finds them as it should. -/
inductive Ruled (s : CapState F) : Prop where
  | down (off : s.up = false) (idle : s.tasks = []) (rules : ∀ chain, s.AtMostCap chain)
  | quiet (on : s.up = true) (idle : s.tasks.filter CapTask.busy = []) (rules : s.Exact)
  | working (on : s.up = true) (task : CapTask F) (only : s.tasks.filter CapTask.busy = [task])
      (finds : s.Finds task)

variable {s : CapState F}

omit [Arith F] in
theorem Exact.atMostCap (exact : s.Exact) (chain : Chain) : s.AtMostCap chain := Or.inr (exact chain)

omit [Arith F] in
/-- Past the removal of the old rules, a crash leaves nothing wrong behind. -/
theorem Finds.atMostCap {task : CapTask F} (finds : s.Finds task) (past : task.deletes = false)
    (chain : Chain) : s.AtMostCap chain := by
  cases task with
  | setup => exact finds chain
  | read payload => exact finds.elim
  | write payload current => exact finds.elim
  | delete chain' old new answer => cases past
  | check chain' pps answer =>
    cases chain' with
    | input => exact finds.2 chain
    | forward =>
      cases chain with
      | input => exact Or.inr finds.2.1
      | forward => exact finds.2.2
  | insert chain' pps answer =>
    cases chain' with
    | input =>
      cases chain with
      | input => exact Or.inl finds.2.1
      | forward => exact finds.2.2
    | forward =>
      cases chain with
      | input => exact Or.inr finds.2.1
      | forward => exact Or.inl finds.2.2

omit [Arith F] in
/-- `iptables -C` tells the two cases apart. -/
theorem AtMostCap.of_mem {chain : Chain} {pps : Int} (most : s.AtMostCap chain) (same : pps = s.cap) :
    (pps ∈ s.rules chain → s.rules chain = [s.cap]) ∧ (pps ∉ s.rules chain → s.rules chain = []) := by
  rcases most with none | one
  · simp [none]
  · simp [one, same]

/-- A task that finds the rules as it should leaves them so for its next command, or exact
if it was the last. -/
theorem Finds.perform {task : CapTask F} (finds : s.Finds task) :
    (s.perform task).1.up = s.up ∧
      (∀ next ∈ (s.perform task).2.1, next.busy = true ∧ (s.perform task).1.Finds next) ∧
      ((s.perform task).2.1 = none → (s.perform task).1.Exact) := by
  cases task with
  | setup => exact ⟨rfl, by simpa [CapState.perform, CapTask.busy, Finds] using finds, by simp [CapState.perform]⟩
  | read payload => exact finds.elim
  | write payload current => exact finds.elim
  | delete chain' old new answer =>
    cases chain' with
    | input =>
      obtain ⟨same, first, second⟩ := finds
      refine ⟨rfl, ?_, by simp [CapState.perform]⟩
      simpa [CapState.perform, CapTask.busy, Finds, setRules, cap, first, second] using same
    | forward =>
      obtain ⟨same, first, second⟩ := finds
      refine ⟨rfl, ?_, by simp [CapState.perform]⟩
      simp only [CapState.perform, Option.mem_some_iff, forall_eq', CapTask.busy, Finds, true_and]
      refine ⟨same, ?_⟩
      intro chain
      cases chain with
      | input => exact Or.inl first
      | forward => exact Or.inl (by simp [setRules, second])
  | check chain' pps answer =>
    cases chain' with
    | input =>
      obtain ⟨same, most⟩ := finds
      obtain ⟨present, absent⟩ := (most .input).of_mem same
      by_cases found : pps ∈ s.rules .input
      · simpa [CapState.perform, found, CapTask.busy, Finds] using ⟨same, present found, most .forward⟩
      · simpa [CapState.perform, found, CapTask.busy, Finds] using ⟨same, absent found, most .forward⟩
    | forward =>
      obtain ⟨same, first, most⟩ := finds
      obtain ⟨present, absent⟩ := most.of_mem same
      by_cases found : pps ∈ s.rules .forward
      · refine ⟨by simp [CapState.perform, found], by simp [CapState.perform, found], fun _ chain => ?_⟩
        simp only [CapState.perform, if_pos found]
        cases chain with
        | input => exact first
        | forward => exact present found
      · simpa [CapState.perform, found, CapTask.busy, Finds] using ⟨same, first, absent found⟩
  | insert chain' pps answer =>
    cases chain' with
    | input =>
      obtain ⟨same, first, most⟩ := finds
      refine ⟨rfl, ?_, by simp [CapState.perform]⟩
      simpa [CapState.perform, CapTask.busy, Finds, setRules, cap, AtMostCap, first, same] using most
    | forward =>
      obtain ⟨same, first, second⟩ := finds
      refine ⟨rfl, by simp [CapState.perform], fun _ chain => ?_⟩
      cases chain with
      | input => simpa [CapState.perform, setRules, cap] using first
      | forward => simpa [CapState.perform, setRules, cap, second] using same

omit [Arith F] in
theorem Finds.congr {s' : CapState F} {task : CapTask F} (finds : s.Finds task) (rules : s'.rules = s.rules)
    (caps : s'.cap = s.cap) : s'.Finds task := by
  unfold Finds AtMostCap at finds ⊢
  rw [rules, caps]
  exact finds

omit [Arith F] in
theorem Exact.congr {s' : CapState F} (exact : s.Exact) (rules : s'.rules = s.rules)
    (caps : s'.cap = s.cap) : s'.Exact := by
  unfold Exact at exact ⊢
  rw [rules, caps]
  exact exact

/-- A task that does not work on the rules leaves them and the cap alone, or finds nobody at
work on them, changes the cap and is about to remove the old rules. -/
theorem perform_idle {task : CapTask F} (idle : task.busy = false) (turn : task.InTurn s) :
    (s.perform task).1.up = s.up ∧ (s.perform task).1.rules = s.rules ∧
      (((s.perform task).1.cap = s.cap ∧ ∀ next ∈ (s.perform task).2.1, next.busy = false) ∨
        ((∀ other ∈ s.tasks, other.busy = false) ∧ ∃ answer,
          (s.perform task).2.1 = some (.delete .input s.cap (s.perform task).1.cap answer))) := by
  cases task with
  | read payload =>
    cases checked : payload.rejected with
    | some detail => simp [CapState.perform, checked]
    | none => simp [CapState.perform, checked, CapTask.busy]
  | write payload current =>
    obtain ⟨same, alone⟩ := turn
    cases sent : payload.newCap current with
    | none =>
      refine ⟨by simp [CapState.perform, sent], by simp [CapState.perform, sent], Or.inl ?_⟩
      refine ⟨?_, by simp [CapState.perform, sent]⟩
      simp only [CapState.perform, sent, CapState.cap]
      exact (payload.merge_cap_of_none sent).trans same
    | some pps =>
      rw [sent] at alone
      refine ⟨by simp [CapState.perform, sent], by simp [CapState.perform, sent], Or.inr ?_⟩
      refine ⟨alone.resolve_left (by simp), payload.merge current, ?_⟩
      simp only [CapState.perform, sent, CapState.cap, payload.merge_cap_of_some sent]
      rw [same]
      rfl
  | setup => cases idle
  | delete chain old new answer => cases idle
  | check chain pps answer => cases idle
  | insert chain pps answer => cases idle

omit [Arith F] in
theorem filter_busy_at {tasks : List (CapTask F)} {i : Nat} {task : CapTask F} (here : tasks[i]? = some task) :
    tasks.filter CapTask.busy = (tasks.take i).filter CapTask.busy ++
      ([task].filter CapTask.busy ++ (tasks.drop (i + 1)).filter CapTask.busy) := by
  obtain ⟨inside, found⟩ := List.getElem?_eq_some_iff.mp here
  rw [← List.filter_append, ← List.filter_append, List.singleton_append, ← found,
    ← List.drop_eq_getElem_cons, List.take_append_drop]

omit [Arith F] in
theorem busy_alone {before after : List (CapTask F)} {task worker : CapTask F} (works : task.busy = true)
    (only : before ++ ([task].filter CapTask.busy ++ after) = [worker]) : before = [] ∧ task = worker ∧ after = [] := by
  cases before with
  | nil => simpa [works] using only
  | cons first rest => simp [works] at only

theorem Ruled.perform {i : Nat} {task : CapTask F} (ruled : s.Ruled) (here : s.tasks[i]? = some task)
    (turn : task.InTurn s) :
    Ruled { (s.perform task).1 with
      tasks := s.tasks.take i ++ (s.perform task).2.1.toList ++ s.tasks.drop (i + 1) } := by
  have split := filter_busy_at here
  have member : task ∈ s.tasks := List.mem_of_getElem? here
  have left : (s.tasks.take i ++ (s.perform task).2.1.toList ++ s.tasks.drop (i + 1)).filter CapTask.busy =
      (s.tasks.take i).filter CapTask.busy ++ ((s.perform task).2.1.toList.filter CapTask.busy ++
        (s.tasks.drop (i + 1)).filter CapTask.busy) := by
    rw [List.filter_append, List.filter_append, List.append_assoc]
  have lazy : (∀ next ∈ (s.perform task).2.1, next.busy = false) →
      (s.perform task).2.1.toList.filter CapTask.busy = [] := by
    intro idle
    simpa [List.filter_eq_nil_iff] using idle
  cases ruled with
  | down off idle rules =>
    rw [idle] at member
    cases member
  | quiet on idle rules =>
    have waits : task.busy = false := by
      simpa using List.filter_eq_nil_iff.mp idle task member
    rw [split] at idle
    simp only [List.append_eq_nil_iff] at idle
    obtain ⟨up, same, ⟨caps, next⟩ | ⟨-, answer, next⟩⟩ := perform_idle waits turn
    · refine .quiet (up.trans on) ?_ (rules.congr same caps)
      rw [left, idle.1, idle.2.2, lazy next]
      rfl
    · refine .working (up.trans on) (.delete .input s.cap (s.perform task).1.cap answer) ?_ ⟨rfl, ?_, ?_⟩
      · rw [left, idle.1, idle.2.2, next]
        rfl
      · exact (congrFun same _).trans (rules _)
      · exact (congrFun same _).trans (rules _)
  | working on worker only finds =>
    rw [split] at only
    by_cases works : task.busy = true
    · obtain ⟨before, rfl, after⟩ := busy_alone works only
      obtain ⟨up, continues, finishes⟩ := finds.perform
      cases next : (s.perform task).2.1 with
      | none =>
        refine .quiet (up.trans on) ?_ ((finishes next).congr rfl rfl)
        simp [before, after]
      | some following =>
        obtain ⟨busy, found⟩ := continues following next
        refine .working (up.trans on) following ?_ (found.congr rfl rfl)
        simp [before, after, busy]
    · have waits : task.busy = false := by simpa using works
      have worker_busy : worker ∈ s.tasks.filter CapTask.busy := by
        rw [split, only]
        exact List.mem_singleton_self worker
      obtain ⟨up, same, ⟨caps, next⟩ | ⟨all, -⟩⟩ := perform_idle waits turn
      · refine .working (up.trans on) worker ?_ (finds.congr same caps)
        rw [left, lazy next, ← only]
        simp [waits]
      · have idle := all worker (List.mem_of_mem_filter worker_busy)
        rw [(List.mem_filter.mp worker_busy).2] at idle
        cases idle

theorem Ruled.step {s' : CapState F} {e : CapEvent F} {answer : Option (CapAnswer F)} (ruled : s.Ruled)
    (sequenced : s.Sequenced e) (stepped : s.step e = some (s', answer)) : s'.Ruled := by
  cases e with
  | start =>
    simp only [CapState.step, Option.some.injEq, Prod.mk.injEq] at stepped
    obtain ⟨rfl, -⟩ := stepped
    by_cases on : s.up = true
    · rw [if_pos on]
      exact ruled
    · rw [if_neg on]
      cases ruled with
      | down off idle rules => exact .working rfl .setup rfl rules
      | quiet on' idle rules => exact absurd on' on
      | working on' task only finds => exact absurd on' on
  | crash =>
    simp only [CapState.step, Option.some.injEq, Prod.mk.injEq] at stepped
    obtain ⟨rfl, -⟩ := stepped
    cases ruled with
    | down off idle rules => exact .down rfl rfl rules
    | quiet on idle rules => exact .down rfl rfl rules.atMostCap
    | working on task only finds =>
      have member : task ∈ s.tasks := List.mem_of_mem_filter (only ▸ List.mem_singleton_self task)
      exact .down rfl rfl (finds.atMostCap (sequenced task member))
  | request payload =>
    simp only [CapState.step, Option.some.injEq, Prod.mk.injEq] at stepped
    obtain ⟨rfl, -⟩ := stepped
    by_cases on : s.up = true
    · rw [if_pos on]
      have same : (s.tasks ++ [CapTask.read payload]).filter CapTask.busy = s.tasks.filter CapTask.busy := by
        simp [CapTask.busy]
      cases ruled with
      | down off idle rules => rw [off] at on; cases on
      | quiet on idle rules => exact .quiet on (same.trans idle) rules
      | working on task only finds => exact .working on task (same.trans only) finds
    · rw [if_neg on]
      exact ruled
  | step i =>
    simp only [CapState.step] at stepped
    cases here : s.tasks[i]? with
    | none =>
      simp only [here, Option.some.injEq, Prod.mk.injEq] at stepped
      rw [← stepped.1]
      exact ruled
    | some task =>
      simp only [here, Option.some.injEq, Prod.mk.injEq] at stepped
      obtain ⟨rfl, -⟩ := stepped
      exact ruled.perform here (sequenced task here)

omit [Arith F] in
theorem Ruled.exact (ruled : s.Ruled) (settled : s.AtRest) : s.Exact := by
  cases ruled with
  | down off idle rules =>
    rw [settled.1] at off
    cases off
  | quiet on idle rules => exact rules
  | working on task only finds =>
    rw [settled.2] at only
    cases only

/-- A host without the rule, before the service ever ran. -/
def bare (stored : StoredConfig F) : CapState F := ⟨stored, fun _ => [], false, []⟩

end CapState

/-- In every run whose writes come in turn and whose crashes spare the removal of the old
rules: once the service has started and no request is in progress, each chain holds one
hashlimit rule, with the stored cap. -/
theorem one_rule_with_stored_cap (stored : StoredConfig F) (events : List (CapEvent F)) (final : CapState F)
    (answers : List (Option (CapAnswer F)))
    (sequenced : Always CapState.step (fun s e _ _ => s.Sequenced e) (CapState.bare stored) events)
    (ran : run CapState.step (CapState.bare stored) events = some (final, answers))
    (settled : final.AtRest) : final.Exact := by
  have start : (CapState.bare stored).Ruled := .down rfl rfl fun _ => Or.inl rfl
  have ruled : final.Ruled :=
    run_history_of_always (I := fun _ s => s.Ruled)
      (fun _ _ _ _ _ inv taken met => inv.step met taken) events [] _ final answers start sequenced ran
  exact ruled.exact settled

/-! Runs on the defaults. -/

/-- The service starts and sets its rules up. -/
def serviceStart : List (CapEvent ℚ) := .start :: List.replicate 5 (.step 0)

def capRequest (pps : Int) : CapEvent ℚ := .request { ratelimitHashlimitPps := some pps }

/-- A change to 100 a second by itself. -/
def loneChange : List (CapEvent ℚ) := serviceStart ++ capRequest 100 :: List.replicate 8 (.step 0)

theorem loneChange_exact :
    ∃ final answers, run CapState.step (CapState.bare StoredConfig.default) loneChange =
        some (final, answers) ∧ final.AtRest ∧ final.cap = 100 ∧ final.Exact := by
  have sequenced : Always CapState.step (fun s e _ _ => s.Sequenced e) (CapState.bare StoredConfig.default)
      loneChange := by
    decide +kernel
  have ran : ∃ final answers, run CapState.step (CapState.bare StoredConfig.default) loneChange =
      some (final, answers) ∧ final.AtRest ∧ final.cap = 100 := by
    decide +kernel
  obtain ⟨final, answers, reached, settled, changed⟩ := ran
  exact ⟨final, answers, reached, settled, changed,
    one_rule_with_stored_cap _ _ final answers sequenced reached settled⟩

/-- The service is killed right after a request for 100 a second has saved it, and starts
again. -/
def crashedChange : List (CapEvent ℚ) :=
  serviceStart ++ [capRequest 100, .step 0, .step 0, .crash] ++ serviceStart

/-- Requests for 100 and for 200 a second both read a cap of 50; the first runs to its end,
then the second writes. -/
def overlappingChanges : List (CapEvent ℚ) :=
  serviceStart ++ [capRequest 100, capRequest 200, .step 0, .step 1] ++ List.replicate 7 (.step 0) ++
    List.replicate 7 (.step 0)

theorem crash_and_overlap_leave_two_rules :
    (∃ final answers, run CapState.step (CapState.bare StoredConfig.default) crashedChange =
        some (final, answers) ∧ final.AtRest ∧ final.rules .input = [100, 50]) ∧
    ∃ final answers, run CapState.step (CapState.bare StoredConfig.default) overlappingChanges =
        some (final, answers) ∧ final.AtRest ∧ final.rules .input = [200, 100] := by
  constructor
  · decide +kernel
  · decide +kernel

end Flod.Stage2
