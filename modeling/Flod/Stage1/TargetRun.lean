import Mathlib.Data.List.ReduceOption
import Flod.Stage1.AnalysisRun

/-! One target by itself: what is counted for it and the checks for a window close, in the
order in which they happen. Every run of the loop is such a run for each of its targets. -/

namespace Flod.Stage1
open Flod.Lib Flod.Net

variable {F : Type} [Arith F] {cfg : AnalysisConfig F} {persisted : Option (PersistedState F)}

/-- What the loop counts for a target. -/
inductive Counted where
  | ingress (packet : PacketMeta)
  | egress
  | sample (sample : WindowSample)

def TargetState.count (ts : TargetState F) : Counted → TargetState F
  | .ingress packet => ts.recordIngress packet
  | .egress => ts.recordEgress
  | .sample sample => ts.recordSample sample

theorem TargetState.count_sameBaseline (ts : TargetState F) (c : Counted) :
    TargetState.SameBaseline ts (ts.count c) := by
  cases c with
  | ingress packet => exact recordIngress_sameBaseline ts packet
  | egress => exact recordEgress_sameBaseline ts
  | sample sample => exact recordSample_sameBaseline ts sample

/-- A check comes some nanoseconds after the last close. -/
inductive TargetEvent (F : Type) where
  | counted (c : Counted)
  | checked (elapsed : Nat) (timestamp : F) (sendOk : Bool) (sources : Walk (IpAddr × Nat))

/-- The clocks of a check, the outcome of a send, and the order of the sources. No other
target is walked. -/
def TargetState.readingAfter (ts : TargetState F) (elapsed : Nat) (timestamp : F) (sendOk : Bool)
    (sources : Walk (IpAddr × Nat)) : Reading F where
  now := ts.lastWindowClose + elapsed
  timestamp := timestamp
  sendOk := fun _ => sendOk
  hosts := .inserted
  sources := fun _ => sources

/-- One event, for any way to close a window. None is a panic. -/
def TargetState.handleWith
    (close : Reading F → TargetState F → Option (TargetState F × ClosedWindow F)) (ts : TargetState F) :
    TargetEvent F → Option (TargetState F × Option (ClosedWindow F))
  | .counted c => some (ts.count c, none)
  | .checked elapsed timestamp sendOk sources =>
      let reading := ts.readingAfter elapsed timestamp sendOk sources
      if shouldClose reading.now ts then
        (close reading ts).map (fun closed => (closed.1, some closed.2))
      else some (ts, none)

def TargetState.handle (cfg : AnalysisConfig F) (victim : IpAddr) :
    TargetState F → TargetEvent F → Option (TargetState F × Option (ClosedWindow F)) :=
  TargetState.handleWith (fun reading ts => closeWindow cfg reading victim ts)

/-- An event counts something, passes over a window that is not due, or closes it. -/
theorem TargetState.handleWith_cases
    {close : Reading F → TargetState F → Option (TargetState F × ClosedWindow F)}
    {ts after : TargetState F} {e : TargetEvent F} {o : Option (ClosedWindow F)}
    (handled : ts.handleWith close e = some (after, o)) :
    (∃ c, e = .counted c ∧ after = ts.count c ∧ o = none) ∨ (after = ts ∧ o = none) ∨
      ∃ elapsed timestamp sendOk sources w, e = .checked elapsed timestamp sendOk sources ∧
        close (ts.readingAfter elapsed timestamp sendOk sources) ts = some (after, w) ∧ o = some w := by
  cases e with
  | counted c =>
    simp only [handleWith, Option.some.injEq, Prod.mk.injEq] at handled
    exact Or.inl ⟨c, rfl, handled.1.symm, handled.2.symm⟩
  | checked elapsed timestamp sendOk sources =>
    simp only [handleWith] at handled
    split at handled
    · obtain ⟨⟨after', w⟩, closed, pair⟩ := Option.map_eq_some_iff.mp handled
      simp only [Prod.mk.injEq] at pair
      obtain ⟨rfl, rfl⟩ := pair
      exact Or.inr (Or.inr ⟨elapsed, timestamp, sendOk, sources, w, rfl, closed, rfl⟩)
    · simp only [Option.some.injEq, Prod.mk.injEq] at handled
      exact Or.inr (Or.inl ⟨handled.1.symm, handled.2.symm⟩)

/-! The loop, one counted thing at a time. -/

/-- The target an arrival counts for: the one the map holds, or a new one. -/
def Held (cfg : AnalysisConfig F) (persisted : Option (PersistedState F)) (now : Instant)
    (targets : Dict IpAddr (TargetState F)) (v : IpAddr) (ts : TargetState F) : Prop :=
  targets.get? v = some ts ∨
    (targets.get? v = none ∧ TargetState.new cfg.ewmaAlpha (lookup persisted v) now = some ts)

section Arrivals

variable {J : Dict IpAddr (TargetState F) → Prop}

theorem admitVictim_counts {now : Instant} {st st' : AnalysisState F} {victim : IpAddr} {c : Counted}
    {seen : Bool}
    (counts : ∀ targets v ts c, J targets → Held cfg persisted now targets v ts →
      J (targets.set v (ts.count c)))
    (admitted : admitVictim cfg persisted now st victim (·.count c) = some (st', seen))
    (start : J st.targetsMap) : J st'.targetsMap := by
  rcases admitVictim_cases admitted with ⟨-, rfl, -⟩ | ⟨-, -, rfl, -⟩ | ⟨ts, -, ensured, rfl, -⟩
  · exact start
  · exact start
  · exact counts _ victim ts c start (ensureTarget_some ensured)

theorem admitSamples_counts {now : Instant} {st st' : AnalysisState F}
    {samples : List (IpAddr × WindowSample)}
    (counts : ∀ targets v ts c, J targets → Held cfg persisted now targets v ts →
      J (targets.set v (ts.count c)))
    (start : J st.targetsMap) (admitted : admitSamples cfg persisted now st samples = some st') :
    J st'.targetsMap := by
  induction samples generalizing st with
  | nil =>
    simp only [admitSamples, Option.some.injEq] at admitted
    rw [← admitted]
    exact start
  | cons entry rest ih =>
    obtain ⟨flows, mid, seen, taken, admitted⟩ := admitSamples_cons admitted
    exact ih (admitVictim_counts (c := .sample entry.2) counts taken start) admitted

theorem arrive_counts {st mid : AnalysisState F} {it : Iteration F} {victims : List IpAddr}
    (counts : ∀ targets v ts c, J targets → Held cfg persisted it.reading.now targets v ts →
      J (targets.set v (ts.count c)))
    (start : J st.targetsMap) (arrived : arrive cfg persisted st it = some (mid, victims)) :
    J mid.targetsMap := by
  unfold arrive at arrived
  cases kind : it.arrival with
  | timeout =>
    simp only [kind, Option.some.injEq, Prod.mk.injEq] at arrived
    rw [← arrived.1]
    exact start
  | packet packet =>
    simp only [kind] at arrived
    obtain ⟨⟨mid', seen⟩, admitted, pair⟩ := Option.map_eq_some_iff.mp arrived
    simp only [Prod.mk.injEq] at pair
    rw [← pair.1]
    unfold admitPacket at admitted
    cases way : packet.direction with
    | ingress =>
      simp only [way] at admitted
      exact admitVictim_counts (c := .ingress packet) counts admitted start
    | egress =>
      simp only [way] at admitted
      obtain ⟨⟨final, _⟩, taken, pair⟩ := Option.map_eq_some_iff.mp admitted
      cases pair
      exact admitVictim_counts (c := .egress) counts taken start
  | drained samples =>
    simp only [kind] at arrived
    obtain ⟨final, admitted, pair⟩ := Option.map_eq_some_iff.mp arrived
    cases pair
    exact admitSamples_counts counts start admitted

end Arrivals

/-- An invariant of the targets and of all effects so far outlasts a run, if counting one
thing for one target keeps it and so does every close. -/
theorem loop_counts {I : List (Effect F) → Dict IpAddr (TargetState F) → Prop}
    (counts : ∀ past now targets v ts c, I past targets → Held cfg persisted now targets v ts →
      I past (targets.set v (ts.count c)))
    (closes : ∀ past reading st v ts after w, I past st.targetsMap → st.targetsMap.get? v = some ts →
      shouldClose reading.now ts = true → closeWindow cfg reading v ts = some (after, w) →
      I (past ++ (settle reading st v after w).2) (st.targetsMap.set v after))
    {its : List (Iteration F)} {st final : AnalysisState F} {outs : List (List (Effect F))}
    (start : I [] st.targetsMap) (ran : run (iterate cfg persisted) st its = some (final, outs)) :
    I outs.flatten final.targetsMap := by
  have done := run_history (I := fun past s => I past.flatten s.targetsMap) ?_ its [] st final outs
    (by simpa using start) ran
  · simpa using done
  · intro past s it s' effects inv iterated
    obtain ⟨mid, victims, checks, arrived, checked, rfl⟩ := iterate_cases iterated
    have recorded : I past.flatten mid.targetsMap :=
      arrive_counts (fun targets v ts c => counts _ _ targets v ts c) inv arrived
    have settled := run_history (I := fun more s => I (past.flatten ++ more.flatten) s.targetsMap)
      ?_ victims [] mid s' checks (by simpa using recorded) checked
    · simpa using settled
    · intro more s v s' out inv taken
      rcases checkVictim_cases taken with ⟨rfl, rfl, -⟩ | ⟨ts, after, w, found, due, closed, rfl, rfl⟩
      · simpa using inv
      · simpa using closes _ it.reading s v ts after w inv found due closed

/-- What new targets have, and counting and closing keep, every target has at the end of a
run, and had before each close. -/
theorem loop_keeps {P : TargetState F → Prop}
    (fresh : ∀ p now ts, TargetState.new cfg.ewmaAlpha p now = some ts → P ts)
    (counted : ∀ ts c, P ts → P (ts.count c))
    (closed : ∀ reading v ts after w, P ts → closeWindow cfg reading v ts = some (after, w) → P after)
    {its : List (Iteration F)} {began : Instant} {final : AnalysisState F} {outs : List (List (Effect F))}
    (ran : run (iterate cfg persisted) (AnalysisState.start began) its = some (final, outs)) :
    (∀ v ts, final.targetsMap.get? v = some ts → P ts) ∧
      ∀ w ∈ closedWindows outs.flatten, ∃ reading victim, P w.before ∧
        w.stats = (measure cfg reading victim w.before).1 := by
  refine loop_counts (I := fun past targets => (∀ v ts, targets.get? v = some ts → P ts) ∧
      ∀ w ∈ closedWindows past, ∃ reading victim, P w.before ∧
        w.stats = (measure cfg reading victim w.before).1)
    ?_ ?_ (by simp [AnalysisState.start, closedWindows]) ran
  · intro past now targets u ts c inv held
    refine ⟨fun v other found => ?_, inv.2⟩
    rw [Dict.get?_set] at found
    split at found
    · cases found
      rcases held with old | ⟨-, created⟩
      · exact counted ts c (inv.1 u ts old)
      · exact counted ts c (fresh _ _ ts created)
    · exact inv.1 v other found
  · intro past reading st u ts after w inv found due closing
    have closes := (closeWindow_spec closing).1
    refine ⟨fun v other here => ?_, fun x member => ?_⟩
    · rw [Dict.get?_set] at here
      split at here
      · cases here
        exact closed reading u ts after w (inv.1 u ts found) closing
      · exact inv.1 v other here
    · rw [closedWindows_append, closedWindows_settle, List.mem_append, List.mem_singleton] at member
      rcases member with earlier | rfl
      · exact inv.2 x earlier
      · rw [closes.before, closes.stats]
        exact ⟨reading, u, inv.1 u ts found, rfl⟩

/-- A target with the windows closed for it, as a run of its own from its creation. -/
def Lives (cfg : AnalysisConfig F) (p : Option (PersistedBaseline F)) (v : IpAddr)
    (history : List (ClosedWindow F)) (ts : TargetState F) : Prop :=
  ∃ now created events outs, TargetState.new cfg.ewmaAlpha p now = some created ∧
    run (TargetState.handle cfg v) created events = some (ts, outs) ∧ outs.reduceOption = history

section Lives

variable {p : Option (PersistedBaseline F)} {v : IpAddr} {history : List (ClosedWindow F)} {ts : TargetState F}

theorem Lives.fresh {now : Instant} (created : TargetState.new cfg.ewmaAlpha p now = some ts) :
    Lives cfg p v [] ts :=
  ⟨now, ts, [], [], created, rfl, rfl⟩

theorem Lives.counted (lives : Lives cfg p v history ts) (c : Counted) : Lives cfg p v history (ts.count c) := by
  obtain ⟨now, created, events, outs, new, ran, rfl⟩ := lives
  refine ⟨now, created, events ++ [.counted c], outs ++ [none], new, run_concat ran rfl, ?_⟩
  simp [List.reduceOption_append]

/-- The clock is past the last close whenever a window is due. -/
theorem readingAfter_of_due {reading : Reading F} (due : shouldClose reading.now ts = true) :
    (ts.readingAfter (reading.now - ts.lastWindowClose) reading.timestamp (reading.sendOk v)
      (reading.sources v)).now = reading.now := by
  have late : ts.lastWindowClose ≤ reading.now := by
    by_contra early
    have none : (secondsSince reading.now ts.lastWindowClose : F) = 0 := by
      have saturates : reading.now - ts.lastWindowClose = 0 := Nat.sub_eq_zero_of_le (not_le.mp early).le
      simp [secondsSince, saturates]
    simp only [shouldClose, none, Bool.or_eq_true, Bool.and_eq_true, decide_eq_true_eq] at due
    rcases due with ⟨half, -⟩ | whole
    · norm_num at half
    · norm_num at whole
  exact Nat.add_sub_cancel' late

theorem Lives.closed {reading : Reading F} {after : TargetState F} {w : ClosedWindow F}
    (lives : Lives cfg p v history ts) (due : shouldClose reading.now ts = true)
    (closing : closeWindow cfg reading v ts = some (after, w)) : Lives cfg p v (history ++ [w]) after := by
  obtain ⟨now, created, events, outs, new, ran, rfl⟩ := lives
  have clock := readingAfter_of_due (v := v) due
  have taken : TargetState.handle cfg v ts
      (.checked (reading.now - ts.lastWindowClose) reading.timestamp (reading.sendOk v) (reading.sources v)) =
        some (after, some w) := by
    have same : closeWindow cfg (ts.readingAfter (reading.now - ts.lastWindowClose) reading.timestamp
        (reading.sendOk v) (reading.sources v)) v ts = closeWindow cfg reading v ts := by
      unfold closeWindow measure
      rw [clock]
      rfl
    simp only [TargetState.handle, TargetState.handleWith, clock, due, if_true, same, closing,
      Option.map_some]
  refine ⟨now, created, _, _, new, run_concat ran taken, ?_⟩
  simp [List.reduceOption_append]

end Lives

/-- Every target of a run of the loop went through a run of its own, with the same windows. -/
theorem loop_lives {its : List (Iteration F)} {began : Instant} {final : AnalysisState F}
    {outs : List (List (Effect F))}
    (ran : run (iterate cfg persisted) (AnalysisState.start began) its = some (final, outs))
    {v : IpAddr} {ts : TargetState F} (found : final.targetsMap.get? v = some ts) :
    Lives cfg (lookup persisted v) v (closedOf v outs.flatten) ts := by
  have all := loop_counts (I := fun past targets => ∀ v, (targets.get? v = none → closedOf v past = []) ∧
      ∀ ts, targets.get? v = some ts → Lives cfg (lookup persisted v) v (closedOf v past) ts)
    ?_ ?_ (by simp [AnalysisState.start, closedOf, closedWindows]) ran
  · exact (all v).2 ts found
  · intro past now targets u ts c inv held v
    by_cases same : v = u
    · subst same
      rw [Dict.get?_set_self]
      refine ⟨by simp, fun other here => ?_⟩
      cases here
      rcases held with old | ⟨absent, created⟩
      · exact ((inv v).2 ts old).counted c
      · rw [(inv v).1 absent]
        exact (Lives.fresh created).counted c
    · rw [Dict.get?_set_of_ne _ _ same]
      exact inv v
  · intro past reading st u ts after w inv found due closing v
    rw [closedOf_settle, (closeWindow_spec closing).1.named]
    by_cases same : v = u
    · subst same
      rw [Dict.get?_set_self, if_pos rfl]
      refine ⟨by simp, fun other here => ?_⟩
      cases here
      exact ((inv v).2 ts found).closed due closing
    · rw [Dict.get?_set_of_ne _ _ same, if_neg (Ne.symm same), List.append_nil]
      exact inv v

end Flod.Stage1
