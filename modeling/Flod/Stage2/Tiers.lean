import Flod.Lib.History
import Flod.Lib.Run
import Flod.Stage2.Playbook

/-! What the four tiers decide, source by source. The tiers run in order and each leaves out
what the ones before it acted on; put together, a source's rate and the hysteresis alone
say whether it is blocked, throttled or left alone. -/

namespace Flod.Stage2
open Flod.Lib Flod.Net Flod.Ipc

variable {F : Type} [Arith F]

/-- `block_ip` is called for the address. -/
def Blocked (calls : List (TierCall F)) (ip : String) : Prop :=
  ∃ c ∈ calls, c.call.action = .block ∧ c.call.ip = ip

/-- `ratelimit_ip` is called for the address. -/
def Throttled (calls : List (TierCall F)) (ip : String) : Prop :=
  ∃ c ∈ calls, c.call.action = .ratelimit .rateLimited ∧ c.call.ip = ip

instance (calls : List (TierCall F)) (ip : String) : Decidable (Blocked calls ip) :=
  inferInstanceAs (Decidable (∃ c ∈ calls, _))

namespace TierInputs

variable {t : TierInputs F}

/-- The dominant source is concentrated and fast enough for Tier 1. -/
def DominantAttacks (t : TierInputs F) : Prop :=
  t.cfg.dominantIpRatioBlockThreshold ≤ t.fv.dominantIpRatio ∧
    t.fv.meanR + t.fv.kMultiplier * t.fv.sigmaR ≤ dominantRate t.fv

def flowThreshold (t : TierInputs F) : F := max t.cfg.ratelimitRateFloorPps (t.fv.meanR + t.fv.sigmaR)

/-- A source of the snapshot at or above a rate. -/
def Reaches (t : TierInputs F) (threshold : F) (ip : String) : Prop :=
  ∃ rate, (ip, rate) ∈ t.perSourceRate.entries ∧ threshold ≤ rate

theorem mem_remaining_ip (actedOn : List (TierCall F)) (threshold : F) (act : String × F → TierCall F)
    (own : ∀ e, (act e).call.ip = e.1) (ip : String) :
    ip ∈ ((t.remaining actedOn threshold).map act).map (·.call.ip) ↔
      t.Reaches threshold ip ∧ ip ∉ actedOn.map (·.call.ip) := by
  have taken : ((t.remaining actedOn threshold).map act).map (·.call.ip) =
      (t.remaining actedOn threshold).map Prod.fst := by
    simp only [List.map_map, Function.comp_def, own]
  rw [taken]
  unfold remaining
  constructor
  · intro member
    obtain ⟨e, left, rfl⟩ := List.mem_map.mp member
    obtain ⟨listed, meets⟩ := List.mem_filter.mp left
    rw [Bool.and_eq_true, decide_eq_true_iff, decide_eq_true_iff] at meets
    exact ⟨⟨e.2, listed, meets.2⟩, meets.1⟩
  · rintro ⟨⟨rate, listed, fast⟩, untouched⟩
    apply List.mem_map.mpr
    refine ⟨(ip, rate), List.mem_filter.mpr ⟨listed, ?_⟩, rfl⟩
    rw [Bool.and_eq_true, decide_eq_true_iff, decide_eq_true_iff]
    exact ⟨untouched, fast⟩

theorem mem_tier1_ip (ip : String) :
    ip ∈ t.tier1.map (·.call.ip) ↔ t.blockReady = true ∧ ip = t.ip ∧ t.DominantAttacks := by
  unfold tier1 DominantAttacks
  split
  · next met =>
    simp only [List.map_cons, List.map_nil, List.mem_singleton, met.1, met.2.1, met.2.2, and_true, true_and]
    rfl
  · next unmet =>
    simp only [List.map_nil, List.not_mem_nil, false_iff]
    rintro ⟨ready, -, attacks⟩
    exact unmet ⟨ready, attacks⟩

/-- The calls of the tiers that block. -/
def blocking (t : TierInputs F) : List (TierCall F) := t.tier1 ++ t.tier2 t.tier1

theorem mem_tier2_ip (ip : String) :
    ip ∈ (t.tier2 t.tier1).map (·.call.ip) ↔
      t.blockReady = true ∧ t.Reaches t.blockThreshold ip ∧ ip ∉ t.tier1.map (·.call.ip) := by
  unfold tier2
  split
  · next ready =>
    rw [mem_remaining_ip _ _ _ (fun _ => rfl)]
    simp [ready]
  · next held => simp [held]

/-- Whom the blocking tiers act on: the dominant source if it attacks, and everyone too fast. -/
theorem mem_blocking_ip (ip : String) :
    ip ∈ t.blocking.map (·.call.ip) ↔
      t.blockReady = true ∧ (ip = t.ip ∧ t.DominantAttacks ∨ t.Reaches t.blockThreshold ip) := by
  rw [blocking, List.map_append, List.mem_append, mem_tier2_ip, mem_tier1_ip]
  tauto

theorem mem_tier3_ip (ip : String) :
    ip ∈ (t.tier3 t.blocking).map (·.call.ip) ↔
      t.Reaches t.flowThreshold ip ∧ ip ∉ t.blocking.map (·.call.ip) :=
  mem_remaining_ip _ _ _ (fun _ => rfl) ip

theorem blocking_action {c : TierCall F} (member : c ∈ t.blocking) : c.call.action = .block := by
  rcases List.mem_append.mp member with first | second
  · unfold tier1 at first
    split at first
    · rw [List.mem_singleton.mp first]
      rfl
    · cases first
  · unfold tier2 at second
    split at second
    · obtain ⟨e, -, rfl⟩ := List.mem_map.mp second
      rfl
    · cases second

/-- The calls of the tiers that throttle. -/
def throttling (t : TierInputs F) : List (TierCall F) :=
  t.tier3 t.blocking ++ t.tier4 (t.blocking ++ t.tier3 t.blocking)

theorem calls_eq (t : TierInputs F) : t.calls = t.blocking ++ t.throttling := by
  rw [throttling, ← List.append_assoc]
  rfl

theorem throttling_action {c : TierCall F} (member : c ∈ t.throttling) :
    c.call.action = .ratelimit .rateLimited := by
  rcases List.mem_append.mp member with third | fourth
  · obtain ⟨e, -, rfl⟩ := List.mem_map.mp third
    rfl
  · unfold tier4 at fourth
    split at fourth
    · obtain ⟨e, -, rfl⟩ := List.mem_map.mp fourth
      rfl
    · cases fourth

theorem blocked_calls_iff (ip : String) : Blocked t.calls ip ↔ ip ∈ t.blocking.map (·.call.ip) := by
  rw [calls_eq, List.mem_map]
  constructor
  · rintro ⟨c, member, blocks, own⟩
    rcases List.mem_append.mp member with here | throttles
    · exact ⟨c, here, own⟩
    · rw [throttling_action throttles] at blocks
      cases blocks
  · rintro ⟨c, member, own⟩
    exact ⟨c, List.mem_append_left _ member, blocking_action member, own⟩

theorem throttled_calls_iff (ip : String) : Throttled t.calls ip ↔ ip ∈ t.throttling.map (·.call.ip) := by
  rw [calls_eq, List.mem_map]
  constructor
  · rintro ⟨c, member, throttles, own⟩
    rcases List.mem_append.mp member with blocks | here
    · rw [blocking_action blocks] at throttles
      cases throttles
    · exact ⟨c, here, own⟩
  · rintro ⟨c, member, own⟩
    exact ⟨c, List.mem_append_right _ member, throttling_action member, own⟩

/-- Nobody is blocked and no source reaches the throttle threshold. -/
def NoneActedOn (t : TierInputs F) : Prop :=
  (∀ ip, ¬ Blocked t.calls ip) ∧ ∀ ip, ¬ t.Reaches t.flowThreshold ip

theorem isEmpty_iff_noneActedOn :
    (t.blocking ++ t.tier3 t.blocking).isEmpty = true ↔ t.NoneActedOn := by
  have empty : ∀ calls : List (TierCall F), calls = [] ↔ ∀ ip, ip ∉ calls.map (·.call.ip) := by
    intro calls
    rw [← List.eq_nil_iff_forall_not_mem, List.map_eq_nil_iff]
  rw [List.isEmpty_iff, List.append_eq_nil_iff, empty, empty, NoneActedOn]
  simp only [blocked_calls_iff, mem_tier3_ip]
  constructor
  · rintro ⟨unblocked, slow⟩
    exact ⟨unblocked, fun ip fast => slow ip ⟨fast, unblocked ip⟩⟩
  · rintro ⟨unblocked, slow⟩
    exact ⟨unblocked, fun ip taken => slow ip taken.1⟩

theorem mem_tier4_ip (ip : String) :
    ip ∈ (t.tier4 (t.blocking ++ t.tier3 t.blocking)).map (·.call.ip) ↔
      ip ∈ t.perSourceRate.keys ∧ t.NoneActedOn := by
  rw [← isEmpty_iff_noneActedOn]
  unfold tier4
  split
  · next idle =>
    simp only [List.map_map, idle, and_true]
    rfl
  · next acted => simp [acted]

/-- A source of the snapshot that is not blocked is throttled if it reaches the threshold, or
if the tiers had nobody to act on. -/
theorem throttled_iff (ip : String) :
    Throttled t.calls ip ↔ ¬ Blocked t.calls ip ∧
      (t.Reaches t.flowThreshold ip ∨ ip ∈ t.perSourceRate.keys ∧ t.NoneActedOn) := by
  rw [throttled_calls_iff, throttling, List.map_append, List.mem_append, mem_tier3_ip, mem_tier4_ip,
    blocked_calls_iff]
  constructor
  · rintro (⟨fast, spared⟩ | ⟨listed, idle⟩)
    · exact ⟨spared, Or.inl fast⟩
    · exact ⟨fun blocked => idle.1 ip ((blocked_calls_iff ip).mpr blocked), Or.inr ⟨listed, idle⟩⟩
  · rintro ⟨spared, fast | idle⟩
    · exact Or.inl ⟨fast, spared⟩
    · exact Or.inr idle

end TierInputs

/-- The windows handled for a victim. -/
def handledFor (victim : String) (past : List (Handled F)) : List (Handled F) :=
  past.filter (fun h => h.victimIp = victim)

/-- The counter of a victim is the length of its current streak of class 2 windows. -/
def CountsStreaks (past : List (Handled F)) (st : ReceiverState F) : Prop :=
  ∀ victim n, Streak (fun h => h.predClass = 2) n (handledFor victim past) ↔
    n ≤ st.view.consecutiveDdosWindows.getD victim 0

theorem CountsStreaks.handleWindow {past : List (Handled F)} {st : ReceiverState F}
    (counts : CountsStreaks past st) (a : Arrived F) :
    CountsStreaks (past ++ [(handleWindow st a).2]) (handleWindow st a).1 := by
  intro victim n
  change _ ↔ n ≤ (st.view.consecutiveDdosWindows.set (victimText a.env st.view a.fv)
    (nextConsecutive st.view (victimText a.env st.view a.fv) (classify a.env a.fv).1)).getD victim 0
  rw [Dict.getD_set]
  have filed : (Stage2.handleWindow st a).2.victimIp = victimText a.env st.view a.fv := rfl
  have judged : (Stage2.handleWindow st a).2.predClass = (classify a.env a.fv).1 := rfl
  by_cases own : victimText a.env st.view a.fv = victim
  · subst own
    have grown : handledFor (victimText a.env st.view a.fv) (past ++ [(Stage2.handleWindow st a).2]) =
        handledFor (victimText a.env st.view a.fv) past ++ [(Stage2.handleWindow st a).2] := by
      simp [handledFor, filed]
    rw [if_pos rfl, grown, streak_concat_iff (counts _), judged]
    rfl
  · have same : handledFor victim (past ++ [(Stage2.handleWindow st a).2]) = handledFor victim past := by
      simp [handledFor, filed, own]
    rw [if_neg own, same]
    exact counts victim n

theorem run_countsStreaks {playbooks : List (Playbook F)} {windows : List (Arrived F)}
    {st : ReceiverState F} {past : List (Handled F)}
    (ran : run receive (ReceiverState.start playbooks) windows = some (st, past)) : CountsStreaks past st := by
  have start : CountsStreaks [] (ReceiverState.start playbooks) := by
    intro victim n
    change Streak _ n [] ↔ n ≤ 0
    constructor
    · intro streak
      exact streak.1
    · intro none
      rw [Nat.le_zero.mp none]
      exact streak_zero []
  exact run_history (I := CountsStreaks) (fun past st a st' handled counts received => by
    cases received
    exact counts.handleWindow a) windows [] _ st past start ran

/-- In every run of the receiver, whatever windows of whatever victims came before: a class 2
window with a dominant source Stage 2 can name calls for no source twice; it blocks exactly
the dominant source, if that attacks, and every source at the block bar, and only if the
hysteresis is met by the windows received for this victim; it throttles exactly the other
sources at the throttle bar, or the whole snapshot if there was nobody to act on. -/
theorem tiers_act_exactly (playbooks : List (Playbook F)) (earlier : List (Arrived F))
    (st : ReceiverState F) (past : List (Handled F))
    (ran : run receive (ReceiverState.start playbooks) earlier = some (st, past)) (a : Arrived F)
    (attack : (handleWindow st a).2.predClass = 2) (known : dominantKnown a.fv = true) :
    let handled := (handleWindow st a).2
    let t := tierInputs a.env st.view a.fv
    (handled.calls.map (·.call.ip)).Nodup ∧
      (∀ ip, Blocked handled.calls ip ↔
        Streak (fun h => h.predClass = 2) a.env.cfg.blockHysteresisWindows
            (handledFor handled.victimIp (past ++ [handled])) ∧
          (ip = t.ip ∧ t.DominantAttacks ∨ t.Reaches t.blockThreshold ip)) ∧
      (∀ ip, Throttled handled.calls ip ↔ ¬ Blocked handled.calls ip ∧
        (t.Reaches t.flowThreshold ip ∨ ip ∈ t.perSourceRate.keys ∧ t.NoneActedOn)) := by
  intro handled t
  have judged : (classify a.env a.fv).1 = 2 := attack
  have made : handled.calls = t.calls := by
    change windowCalls a.env st.view a.fv = _
    simp only [windowCalls, judged, known, if_true]
    rfl
  have counts := (run_countsStreaks ran).handleWindow a
  have ready : t.blockReady = true ↔ Streak (fun h => h.predClass = 2) a.env.cfg.blockHysteresisWindows
      (handledFor handled.victimIp (past ++ [handled])) := by
    rw [counts handled.victimIp, show t.blockReady = decide (a.env.cfg.blockHysteresisWindows ≤ _) from rfl,
      decide_eq_true_iff]
    change _ ↔ _ ≤ (st.view.consecutiveDdosWindows.set (victimText a.env st.view a.fv)
      (nextConsecutive st.view (victimText a.env st.view a.fv) (classify a.env a.fv).1)).getD
        (victimText a.env st.view a.fv) 0
    rw [Dict.getD_set, if_pos rfl]
  rw [made]
  refine ⟨t.calls_nodup, ?_, t.throttled_iff⟩
  intro ip
  rw [TierInputs.blocked_calls_iff, TierInputs.mem_blocking_ip, ready]

/-- A flood from one source beside one at a modest rate, both in the flow file. -/
def mixedFlood : Arrived ℚ :=
  floodAt 102 [⟨"192.0.2.1", "10.0.0.1", 900⟩, ⟨"192.0.2.7", "10.0.0.1", 80⟩]

/-- As the second window in a row it has the first source blocked and the second throttled. -/
theorem mixedFlood_acted_on :
    ∃ st past, run receive (ReceiverState.start []) [floodAt 100 []] = some (st, past) ∧
      (handleWindow st mixedFlood).2.predClass = 2 ∧
      Blocked (handleWindow st mixedFlood).2.calls "192.0.2.1" ∧
      Throttled (handleWindow st mixedFlood).2.calls "192.0.2.7" := by
  refine ⟨_, _, rfl, by decide +kernel, ?_, ?_⟩
  · have exactly := (tiers_act_exactly [] [floodAt 100 []] _ _ rfl mixedFlood (by decide +kernel)
      (by decide +kernel)).2.1 "192.0.2.1"
    exact exactly.mpr ⟨by decide +kernel, Or.inr ⟨900, by decide +kernel, by decide +kernel⟩⟩
  · have exactly := (tiers_act_exactly [] [floodAt 100 []] _ _ rfl mixedFlood (by decide +kernel)
      (by decide +kernel)).2.2 "192.0.2.7"
    exact exactly.mpr ⟨by decide +kernel, Or.inl ⟨80, by decide +kernel, by decide +kernel⟩⟩

end Flod.Stage2
