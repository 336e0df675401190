import Flod.Stage2.Tiers

/-! The `tier_reached` trigger. Tier 1 is the most severe, and the dispatch keeps the largest
number among the tiers that acted, which the trigger compares with the operator's from
above: it fires if a tier of that number or a larger one acted. This is the order by severity
only on windows where tiers on both sides of the operator's acted. -/

namespace Flod.Stage2
open Flod.Lib Flod.Net Flod.Ipc

variable {F : Type} [Arith F]

namespace TierInputs

/-- The blocking tiers take the source. -/
def Blocks (t : TierInputs F) (ip : String) : Prop :=
  t.blockReady = true ∧ (ip = t.ip ∧ t.DominantAttacks ∨ t.Reaches t.blockThreshold ip)

/-- When each tier acts, read off the rates and the hysteresis. -/
def Acts (t : TierInputs F) : Nat → Prop
  | 1 => t.blockReady = true ∧ t.DominantAttacks
  | 2 => t.blockReady = true ∧ ∃ ip, t.Reaches t.blockThreshold ip ∧ ¬ (ip = t.ip ∧ t.DominantAttacks)
  | 3 => ∃ ip, t.Reaches t.flowThreshold ip ∧ ¬ t.Blocks ip
  | 4 => t.perSourceRate.keys ≠ [] ∧ ∀ ip, ¬ t.Blocks ip ∧ ¬ t.Reaches t.flowThreshold ip
  | _ => False

variable {t : TierInputs F}

theorem tier1_number {c : TierCall F} (member : c ∈ t.tier1) : c.tier = 1 := by
  unfold tier1 at member
  split at member
  · rw [List.mem_singleton.mp member]
    rfl
  · cases member

theorem tier2_number {actedOn : List (TierCall F)} {c : TierCall F} (member : c ∈ t.tier2 actedOn) :
    c.tier = 2 := by
  unfold tier2 at member
  split at member
  · obtain ⟨e, -, rfl⟩ := List.mem_map.mp member
    rfl
  · cases member

theorem tier3_number {actedOn : List (TierCall F)} {c : TierCall F} (member : c ∈ t.tier3 actedOn) :
    c.tier = 3 := by
  obtain ⟨e, -, rfl⟩ := List.mem_map.mp member
  rfl

omit [Arith F] in
theorem tier4_number {actedOn : List (TierCall F)} {c : TierCall F} (member : c ∈ t.tier4 actedOn) :
    c.tier = 4 := by
  unfold tier4 at member
  split at member
  · obtain ⟨e, -, rfl⟩ := List.mem_map.mp member
    rfl
  · cases member

omit [Arith F] in
/-- A list of calls that all carry one number has a call of a number exactly if it is that
number and the list acts on somebody. -/
theorem exists_tier_iff {calls : List (TierCall F)} {own : Nat} (numbered : ∀ c ∈ calls, c.tier = own)
    (n : Nat) : (∃ c ∈ calls, c.tier = n) ↔ n = own ∧ ∃ ip, ip ∈ calls.map (·.call.ip) := by
  constructor
  · rintro ⟨c, member, rfl⟩
    exact ⟨numbered c member, c.call.ip, List.mem_map_of_mem member⟩
  · rintro ⟨rfl, ip, listed⟩
    obtain ⟨c, member, -⟩ := List.mem_map.mp listed
    exact ⟨c, member, numbered c member⟩

theorem exists_tier1_iff : (∃ ip, ip ∈ t.tier1.map (·.call.ip)) ↔ t.Acts 1 := by
  simp only [mem_tier1_ip, Acts]
  constructor
  · rintro ⟨ip, ready, -, attacks⟩
    exact ⟨ready, attacks⟩
  · rintro ⟨ready, attacks⟩
    exact ⟨t.ip, ready, rfl, attacks⟩

theorem exists_tier2_iff : (∃ ip, ip ∈ (t.tier2 t.tier1).map (·.call.ip)) ↔ t.Acts 2 := by
  simp only [mem_tier2_ip, mem_tier1_ip, Acts]
  constructor
  · rintro ⟨ip, ready, fast, left⟩
    exact ⟨ready, ip, fast, fun taken => left ⟨ready, taken⟩⟩
  · rintro ⟨ready, ip, fast, left⟩
    exact ⟨ip, ready, fast, fun taken => left taken.2⟩

theorem exists_tier3_iff : (∃ ip, ip ∈ (t.tier3 t.blocking).map (·.call.ip)) ↔ t.Acts 3 := by
  simp only [mem_tier3_ip, mem_blocking_ip, Acts, Blocks]

theorem exists_tier4_iff :
    (∃ ip, ip ∈ (t.tier4 (t.blocking ++ t.tier3 t.blocking)).map (·.call.ip)) ↔ t.Acts 4 := by
  simp only [mem_tier4_ip, NoneActedOn, blocked_calls_iff, mem_blocking_ip, Acts, Blocks]
  constructor
  · rintro ⟨ip, listed, unblocked, slow⟩
    exact ⟨List.ne_nil_of_mem listed, fun ip => ⟨unblocked ip, slow ip⟩⟩
  · rintro ⟨flows, idle⟩
    obtain ⟨ip, listed⟩ := List.exists_mem_of_ne_nil _ flows
    exact ⟨ip, listed, fun ip => (idle ip).1, fun ip => (idle ip).2⟩

/-- A tier makes a call exactly if the rates say that it acts. -/
theorem exists_calls_tier_iff (n : Nat) : (∃ c ∈ t.calls, c.tier = n) ↔ t.Acts n := by
  have parts : (∃ c ∈ t.calls, c.tier = n) ↔
      n = 1 ∧ t.Acts 1 ∨ n = 2 ∧ t.Acts 2 ∨ n = 3 ∧ t.Acts 3 ∨ n = 4 ∧ t.Acts 4 := by
    rw [← exists_tier1_iff, ← exists_tier2_iff, ← exists_tier3_iff, ← exists_tier4_iff,
      ← exists_tier_iff (fun _ => tier1_number), ← exists_tier_iff (fun _ => tier2_number),
      ← exists_tier_iff (fun _ => tier3_number), ← exists_tier_iff (fun _ => tier4_number),
      calls_eq, blocking, throttling]
    simp only [List.mem_append, or_and_right, exists_or, or_assoc]
    rfl
  rw [parts]
  constructor
  · rintro (⟨rfl, acts⟩ | ⟨rfl, acts⟩ | ⟨rfl, acts⟩ | ⟨rfl, acts⟩) <;> exact acts
  · intro acts
    unfold Acts at acts
    split at acts
    · exact Or.inl ⟨rfl, acts⟩
    · exact Or.inr (Or.inl ⟨rfl, acts⟩)
    · exact Or.inr (Or.inr (Or.inl ⟨rfl, acts⟩))
    · exact Or.inr (Or.inr (Or.inr ⟨rfl, acts⟩))
    · exact acts.elim

end TierInputs

/-- A tier acts on a window: only on an attack with a dominant source Stage 2 can name. -/
def TierActs (env : WindowEnv F) (view : View F) (fv : FeatureVector F) (n : Nat) : Prop :=
  (classify env fv).1 = 2 ∧ dominantKnown fv = true ∧ (tierInputs env view fv).Acts n

theorem exists_windowCalls_tier_iff {env : WindowEnv F} {view : View F} {fv : FeatureVector F} {n : Nat}
    (numbered : 1 ≤ n) : (∃ c ∈ windowCalls env view fv, c.tier = n) ↔ TierActs env view fv n := by
  unfold windowCalls TierActs
  dsimp only
  split
  · next attack =>
    split
    · next known => simp [attack, known, TierInputs.exists_calls_tier_iff]
    · next unknown => simp [unknown]
  · next peace =>
    split
    · simp only [List.mem_singleton, exists_eq_left, peace, false_and, iff_false]
      omega
    · simp [peace]

theorem TierActs.numbered {env : WindowEnv F} {view : View F} {fv : FeatureVector F} {n : Nat}
    (acts : TierActs env view fv n) : 1 ≤ n := by
  apply Nat.one_le_iff_ne_zero.mpr
  rintro rfl
  exact acts.2.2

/-- Whatever is asked of their numbers, the tiers that made a call are those that act. -/
theorem exists_windowCalls_iff {env : WindowEnv F} {view : View F} {fv : FeatureVector F} (P : Nat → Prop) :
    (∃ c ∈ windowCalls env view fv, 1 ≤ c.tier ∧ P c.tier) ↔ ∃ n, P n ∧ TierActs env view fv n := by
  constructor
  · rintro ⟨c, made, numbered, asked⟩
    exact ⟨c.tier, asked, (exists_windowCalls_tier_iff numbered).mp ⟨c, made, rfl⟩⟩
  · rintro ⟨n, asked, acts⟩
    obtain ⟨c, made, rfl⟩ := (exists_windowCalls_tier_iff acts.numbered).mpr acts
    exact ⟨c, made, acts.numbered, asked⟩

omit [Arith F] in
theorem le_foldl_max_iff {m : Nat} (calls : List (TierCall F)) (reached : Nat) :
    m ≤ calls.foldl (fun reached c => max reached c.tier) reached ↔ m ≤ reached ∨ ∃ c ∈ calls, m ≤ c.tier := by
  induction calls generalizing reached with
  | nil => simp
  | cons c rest ih =>
    rw [List.foldl_cons, ih, le_max_iff, List.exists_mem_cons_iff, or_assoc]

theorem triggerFires_tier_iff {trigger : Fields F} {m : Nat} {seen : TriggerState}
    (typed : isType trigger "tier_reached" = true)
    (bound : (field? trigger "min_tier").getD one = .number (.finite (m : F))) :
    triggerFires trigger seen = .ok true ↔ m ≤ seen.tierReached := by
  simp only [triggerFires, typed, bound, if_true, atMost, Except.ok.injEq, decide_eq_true_eq, Nat.cast_le]

/-- What the dispatch leaves for the trigger is at least a tier's number exactly if that tier
or one of a larger number made a call. -/
theorem le_tierReached_iff {env : WindowEnv F} {view : View F} {fv : FeatureVector F} {m : Nat}
    (numbered : 1 ≤ m) :
    m ≤ (triggerState (nextView env view fv) (victimText env view fv)).tierReached ↔
      ∃ c ∈ windowCalls env view fv, m ≤ c.tier := by
  have kept : (triggerState (nextView env view fv) (victimText env view fv)).tierReached =
      (windowCalls env view fv).foldl (fun reached c => max reached c.tier) 0 := by
    simp only [triggerState, nextView, Dict.getD_set, if_true]
  rw [kept, le_foldl_max_iff, or_iff_right (Nat.not_le.mpr numbered)]

/-- On every window and for every positive `min_tier`, the trigger fires exactly if some tier
of that number or a larger one acted. -/
theorem tier_trigger_fires_iff (st : ReceiverState F) (a : Arrived F) (trigger : Fields F) (m : Nat)
    (typed : isType trigger "tier_reached" = true)
    (bound : (field? trigger "min_tier").getD one = .number (.finite (m : F))) (least : 1 ≤ m) :
    triggerFires trigger (triggerState (handleWindow st a).1.view (handleWindow st a).2.victimIp) = .ok true ↔
      ∃ c ∈ (handleWindow st a).2.calls, m ≤ c.tier := by
  rw [triggerFires_tier_iff typed bound]
  exact le_tierReached_iff least

/-- Tiers on both sides of a number act, or none does. -/
def ActsAround (env : WindowEnv F) (view : View F) (fv : FeatureVector F) (m : Nat) : Prop :=
  (∀ n, ¬ TierActs env view fv n) ∨
    (∃ n, n ≤ m ∧ TierActs env view fv n) ∧ ∃ n, m ≤ n ∧ TierActs env view fv n

/-- On every window and for every `min_tier` from 1 to 4, the trigger fires for exactly the
windows on which a tier at least as severe acted if and only if tiers on both sides of
`min_tier` act, or none does. -/
theorem tier_trigger_follows_severity_iff (st : ReceiverState F) (a : Arrived F) (trigger : Fields F) (m : Nat)
    (typed : isType trigger "tier_reached" = true)
    (bound : (field? trigger "min_tier").getD one = .number (.finite (m : F))) (least : 1 ≤ m) (_most : m ≤ 4) :
    (triggerFires trigger (triggerState (handleWindow st a).1.view (handleWindow st a).2.victimIp) = .ok true ↔
      ∃ c ∈ (handleWindow st a).2.calls, 1 ≤ c.tier ∧ c.tier ≤ m) ↔
    ActsAround a.env st.view a.fv m := by
  have fires : triggerFires trigger
      (triggerState (handleWindow st a).1.view (handleWindow st a).2.victimIp) = .ok true ↔
        ∃ n, m ≤ n ∧ TierActs a.env st.view a.fv n := by
    have positive : ∀ n, 1 ≤ n ∧ m ≤ n ↔ m ≤ n := by omega
    rw [triggerFires_tier_iff typed bound, ← exists_windowCalls_iff]
    simp only [positive]
    exact le_tierReached_iff least
  have acted : (∃ c ∈ (handleWindow st a).2.calls, 1 ≤ c.tier ∧ c.tier ≤ m) ↔
      ∃ n, n ≤ m ∧ TierActs a.env st.view a.fv n := exists_windowCalls_iff (· ≤ m)
  rw [fires, acted, ActsAround]
  constructor
  · intro same
    by_cases some : ∃ n, TierActs a.env st.view a.fv n
    · obtain ⟨n, acts⟩ := some
      rcases Nat.le_total n m with below | above
      · exact Or.inr ⟨⟨n, below, acts⟩, same.mpr ⟨n, below, acts⟩⟩
      · exact Or.inr ⟨same.mp ⟨n, above, acts⟩, ⟨n, above, acts⟩⟩
    · exact Or.inl fun n acts => some ⟨n, acts⟩
  · rintro (none | ⟨below, above⟩)
    · constructor
      · rintro ⟨n, -, acts⟩
        exact (none n acts).elim
      · rintro ⟨n, -, acts⟩
        exact (none n acts).elim
    · exact ⟨fun _ => below, fun _ => above⟩

/-- A trigger as the form builder writes it. -/
def tierTrigger (m : Nat) : Fields ℚ := [("type", .str "tier_reached"), ("min_tier", .number (.finite m))]

/-- The receiver after one window of an attack. -/
def afterFirst : ReceiverState ℚ := (handleWindow (ReceiverState.start []) (floodAt 100 [])).1

/-- The mixed flood has its first source blocked by Tier 1 and its second throttled by Tier 3, which
fires the trigger that asks for Tier 2 and not the one that asks for Tier 4. -/
theorem mixedFlood_fires :
    let handled := handleWindow afterFirst mixedFlood
    triggerFires (tierTrigger 2) (triggerState handled.1.view handled.2.victimIp) = .ok true ∧
      triggerFires (tierTrigger 4) (triggerState handled.1.view handled.2.victimIp) ≠ .ok true := by
  have third : ∃ c ∈ (handleWindow afterFirst mixedFlood).2.calls, 2 ≤ c.tier := by decide +kernel
  have none : ¬ ∃ c ∈ (handleWindow afterFirst mixedFlood).2.calls, 4 ≤ c.tier := by decide +kernel
  constructor
  · exact (tier_trigger_fires_iff afterFirst mixedFlood (tierTrigger 2) 2 (by decide +kernel) rfl
      (by decide)).mpr third
  · exact mt (tier_trigger_fires_iff afterFirst mixedFlood (tierTrigger 4) 4 (by decide +kernel) rfl
      (by decide)).mp none

/-- The aggregate fallback alone fires the trigger that asks for Tier 1, and Tier 1 alone does
not fire the one that asks for Tier 4. -/
theorem tier_trigger_inverts_severity :
    let fallback := handleWindow (ReceiverState.start []) (floodAt 100 [⟨"192.0.2.7", "10.0.0.1", 5⟩])
    let blocked := handleWindow afterFirst (floodAt 102 [])
    (triggerFires (tierTrigger 1) (triggerState fallback.1.view fallback.2.victimIp) = .ok true ∧
      ¬ ∃ c ∈ fallback.2.calls, 1 ≤ c.tier ∧ c.tier ≤ 1) ∧
    triggerFires (tierTrigger 4) (triggerState blocked.1.view blocked.2.victimIp) = .ok false ∧
      ∃ c ∈ blocked.2.calls, 1 ≤ c.tier ∧ c.tier ≤ 4 := by
  refine ⟨⟨?_, ?_⟩, ?_, ?_⟩ <;> decide +kernel

end Flod.Stage2
