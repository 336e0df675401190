import Flod.Stage2.Debounce

/-! A flood that keeps coming from one source. Whatever the classifier calls its windows,
the threshold checks make them an attack; once the hysteresis is met every one of them asks
for a block of the source, and the shared debounce can put that off by ten seconds only. -/

namespace Flod.Stage2
open Flod.Lib Flod.Net Flod.Ipc

variable {F : Type} [Arith F]

/-- A window of the victim that the source dominates by so much that no classifier is
needed, under settings that allow to block the source. -/
structure Overwhelming (windows : Nat) (source victim : String) (a : Arrived F) : Prop where
  ofVictim : decodeIp a.fv.victimIp.slot = victim
  fromSource : dominantText a.fv = source
  classes : ∀ clf ∈ a.env.clf, clf (features a.fv) = 0 ∨ clf (features a.fv) = 1 ∨ clf (features a.fv) = 2
  volume : a.fv.meanR + a.fv.kMultiplier * a.fv.sigmaR < a.fv.ewmaRate
  extreme : max a.env.cfg.blockRateFloorPps (a.fv.meanR + a.env.cfg.blockSigmaMultiplier * a.fv.sigmaR) <
    dominantRate a.fv
  share : a.env.cfg.dominantIpRatioBlockThreshold ≤ a.fv.dominantIpRatio
  rate : a.fv.meanR + a.fv.kMultiplier * a.fv.sigmaR ≤ dominantRate a.fv
  hysteresis : a.env.cfg.blockHysteresisWindows ≤ windows
  duration : a.env.cfg.blockDurationSeconds = 0 ∨ 10 ≤ a.env.cfg.blockDurationSeconds
  exposed : source ∉ a.env.outside.whitelist
  unshared : source ∉ a.env.outside.sharedIps
  succeeds : a.env.outside.ipsetSucceeds .ddosBlocklist source = true

/-- A window of another victim, after which nothing is done to the source. -/
def Elsewhere (source victim : String) (st : ReceiverState F) (a : Arrived F) : Prop :=
  victimText a.env st.view a.fv ≠ victim ∧
    ∀ c ∈ (windowCalls a.env st.view a.fv).map (·.call) ++ playbookCalls st a, source ≠ c.ip

/-- The clock is not behind the source's last stamp, and the window is one of the flood or
has nothing to do with the source. -/
def Presses (windows : Nat) (source victim : String) (st : ReceiverState F) (a : Arrived F) : Prop :=
  (∀ last ∈ st.firewall.recentlyBlocked.get? source, last ≤ a.env.outside.now) ∧
    (Overwhelming windows source victim a ∨ Elsewhere source victim st a)

section Decidable

variable (windows : Nat) (source victim : String)

instance (a : Arrived F) : Decidable (Overwhelming windows source victim a) :=
  decidable_of_iff
    (decodeIp a.fv.victimIp.slot = victim ∧ dominantText a.fv = source ∧
      (∀ clf ∈ a.env.clf, clf (features a.fv) = 0 ∨ clf (features a.fv) = 1 ∨ clf (features a.fv) = 2) ∧
      a.fv.meanR + a.fv.kMultiplier * a.fv.sigmaR < a.fv.ewmaRate ∧
      max a.env.cfg.blockRateFloorPps (a.fv.meanR + a.env.cfg.blockSigmaMultiplier * a.fv.sigmaR) <
        dominantRate a.fv ∧
      a.env.cfg.dominantIpRatioBlockThreshold ≤ a.fv.dominantIpRatio ∧
      a.fv.meanR + a.fv.kMultiplier * a.fv.sigmaR ≤ dominantRate a.fv ∧
      a.env.cfg.blockHysteresisWindows ≤ windows ∧
      (a.env.cfg.blockDurationSeconds = 0 ∨ 10 ≤ a.env.cfg.blockDurationSeconds) ∧
      source ∉ a.env.outside.whitelist ∧ source ∉ a.env.outside.sharedIps ∧
      a.env.outside.ipsetSucceeds .ddosBlocklist source = true)
    ⟨fun ⟨a, b, c, d, e, f, g, h, i, j, k, l⟩ => ⟨a, b, c, d, e, f, g, h, i, j, k, l⟩,
      fun ⟨a, b, c, d, e, f, g, h, i, j, k, l⟩ => ⟨a, b, c, d, e, f, g, h, i, j, k, l⟩⟩

instance (st : ReceiverState F) (a : Arrived F) : Decidable (Elsewhere source victim st a) :=
  inferInstanceAs (Decidable (_ ∧ _))

instance (st : ReceiverState F) (a : Arrived F) : Decidable (Presses windows source victim st a) :=
  inferInstanceAs (Decidable (_ ∧ _))

end Decidable

section Window

variable {windows : Nat} {source victim : String} {st : ReceiverState F} {a : Arrived F}

/-- The threshold checks have the last word on such a window. -/
theorem Overwhelming.attack (flood : Overwhelming windows source victim a) : (classify a.env a.fv).1 = 2 := by
  have label : ∀ predClass : Int, predClass = 0 ∨ predClass = 1 ∨ predClass = 2 →
      (applySafetyOverrides predClass a.fv (dominantRate a.fv) a.env.cfg).1 = 2 := by
    intro predClass known
    unfold applySafetyOverrides
    dsimp only
    rcases known with rfl | rfl | rfl
    · rw [if_pos ⟨Or.inl rfl, flood.volume⟩, if_pos flood.extreme]
    · rw [if_pos ⟨Or.inr rfl, flood.volume⟩, if_pos flood.extreme]
    · rw [if_neg (by simp)]
  unfold classify
  dsimp only
  apply label
  split
  · cases model : a.env.clf with
    | none => exact Or.inl rfl
    | some clf => exact flood.classes clf model
  · exact Or.inl rfl

variable (named : victim ∉ sentinelTexts)

include named

theorem Overwhelming.victimText (flood : Overwhelming windows source victim a) :
    victimText a.env st.view a.fv = victim := by
  rw [victimText_of_address (by rw [flood.ofVictim]; exact named), flood.ofVictim]

/-- Past the hysteresis the window asks for a block of the source. -/
theorem Overwhelming.blocks (flood : Overwhelming windows source victim a) (known : source ∉ sentinelTexts)
    (ready : windows ≤ st.view.consecutiveDdosWindows.getD victim 0 + 1) :
    ∃ c ∈ windowCalls a.env st.view a.fv, c.call.ip = source ∧
      c.call.duration = a.env.cfg.blockDurationSeconds ∧ EffectiveBlock a.env.outside c.call := by
  have attack := flood.attack
  have attributable : dominantKnown a.fv = true := by
    rw [dominantKnown, flood.fromSource]
    exact decide_eq_true known
  have due : (tierInputs a.env st.view a.fv).blockReady = true := by
    simp only [tierInputs, flood.victimText named, nextConsecutive, attack, if_true, decide_eq_true_eq]
    exact flood.hysteresis.trans ready
  have first : (tierInputs a.env st.view a.fv).tier1 =
      [(tierInputs a.env st.view a.fv).block 1 (dominantText a.fv) (dominantRate a.fv)] :=
    if_pos ⟨due, flood.share, flood.rate⟩
  refine ⟨(tierInputs a.env st.view a.fv).block 1 (dominantText a.fv) (dominantRate a.fv), ?_, flood.fromSource,
    rfl, rfl, ?_, ?_, ?_⟩
  · unfold windowCalls
    dsimp only
    rw [if_pos attack, if_pos attributable]
    simp only [TierInputs.calls, first, List.mem_append, List.mem_singleton, true_or]
  · exact flood.fromSource ▸ flood.exposed
  · exact flood.fromSource ▸ flood.unshared
  · exact flood.fromSource ▸ flood.succeeds

/-- The streak of the victim grows with every window of the flood, and with no other. -/
theorem Presses.streak (presses : Presses windows source victim st a) :
    (handleWindow st a).1.view.consecutiveDdosWindows.getD victim 0 =
      st.view.consecutiveDdosWindows.getD victim 0 +
        if decodeIp a.fv.victimIp.slot = victim then 1 else 0 := by
  change (st.view.consecutiveDdosWindows.set (Stage2.victimText a.env st.view a.fv) _).getD victim 0 = _
  rw [Dict.getD_set]
  rcases presses.2 with flood | ⟨other, -⟩
  · rw [if_pos (flood.victimText named), flood.victimText named, if_pos flood.ofVictim, nextConsecutive,
      if_pos flood.attack]
  · have apart : decodeIp a.fv.victimIp.slot ≠ victim := by
      intro same
      exact other (by rw [victimText_of_address (by rw [same]; exact named), same])
    rw [if_neg other, if_neg apart, Nat.add_zero]

end Window

section Stamps

variable (env : Surroundings F) (reported : List String) (fw : Firewall F)

/-- Calls of one moment stamp an address with that moment, if at all. -/
theorem performAll_recent (ip : String) (calls : List (Call F)) :
    (performAll env reported fw calls).recentlyBlocked.get? ip = fw.recentlyBlocked.get? ip ∨
      (performAll env reported fw calls).recentlyBlocked.get? ip = some env.now := by
  induction calls generalizing fw with
  | nil => exact Or.inl rfl
  | cons c rest ih =>
    rcases ih (perform env reported fw c) with same | stamped
    · have one : (perform env reported fw c).recentlyBlocked.get? ip = fw.recentlyBlocked.get? ip ∨
          (perform env reported fw c).recentlyBlocked.get? ip = some env.now := by
        have set : (fw.recentlyBlocked.set c.ip env.now).get? ip = fw.recentlyBlocked.get? ip ∨
            (fw.recentlyBlocked.set c.ip env.now).get? ip = some env.now := by
          rw [Dict.get?_set]
          split
          · exact Or.inr rfl
          · exact Or.inl rfl
        cases perform_cases env reported fw c with
        | suppressed recent kept => rw [kept]; exact Or.inl rfl
        | stamped due spared recent listed => rw [recent]; exact set
        | blocked due effective recent listed => rw [recent]; exact set
      rcases one with kept | stamped
      · exact Or.inl (same.trans kept)
      · exact Or.inr (same.trans stamped)
    · exact Or.inr stamped

/-- A call for an address that is not debounced leaves the moment's stamp. -/
theorem performAll_stamps {calls : List (Call F)} {c : Call F} (member : c ∈ calls)
    (due : fw.debounced env.now c.ip = false) :
    (performAll env reported fw calls).recentlyBlocked.get? c.ip = some env.now := by
  have after : (performAll env reported fw calls).debounced env.now c.ip = true := by
    obtain ⟨earlier, later, rfl⟩ := List.append_of_mem member
    rw [(performAll_later reported earlier later).debounced env.now]
    exact perform_debounced reported
  rcases performAll_recent env reported fw c.ip calls with same | stamped
  · rw [Firewall.debounced, same] at after
    rw [Firewall.debounced] at due
    rw [due] at after
    cases after
  · exact stamped

theorem handleWindow_recent (st : ReceiverState F) (a : Arrived F) (ip : String) :
    (handleWindow st a).1.firewall.recentlyBlocked.get? ip = st.firewall.recentlyBlocked.get? ip ∨
      (handleWindow st a).1.firewall.recentlyBlocked.get? ip = some a.env.outside.now := by
  rw [handleWindow_firewall]
  exact performAll_recent _ _ _ _ _

end Stamps

/-- The last thing done to the source was to block it, for long enough to outlast the
debounce; or all that was done to it lies before the given time. -/
def Secured (time : F) (source : String) (fw : Firewall F) : Prop :=
  (∃ last duration, fw.recentlyBlocked.get? source = some last ∧
      fw.ddosBlocklist.get? source = some (expiry last duration) ∧ (duration = 0 ∨ 10 ≤ duration)) ∨
    ∀ last ∈ fw.recentlyBlocked.get? source, last ≤ time

section Flood

variable {windows : Nat} {source victim : String} {st : ReceiverState F} {a : Arrived F}

theorem SameFor.secured {time : F} {fw fw' : Firewall F} (same : SameFor source fw fw')
    (secured : Secured time source fw) : Secured time source fw' := by
  unfold Secured
  rw [same.recent, same.listed]
  exact secured

omit [Arith F] in
theorem SameFor.logged (ip : String) (fw : Firewall F) (logs : List (Incident F)) :
    SameFor ip fw { fw with logs := logs } := ⟨rfl, rfl⟩

/-- A window that has nothing to do with the source leaves it as it was. -/
theorem Elsewhere.same (elsewhere : Elsewhere source victim st a) :
    SameFor source st.firewall (handleWindow st a).1.firewall := by
  rw [handleWindow_firewall]
  exact (SameFor.logged source st.firewall _).trans (performAll_other _ _ elsewhere.2)

/-- Before the hysteresis is met all that matters is when the source was acted on. -/
theorem Presses.stamped {time : F} (presses : Presses windows source victim st a)
    (now : a.env.outside.now ≤ time) :
    ∀ last ∈ (handleWindow st a).1.firewall.recentlyBlocked.get? source, last ≤ time := by
  intro last recent
  rcases handleWindow_recent st a source with same | stamped
  · rw [same] at recent
    exact (presses.1 last recent).trans now
  · rw [stamped] at recent
    cases recent
    exact now

variable (named : victim ∉ sentinelTexts) (known : source ∉ sentinelTexts)

include named known

/-- Past the hysteresis each window of the flood blocks the source or finds it debounced. -/
theorem Presses.secured {time : F} (presses : Presses windows source victim st a)
    (ready : windows ≤ st.view.consecutiveDdosWindows.getD victim 0)
    (secured : Secured time source st.firewall) : Secured time source (handleWindow st a).1.firewall := by
  rcases presses.2 with flood | elsewhere
  · obtain ⟨c, member, rfl, lasts, effective⟩ := flood.blocks named known (Nat.le_succ_of_le ready)
    have listed := handleWindow_block member effective
    cases recent : st.firewall.debounced a.env.outside.now c.call.ip with
    | true =>
      have same : SameFor c.call.ip st.firewall (handleWindow st a).1.firewall := by
        rw [handleWindow_firewall]
        refine (SameFor.logged _ st.firewall _).trans (performAll_debounced _ _ ?_)
        exact recent
      exact same.secured secured
    | false =>
      rw [recent, if_neg Bool.false_ne_true] at listed
      refine Or.inl ⟨a.env.outside.now, c.call.duration, ?_, listed, lasts ▸ flood.duration⟩
      rw [handleWindow_firewall]
      exact performAll_stamps _ _ _ (List.mem_append_left _ (List.mem_map_of_mem member)) recent
  · exact elsewhere.same.secured secured

/-- A window of the flood ten seconds later finds the source blocked, or blocks it. -/
theorem Overwhelming.blocked {time : F} (flood : Overwhelming windows source victim a)
    (ready : windows ≤ st.view.consecutiveDdosWindows.getD victim 0)
    (secured : Secured time source st.firewall) (late : time + debounceSecs ≤ a.env.outside.now) :
    (handleWindow st a).1.firewall.blocks a.env.outside.now source = true := by
  obtain ⟨c, member, rfl, -, effective⟩ := flood.blocks named known (Nat.le_succ_of_le ready)
  rw [handleWindow_blocks_iff member effective]
  cases recent : st.firewall.debounced a.env.outside.now c.call.ip with
  | false => exact Or.inl rfl
  | true =>
    right
    unfold Firewall.debounced at recent
    rcases secured with ⟨last, duration, stamped, listed, lasts⟩ | early
    · rw [stamped] at recent
      have close : a.env.outside.now - last < debounceSecs := of_decide_eq_true recent
      rcases lasts with rfl | long
      · simp [Firewall.blocks, listed, expiry]
      · have within : (debounceSecs : F) ≤ (duration : F) := by
          have cast : ((10 : Nat) : F) ≤ (duration : F) := Nat.cast_le.mpr long
          rw [debounceSecs]
          norm_num at cast ⊢
          exact cast
        have positive : duration ≠ 0 := by omega
        simp only [Firewall.blocks, listed, expiry, if_neg positive, decide_eq_true_eq]
        linarith
    · cases stamped : st.firewall.recentlyBlocked.get? c.call.ip with
      | none => simp [stamped] at recent
      | some last =>
        simp only [stamped, decide_eq_true_eq] at recent
        have before := early last stamped
        linarith

end Flood

section Runs

variable {windows : Nat} {source victim : String}

/-- The windows of the victim. -/
def windowsAt (victim : String) (arrived : List (Arrived F)) : List (Arrived F) :=
  arrived.filter (fun a => decide (decodeIp a.fv.victimIp.slot = victim))

theorem receive_eq {st next : ReceiverState F} {a : Arrived F} {handled : Handled F}
    (taken : receive st a = some (next, handled)) : next = (handleWindow st a).1 := by
  rw [receive, Option.some.injEq] at taken
  rw [taken]

theorem Presses.run_streak (named : victim ∉ sentinelTexts) {arrived : List (Arrived F)} {st final : ReceiverState F}
    {outs : List (Handled F)} (presses : Always receive (fun st a _ _ => Presses windows source victim st a) st arrived)
    (ran : run receive st arrived = some (final, outs)) :
    final.view.consecutiveDdosWindows.getD victim 0 =
      st.view.consecutiveDdosWindows.getD victim 0 + (windowsAt victim arrived).length := by
  induction arrived generalizing st outs with
  | nil =>
    simp only [run, Option.some.injEq, Prod.mk.injEq] at ran
    simp [windowsAt, ran.1]
  | cons a arrived ih =>
    obtain ⟨mid, handled, rest, taken, later, rfl⟩ := run_cons ran
    obtain ⟨now, others⟩ := presses mid handled taken
    obtain rfl := receive_eq taken
    rw [ih others later, now.streak named]
    by_cases own : decodeIp a.fv.victimIp.slot = victim
    · simp only [windowsAt, List.filter_cons, own, decide_true, if_true, List.length_cons]
      omega
    · simp [windowsAt, own]

/-- Whatever the classifier, the playbooks and the windows of other victims: once the flood
has met the hysteresis, its every window ten seconds later leaves the source blocked. -/
theorem sustained_flood_blocked (windows : Nat) (source victim : String) (several : 0 < windows)
    (named : victim ∉ sentinelTexts) (known : source ∉ sentinelTexts) (st : ReceiverState F)
    (opening later : List (Arrived F)) (last : Arrived F)
    (presses : Always receive (fun st a _ _ => Presses windows source victim st a) st (opening ++ (later ++ [last])))
    (enough : windows ≤ (windowsAt victim opening).length) (time : F)
    (early : ∀ a ∈ opening, a.env.outside.now ≤ time) (own : decodeIp last.fv.victimIp.slot = victim)
    (late : time + debounceSecs ≤ last.env.outside.now) (final : ReceiverState F) (outs : List (Handled F))
    (ran : run receive st (opening ++ (later ++ [last])) = some (final, outs)) :
    final.firewall.blocks last.env.outside.now source = true := by
  obtain ⟨met, outs₁, outs₂, opened, followed, rfl⟩ := run_append ran
  obtain ⟨duringOpening, afterwards⟩ := presses.append opened
  obtain ⟨before, outs₃, outs₄, went, ended, rfl⟩ := run_append followed
  obtain ⟨duringLater, atLast⟩ := afterwards.append went
  have stamps : ∀ at' ∈ met.firewall.recentlyBlocked.get? source, at' ≤ time := by
    have timely := run_history_of_always
      (I := fun past s => past ≠ [] → ∀ at' ∈ s.firewall.recentlyBlocked.get? source, at' ≤ time)
      (fun past s a mid o _ taken met _ => receive_eq taken ▸ met.2.stamped met.1)
      opening [] st met outs₁ (fun none => absurd rfl none) (duringOpening.and_events early) opened
    apply timely
    intro none
    have length := run_length opened
    rw [List.nil_append] at none
    rw [none] at length
    have most := List.length_filter_le (fun a : Arrived F => decide (decodeIp a.fv.victimIp.slot = victim)) opening
    rw [← length, List.length_nil] at most
    unfold windowsAt at enough
    omega
  have ready : windows ≤ met.view.consecutiveDdosWindows.getD victim 0 := by
    rw [Presses.run_streak named duringOpening opened]
    omega
  have held := run_history_of_always
    (I := fun _ s => windows ≤ s.view.consecutiveDdosWindows.getD victim 0 ∧ Secured time source s.firewall)
    (fun past s a mid o inv taken met => by
      obtain rfl := receive_eq taken
      refine ⟨?_, met.secured named known inv.1 inv.2⟩
      rw [met.streak named]
      exact Nat.le_add_right_of_le inv.1)
    later [] met before outs₃ ⟨ready, Or.inr stamps⟩ duringLater went
  obtain ⟨final', handled, rest, taken, stopped, rfl⟩ := run_cons ended
  obtain ⟨-, flood | elsewhere⟩ := (atLast _ _ taken).1
  · cases stopped
    rw [receive_eq taken]
    exact flood.blocked named known held.1 held.2 late
  · exact absurd (by rw [victimText_of_address (by rw [own]; exact named), own]) elsewhere.1

/-- The second window finds the source debounced; ten seconds later it is blocked. -/
theorem throttledFlood_then_blocked :
    ∃ final outs, run receive (ReceiverState.start []) (throttledFlood ++ ([] ++ [floodAt 112 []])) =
      some (final, outs) ∧ final.firewall.blocks 112 "192.0.2.1" = true := by
  have ran : ∃ final outs, run receive (ReceiverState.start []) (throttledFlood ++ ([] ++ [floodAt 112 []])) =
        some (final, outs) ∧
      Always receive (fun st a _ _ => Presses 2 "192.0.2.1" "10.0.0.1" st a) (ReceiverState.start [])
        (throttledFlood ++ ([] ++ [floodAt 112 []])) := by
    decide +kernel
  obtain ⟨final, outs, reached, presses⟩ := ran
  refine ⟨final, outs, reached, ?_⟩
  exact sustained_flood_blocked 2 "192.0.2.1" "10.0.0.1" (by decide) (by decide) (by decide)
    (ReceiverState.start []) throttledFlood [] (floodAt 112 []) presses (by decide +kernel) 102 (by decide +kernel)
    (by decide +kernel) (by decide +kernel) final outs reached

end Runs

end Flod.Stage2
