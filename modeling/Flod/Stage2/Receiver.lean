import Flod.Ipc.FeatureVector
import Flod.Stage2.Enforcement

/-! What Stage 2 makes of one window: its class, the counters it moves, and the calls of
the four tiers. None of this reads the firewall, so the calls are listed first and
performed afterwards. -/

namespace Flod.Stage2
open Flod.Lib Flod.Net Flod.Ipc

variable {F : Type} [Arith F]

/-- One entry of the sensor's flow file. -/
structure Flow (F : Type) where
  ip : String
  dst : String
  rate : F

structure FlowFile (F : Type) where
  timestamp : Option F
  activeIps : List (Flow F)

/-- Everything the handling of one window depends on besides the receiver's own state. -/
structure WindowEnv (F : Type) where
  outside : Surroundings F
  cfg : EnforcementConfig F
  flowFile : Option (FlowFile F)
  flowsMaxAgeSecs : F
  clf : Option (List F → Int)
  ifClf : Option (List F → Bool)

/-- Rates of the sources now sending to the victim, each summed over its flows. A file
that is too old or has no time stamp counts for nothing. -/
def loadVictimFlowRates (env : WindowEnv F) (victimIp : String) : Dict String F :=
  match env.flowFile with
  | none => Dict.empty
  | some file =>
      match file.timestamp with
      | none => Dict.empty
      | some written =>
          if env.flowsMaxAgeSecs < env.outside.now - written then Dict.empty
          else
            file.activeIps.foldl (fun rates flow =>
              if flow.dst = victimIp ∧ flow.ip ≠ "" ∧ flow.ip ∉ sentinelTexts then
                rates.set flow.ip (rates.getD flow.ip 0 + flow.rate)
              else rates) Dict.empty

/-- Threshold checks on top of the classifier, with the per-source block bar they share
with Tier 2. -/
def applySafetyOverrides (predClass : Int) (fv : FeatureVector F) (dominantRate : F)
    (cfg : EnforcementConfig F) : Int × F :=
  let extremeDominantRateBoundary :=
    max cfg.blockRateFloorPps (fv.meanR + cfg.blockSigmaMultiplier * fv.sigmaR)
  if (predClass = 0 ∨ predClass = 1) ∧ fv.meanR + fv.kMultiplier * fv.sigmaR < fv.ewmaRate then
    if extremeDominantRateBoundary < dominantRate then (2, extremeDominantRateBoundary)
    else if fv.entropy < fv.meanH - fv.kMultiplier * fv.sigmaH ∨
        cfg.dominantIpRatioExtremeThreshold < fv.dominantIpRatio then (2, extremeDominantRateBoundary)
    else (1, extremeDominantRateBoundary)
  else (predClass, extremeDominantRateBoundary)

def dominantRate (fv : FeatureVector F) : F := fv.ewmaRate * fv.dominantIpRatio

/-- The classifier's inputs in the order it was trained on. -/
def features (fv : FeatureVector F) : List F :=
  [fv.entropy, fv.ewmaRate, fv.meanH, fv.meanR, fv.sigmaH, fv.sigmaR, fv.protoRatio,
    fv.dominantIpRatio, fv.ewmaRate - fv.meanR, fv.entropy - fv.meanH, dominantRate fv,
    fv.sourcePortEntropy, fv.ttlVariance, fv.fingerprintDiversity]

/-- The class after the overrides and the block bar. Neither model runs in warm-up. -/
def classify (env : WindowEnv F) (fv : FeatureVector F) : Int × F :=
  let predClass := if fv.isWarmup = 0 then (env.clf.map (· (features fv))).getD 0 else 0
  applySafetyOverrides predClass fv (dominantRate fv) env.cfg

def isAnomalous (env : WindowEnv F) (fv : FeatureVector F) (predClass : Int) : Bool :=
  decide (fv.isWarmup = 0) && decide (predClass = 0 ∨ predClass = 1) &&
    (env.ifClf.map (· (features fv))).getD false

def className (predClass : Int) : Classification :=
  if predClass = 1 then .flashCrowd else if predClass = 2 then .ddos else .normal

/-- One call of a tier. The flash crowd precaution is not a tier and has number 0. -/
structure TierCall (F : Type) where
  tier : Nat
  call : Call F

/-- What the tiers decide for a window of class 2 with an attributable dominant source. -/
structure TierInputs (F : Type) where
  cfg : EnforcementConfig F
  fv : FeatureVector F
  ip : String
  victimIp : String
  blockThreshold : F
  blockReady : Bool
  perSourceRate : Dict String F

namespace TierInputs

def block (t : TierInputs F) (tier : Nat) (ip : String) (rate : F) : TierCall F :=
  ⟨tier, ⟨.block, ip, t.cfg.blockDurationSeconds, t.victimIp, some rate, some t.fv.entropy⟩⟩

def ratelimit (t : TierInputs F) (tier : Nat) (ip : String) (rate : F) : TierCall F :=
  ⟨tier, ⟨.ratelimit .rateLimited, ip, t.cfg.ratelimitDurationSeconds, t.victimIp, some rate,
    some t.fv.entropy⟩⟩

/-- The dominant source, when it is both concentrated and fast. -/
def tier1 (t : TierInputs F) : List (TierCall F) :=
  if t.blockReady ∧ t.cfg.dominantIpRatioBlockThreshold ≤ t.fv.dominantIpRatio ∧
      t.fv.meanR + t.fv.kMultiplier * t.fv.sigmaR ≤ dominantRate t.fv then
    [t.block 1 t.ip (dominantRate t.fv)]
  else []

/-- The sources of the snapshot at or above a rate, none of those already acted on. A
source occurs once, so the ones this loop adds need no second look. -/
def remaining (t : TierInputs F) (actedOn : List (TierCall F)) (threshold : F) : List (String × F) :=
  t.perSourceRate.entries.filter (fun e =>
    decide (e.1 ∉ actedOn.map (·.call.ip)) && decide (threshold ≤ e.2))

/-- Every source too fast for any single client. -/
def tier2 (t : TierInputs F) (actedOn : List (TierCall F)) : List (TierCall F) :=
  if t.blockReady then (t.remaining actedOn t.blockThreshold).map (fun e => t.block 2 e.1 e.2) else []

/-- Elevated sources, throttled at once whatever the hysteresis says. -/
def tier3 (t : TierInputs F) (actedOn : List (TierCall F)) : List (TierCall F) :=
  (t.remaining actedOn (max t.cfg.ratelimitRateFloorPps (t.fv.meanR + t.fv.sigmaR))).map
    (fun e => t.ratelimit 3 e.1 e.2)

/-- Every source of the snapshot, when no tier acted on any. -/
def tier4 (t : TierInputs F) (actedOn : List (TierCall F)) : List (TierCall F) :=
  if actedOn.isEmpty then t.perSourceRate.entries.map (fun e => t.ratelimit 4 e.1 e.2) else []

def calls (t : TierInputs F) : List (TierCall F) :=
  let first := t.tier1
  let second := first ++ t.tier2 first
  let third := second ++ t.tier3 second
  third ++ t.tier4 third

/-- How a call comes about. Only the two blocking tiers wait for the hysteresis. -/
inductive Makes (t : TierInputs F) : TierCall F → Prop where
  | dominant (ready : t.blockReady = true) : Makes t (t.block 1 t.ip (dominantRate t.fv))
  | source (ready : t.blockReady = true) {e : String × F} (listed : e ∈ t.perSourceRate.entries) :
      Makes t (t.block 2 e.1 e.2)
  | throttled (tier : Nat) {e : String × F} (listed : e ∈ t.perSourceRate.entries) :
      Makes t (t.ratelimit tier e.1 e.2)

theorem makes_of_mem {t : TierInputs F} {c : TierCall F} (member : c ∈ t.calls) : t.Makes c := by
  simp only [calls, List.mem_append, or_assoc] at member
  rcases member with first | second | third | fourth
  · simp only [tier1] at first
    split at first
    · next conditions =>
      rw [List.mem_singleton.mp first]
      exact .dominant conditions.1
    · cases first
  · simp only [tier2] at second
    split at second
    · next ready =>
      obtain ⟨e, remains, rfl⟩ := List.mem_map.mp second
      exact .source ready (List.mem_of_mem_filter remains)
    · cases second
  · obtain ⟨e, remains, rfl⟩ := List.mem_map.mp third
    exact .throttled 3 (List.mem_of_mem_filter remains)
  · simp only [tier4] at fourth
    split at fourth
    · obtain ⟨e, listed, rfl⟩ := List.mem_map.mp fourth
      exact .throttled 4 listed
    · cases fourth

/-- Whatever the tiers act on is the dominant source or one of the snapshot. -/
theorem mem_calls_ip {t : TierInputs F} {c : TierCall F} (member : c ∈ t.calls) :
    c.call.ip = t.ip ∨ c.call.ip ∈ t.perSourceRate.keys := by
  cases makes_of_mem member with
  | dominant ready => exact Or.inl rfl
  | source ready listed => exact Or.inr (List.mem_map_of_mem listed)
  | throttled tier listed => exact Or.inr (List.mem_map_of_mem listed)

/-- The fallback leaves no class 2 window with a snapshot unanswered. -/
theorem calls_ne_nil {t : TierInputs F} (flows : t.perSourceRate.entries ≠ []) : t.calls ≠ [] := by
  simp only [calls]
  intro none
  obtain ⟨third, fourth⟩ := List.append_eq_nil_iff.mp none
  rw [third] at fourth
  simp only [tier4, List.isEmpty_nil, if_true, List.map_eq_nil_iff] at fourth
  exact flows fourth

/-- Every block is for the window's victim, and only past the hysteresis. -/
theorem mem_calls_block {t : TierInputs F} {c : TierCall F} (member : c ∈ t.calls)
    (blocks : c.call.action = .block) : c.call.victimIp = t.victimIp ∧ t.blockReady = true := by
  cases makes_of_mem member with
  | dominant ready => exact ⟨rfl, ready⟩
  | source ready listed => exact ⟨rfl, ready⟩
  | throttled tier listed => cases blocks

/-- A tier that takes from the snapshot only what is left acts on no address twice. -/
theorem nodup_append_remaining (t : TierInputs F) {actedOn : List (TierCall F)} (threshold : F)
    (distinct : (actedOn.map (·.call.ip)).Nodup) (act : String × F → TierCall F)
    (own : ∀ e, (act e).call.ip = e.1) :
    ((actedOn ++ (t.remaining actedOn threshold).map act).map (·.call.ip)).Nodup := by
  have taken : ((t.remaining actedOn threshold).map act).map (·.call.ip) =
      (t.remaining actedOn threshold).map Prod.fst := by
    simp only [List.map_map, Function.comp_def, own]
  rw [List.map_append, taken]
  refine distinct.append (t.perSourceRate.nodup.sublist (List.filter_sublist.map _)) ?_
  intro ip acted left
  obtain ⟨e, member, rfl⟩ := List.mem_map.mp left
  have untouched := (List.mem_filter.mp member).2
  simp only [Bool.and_eq_true, decide_eq_true_eq] at untouched
  exact untouched.1 acted

theorem calls_nodup (t : TierInputs F) : (t.calls.map (·.call.ip)).Nodup := by
  have first : (t.tier1.map (·.call.ip)).Nodup := by
    unfold tier1
    split <;> simp
  have second : ((t.tier1 ++ t.tier2 t.tier1).map (·.call.ip)).Nodup := by
    unfold tier2
    split
    · exact t.nodup_append_remaining _ first _ (fun _ => rfl)
    · simpa using first
  have third := t.nodup_append_remaining
    (max t.cfg.ratelimitRateFloorPps (t.fv.meanR + t.fv.sigmaR)) second
    (fun e => t.ratelimit 3 e.1 e.2) (fun _ => rfl)
  simp only [calls, tier4]
  split
  · next idle =>
    rw [show t.tier1 ++ t.tier2 t.tier1 ++ t.tier3 (t.tier1 ++ t.tier2 t.tier1) = [] from
      List.isEmpty_iff.mp idle, List.nil_append, List.map_map]
    exact t.perSourceRate.nodup
  · rw [List.append_nil]
    exact third

end TierInputs

/-- The receiver's state besides the firewall. -/
structure View (F : Type) where
  lastClassificationByTarget : Dict String Classification
  lastMetricsByTarget : Dict String (FeatureVector F)
  consecutiveDdosWindows : Dict String Nat
  lastTierReached : Dict String Nat
  lastBlockAlert : Dict String F

def View.empty : View F := ⟨Dict.empty, Dict.empty, Dict.empty, Dict.empty, Dict.empty⟩

inductive Alert (F : Type) where
  | ddosDetected (victimIp : String) (fv : FeatureVector F)
  | ddosResolved (victimIp : String) (name : Classification) (fv : FeatureVector F)
  | ipBlocked (ip victimIp : String) (rate : F)
  | aggregateFallback (victimIp : String) (flows : Nat)
  | playbook (host : String) (source : Option String) (channel : String)

/-- One window as it was handled. -/
structure Handled (F : Type) where
  victimIp : String
  dominantIp : String
  predClass : Int
  name : Classification
  calls : List (TierCall F)
  alerts : List (Alert F)

/-- The dominant source as Stage 2 reads it off the wire. -/
def dominantText (fv : FeatureVector F) : String := decodeIp fv.dominantIp.slot

def dominantKnown (fv : FeatureVector F) : Bool := decide (dominantText fv ∉ sentinelTexts)

/-- The victim a window is filed under. -/
def victimText (env : WindowEnv F) (view : View F) (fv : FeatureVector F) : String :=
  resolveVictimIp env.outside.victims view.lastMetricsByTarget.keys (decodeIp fv.victimIp.slot)

omit [Arith F] in
theorem victimText_of_address {env : WindowEnv F} {view : View F} {fv : FeatureVector F}
    (address : decodeIp fv.victimIp.slot ∉ sentinelTexts) :
    victimText env view fv = decodeIp fv.victimIp.slot := by
  simp only [victimText, resolveVictimIp, decodeIp_ne_empty, address, ne_eq, not_false_eq_true, and_self,
    if_true]

/-- The streak of class 2 windows, this one included. -/
def nextConsecutive (view : View F) (victimIp : String) (predClass : Int) : Nat :=
  if predClass = 2 then view.consecutiveDdosWindows.getD victimIp 0 + 1 else 0

def tierInputs (env : WindowEnv F) (view : View F) (fv : FeatureVector F) : TierInputs F where
  cfg := env.cfg
  fv := fv
  ip := dominantText fv
  victimIp := victimText env view fv
  blockThreshold := (classify env fv).2
  blockReady := decide (env.cfg.blockHysteresisWindows ≤
    nextConsecutive view (victimText env view fv) (classify env fv).1)
  perSourceRate := loadVictimFlowRates env (victimText env view fv)

/-- The calls a window leads to. A class 2 window without an attributable dominant source
leads to none; a flash crowd may have its dominant source throttled. -/
def windowCalls (env : WindowEnv F) (view : View F) (fv : FeatureVector F) : List (TierCall F) :=
  let predClass := (classify env fv).1
  if predClass = 2 then if dominantKnown fv then (tierInputs env view fv).calls else []
  else if predClass = 1 ∧ dominantKnown fv ∧
      env.cfg.dominantIpRatioBlockThreshold ≤ fv.dominantIpRatio ∧
      fv.meanR + fv.kMultiplier * fv.sigmaR ≤ dominantRate fv then
    [⟨0, ⟨.ratelimit .rateLimitedFlash, dominantText fv, env.cfg.ratelimitDurationSeconds,
      victimText env view fv, some (dominantRate fv), some fv.entropy⟩⟩]
  else []

/-- A block is for the window's victim, whose class 2 windows in a row are enough. -/
theorem mem_windowCalls_block {env : WindowEnv F} {view : View F} {fv : FeatureVector F} {c : TierCall F}
    (member : c ∈ windowCalls env view fv) (blocks : c.call.action = .block) :
    (classify env fv).1 = 2 ∧ c.call.victimIp = victimText env view fv ∧
      env.cfg.blockHysteresisWindows ≤
        view.consecutiveDdosWindows.getD (victimText env view fv) 0 + 1 := by
  unfold windowCalls at member
  dsimp only at member
  split at member
  · next attack =>
    split at member
    · obtain ⟨own, ready⟩ := TierInputs.mem_calls_block member blocks
      simp only [tierInputs, nextConsecutive, attack, if_true, decide_eq_true_eq] at ready
      exact ⟨attack, own, ready⟩
    · cases member
  · split at member
    · rw [List.mem_singleton.mp member] at blocks
      cases blocks
    · cases member

theorem windowCalls_nodup (env : WindowEnv F) (view : View F) (fv : FeatureVector F) :
    ((windowCalls env view fv).map (·.call.ip)).Nodup := by
  unfold windowCalls
  dsimp only
  split
  · split
    · exact TierInputs.calls_nodup _
    · exact List.nodup_nil
  · split <;> simp

def windowName (env : WindowEnv F) (fv : FeatureVector F) : Classification :=
  let predClass := (classify env fv).1
  if isAnomalous env fv predClass then .anomalous else className predClass

/-- Alerts fire on a change to or from an attack only. -/
def transitionAlerts (previous : Option Classification) (name : Classification) (victimIp : String)
    (fv : FeatureVector F) : List (Alert F) :=
  if name = .ddos ∧ previous ≠ some .ddos then [.ddosDetected victimIp fv]
  else if name ≠ .ddos ∧ previous = some .ddos then [.ddosResolved victimIp name fv]
  else []

/-- `_maybe_alert_block` after each block of Tier 1 or 2. -/
def alertBlocks (env : WindowEnv F) (lastBlockAlert : Dict String F) :
    List (TierCall F) → Dict String F × List (Alert F)
  | [] => (lastBlockAlert, [])
  | c :: rest =>
      if c.call.action = .block ∧ ¬ env.outside.now - lastBlockAlert.getD c.call.ip 0 <
          (env.cfg.blockDurationSeconds : F) then
        let later := alertBlocks env (lastBlockAlert.set c.call.ip env.outside.now) rest
        (later.1, .ipBlocked c.call.ip c.call.victimIp (c.call.srcRate.getD 0) :: later.2)
      else alertBlocks env lastBlockAlert rest

def fallbackAlerts (calls : List (TierCall F)) (victimIp : String) : List (Alert F) :=
  let fallback := calls.filter (fun c => decide (c.tier = 4))
  if fallback.isEmpty then [] else [.aggregateFallback victimIp fallback.length]

/-- The window's own incident row: none for an attack, which its calls record, nor for a
window that names no source. -/
def windowIncident (env : WindowEnv F) (view : View F) (fv : FeatureVector F) : List (Incident F) :=
  let predClass := (classify env fv).1
  if (predClass = 0 ∨ predClass = 1) ∧ dominantKnown fv then
    [⟨fv.timestamp, dominantText fv, .window (windowName env fv), victimText env view fv,
      some (dominantRate fv), some fv.entropy⟩]
  else []

def handledWindow (env : WindowEnv F) (view : View F) (fv : FeatureVector F) : Handled F where
  victimIp := victimText env view fv
  dominantIp := dominantText fv
  predClass := (classify env fv).1
  name := windowName env fv
  calls := windowCalls env view fv
  alerts :=
    transitionAlerts (view.lastClassificationByTarget.get? (victimText env view fv)) (windowName env fv)
        (victimText env view fv) fv ++
      (alertBlocks env view.lastBlockAlert (windowCalls env view fv)).2 ++
      fallbackAlerts (windowCalls env view fv) (victimText env view fv)

def nextView (env : WindowEnv F) (view : View F) (fv : FeatureVector F) : View F :=
  let victimIp := victimText env view fv
  { lastClassificationByTarget := view.lastClassificationByTarget.set victimIp (windowName env fv)
    lastMetricsByTarget := view.lastMetricsByTarget.set victimIp fv
    consecutiveDdosWindows := view.consecutiveDdosWindows.set victimIp
      (nextConsecutive view victimIp (classify env fv).1)
    lastTierReached := view.lastTierReached.set victimIp
      ((windowCalls env view fv).foldl (fun reached c => max reached c.tier) 0)
    lastBlockAlert := (alertBlocks env view.lastBlockAlert (windowCalls env view fv)).1 }

/-- The firewall after the window's incident row and its calls. -/
def enforceWindow (env : WindowEnv F) (view : View F) (fw : Firewall F) (fv : FeatureVector F) :
    Firewall F :=
  performAll env.outside (nextView env view fv).lastMetricsByTarget.keys
    { fw with logs := fw.logs ++ windowIncident env view fv }
    ((windowCalls env view fv).map (·.call))

/-- No model loaded, nothing whitelisted or shared, and the given flows in a fresh file. -/
def plainEnv (cfg : EnforcementConfig ℚ) (now : ℚ) (flows : List (Flow ℚ)) : WindowEnv ℚ where
  outside :=
    { now := now
      whitelist := []
      sharedIps := []
      victims := []
      ipsetSucceeds := fun _ _ => true }
  cfg := cfg
  flowFile := some ⟨some now, flows⟩
  flowsMaxAgeSecs := 30
  clf := none
  ifClf := none

end Flod.Stage2
