import Flod.Stage1.Target
import Flod.Ipc.FeatureVector

/-! Closing one window of one target: measure it, judge it against the baseline,
let a clean one teach the baseline, and decide whether Stage 2 hears of it. -/

namespace Flod.Stage1
open Flod.Lib Flod.Net Flod.Ipc

variable {F : Type} [Arith F]

def minPacketsToClose : Nat := 20

def flagRateAnomaly : BitVec 8 := 0x01

def flagEntropyAnomaly : BitVec 8 := 0x02

/-- What one iteration of the loop gets from outside: both clocks, whether a send for a
victim gets through, and the orders in which the hash maps of the targets and of a victim's
sources happen to be walked. -/
structure Reading (F : Type) where
  now : Instant
  timestamp : F
  sendOk : IpAddr → Bool
  hosts : Walk IpAddr
  sources : IpAddr → Walk (IpAddr × Nat)

def shouldClose (now : Instant) (ts : TargetState F) : Bool :=
  let elapsed : F := secondsSince now ts.lastWindowClose
  (decide (0.5 ≤ elapsed) && decide (minPacketsToClose ≤ ts.entropy.packetCount)) ||
    decide (1 ≤ elapsed)

/-- The figures of a closing window. -/
structure WindowStats (F : Type) where
  packetCount : Nat
  r : F
  h : F
  egressRate : F
  dropRatio : F
  sourcePortEntropy : F
  fingerprintDiversity : F
  ttlVariance : F
  dominantIp : IpAddr
  dominantIpRatio : F
  protoRatio : F
  protoTcp : F
  protoUdp : F
  protoIcmp : F
  protoSctp : F
  protoGre : F
  protoEsp : F

def clamp (low high x : F) : F := if x < low then low else if high < x then high else x

/-- Both are -1 without an egress sensor. -/
def egressFigures (cfg : AnalysisConfig F) (ts : TargetState F) (elapsed windowRate : F) : F × F :=
  if cfg.egressEnabled then
    let egressRate := if 0 < elapsed then (ts.egressPacketCount : F) / elapsed else 0
    let ratio := if 0 < windowRate then clamp 0 1 (1 - egressRate / windowRate) else 0
    (egressRate, ratio)
  else (-1, -1)

/-- A cliff drop outside cooldown flushes fastest, any other fall moderately. -/
def activeAlpha (cfg : AnalysisConfig F) (ts : TargetState F) (windowRate : F) : F :=
  if windowRate < 0.1 * ts.ewma.snapshot ∧ ts.cooldownCounter = 0 then max 0.8 cfg.ewmaAlpha
  else if windowRate < ts.ewma.snapshot ∨ 0 < ts.cooldownCounter then max 0.5 cfg.ewmaAlpha
  else cfg.ewmaAlpha

/-- `max_by_key` keeps the last of equal maxima, in the order the map is walked. -/
def dominantSource (sources : Walk (IpAddr × Nat)) (ipCounts : Dict IpAddr Nat) : IpAddr × Nat :=
  ((sources.order ipCounts.entries).foldl (fun best entry =>
    match best with
    | none => some entry
    | some top => if top.2 ≤ entry.2 then some entry else some top) none).getD (unspecified, 0)

/-- The figures of the window, and the target with its per-window accumulators cleared. -/
def measure (cfg : AnalysisConfig F) (reading : Reading F) (victim : IpAddr) (ts : TargetState F) :
    WindowStats F × TargetState F :=
  let elapsed : F := secondsSince reading.now ts.lastWindowClose
  let packetCount := ts.entropy.packetCount
  let windowRate := if 0 < elapsed then (packetCount : F) / elapsed else 0
  let egress := egressFigures cfg ts elapsed windowRate
  let ewma := ts.ewma.updateRateWithAlpha windowRate (activeAlpha cfg ts windowRate)
  let entropy := ts.entropy.computeAndReset
  let port := ts.portEntropy.computeAndReset
  let fingerprint := ts.fingerprintEntropy.computeAndReset
  let dominant := dominantSource (reading.sources victim) ts.ipCounts
  let totalTracked : F := ((ts.tcpCount + ts.udpCount + ts.icmpCount : Nat) : F)
  let totalPackets : F := ((max ts.windowPacketCount 1 : Nat) : F)
  ({ packetCount := packetCount
     r := ewma.snapshot
     h := entropy.1
     egressRate := egress.1
     dropRatio := egress.2
     sourcePortEntropy := port.1
     fingerprintDiversity := fingerprint.1
     ttlVariance := ts.welfordTtl.variance.getD 0
     dominantIp := dominant.1
     dominantIpRatio := if 0 < packetCount then (dominant.2 : F) / (packetCount : F) else 0
     protoRatio := if 0 < totalTracked then (ts.tcpCount : F) / totalTracked else 0
     protoTcp := (ts.tcpCount : F) / totalPackets
     protoUdp := (ts.udpCount : F) / totalPackets
     protoIcmp := (ts.icmpCount : F) / totalPackets
     protoSctp := (ts.sctpCount : F) / totalPackets
     protoGre := (ts.greCount : F) / totalPackets
     protoEsp := (ts.espCount : F) / totalPackets },
   { ts with
     windowId := ts.windowId + 1
     lastWindowClose := reading.now
     egressPacketCount := 0
     ewma := ewma
     entropy := entropy.2
     portEntropy := port.2
     fingerprintEntropy := fingerprint.2
     ipCounts := Dict.empty
     welfordTtl := ts.welfordTtl.reset
     windowPacketCount := 0
     tcpCount := 0
     udpCount := 0
     icmpCount := 0
     sctpCount := 0
     greCount := 0
     espCount := 0 })

/-! Layer 3. -/

def windowIsClean (anomalyFlags : BitVec 8) (cooldownCounter : Nat)
    (dominantIpRatio distributedDominance rate rateCeiling : F) : Bool :=
  if 0 < cooldownCounter then false
  else if anomalyFlags = 0 then true
  else
    decide (anomalyFlags = flagEntropyAnomaly) && decide (dominantIpRatio < distributedDominance) &&
      decide (rate ≤ rateCeiling)

def applyFreezeEscape (naturallyClean : Bool)
    (consecutiveFrozenWindows maxBaselineFreezeWindows : Nat) : Nat × Bool :=
  if naturallyClean then (0, true)
  else
    let updated := consecutiveFrozenWindows + 1
    if maxBaselineFreezeWindows < updated then (0, true) else (updated, false)

theorem windowIsClean_eq_false {cooldown : Nat} {dominant distributed rate ceiling : F}
    {flags : BitVec 8} (frozen : windowIsClean flags cooldown dominant distributed rate ceiling = false) :
    0 < cooldown ∨ flags ≠ 0 := by
  by_contra neither
  rw [not_or, not_not] at neither
  simp [windowIsClean, neither.1, neither.2] at frozen

/-- The counter grows by frozen windows only, and the escape needs one past the cap. -/
theorem applyFreezeEscape_cases {naturallyClean : Bool} {before cap after : Nat} {clean : Bool}
    (stepped : (after, clean) = applyFreezeEscape naturallyClean before cap) :
    (naturallyClean = true ∧ after = 0 ∧ clean = true) ∨
      (naturallyClean = false ∧ cap < before + 1 ∧ after = 0 ∧ clean = true) ∨
      (naturallyClean = false ∧ before + 1 ≤ cap ∧ after = before + 1 ∧ clean = false) := by
  cases naturallyClean with
  | true => exact Or.inl ⟨rfl, by simpa [applyFreezeEscape] using stepped⟩
  | false =>
    by_cases past : cap < before + 1
    · simp only [applyFreezeEscape, past, if_true, Bool.false_eq_true, if_false, Prod.mk.injEq] at stepped
      exact Or.inr (Or.inl ⟨rfl, past, stepped⟩)
    · simp only [applyFreezeEscape, past, Bool.false_eq_true, if_false, Prod.mk.injEq] at stepped
      exact Or.inr (Or.inr ⟨rfl, by omega, stepped⟩)

def maxBaselineDrift : F := 0.50

def baselineHasDrifted (mean reference : F) : Bool :=
  decide (0 < reference) && decide (maxBaselineDrift < |mean - reference| / reference)

def scaledRateFloor (cfg : AnalysisConfig F) (meanRate : F) : F :=
  max (cfg.rateSigmaFloorRatio * meanRate) cfg.rateSigmaFloor

def scaledRateK (cfg : AnalysisConfig F) (baseK r meanRate sigmaR h meanH : F) : F :=
  if meanRate + cfg.emergencyVolumeSigma * sigmaR < r then baseK
  else
    let divisor := if 0 < meanH then meanH else cfg.entropyKFallback
    baseK * max (h / divisor) 1

def entropyAnomalyFires (h boundary : F) (packetCount minPackets : Nat) : Bool :=
  decide (minPackets ≤ packetCount) && decide (h < boundary)

/-- The rate deviation in force, kept between its floor and its ceiling. -/
def sigmaRate (cfg : AnalysisConfig F) (ts : TargetState F) : F :=
  let ceiling := max (cfg.rateSigmaCeilingRatio * ts.welfordRate.mean) cfg.rateSigmaCeilingFloor
  min (max ts.welfordRate.stdDev (scaledRateFloor cfg ts.welfordRate.mean)) ceiling

/-- `f64::clamp` panics when the bounds are crossed. -/
def sigmaEntropy (cfg : AnalysisConfig F) (ts : TargetState F) : Option F :=
  if cfg.entropySigmaFloor ≤ cfg.entropySigmaCeiling then
    some (clamp cfg.entropySigmaFloor cfg.entropySigmaCeiling ts.welfordEntropy.stdDev)
  else none

def baseK (cfg : AnalysisConfig F) (ts : TargetState F) : F :=
  if 0 < ts.cooldownCounter then max (cfg.k * cfg.cooldownKFactor) 1 else cfg.k

def rateBoundary (cfg : AnalysisConfig F) (ts : TargetState F) (stats : WindowStats F) (k : F) : F :=
  ts.welfordRate.mean + scaledRateK cfg k stats.r ts.welfordRate.mean (sigmaRate cfg ts) stats.h
    ts.welfordEntropy.mean * sigmaRate cfg ts

def entropyBoundary (ts : TargetState F) (sigmaH k : F) : F := ts.welfordEntropy.mean - k * sigmaH

/-- What Stage 1 concludes about a window past warm-up. -/
structure Verdict (F : Type) where
  sigmaR : F
  sigmaH : F
  baseK : F
  anomalyFlags : BitVec 8
  isRealAnomaly : Bool
  naturallyClean : Bool
  isCleanWindow : Bool
  consecutiveFrozenWindows : Nat

/-- Clean only because the freeze outlasted its cap. -/
def Verdict.escapedFreeze (vd : Verdict F) : Bool := vd.isCleanWindow && !vd.naturallyClean

def anomalyFlags (cfg : AnalysisConfig F) (ts : TargetState F) (stats : WindowStats F) (sigmaH : F) :
    BitVec 8 :=
  (if rateBoundary cfg ts stats (baseK cfg ts) < stats.r then flagRateAnomaly else 0) |||
    (if entropyAnomalyFires stats.h (entropyBoundary ts sigmaH (baseK cfg ts)) stats.packetCount
      cfg.entropyMinPackets then flagEntropyAnomaly else 0)

/-- Judged against `cfg.k` rather than the tightened multiplier of a cooldown. -/
def isRealAnomaly (cfg : AnalysisConfig F) (ts : TargetState F) (stats : WindowStats F) (sigmaH : F) :
    Bool :=
  decide (rateBoundary cfg ts stats cfg.k < stats.r) ||
    decide (stats.h < entropyBoundary ts sigmaH cfg.k)

def evaluate (cfg : AnalysisConfig F) (ts : TargetState F) (stats : WindowStats F) :
    Option (Verdict F) :=
  (sigmaEntropy cfg ts).map (fun sigmaH =>
    let flags := anomalyFlags cfg ts stats sigmaH
    let naturallyClean := windowIsClean flags ts.cooldownCounter stats.dominantIpRatio
      cfg.distributedDominance stats.r (ts.welfordRate.mean + sigmaRate cfg ts)
    let escape := applyFreezeEscape naturallyClean ts.consecutiveFrozenWindows
      cfg.maxBaselineFreezeWindows
    { sigmaR := sigmaRate cfg ts
      sigmaH := sigmaH
      baseK := baseK cfg ts
      anomalyFlags := flags
      isRealAnomaly := isRealAnomaly cfg ts stats sigmaH
      naturallyClean := naturallyClean
      isCleanWindow := escape.2
      consecutiveFrozenWindows := escape.1 })

/-- How each part of a verdict comes from the state and the figures. -/
structure Judges (cfg : AnalysisConfig F) (ts : TargetState F) (stats : WindowStats F)
    (vd : Verdict F) : Prop where
  sigmaR : vd.sigmaR = sigmaRate cfg ts
  sigmaH : sigmaEntropy cfg ts = some vd.sigmaH
  anomalyFlags : vd.anomalyFlags = Stage1.anomalyFlags cfg ts stats vd.sigmaH
  isRealAnomaly : vd.isRealAnomaly = Stage1.isRealAnomaly cfg ts stats vd.sigmaH
  naturallyClean : vd.naturallyClean = windowIsClean vd.anomalyFlags ts.cooldownCounter
    stats.dominantIpRatio cfg.distributedDominance stats.r (ts.welfordRate.mean + vd.sigmaR)
  escape : (vd.consecutiveFrozenWindows, vd.isCleanWindow) = applyFreezeEscape vd.naturallyClean
    ts.consecutiveFrozenWindows cfg.maxBaselineFreezeWindows

theorem evaluate_spec {cfg : AnalysisConfig F} {ts : TargetState F} {stats : WindowStats F}
    {vd : Verdict F} (judged : evaluate cfg ts stats = some vd) : Judges cfg ts stats vd := by
  obtain ⟨sigmaH, bounded, rfl⟩ := Option.map_eq_some_iff.mp judged
  exact ⟨rfl, bounded, rfl, rfl, rfl, rfl⟩

/-- A clean window feeds both accumulators unless it is an outlier, moves the slow
references, and reverts a mean that drifted from its reference. An escaped window
skips the outlier checks. -/
def updateBaseline (cfg : AnalysisConfig F) (ts : TargetState F) (stats : WindowStats F)
    (vd : Verdict F) : TargetState F :=
  let isOutlier (sigma x mean : F) : Bool :=
    !vd.escapedFreeze && decide (0 < sigma) && decide (cfg.outlierSigma * sigma < |x - mean|)
  let welfordRate :=
    if !isOutlier vd.sigmaR stats.r ts.welfordRate.mean && decide (ts.welfordRate.mean < cfg.rateMeanCap)
    then ts.welfordRate.update stats.r else ts.welfordRate
  let welfordEntropy :=
    if !isOutlier vd.sigmaH stats.h ts.welfordEntropy.mean
    then ts.welfordEntropy.update stats.h else ts.welfordEntropy
  let w := cfg.peacetimeEwmaWeight
  let rateRef := w * stats.r + (1 - w) * ts.peacetimeRateRef.getD welfordRate.mean
  let entropyRef := w * stats.h + (1 - w) * ts.peacetimeEntropyRef.getD welfordEntropy.mean
  { ts with
    welfordRate :=
      if baselineHasDrifted welfordRate.mean rateRef then { welfordRate with mean := rateRef }
      else welfordRate
    welfordEntropy := welfordEntropy
    peacetimeRateRef := some rateRef
    peacetimeEntropyRef := some entropyRef }

def nextCooldown (cfg : AnalysisConfig F) (cooldownCounter : Nat) (real : Bool) : Nat :=
  if real then cfg.cooldownWindows else cooldownCounter - 1

def heartbeatSecs : F := 2.0

/-- The fields every vector takes from the figures of its window. -/
def featureVector (stats : WindowStats F) (reading : Reading F) (victim : IpAddr)
    (ts : TargetState F) (sigmaH sigmaR k isWarmup : F) (dominantIp : IpAddr) : FeatureVector F where
  entropy := stats.h
  ewmaRate := stats.r
  meanH := ts.welfordEntropy.mean
  meanR := ts.welfordRate.mean
  sigmaH := sigmaH
  sigmaR := sigmaR
  protoRatio := stats.protoRatio
  dominantIpRatio := stats.dominantIpRatio
  timestamp := reading.timestamp
  protoTcp := stats.protoTcp
  protoUdp := stats.protoUdp
  protoIcmp := stats.protoIcmp
  protoSctp := stats.protoSctp
  protoGre := stats.protoGre
  protoEsp := stats.protoEsp
  kMultiplier := k
  cooldownCounter := (ts.cooldownCounter : F)
  egressRate := stats.egressRate
  dropRatio := stats.dropRatio
  sourcePortEntropy := stats.sourcePortEntropy
  ttlVariance := stats.ttlVariance
  fingerprintDiversity := stats.fingerprintDiversity
  isWarmup := isWarmup
  dominantIp := dominantIp
  victimIp := victim

/-- One closed window as it happened: the target before, the figures, the verdict
past warm-up, and the vector given to `send` with its outcome. -/
structure ClosedWindow (F : Type) where
  victim : IpAddr
  before : TargetState F
  stats : WindowStats F
  verdict : Option (Verdict F)
  sent : Option (FeatureVector F)
  delivered : Bool

/-- A warm-up window always teaches both baselines and always reports, with the
deviations unclamped and no dominant source. -/
def closeWarmup (cfg : AnalysisConfig F) (reading : Reading F) (victim : IpAddr)
    (before measured : TargetState F) (stats : WindowStats F) : TargetState F × ClosedWindow F :=
  let learned : TargetState F :=
    { measured with
      welfordRate := measured.welfordRate.update stats.r
      welfordEntropy := measured.welfordEntropy.update stats.h }
  (learned,
    { victim := victim
      before := before
      stats := stats
      verdict := none
      sent := some (featureVector stats reading victim learned learned.welfordEntropy.stdDev
        learned.welfordRate.stdDev cfg.k 1 unspecified)
      delivered := reading.sendOk victim })

/-- The freeze counter, the baseline if the window is clean, and the cooldown. -/
def absorb (cfg : AnalysisConfig F) (ts : TargetState F) (stats : WindowStats F) (vd : Verdict F) :
    TargetState F :=
  let frozen : TargetState F := { ts with consecutiveFrozenWindows := vd.consecutiveFrozenWindows }
  let learned := if vd.isCleanWindow then updateBaseline cfg frozen stats vd else frozen
  { learned with cooldownCounter := nextCooldown cfg learned.cooldownCounter vd.isRealAnomaly }

/-- Stage 2 hears of a flagged window, and of any window once the heartbeat is due. -/
def reports (reading : Reading F) (lastSentTime : F) (vd : Verdict F) : Prop :=
  vd.anomalyFlags ≠ 0 ∨ heartbeatSecs ≤ reading.timestamp - lastSentTime

instance (reading : Reading F) (lastSentTime : F) (vd : Verdict F) :
    Decidable (reports reading lastSentTime vd) :=
  inferInstanceAs (Decidable (_ ∨ _))

def closeEvaluated (cfg : AnalysisConfig F) (reading : Reading F) (victim : IpAddr)
    (before measured : TargetState F) (stats : WindowStats F) (vd : Verdict F) :
    TargetState F × ClosedWindow F :=
  let cooled := absorb cfg measured stats vd
  if reports reading cooled.lastSentTime vd then
    let ok := reading.sendOk victim
    ({ cooled with lastSentTime := if ok then reading.timestamp else cooled.lastSentTime },
      { victim := victim
        before := before
        stats := stats
        verdict := some vd
        sent := some (featureVector stats reading victim cooled vd.sigmaH vd.sigmaR vd.baseK 0
          stats.dominantIp)
        delivered := ok })
  else
    (cooled,
      { victim := victim
        before := before
        stats := stats
        verdict := some vd
        sent := none
        delivered := false })

/-- The target after the close and the window closed. None is the panic of `clamp`. -/
def closeWindow (cfg : AnalysisConfig F) (reading : Reading F) (victim : IpAddr)
    (ts : TargetState F) : Option (TargetState F × ClosedWindow F) :=
  let measured := measure cfg reading victim ts
  if measured.2.isWarm then
    (evaluate cfg measured.2 measured.1).map
      (closeEvaluated cfg reading victim ts measured.2 measured.1)
  else some (closeWarmup cfg reading victim ts measured.2 measured.1)

/-- Everything a close past warm-up does that later steps depend on. -/
structure ClosesEvaluated (cfg : AnalysisConfig F) (reading : Reading F)
    (ts after : TargetState F) (w : ClosedWindow F) (vd : Verdict F) : Prop where
  warm : ts.isWarm = true
  judged : evaluate cfg ts w.stats = some vd
  verdict : w.verdict = some vd
  frozen : after.consecutiveFrozenWindows = vd.consecutiveFrozenWindows
  cooldown : after.cooldownCounter = nextCooldown cfg ts.cooldownCounter vd.isRealAnomaly
  reported : w.sent.isSome ↔ reports reading ts.lastSentTime vd
  dominant : ∀ fv, w.sent = some fv → fv.dominantIp = w.stats.dominantIp

structure ClosesWarmup (ts after : TargetState F) (w : ClosedWindow F) : Prop where
  cold : ts.isWarm = false
  verdict : w.verdict = none
  frozen : after.consecutiveFrozenWindows = ts.consecutiveFrozenWindows
  cooldown : after.cooldownCounter = ts.cooldownCounter
  reported : w.sent.isSome
  dominant : ∀ fv, w.sent = some fv → fv.dominantIp = unspecified

/-- What a close does in either branch. -/
structure Closes (cfg : AnalysisConfig F) (reading : Reading F) (victim : IpAddr)
    (ts after : TargetState F) (w : ClosedWindow F) : Prop where
  named : w.victim = victim
  before : w.before = ts
  stats : w.stats = (measure cfg reading victim ts).1
  reopened : after.lastWindowClose = reading.now
  capped : ts.Capped → after.Capped
  staysWarm : ts.Capped → ts.isWarm = true → after.isWarm = true
  addressed : ∀ fv, w.sent = some fv → fv.victimIp = victim
  outcome : w.sent.isSome → w.delivered = reading.sendOk victim

theorem absorb_frame (cfg : AnalysisConfig F) (ts : TargetState F) (stats : WindowStats F)
    (vd : Verdict F) :
    (absorb cfg ts stats vd).lastWindowClose = ts.lastWindowClose ∧
      (absorb cfg ts stats vd).lastSentTime = ts.lastSentTime ∧
      (absorb cfg ts stats vd).consecutiveFrozenWindows = vd.consecutiveFrozenWindows ∧
      (absorb cfg ts stats vd).cooldownCounter =
        nextCooldown cfg ts.cooldownCounter vd.isRealAnomaly := by
  unfold absorb
  cases vd.isCleanWindow with
  | true => exact ⟨rfl, rfl, rfl, rfl⟩
  | false => exact ⟨rfl, rfl, rfl, rfl⟩

theorem updateBaseline_capped (cfg : AnalysisConfig F) {ts : TargetState F} (stats : WindowStats F)
    (vd : Verdict F) (capped : ts.Capped) : (updateBaseline cfg ts stats vd).Capped := by
  simp only [updateBaseline]
  refine ⟨?_, ?_⟩
  · dsimp only
    split_ifs
    exacts [capped.1, capped.1, capped.1, capped.1]
  · dsimp only
    split_ifs
    exacts [capped.2, capped.2]

theorem updateBaseline_isWarm (cfg : AnalysisConfig F) {ts : TargetState F} (stats : WindowStats F)
    (vd : Verdict F) (capped : ts.Capped) (warm : ts.isWarm = true) :
    (updateBaseline cfg ts stats vd).isWarm = true := by
  simp only [TargetState.isWarm, Bool.and_eq_true] at warm ⊢
  have rate := WelfordAccumulator.update_isWarm capped.1 warm.1 stats.r
  have entropy := WelfordAccumulator.update_isWarm capped.2 warm.2 stats.h
  simp only [updateBaseline]
  refine ⟨?_, ?_⟩
  · split_ifs
    exacts [rate, rate, warm.1, warm.1]
  · split_ifs
    exacts [entropy, warm.2]

theorem absorb_capped (cfg : AnalysisConfig F) {ts : TargetState F} (stats : WindowStats F)
    (vd : Verdict F) (capped : ts.Capped) : (absorb cfg ts stats vd).Capped := by
  unfold absorb
  cases vd.isCleanWindow with
  | true => exact updateBaseline_capped cfg stats vd capped
  | false => exact capped

theorem absorb_isWarm (cfg : AnalysisConfig F) {ts : TargetState F} (stats : WindowStats F)
    (vd : Verdict F) (capped : ts.Capped) (warm : ts.isWarm = true) :
    (absorb cfg ts stats vd).isWarm = true := by
  unfold absorb
  cases vd.isCleanWindow with
  | true => exact updateBaseline_isWarm cfg stats vd capped warm
  | false => exact warm

/-- What measuring keeps of the target whose accumulators it clears. -/
structure Measured (now : Instant) (ts measured : TargetState F) : Prop where
  reopened : measured.lastWindowClose = now
  lastSentTime : measured.lastSentTime = ts.lastSentTime
  cooldownCounter : measured.cooldownCounter = ts.cooldownCounter
  capped : ts.Capped → measured.Capped
  warm : measured.isWarm = ts.isWarm

theorem measure_measured (cfg : AnalysisConfig F) (reading : Reading F) (victim : IpAddr) (ts : TargetState F) :
    Measured reading.now ts (measure cfg reading victim ts).2 :=
  ⟨rfl, rfl, rfl, id, rfl⟩

theorem closeEvaluated_spec {cfg : AnalysisConfig F} {reading : Reading F} {victim : IpAddr}
    {ts measured after : TargetState F} {stats : WindowStats F} {w : ClosedWindow F} {vd : Verdict F}
    (clears : Measured reading.now ts measured) (figures : stats = (measure cfg reading victim ts).1)
    (warm : ts.isWarm = true) (judged : evaluate cfg ts stats = some vd)
    (closed : closeEvaluated cfg reading victim ts measured stats vd = (after, w)) :
    Closes cfg reading victim ts after w ∧ ClosesEvaluated cfg reading ts after w vd := by
  obtain ⟨opened, unsent, frozen, cooled⟩ := absorb_frame cfg measured stats vd
  have reopened : (absorb cfg measured stats vd).lastWindowClose = reading.now :=
    opened.trans clears.reopened
  have cooldown : (absorb cfg measured stats vd).cooldownCounter =
      nextCooldown cfg ts.cooldownCounter vd.isRealAnomaly := by
    rw [cooled, clears.cooldownCounter]
  have keepsCap : ts.Capped → (absorb cfg measured stats vd).Capped := by
    intro capped
    exact absorb_capped cfg stats vd (clears.capped capped)
  have keepsWarm : ts.Capped → ts.isWarm = true → (absorb cfg measured stats vd).isWarm = true := by
    intro capped hot
    exact absorb_isWarm cfg stats vd (clears.capped capped) (clears.warm.trans hot)
  simp only [closeEvaluated, unsent, clears.lastSentTime] at closed
  by_cases report : reports reading ts.lastSentTime vd
  · simp only [if_pos report, Prod.mk.injEq] at closed
    obtain ⟨rfl, rfl⟩ := closed
    refine ⟨⟨rfl, rfl, figures, reopened, keepsCap, keepsWarm, ?_, fun _ => rfl⟩,
      ⟨warm, judged, rfl, frozen, cooldown, by simpa using report, ?_⟩⟩
    · intro fv same
      cases same
      rfl
    · intro fv same
      cases same
      rfl
  · simp only [if_neg report, Prod.mk.injEq] at closed
    obtain ⟨rfl, rfl⟩ := closed
    exact ⟨⟨rfl, rfl, figures, reopened, keepsCap, keepsWarm, by simp, by simp⟩,
      ⟨warm, judged, rfl, frozen, cooldown, by simpa using report, by simp⟩⟩

/-- A close either teaches a cold target or judges a warm one. -/
theorem closeWindow_spec {cfg : AnalysisConfig F} {reading : Reading F} {victim : IpAddr}
    {ts after : TargetState F} {w : ClosedWindow F}
    (closed : closeWindow cfg reading victim ts = some (after, w)) :
    Closes cfg reading victim ts after w ∧
      (ClosesWarmup ts after w ∨ ∃ vd, ClosesEvaluated cfg reading ts after w vd) := by
  unfold closeWindow at closed
  have sameWarm : (measure cfg reading victim ts).2.isWarm = ts.isWarm := rfl
  have sameVerdict : evaluate cfg (measure cfg reading victim ts).2 (measure cfg reading victim ts).1 =
      evaluate cfg ts (measure cfg reading victim ts).1 := rfl
  simp only [sameWarm, sameVerdict] at closed
  cases warm : ts.isWarm with
  | true =>
    simp only [warm, if_true] at closed
    obtain ⟨vd, judged, pair⟩ := Option.map_eq_some_iff.mp closed
    obtain ⟨closes, evaluated⟩ :=
      closeEvaluated_spec (measure_measured cfg reading victim ts) rfl warm judged pair
    exact ⟨closes, Or.inr ⟨vd, evaluated⟩⟩
  | false =>
    simp only [warm, Bool.false_eq_true, if_false, Option.some.injEq] at closed
    cases closed
    refine ⟨⟨rfl, rfl, rfl, rfl, fun capped => ⟨capped.1, capped.2⟩, fun _ hot => by simp [warm] at hot,
      ?_, fun _ => rfl⟩, Or.inl ⟨warm, rfl, rfl, rfl, rfl, ?_⟩⟩
    · intro fv same
      cases same
      rfl
    · intro fv same
      cases same
      rfl

theorem closeWindow_of_warm {cfg : AnalysisConfig F} {ts : TargetState F} (reading : Reading F)
    (victim : IpAddr) (warm : ts.isWarm = true) :
    closeWindow cfg reading victim ts = (evaluate cfg ts (measure cfg reading victim ts).1).map
      (closeEvaluated cfg reading victim ts (measure cfg reading victim ts).2 (measure cfg reading victim ts).1) :=
  if_pos warm

theorem closeWindow_of_cold {cfg : AnalysisConfig F} {ts : TargetState F} (reading : Reading F)
    (victim : IpAddr) (cold : ts.isWarm = false) :
    closeWindow cfg reading victim ts = some (closeWarmup cfg reading victim ts
      (measure cfg reading victim ts).2 (measure cfg reading victim ts).1) :=
  if_neg (Bool.eq_false_iff.mp cold)

/-- The target a close leaves: in warm-up both accumulators take the window, past it
whatever the verdict has absorbed. -/
theorem closeWindow_cases {cfg : AnalysisConfig F} {reading : Reading F} {victim : IpAddr}
    {ts after : TargetState F} {w : ClosedWindow F}
    (closed : closeWindow cfg reading victim ts = some (after, w)) :
    (ts.isWarm = false ∧ w.verdict = none ∧
      after = { (measure cfg reading victim ts).2 with
        welfordRate := ts.welfordRate.update w.stats.r
        welfordEntropy := ts.welfordEntropy.update w.stats.h }) ∨
    ∃ vd sentAt, ts.isWarm = true ∧ evaluate cfg ts w.stats = some vd ∧ w.verdict = some vd ∧
      after = { absorb cfg (measure cfg reading victim ts).2 w.stats vd with lastSentTime := sentAt } := by
  cases warm : ts.isWarm with
  | true =>
    rw [closeWindow_of_warm reading victim warm] at closed
    obtain ⟨vd, judged, pair⟩ := Option.map_eq_some_iff.mp closed
    unfold closeEvaluated at pair
    dsimp only at pair
    split at pair
    · cases pair
      exact Or.inr ⟨vd, _, rfl, judged, rfl, rfl⟩
    · cases pair
      exact Or.inr ⟨vd, _, rfl, judged, rfl, rfl⟩
  | false =>
    rw [closeWindow_of_cold reading victim warm] at closed
    cases closed
    exact Or.inl ⟨rfl, rfl, rfl⟩

/-- The vector a close sends: in warm-up about what was learned, past it about what the
verdict was made with. -/
theorem closeWindow_vector {cfg : AnalysisConfig F} {reading : Reading F} {victim : IpAddr}
    {ts after : TargetState F} {w : ClosedWindow F} {fv : FeatureVector F}
    (closed : closeWindow cfg reading victim ts = some (after, w)) (sent : w.sent = some fv) :
    (w.verdict = none ∧ ∃ learned : TargetState F,
      fv = featureVector w.stats reading victim learned learned.welfordEntropy.stdDev
        learned.welfordRate.stdDev cfg.k 1 unspecified) ∨
    ∃ vd, evaluate cfg ts w.stats = some vd ∧ w.verdict = some vd ∧
      fv = featureVector w.stats reading victim (absorb cfg (measure cfg reading victim ts).2 w.stats vd)
        vd.sigmaH vd.sigmaR vd.baseK 0 w.stats.dominantIp := by
  cases warm : ts.isWarm with
  | true =>
    rw [closeWindow_of_warm reading victim warm] at closed
    obtain ⟨vd, judged, pair⟩ := Option.map_eq_some_iff.mp closed
    unfold closeEvaluated at pair
    dsimp only at pair
    split at pair
    · cases pair
      cases sent
      exact Or.inr ⟨vd, judged, rfl, rfl⟩
    · cases pair
      cases sent
  | false =>
    rw [closeWindow_of_cold reading victim warm] at closed
    cases closed
    cases sent
    exact Or.inl ⟨rfl, _, rfl⟩

end Flod.Stage1
