import Flod.Lib.Unwinding
import Flod.Stage1.TargetRun

/-! A restart between two windows. A saved baseline holds all of a target that later
decisions rest on, except the freeze counter; its times and the number of its windows are
forgotten, and nothing but the reports to Stage 2 depends on them. -/

namespace Flod.Stage1
open Flod.Lib Flod.Net

variable {F : Type} [Arith F] {cfg : AnalysisConfig F} {victim : IpAddr} {ts : TargetState F}

/-- Everything that is cleared when a window closes. -/
structure WindowCounts (F : Type) where
  entropy : EntropyAccumulator IpAddr
  ipCounts : Dict IpAddr Nat
  portEntropy : EntropyAccumulator (BitVec 16)
  fingerprintEntropy : EntropyAccumulator (BitVec 8)
  welfordTtl : WelfordAccumulator F
  windowPacketCount : Nat
  egressPacketCount : Nat
  tcpCount : Nat
  udpCount : Nat
  icmpCount : Nat
  sctpCount : Nat
  greCount : Nat
  espCount : Nat

def WindowCounts.cleared : WindowCounts F where
  entropy := EntropyAccumulator.new
  ipCounts := Dict.empty
  portEntropy := EntropyAccumulator.new
  fingerprintEntropy := EntropyAccumulator.new
  welfordTtl := WelfordAccumulator.default
  windowPacketCount := 0
  egressPacketCount := 0
  tcpCount := 0
  udpCount := 0
  icmpCount := 0
  sctpCount := 0
  greCount := 0
  espCount := 0

namespace TargetState

def counts (ts : TargetState F) : WindowCounts F where
  entropy := ts.entropy
  ipCounts := ts.ipCounts
  portEntropy := ts.portEntropy
  fingerprintEntropy := ts.fingerprintEntropy
  welfordTtl := ts.welfordTtl
  windowPacketCount := ts.windowPacketCount
  egressPacketCount := ts.egressPacketCount
  tcpCount := ts.tcpCount
  udpCount := ts.udpCount
  icmpCount := ts.icmpCount
  sctpCount := ts.sctpCount
  greCount := ts.greCount
  espCount := ts.espCount

/-- The target without its times and the number of its windows. -/
def undated (ts : TargetState F) : TargetState F :=
  { ts with windowId := 0, lastWindowClose := 0, lastSentTime := 0 }

/-- What no event changes: the configured smoothing and the caps of the accumulators. -/
structure Standing (cfg : AnalysisConfig F) (ts : TargetState F) : Prop where
  alpha : ts.ewma.alpha = cfg.ewmaAlpha
  rateCap : ts.welfordRate.maxN = maxN
  entropyCap : ts.welfordEntropy.maxN = maxN
  ttlCap : ts.welfordTtl.maxN = maxN

end TargetState

open TargetState

theorem withAlpha_alpha {alpha : F} {ewma : EwmaState F} (created : EwmaState.withAlpha alpha = some ewma) :
    ewma.alpha = alpha := by
  unfold EwmaState.withAlpha at created
  split at created
  · cases created
    rfl
  · cases created

theorem new_standing {p : Option (PersistedBaseline F)} {now : Instant}
    (created : TargetState.new cfg.ewmaAlpha p now = some ts) : Standing cfg ts := by
  obtain ⟨ewma, smoothed, rfl⟩ := Option.map_eq_some_iff.mp created
  have alpha := withAlpha_alpha smoothed
  cases p with
  | none => exact ⟨alpha, rfl, rfl, rfl⟩
  | some p => exact ⟨alpha, rfl, rfl, rfl⟩

theorem new_counts {alpha : F} {p : Option (PersistedBaseline F)} {now : Instant}
    (created : TargetState.new alpha p now = some ts) : ts.counts = WindowCounts.cleared := by
  obtain ⟨ewma, -, rfl⟩ := Option.map_eq_some_iff.mp created
  cases p <;> rfl

theorem foldl_updateBatch_maxN (ttls : List (BitVec 8 × Nat)) (w : WelfordAccumulator F) :
    (ttls.foldl (fun acc e => acc.updateBatch (e.1.toNat : F) e.2) w).maxN = w.maxN := by
  induction ttls generalizing w with
  | nil => rfl
  | cons e ttls ih =>
    rw [List.foldl_cons, ih]
    exact WelfordAccumulator.updateBatch_maxN _ _ _

theorem count_ttlCap (ts : TargetState F) (c : Counted) : (ts.count c).welfordTtl.maxN = ts.welfordTtl.maxN := by
  cases c with
  | ingress packet =>
    simp only [TargetState.count, recordIngress]
    cases packet.protocol <;> rfl
  | egress => rfl
  | sample sample => exact foldl_updateBatch_maxN _ _

theorem TargetState.Standing.counted (standing : Standing cfg ts) (c : Counted) : Standing cfg (ts.count c) := by
  have same := ts.count_sameBaseline c
  refine ⟨?_, ?_, ?_, ?_⟩
  · rw [same.ewma]
    exact standing.alpha
  · rw [same.welfordRate]
    exact standing.rateCap
  · rw [same.welfordEntropy]
    exact standing.entropyCap
  · rw [count_ttlCap]
    exact standing.ttlCap

theorem updateBaseline_standing (stats : WindowStats F) (vd : Verdict F) (standing : Standing cfg ts) :
    Standing cfg (updateBaseline cfg ts stats vd) := by
  refine ⟨standing.alpha, ?_, ?_, standing.ttlCap⟩
  · simp only [updateBaseline]
    split_ifs
    exacts [standing.rateCap, standing.rateCap, standing.rateCap, standing.rateCap]
  · simp only [updateBaseline]
    split_ifs
    exacts [standing.entropyCap, standing.entropyCap]

theorem absorb_standing (stats : WindowStats F) (vd : Verdict F) (standing : Standing cfg ts) :
    Standing cfg (absorb cfg ts stats vd) := by
  have frozen : Standing cfg { ts with consecutiveFrozenWindows := vd.consecutiveFrozenWindows } :=
    ⟨standing.alpha, standing.rateCap, standing.entropyCap, standing.ttlCap⟩
  unfold absorb
  cases vd.isCleanWindow with
  | false => exact ⟨frozen.alpha, frozen.rateCap, frozen.entropyCap, frozen.ttlCap⟩
  | true =>
    have learned := updateBaseline_standing stats vd frozen
    exact ⟨learned.alpha, learned.rateCap, learned.entropyCap, learned.ttlCap⟩

theorem absorb_counts (cfg : AnalysisConfig F) (ts : TargetState F) (stats : WindowStats F) (vd : Verdict F) :
    (absorb cfg ts stats vd).counts = ts.counts := by
  unfold absorb
  cases vd.isCleanWindow with
  | true => rfl
  | false => rfl

theorem measure_counts (reading : Reading F) (victim : IpAddr) (standing : Standing cfg ts) :
    (measure cfg reading victim ts).2.counts = WindowCounts.cleared := by
  have cap := standing.ttlCap
  simp only [measure, counts, WindowCounts.cleared, WelfordAccumulator.reset, WelfordAccumulator.default,
    WelfordAccumulator.new, cap, EntropyAccumulator.computeAndReset]

theorem closeWindow_standing {reading : Reading F} {after : TargetState F} {w : ClosedWindow F}
    (closing : closeWindow cfg reading victim ts = some (after, w)) (standing : Standing cfg ts) :
    Standing cfg after ∧ after.counts = WindowCounts.cleared := by
  have measured : Standing cfg (measure cfg reading victim ts).2 :=
    ⟨standing.alpha, standing.rateCap, standing.entropyCap, standing.ttlCap⟩
  have emptied := measure_counts reading victim standing
  rcases closeWindow_cases closing with ⟨-, -, rfl⟩ | ⟨vd, sentAt, -, -, -, rfl⟩
  · exact ⟨⟨measured.alpha, standing.rateCap, standing.entropyCap, measured.ttlCap⟩, emptied⟩
  · have absorbed := absorb_standing w.stats vd measured
    exact ⟨⟨absorbed.alpha, absorbed.rateCap, absorbed.entropyCap, absorbed.ttlCap⟩,
      (absorb_counts cfg _ w.stats vd).trans emptied⟩

theorem run_standing {p : Option (PersistedBaseline F)} {now : Instant} {created : TargetState F}
    (new : TargetState.new cfg.ewmaAlpha p now = some created) {events : List (TargetEvent F)}
    {outs : List (Option (ClosedWindow F))}
    (ran : run (TargetState.handle cfg victim) created events = some (ts, outs)) :
    Standing cfg ts ∧ ∀ w, outs.getLast? = some (some w) → ts.counts = WindowCounts.cleared := by
  refine run_history (I := fun past s => Standing cfg s ∧ ∀ w, past.getLast? = some (some w) →
      s.counts = WindowCounts.cleared) ?_ events [] created ts outs ⟨new_standing new, by simp⟩ ran
  intro past s e mid o inv taken
  rcases handleWith_cases taken with ⟨c, -, rfl, rfl⟩ | ⟨rfl, rfl⟩ | ⟨_, _, _, _, w, -, closing, rfl⟩
  · exact ⟨inv.1.counted c, by simp⟩
  · exact ⟨inv.1, by simp⟩
  · obtain ⟨standing, emptied⟩ := closeWindow_standing closing inv.1
    exact ⟨standing, fun _ _ => emptied⟩

/-- A restored target differs from the one that was saved in nothing but its times, the
number of its windows and the freeze counter. -/
theorem restored_undated (standing : Standing cfg ts) (emptied : ts.counts = WindowCounts.cleared)
    (thawed : ts.consecutiveFrozenWindows = 0) {restarted : Instant} {restored : TargetState F}
    (new : TargetState.new cfg.ewmaAlpha (some ts.toPersisted) restarted = some restored) :
    restored.undated = ts.undated := by
  obtain ⟨ewma, smoothed, rfl⟩ := Option.map_eq_some_iff.mp new
  have alpha : ewma.alpha = ts.ewma.alpha := (withAlpha_alpha smoothed).trans standing.alpha.symm
  have rateCap := standing.rateCap
  have entropyCap := standing.entropyCap
  rcases ts with ⟨⟨value, smoothing⟩, entropy, tcp, udp, icmp, sctp, gre, esp, ⟨rateN, rateMean, rateM2, rateMax⟩,
    ⟨entropyN, entropyMean, entropyM2, entropyMax⟩, rateRef, entropyRef, windowId, ipCounts, portEntropy,
    welfordTtl, fingerprintEntropy, packets, egress, lastWindowClose, cooldown, lastSentTime, frozen⟩
  simp only [counts, WindowCounts.cleared, WindowCounts.mk.injEq] at emptied
  obtain ⟨rfl, rfl, rfl, rfl, rfl, rfl, rfl, rfl, rfl, rfl, rfl, rfl, rfl⟩ := emptied
  dsimp only at alpha rateCap entropyCap thawed
  subst alpha rateCap entropyCap thawed
  rfl

/-- What a closed window decides, and the state it leaves for the next one. -/
structure Decision (F : Type) where
  ewmaRate : F
  boundaries : Option (F × F)
  anomalyFlags : Option (BitVec 8)
  cooldownCounter : Nat
  consecutiveFrozenWindows : Nat
  welfordRate : WelfordAccumulator F
  welfordEntropy : WelfordAccumulator F
  peacetimeRateRef : Option F
  peacetimeEntropyRef : Option F

/-- The boundaries are those of the rate and of the entropy. In warm-up there are none. -/
def decision (cfg : AnalysisConfig F) (after : TargetState F) (w : ClosedWindow F) : Decision F where
  ewmaRate := w.stats.r
  boundaries := w.verdict.map (fun vd =>
    (rateBoundary cfg w.before w.stats (baseK cfg w.before),
      entropyBoundary w.before vd.sigmaH (baseK cfg w.before)))
  anomalyFlags := w.verdict.map Verdict.anomalyFlags
  cooldownCounter := after.cooldownCounter
  consecutiveFrozenWindows := after.consecutiveFrozenWindows
  welfordRate := after.welfordRate
  welfordEntropy := after.welfordEntropy
  peacetimeRateRef := after.peacetimeRateRef
  peacetimeEntropyRef := after.peacetimeEntropyRef

/-- A target's events with the decision of each window that closes. -/
def TargetState.observe (cfg : AnalysisConfig F) (victim : IpAddr) (ts : TargetState F) (e : TargetEvent F) :
    Option (TargetState F × Option (Decision F)) :=
  (ts.handle cfg victim e).map (fun result => (result.1, result.2.map (decision cfg result.1)))

theorem count_undated (ts : TargetState F) (c : Counted) : (ts.count c).undated = ts.undated.count c := by
  cases c with
  | ingress packet =>
    simp only [TargetState.count, recordIngress]
    cases packet.protocol <;> rfl
  | egress => rfl
  | sample sample => rfl

theorem secondsSince_add (earlier : Instant) (elapsed : Nat) :
    (secondsSince (earlier + elapsed) earlier : F) = secondsSince (0 + elapsed) 0 := by
  simp only [secondsSince, Nat.add_sub_cancel_left]

section Undated

variable (elapsed : Nat) (timestamp : F) (sendOk : Bool) (sources : Walk (IpAddr × Nat))

theorem shouldClose_undated (ts : TargetState F) :
    shouldClose (ts.lastWindowClose + elapsed) ts = shouldClose (ts.undated.lastWindowClose + elapsed) ts.undated := by
  simp only [shouldClose, undated, secondsSince_add]
  rfl

theorem measure_undated (cfg : AnalysisConfig F) (victim : IpAddr) (ts : TargetState F) :
    (measure cfg (ts.readingAfter elapsed timestamp sendOk sources) victim ts).1 =
        (measure cfg (ts.undated.readingAfter elapsed timestamp sendOk sources) victim ts.undated).1 ∧
      (measure cfg (ts.readingAfter elapsed timestamp sendOk sources) victim ts).2.undated =
        (measure cfg (ts.undated.readingAfter elapsed timestamp sendOk sources) victim ts.undated).2.undated := by
  simp only [measure, readingAfter, undated, secondsSince_add]
  exact ⟨rfl, rfl⟩

/-- What is observed of a close. -/
def observed (cfg : AnalysisConfig F) (closed : TargetState F × ClosedWindow F) : TargetState F × Decision F :=
  (closed.1.undated, decision cfg closed.1 closed.2)

theorem absorb_undated (cfg : AnalysisConfig F) (ts : TargetState F) (stats : WindowStats F) (vd : Verdict F) :
    (absorb cfg ts stats vd).undated = absorb cfg ts.undated stats vd := by
  unfold absorb
  cases vd.isCleanWindow with
  | true => rfl
  | false => rfl

theorem closeEvaluated_observed (cfg : AnalysisConfig F) (reading : Reading F) (victim : IpAddr)
    (before measured : TargetState F) (stats : WindowStats F) (vd : Verdict F) :
    observed cfg (closeEvaluated cfg reading victim before measured stats vd) =
      (absorb cfg measured.undated stats vd,
        decision cfg (absorb cfg measured.undated stats vd)
          ⟨victim, before.undated, stats, some vd, none, false⟩) := by
  rw [← absorb_undated]
  unfold closeEvaluated
  dsimp only
  by_cases report : reports reading (absorb cfg measured stats vd).lastSentTime vd
  · rw [if_pos report]
    rfl
  · rw [if_neg report]
    rfl

theorem closeWarmup_observed (cfg : AnalysisConfig F) (reading : Reading F) (victim : IpAddr)
    (before measured : TargetState F) (stats : WindowStats F) :
    observed cfg (closeWarmup cfg reading victim before measured stats) =
      observed cfg (closeWarmup cfg reading victim before.undated measured.undated stats) :=
  rfl

theorem closeWindow_observed (cfg : AnalysisConfig F) (victim : IpAddr) (ts : TargetState F) :
    (closeWindow cfg (ts.readingAfter elapsed timestamp sendOk sources) victim ts).map (observed cfg) =
      (closeWindow cfg (ts.undated.readingAfter elapsed timestamp sendOk sources) victim ts.undated).map
        (observed cfg) := by
  obtain ⟨figures, cleared⟩ := measure_undated elapsed timestamp sendOk sources cfg victim ts
  cases warm : ts.isWarm with
  | true =>
    have sameVerdict : evaluate cfg ts
        (measure cfg (ts.readingAfter elapsed timestamp sendOk sources) victim ts).1 =
        evaluate cfg ts.undated
          (measure cfg (ts.undated.readingAfter elapsed timestamp sendOk sources) victim ts.undated).1 := by
      rw [figures]
      rfl
    rw [closeWindow_of_warm _ _ warm, closeWindow_of_warm _ _ (show ts.undated.isWarm = true from warm)]
    simp only [sameVerdict, Option.map_map]
    congr 1
    funext vd
    simp only [Function.comp_apply, closeEvaluated_observed, figures, cleared]
    rfl
  | false =>
    rw [closeWindow_of_cold _ _ warm, closeWindow_of_cold _ _ (show ts.undated.isWarm = false from warm)]
    simp only [Option.map_some, Option.some.injEq]
    rw [closeWarmup_observed, figures, cleared]
    rfl

theorem observe_checked (cfg : AnalysisConfig F) (victim : IpAddr) (ts : TargetState F) :
    shown undated List.singleton (ts.observe cfg victim (.checked elapsed timestamp sendOk sources)) =
      if shouldClose (ts.lastWindowClose + elapsed) ts then
        ((closeWindow cfg (ts.readingAfter elapsed timestamp sendOk sources) victim ts).map (observed cfg)).map
          (fun seen => (seen.1, [some seen.2]))
      else some (ts.undated, [none]) := by
  simp only [observe, TargetState.handle, handleWith, shown]
  split
  · next due =>
    have due : shouldClose (ts.lastWindowClose + elapsed) ts = true := due
    rw [if_pos due, Option.map_map, Option.map_map, Option.map_map]
    rfl
  · next early =>
    have early : ¬ shouldClose (ts.lastWindowClose + elapsed) ts = true := early
    rw [if_neg early]
    rfl

end Undated

/-- Targets that differ in their times and numbers only decide alike, event by event. -/
theorem observe_undated (cfg : AnalysisConfig F) (victim : IpAddr) (e : TargetEvent F) (ts : TargetState F) :
    shown undated List.singleton (ts.observe cfg victim e) =
      shown undated List.singleton (ts.undated.observe cfg victim e) := by
  cases e with
  | counted c =>
    have same : (ts.count c).undated = (ts.undated.count c).undated := by
      rw [count_undated, count_undated]
      rfl
    simp only [observe, TargetState.handle, handleWith, shown, Option.map_some, Option.map_none, same]
  | checked elapsed timestamp sendOk sources =>
    rw [observe_checked, observe_checked, closeWindow_observed, shouldClose_undated]
    rfl

theorem observe_respects (cfg : AnalysisConfig F) (victim : IpAddr) (e : TargetEvent F) :
    Respects (TargetState.observe cfg victim) undated List.singleton e := by
  intro s s' same
  rw [observe_undated, same, ← observe_undated]

/-- A target saved at the end of a window, outside any freeze, and restored decides every later
window as it would have decided it without the restart. -/
theorem restored_target_agrees (cfg : AnalysisConfig F) (victim : IpAddr)
    (p : Option (PersistedBaseline F)) (now : Instant) (created kept : TargetState F)
    (new : TargetState.new cfg.ewmaAlpha p now = some created) (events : List (TargetEvent F))
    (outs : List (Option (ClosedWindow F)))
    (ran : run (TargetState.handle cfg victim) created events = some (kept, outs))
    (ended : ∃ w, outs.getLast? = some (some w)) (thawed : kept.consecutiveFrozenWindows = 0)
    (restarted : Instant) :
    ∃ restored, TargetState.new cfg.ewmaAlpha (some kept.toPersisted) restarted = some restored ∧
      ∀ later : List (TargetEvent F), (run (TargetState.observe cfg victim) restored later).map Prod.snd =
        (run (TargetState.observe cfg victim) kept later).map Prod.snd := by
  obtain ⟨standing, emptied⟩ := run_standing new ran
  obtain ⟨w, last⟩ := ended
  obtain ⟨ewma, smoothed, -⟩ := Option.map_eq_some_iff.mp new
  have restores : TargetState.new cfg.ewmaAlpha (some kept.toPersisted) restarted =
      some ((fresh ewma restarted).restore kept.toPersisted) := by
    rw [TargetState.new, smoothed]
    rfl
  refine ⟨_, restores, fun later => ?_⟩
  have same := restored_undated standing (emptied w last) thawed restores
  exact map_snd_of_shown (run_respects later (fun e _ => observe_respects cfg victim e) same)

/-- Thirty packets of one source, and an idle second after them. -/
def twoWindows : List (TargetEvent ℚ) :=
  [.counted (.sample { WindowSample.default with ingressPackets := 30, sources := [(.v4 0xC0000201, 30)] }),
    .checked 500000000 1 true .inserted, .checked 1000000000 2 false .inserted]

theorem twoWindows_restored :
    ∃ created kept outs restored, TargetState.new (AnalysisConfig.default : AnalysisConfig ℚ).ewmaAlpha none 0 =
        some created ∧
      run (TargetState.handle AnalysisConfig.default unspecified) created twoWindows = some (kept, outs) ∧
      TargetState.new AnalysisConfig.default.ewmaAlpha (some kept.toPersisted) 5 = some restored ∧
      ∀ later : List (TargetEvent ℚ),
        (run (TargetState.observe AnalysisConfig.default unspecified) restored later).map Prod.snd =
          (run (TargetState.observe AnalysisConfig.default unspecified) kept later).map Prod.snd := by
  have ran : ((TargetState.new (AnalysisConfig.default : AnalysisConfig ℚ).ewmaAlpha none 0).bind (fun created =>
      (run (TargetState.handle AnalysisConfig.default unspecified) created twoWindows))).any (fun result =>
        decide (result.1.consecutiveFrozenWindows = 0) && (result.2.getLast?.bind id).isSome) = true := by
    decide +kernel
  obtain ⟨⟨kept, outs⟩, bound, met⟩ := (Option.any_eq_true _ _).mp ran
  obtain ⟨created, new, reached⟩ := Option.bind_eq_some_iff.mp bound
  simp only [Bool.and_eq_true, decide_eq_true_eq, Option.isSome_iff_exists, Option.bind_eq_some_iff, id_eq] at met
  obtain ⟨thawed, w, last, final, rfl⟩ := met
  obtain ⟨restored, restores, agrees⟩ := restored_target_agrees AnalysisConfig.default unspecified none 0 created
    kept new twoWindows outs reached ⟨w, final⟩ thawed 5
  exact ⟨created, kept, outs, restored, new, reached, restores, agrees⟩

end Flod.Stage1
