import Flod.Stage1.AnalysisRun
import Flod.Stage1.Welford

/-! The TTL variance of a window, updated packet by packet or in batches of equal
values. Below the recency cap both keep the first two moments of the values seen, so
neither the order of the values nor how they are batched matters. -/

namespace Flod.Stage1
open Flod.Lib Flod.Net

variable {F : Type} [Arith F]

namespace WelfordAccumulator

/-- All values seen were the same. -/
structure Constant (w : WelfordAccumulator F) (x : F) : Prop where
  cap : 0 < w.maxN
  m2 : w.m2 = 0
  mean : w.n = 0 ∨ w.mean = x

theorem Constant.update {w : WelfordAccumulator F} {x : F} (constant : Constant w x) :
    Constant (w.update x) x := by
  have mean : (w.update x).mean = x := by
    rcases constant.mean with none | same
    · have first : min (w.n + 1) w.maxN = 1 := by
        have cap := constant.cap
        omega
      simp [WelfordAccumulator.update, first]
    · simp [WelfordAccumulator.update, same]
  refine ⟨constant.cap, ?_, Or.inr mean⟩
  have spread : (w.update x).m2 =
      (if w.maxN ≤ w.n then w.m2 * (1 - 1 / (w.maxN : F)) + (x - w.mean) * (x - (w.update x).mean)
        else w.m2 + (x - w.mean) * (x - (w.update x).mean)) := rfl
  rw [spread, mean, constant.m2]
  simp

theorem Constant.updateBatch {w : WelfordAccumulator F} {x : F} (constant : Constant w x) (count : Nat) :
    Constant (w.updateBatch x count) x := by
  unfold WelfordAccumulator.updateBatch
  split
  · exact constant
  · dsimp only
    split
    · exact constant
    next nonzero =>
      refine ⟨constant.cap, ?_, Or.inr ?_⟩
      · rcases constant.mean with none | same
        · simp [none, constant.m2]
        · simp [same, constant.m2]
      · rcases constant.mean with none | same
        · have positive : ((min (w.n + count) w.maxN : Nat) : F) ≠ 0 := by
            exact_mod_cast (by omega : min (w.n + count) w.maxN ≠ 0)
          dsimp only
          rw [none, Nat.sub_zero] at *
          field_simp
          ring
        · simp [same]

theorem Constant.foldl_update {xs : List F} {w : WelfordAccumulator F} {x : F} (constant : Constant w x)
    (all : ∀ y ∈ xs, y = x) : Constant (xs.foldl WelfordAccumulator.update w) x := by
  induction xs generalizing w with
  | nil => exact constant
  | cons y xs ih =>
    have next : Constant (w.update y) x := by
      rw [all y List.mem_cons_self]
      exact constant.update
    exact ih next fun y member => all y (List.mem_cons_of_mem _ member)

theorem Constant.foldl_updateBatch {batches : List (F × Nat)} {w : WelfordAccumulator F} {x : F}
    (constant : Constant w x) (all : ∀ e ∈ batches, e.2 = 0 ∨ e.1 = x) :
    Constant (batches.foldl (fun acc e => acc.updateBatch e.1 e.2) w) x := by
  induction batches generalizing w with
  | nil => exact constant
  | cons e batches ih =>
    have next : Constant (w.updateBatch e.1 e.2) x := by
      rcases all e List.mem_cons_self with none | same
      · rw [none]
        exact constant
      · rw [same]
        exact constant.updateBatch e.2
    exact ih next fun e member => all e (List.mem_cons_of_mem _ member)

theorem Constant.variance_eq {w : WelfordAccumulator F} {x : F} (constant : Constant w x) :
    w.variance.getD 0 = 0 := by
  unfold variance
  split
  · rfl
  · simp [constant.m2]

theorem variance_eq_of_constant {cap : Nat} (positive : 0 < cap) {values : List F} {batches : List (F × Nat)}
    (same : values.Perm (batches.flatMap (fun e => List.replicate e.2 e.1))) {x : F} (all : ∀ y ∈ values, y = x) :
    (values.foldl update (new cap)).variance.getD 0 =
      (batches.foldl (fun acc e => acc.updateBatch e.1 e.2) (new cap)).variance.getD 0 := by
  have start : Constant (new cap) x := ⟨positive, rfl, Or.inl rfl⟩
  have repeated : ∀ e ∈ batches, e.2 = 0 ∨ e.1 = x := by
    intro e member
    rcases Nat.eq_zero_or_pos e.2 with none | some
    · exact Or.inl none
    · refine Or.inr (all e.1 (same.mem_iff.mpr ?_))
      exact List.mem_flatMap.mpr ⟨e, member, List.mem_replicate.mpr ⟨some.ne', rfl⟩⟩
  rw [(start.foldl_update all).variance_eq, (start.foldl_updateBatch repeated).variance_eq]

end WelfordAccumulator

namespace TargetState

theorem foldl_recordIngress_welfordTtl (packets : List PacketMeta) (ts : TargetState F) :
    (packets.foldl recordIngress ts).welfordTtl =
      (packets.map (fun p => (p.ttl.toNat : F))).foldl WelfordAccumulator.update ts.welfordTtl := by
  induction packets generalizing ts with
  | nil => rfl
  | cons packet rest ih =>
    rw [List.foldl_cons, ih, (recordIngress_counted ts packet).2.2, List.map_cons, List.foldl_cons]

theorem foldl_recordSample_welfordTtl (samples : List WindowSample) (ts : TargetState F) :
    (samples.foldl recordSample ts).welfordTtl =
      (samples.flatMap (·.ttls)).foldl (fun acc e => acc.updateBatch (e.1.toNat : F) e.2) ts.welfordTtl := by
  induction samples generalizing ts with
  | nil => rfl
  | cons sample rest ih =>
    rw [List.foldl_cons, ih, List.flatMap_cons, List.foldl_append]
    rfl

/-- Every window starts with a TTL accumulator that has seen nothing: the first one of a
target, and each one after a close. -/
theorem new_welfordTtl {alpha : F} {saved : Option (PersistedBaseline F)} {now : Instant}
    {ts : TargetState F} (created : new alpha saved now = some ts) : ts.welfordTtl = .default := by
  obtain ⟨ewma, _, rfl⟩ := Option.map_eq_some_iff.mp created
  cases saved <;> rfl

theorem closeWindow_welfordTtl {cfg : AnalysisConfig F} {reading : Reading F} {victim : IpAddr}
    {ts after : TargetState F} {w : ClosedWindow F}
    (closed : closeWindow cfg reading victim ts = some (after, w)) :
    after.welfordTtl = ts.welfordTtl.reset := by
  have cleared : (measure cfg reading victim ts).2.welfordTtl = ts.welfordTtl.reset := rfl
  rcases closeWindow_cases closed with ⟨-, -, rfl⟩ | ⟨vd, sentAt, -, -, -, rfl⟩
  · exact cleared
  · have absorbed : (absorb cfg (measure cfg reading victim ts).2 w.stats vd).welfordTtl =
        (measure cfg reading victim ts).2.welfordTtl := by
      unfold absorb
      cases vd.isCleanWindow <;> rfl
    exact absorbed.trans cleared

/-- Below the cap, and on a single value above it, the TTL variance of a window does not
depend on the backend: not on the order of the packets, nor on the drains that brought
their histogram, nor on the order each histogram was read in. -/
theorem ttlVariance_eq (cfg : AnalysisConfig F) (reading reading' : Reading F) (victim : IpAddr)
    {ts ts' : TargetState F} (opened : ts.welfordTtl = .default) (opened' : ts'.welfordTtl = .default)
    (packets : List PacketMeta) (samples : List WindowSample)
    (same : (packets.map PacketMeta.ttl).Perm
      ((samples.flatMap (·.ttls)).flatMap (fun e => List.replicate e.2 e.1)))
    (few : packets.length ≤ maxN ∨ ∀ p ∈ packets, ∀ q ∈ packets, p.ttl = q.ttl) :
    (measure cfg reading victim (packets.foldl recordIngress ts)).1.ttlVariance =
      (measure cfg reading' victim (samples.foldl recordSample ts')).1.ttlVariance := by
  change (packets.foldl recordIngress ts).welfordTtl.variance.getD 0 =
    (samples.foldl recordSample ts').welfordTtl.variance.getD 0
  rw [foldl_recordIngress_welfordTtl, foldl_recordSample_welfordTtl, opened, opened']
  generalize samples.flatMap (·.ttls) = entries at same ⊢
  have batched : entries.foldl (fun acc e => acc.updateBatch (e.1.toNat : F) e.2) WelfordAccumulator.default =
      (entries.map (fun e => ((e.1.toNat : F), e.2))).foldl (fun acc e => acc.updateBatch e.1 e.2) .default := by
    rw [List.foldl_map]
  have values : (packets.map (fun p => (p.ttl.toNat : F))).Perm
      ((entries.map (fun e => ((e.1.toNat : F), e.2))).flatMap (fun e => List.replicate e.2 e.1)) := by
    have mapped := same.map (fun ttl => (ttl.toNat : F))
    simpa [List.map_flatMap, List.flatMap_map, Function.comp_def] using mapped
  rw [batched]
  have fits (few : packets.length ≤ maxN) :
      (packets.map (fun p => (p.ttl.toNat : F))).foldl WelfordAccumulator.update .default =
        (entries.map (fun e => ((e.1.toNat : F), e.2))).foldl (fun acc e => acc.updateBatch e.1 e.2) .default := by
    refine (foldl_updateBatch_eq ?_ values).symm
    rw [← (individually_sums _).1, individually, ← values.length_eq, List.length_map]
    exact few
  rcases few with few | alike
  · rw [fits few]
  · cases packets with
    | nil => rw [fits (Nat.zero_le _)]
    | cons first rest =>
      refine WelfordAccumulator.variance_eq_of_constant (by decide) values (x := (first.ttl.toNat : F)) ?_
      intro y member
      obtain ⟨p, inside, rfl⟩ := List.mem_map.mp member
      rw [alike p inside first List.mem_cons_self]

/-- A target that has seen nothing. -/
def untouched : TargetState ℚ := fresh ⟨0, 0⟩ 0

def packetOf (ttl : BitVec 8) : PacketMeta :=
  ⟨.ingress, .v4 0xc6336409, .v4 0x0a000001, .tcp, 443, 51000, ttl, none⟩

def sampleWith (ttls : List (BitVec 8 × Nat)) : WindowSample := { WindowSample.default with ttls := ttls }

theorem ttlVariance_eq_two_drains :
    (measure AnalysisConfig.default (readingAt 0) (.v4 0x0a000001)
        ([packetOf 64, packetOf 128, packetOf 64].foldl recordIngress untouched)).1.ttlVariance = 4096 / 3 ∧
      (measure AnalysisConfig.default (readingAt 0) (.v4 0x0a000001)
        ([packetOf 64, packetOf 128, packetOf 64].foldl recordIngress untouched)).1.ttlVariance =
      (measure AnalysisConfig.default (readingAt 5) (.v4 0x0a000001)
        ([sampleWith [(128, 1), (64, 1)], sampleWith [(64, 1)]].foldl recordSample untouched)).1.ttlVariance :=
  ⟨by decide +kernel, ttlVariance_eq AnalysisConfig.default (readingAt 0) (readingAt 5) _ rfl rfl _ _ (by decide)
    (Or.inl (by decide))⟩

/-- Five hundred packets of one TTL, then one of another. -/
def lateTtl : List PacketMeta := List.replicate 500 (packetOf 64) ++ [packetOf 128]

/-- The last packet moves the variance of the channel, but is dropped from the batch. -/
theorem lateTtl_variance_ne :
    (lateTtl.map PacketMeta.ttl).Perm
        ([sampleWith [(64, 500), (128, 1)]].flatMap (·.ttls) |>.flatMap (fun e => List.replicate e.2 e.1)) ∧
      (measure AnalysisConfig.default (readingAt 0) (.v4 0x0a000001)
        (lateTtl.foldl recordIngress untouched)).1.ttlVariance ≠ 0 ∧
      (measure AnalysisConfig.default (readingAt 0) (.v4 0x0a000001)
        ([sampleWith [(64, 500), (128, 1)]].foldl recordSample untouched)).1.ttlVariance = 0 :=
  ⟨List.Perm.of_eq (by decide +kernel), by decide +kernel, by decide +kernel⟩

end TargetState

end Flod.Stage1
