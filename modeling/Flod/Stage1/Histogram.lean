import Flod.Lib.CappedCount
import Flod.Stage1.EntropyLaws
import Flod.Stage1.Restore

/-! The sources of a window. The accumulator behind the entropy and the map behind the
dominant source are filled side by side, so that the two figures describe one histogram. -/

namespace Flod.Stage1
open Flod.Lib Flod.Net

variable {F : Type} [Arith F] {cfg : AnalysisConfig F} {persisted : Option (PersistedState F)}

section Collects

variable {K : Type}

/-- The accumulator has counted exactly the keys seen. -/
structure EntropyAccumulator.Collects (seen : List K) (acc : EntropyAccumulator K) : Prop where
  tallied : CountsOf seen acc.counts
  packetCount : acc.packetCount = seen.length

namespace EntropyAccumulator.Collects

theorem new : (EntropyAccumulator.new : EntropyAccumulator K).Collects [] := ⟨CountsOf.empty, rfl⟩

variable [DecidableEq K] {seen : List K} {acc : EntropyAccumulator K}

theorem addPackets (collects : acc.Collects seen) (key : K) (count : Nat) :
    (acc.addPackets key count).Collects (seen ++ List.replicate count key) := by
  unfold EntropyAccumulator.addPackets
  by_cases none : count = 0
  · subst none
    simpa using collects
  · rw [if_neg none]
    refine ⟨collects.tallied.add key (Nat.pos_of_ne_zero none), ?_⟩
    rw [List.length_append, List.length_replicate, collects.packetCount]

theorem addPacket (collects : acc.Collects seen) (key : K) : (acc.addPacket key).Collects (seen ++ [key]) :=
  collects.addPackets key 1

end EntropyAccumulator.Collects

end Collects

/-- The packets of a target's open window, told by their source. The map may also hold
sources without a packet. -/
structure Histogram (seen : List IpAddr) (ts : TargetState F) : Prop where
  entropy : ts.entropy.Collects seen
  ipCounts : ∀ ip, ts.ipCounts.getD ip 0 = seen.count ip

section Filling

variable {seen : List IpAddr} {ts : TargetState F}

theorem Histogram.of_cleared (cleared : ts.counts = WindowCounts.cleared) : Histogram [] ts where
  entropy := by
    have emptied : ts.entropy = EntropyAccumulator.new := congrArg WindowCounts.entropy cleared
    rw [emptied]
    exact EntropyAccumulator.Collects.new
  ipCounts := by
    have emptied : ts.ipCounts = Dict.empty := congrArg WindowCounts.ipCounts cleared
    intro ip
    rw [emptied]
    rfl

theorem getD_set_count {d : Dict IpAddr Nat} (same : ∀ ip, d.getD ip 0 = seen.count ip) (source : IpAddr)
    (count : Nat) (ip : IpAddr) :
    (d.set source (d.getD source 0 + count)).getD ip 0 = (seen ++ List.replicate count source).count ip := by
  rw [Dict.getD_set, List.count_append, List.count_replicate, same, same]
  by_cases here : source = ip
  · simp [here]
  · simp [here]

theorem recordIngress_entropy (ts : TargetState F) (packet : PacketMeta) :
    (ts.recordIngress packet).entropy = ts.entropy.addPacket packet.srcIp ∧
      (ts.recordIngress packet).ipCounts =
        ts.ipCounts.set packet.srcIp (ts.ipCounts.getD packet.srcIp 0 + 1) := by
  unfold TargetState.recordIngress
  cases packet.protocol <;> exact ⟨rfl, rfl⟩

theorem Histogram.sources {acc : EntropyAccumulator IpAddr} {d : Dict IpAddr Nat}
    (entropy : acc.Collects seen) (same : ∀ ip, d.getD ip 0 = seen.count ip) (sources : List (IpAddr × Nat)) :
    ∃ more, (sources.foldl (fun acc e => acc.addPackets e.1 (asU32 e.2)) acc).Collects more ∧
      ∀ ip, (sources.foldl (fun acc e => acc.set e.1 (acc.getD e.1 0 + asU32 e.2)) d).getD ip 0 =
        more.count ip := by
  induction sources generalizing seen acc d with
  | nil => exact ⟨seen, entropy, same⟩
  | cons e sources ih =>
    simp only [List.foldl_cons]
    exact ih (entropy.addPackets e.1 (asU32 e.2)) (getD_set_count same e.1 (asU32 e.2))

theorem Histogram.counted (histogram : Histogram seen ts) (c : Counted) :
    ∃ more, Histogram more (ts.count c) := by
  cases c with
  | ingress packet =>
    obtain ⟨entropy, ipCounts⟩ := recordIngress_entropy ts packet
    refine ⟨seen ++ [packet.srcIp], ?_, ?_⟩
    · rw [TargetState.count, entropy]
      exact histogram.entropy.addPacket packet.srcIp
    · rw [TargetState.count, ipCounts]
      exact getD_set_count histogram.ipCounts packet.srcIp 1
  | egress => exact ⟨seen, histogram.entropy, histogram.ipCounts⟩
  | sample sample =>
    obtain ⟨more, entropy, same⟩ := Histogram.sources histogram.entropy histogram.ipCounts sample.sources
    exact ⟨more, entropy, same⟩

end Filling

/-- Every target of a run has a histogram, and so had every window at its close. -/
theorem loop_histogram {its : List (Iteration F)} {began : Instant} {final : AnalysisState F}
    {outs : List (List (Effect F))}
    (ran : run (iterate cfg persisted) (AnalysisState.start began) its = some (final, outs)) :
    ∀ w ∈ closedWindows outs.flatten, ∃ reading victim seen, Histogram seen w.before ∧
      w.stats = (measure cfg reading victim w.before).1 := by
  have kept := loop_keeps (P := fun ts => TargetState.Standing cfg ts ∧ ∃ seen, Histogram seen ts) ?_ ?_ ?_ ran
  · intro w member
    obtain ⟨reading, victim, ⟨-, seen, histogram⟩, figures⟩ := kept.2 w member
    exact ⟨reading, victim, seen, histogram, figures⟩
  · intro p now ts created
    exact ⟨new_standing created, [], .of_cleared (new_counts created)⟩
  · rintro ts c ⟨standing, seen, histogram⟩
    exact ⟨standing.counted c, histogram.counted c⟩
  · rintro reading v ts after w ⟨standing, -⟩ closing
    obtain ⟨standing', cleared⟩ := closeWindow_standing closing standing
    exact ⟨standing', [], .of_cleared cleared⟩

/-! The dominant source. -/

/-- Keeping the later of equal maxima finds a maximum. -/
theorem foldl_maximum {A : Type} {op : Option A → A → Option A} {k : A → Nat}
    (first : ∀ e, op none e = some e)
    (later : ∀ top e, op (some top) e = if k top ≤ k e then some e else some top) (list : List A) :
    (list = [] ∧ list.foldl op none = none) ∨
      ∃ top ∈ list, list.foldl op none = some top ∧ ∀ e ∈ list, k e ≤ k top := by
  induction list using List.reverseRecOn with
  | nil => exact Or.inl ⟨rfl, rfl⟩
  | append_singleton front e ih =>
    right
    rw [List.foldl_append, List.foldl_cons, List.foldl_nil]
    rcases ih with ⟨rfl, none⟩ | ⟨top, member, found, most⟩
    · rw [none, first]
      exact ⟨e, by simp, rfl, by simp⟩
    · rw [found, later]
      by_cases least : k top ≤ k e
      · rw [if_pos least]
        refine ⟨e, by simp, rfl, fun other here => ?_⟩
        rcases List.mem_append.mp here with old | new
        · exact (most other old).trans least
        · rw [List.mem_singleton.mp new]
      · rw [if_neg least]
        refine ⟨top, List.mem_append_left _ member, rfl, fun other here => ?_⟩
        rcases List.mem_append.mp here with old | new
        · exact most other old
        · rw [List.mem_singleton.mp new]
          omega

theorem getD_foldl_maximum {A : Type} {op : Option A → A → Option A} {k : A → Nat}
    (first : ∀ e, op none e = some e)
    (later : ∀ top e, op (some top) e = if k top ≤ k e then some e else some top) (list : List A)
    (default : A) :
    (list = [] ∧ (list.foldl op none).getD default = default) ∨
      ((list.foldl op none).getD default ∈ list ∧
        ∀ e ∈ list, k e ≤ k ((list.foldl op none).getD default)) := by
  rcases foldl_maximum first later list with ⟨empty, none⟩ | ⟨top, member, found, most⟩
  · rw [none]
    exact Or.inl ⟨empty, rfl⟩
  · rw [found]
    exact Or.inr ⟨member, most⟩

theorem dominantSource_cases (sources : Walk (IpAddr × Nat)) (ipCounts : Dict IpAddr Nat) :
    (ipCounts.entries = [] ∧ dominantSource sources ipCounts = (unspecified, 0)) ∨
      (dominantSource sources ipCounts ∈ ipCounts.entries ∧
        ∀ e ∈ ipCounts.entries, e.2 ≤ (dominantSource sources ipCounts).2) := by
  have largest : (sources.order ipCounts.entries = [] ∧ dominantSource sources ipCounts = (unspecified, 0)) ∨
      (dominantSource sources ipCounts ∈ sources.order ipCounts.entries ∧
        ∀ e ∈ sources.order ipCounts.entries, e.2 ≤ (dominantSource sources ipCounts).2) :=
    getD_foldl_maximum (k := Prod.snd) (fun _ => rfl) (fun _ _ => rfl) _ (unspecified, 0)
  simpa only [Walk.order_eq_nil, Walk.mem_order] using largest

omit [Arith F] in
/-- No source has more packets than the dominant one, which has as many as it is said to. -/
theorem Histogram.dominant {seen : List IpAddr} {ts : TargetState F} (histogram : Histogram seen ts)
    (sources : Walk (IpAddr × Nat)) (nonempty : seen ≠ []) :
    (dominantSource sources ts.ipCounts).2 = seen.count (dominantSource sources ts.ipCounts).1 ∧
      0 < (dominantSource sources ts.ipCounts).2 ∧ ∀ ip, seen.count ip ≤ (dominantSource sources ts.ipCounts).2 := by
  have most : ∀ ip, seen.count ip ≤ (dominantSource sources ts.ipCounts).2 := by
    intro ip
    rw [← histogram.ipCounts ip, Dict.getD]
    cases found : ts.ipCounts.get? ip with
    | none => exact Nat.zero_le _
    | some n =>
      have entry := (Dict.get?_eq_some_iff _ _ _).mp found
      rcases dominantSource_cases sources ts.ipCounts with ⟨empty, -⟩ | ⟨-, most⟩
      · rw [empty] at entry
        cases entry
      · exact most _ entry
  obtain ⟨ip, came⟩ := List.exists_mem_of_ne_nil seen nonempty
  have positive : 0 < (dominantSource sources ts.ipCounts).2 := (List.count_pos_iff.mpr came).trans_le (most ip)
  refine ⟨?_, positive, most⟩
  rcases dominantSource_cases sources ts.ipCounts with ⟨-, none⟩ | ⟨entry, -⟩
  · rw [none] at positive
    cases positive
  · have found : ts.ipCounts.get? (dominantSource sources ts.ipCounts).1 = some (dominantSource sources ts.ipCounts).2 :=
      (Dict.get?_eq_some_iff _ _ _).mpr entry
    rw [← histogram.ipCounts, Dict.getD, found, Option.getD_some]

/-! Entropy and dominance of one window, over the reals. -/

section Real

variable {seen : List IpAddr} {ts : TargetState ℝ}

/-- With two sources or more, the dominant ratio is the largest share of the histogram. -/
theorem Histogram.dominantIpRatio (histogram : Histogram seen ts) (cfg : AnalysisConfig ℝ) (reading : Reading ℝ)
    (victim : IpAddr) (two : 2 ≤ ts.entropy.counts.size) :
    ∃ j, (measure cfg reading victim ts).1.dominantIpRatio = share ts.entropy.counts.values ts.entropy.counts.values.sum j ∧
      ∀ i, share ts.entropy.counts.values ts.entropy.counts.values.sum i ≤
        share ts.entropy.counts.values ts.entropy.counts.values.sum j := by
  have tallied := histogram.entropy.tallied
  have nonempty : seen ≠ [] := by
    rintro rfl
    rw [tallied.size] at two
    simp at two
  obtain ⟨same, positive, most⟩ := histogram.dominant (reading.sources victim) nonempty
  have entry : (dominantSource (reading.sources victim) ts.ipCounts).2 ∈ ts.entropy.counts.values := by
    have member : (dominantSource (reading.sources victim) ts.ipCounts).1 ∈ ts.entropy.counts.keys := by
      rw [tallied.keys, ← List.count_pos_iff, ← same]
      exact positive
    obtain ⟨n, found⟩ := Dict.get?_of_mem_keys member
    rw [same, ← tallied.eq_count found]
    exact List.mem_map.mpr ⟨_, (Dict.get?_eq_some_iff _ _ _).mp found, rfl⟩
  obtain ⟨j, at_j⟩ := List.get_of_mem entry
  have total : ts.entropy.packetCount = ts.entropy.counts.values.sum := by
    rw [histogram.entropy.packetCount, tallied.sum_values]
  have counted : 0 < ts.entropy.packetCount := by
    rw [histogram.entropy.packetCount]
    exact List.length_pos_of_ne_nil nonempty
  refine ⟨j, ?_, fun i => ?_⟩
  · simp only [measure, counted, if_true]
    rw [share, at_j, total]
  · have least : ts.entropy.counts.values.get i ≤ ts.entropy.counts.values.get j := by
      rw [at_j]
      obtain ⟨⟨ip, n⟩, held, same⟩ := List.mem_map.mp (List.get_mem ts.entropy.counts.values i)
      rw [← same, tallied.eq_count ((Dict.get?_eq_some_iff _ _ _).mpr held)]
      exact most ip
    unfold share
    gcongr

theorem Histogram.h (histogram : Histogram seen ts) (cfg : AnalysisConfig ℝ) (reading : Reading ℝ) (victim : IpAddr) :
    (measure cfg reading victim ts).1.h = computeNormalizedEntropy ts.entropy.counts ts.entropy.counts.values.sum := by
  rw [histogram.entropy.tallied.sum_values, ← histogram.entropy.packetCount]
  rfl

/-- In every window with at least two sources, low entropy forces a dominant share and a
dominant share bounds the entropy. Entropies are in bits. -/
theorem dominant_share_bounds (cfg : AnalysisConfig ℝ) (persisted : Option (PersistedState ℝ))
    {its : List (Iteration ℝ)} {began : Instant} {final : AnalysisState ℝ} {outs : List (List (Effect ℝ))}
    (ran : run (iterate cfg persisted) (AnalysisState.start began) its = some (final, outs))
    {w : ClosedWindow ℝ} (closed : w ∈ closedWindows outs.flatten) (two : 2 ≤ w.before.entropy.counts.size) :
    (w.before.entropy.counts.size : ℝ) ^ (-w.stats.h) ≤ w.stats.dominantIpRatio ∧
      w.stats.h * Real.logb 2 w.before.entropy.counts.size ≤
        Real.binEntropy w.stats.dominantIpRatio / Real.log 2 +
          (1 - w.stats.dominantIpRatio) * Real.logb 2 (w.before.entropy.counts.size - 1) := by
  obtain ⟨reading, victim, seen, histogram, figures⟩ := loop_histogram ran w closed
  obtain ⟨j, ratio, largest⟩ := histogram.dominantIpRatio cfg reading victim two
  have positive := histogram.entropy.tallied.positive
  rw [figures, ratio, histogram.h]
  exact ⟨rpow_neg_le_share positive two largest, mul_logb_le_share positive two j⟩

/-! Three packets of one source and one of another, and a second later the close. -/

def unevenSample : WindowSample :=
  { WindowSample.default with ingressPackets := 4, sources := [(.v4 1, 3), (.v4 2, 1)] }

noncomputable def unevenTarget : TargetState ℝ :=
  (TargetState.fresh ⟨0, AnalysisConfig.default.ewmaAlpha⟩ 0).recordSample unevenSample

noncomputable def unevenState : AnalysisState ℝ :=
  ⟨Dict.empty.set (.v4 9) unevenTarget, Dict.empty, 0, 0⟩

noncomputable def unevenClose : TargetState ℝ × ClosedWindow ℝ :=
  closeWarmup AnalysisConfig.default (readingAt 1000000000) (.v4 9) unevenTarget
    (measure AnalysisConfig.default (readingAt 1000000000) (.v4 9) unevenTarget).2
    (measure AnalysisConfig.default (readingAt 1000000000) (.v4 9) unevenTarget).1

theorem unevenState_reached : iterate (AnalysisConfig.default : AnalysisConfig ℝ) none (AnalysisState.start 0)
    ⟨readingAt 0, .drained [(.v4 9, unevenSample)]⟩ = some (unevenState, []) := by
  have ensured : ensureTarget (AnalysisConfig.default : AnalysisConfig ℝ) none 0 Dict.empty (.v4 9) =
      some (some (TargetState.fresh ⟨0, AnalysisConfig.default.ewmaAlpha⟩ 0)) := by
    have created : TargetState.new (AnalysisConfig.default : AnalysisConfig ℝ).ewmaAlpha none 0 =
        some (TargetState.fresh ⟨0, AnalysisConfig.default.ewmaAlpha⟩ 0) := by
      norm_num [TargetState.new, EwmaState.withAlpha, AnalysisConfig.default]
    simp only [ensureTarget, Dict.get?_empty, lookup, Option.bind_none, created]
    rfl
  have arrived : arrive (AnalysisConfig.default : AnalysisConfig ℝ) none (AnalysisState.start 0)
      ⟨readingAt 0, .drained [(.v4 9, unevenSample)]⟩ = some (unevenState, [.v4 9]) := by
    simp only [arrive, admitSamples, admitSample, admitVictim, AnalysisState.start, readingAt, ensured]
    rfl
  have early : shouldClose (readingAt 0 : Reading ℝ).now unevenTarget = false := by
    norm_num [shouldClose, readingAt, secondsSince, unevenTarget, TargetState.recordSample, TargetState.fresh]
  have checked : checkVictim (AnalysisConfig.default : AnalysisConfig ℝ) (readingAt 0) unevenState (.v4 9) =
      some (unevenState, []) := by
    simp only [checkVictim, unevenState, Dict.get?_set_self, early]
    rfl
  simp only [iterate, arrived, run, checked]
  rfl

theorem unevenState_closes : iterate (AnalysisConfig.default : AnalysisConfig ℝ) none unevenState
    ⟨readingAt 1000000000, .timeout⟩ =
      some (settle (readingAt 1000000000) unevenState (.v4 9) unevenClose.1 unevenClose.2) := by
  have due : shouldClose (readingAt 1000000000 : Reading ℝ).now unevenTarget = true := by
    norm_num [shouldClose, readingAt, secondsSince, unevenTarget, TargetState.recordSample, TargetState.fresh]
  have closing : closeWindow AnalysisConfig.default (readingAt 1000000000) (.v4 9) unevenTarget =
      some unevenClose := rfl
  have checked : checkVictim (AnalysisConfig.default : AnalysisConfig ℝ) (readingAt 1000000000) unevenState
      (.v4 9) = some (settle (readingAt 1000000000) unevenState (.v4 9) unevenClose.1 unevenClose.2) := by
    have found : unevenState.targetsMap.get? (.v4 9) = some unevenTarget := Dict.get?_set_self _ _ _
    simp only [checkVictim, found, due, if_true, closing, Option.map_some]
  have victims : (readingAt 1000000000 : Reading ℝ).hosts.order unevenState.targetsMap.keys = [.v4 9] := rfl
  simp only [iterate, arrive, victims, run, checked, Option.map_some, List.flatten_cons, List.flatten_nil,
    List.append_nil]

theorem unevenClose_bounds :
    (2 : ℝ) ^ (-unevenClose.2.stats.h) ≤ unevenClose.2.stats.dominantIpRatio ∧
      unevenClose.2.stats.h * Real.logb 2 2 ≤
        Real.binEntropy unevenClose.2.stats.dominantIpRatio / Real.log 2 +
          (1 - unevenClose.2.stats.dominantIpRatio) * Real.logb 2 (2 - 1) := by
  have two : unevenClose.2.before.entropy.counts.size = 2 := rfl
  have ran : run (iterate (AnalysisConfig.default : AnalysisConfig ℝ) none) (AnalysisState.start 0)
      [⟨readingAt 0, .drained [(.v4 9, unevenSample)]⟩, ⟨readingAt 1000000000, .timeout⟩] =
        some ((settle (readingAt 1000000000) unevenState (.v4 9) unevenClose.1 unevenClose.2).1,
          [[], (settle (readingAt 1000000000) unevenState (.v4 9) unevenClose.1 unevenClose.2).2]) := by
    simp only [run, unevenState_reached, unevenState_closes]
  have closed : unevenClose.2 ∈ closedWindows
      [[], (settle (readingAt 1000000000) unevenState (.v4 9) unevenClose.1 unevenClose.2).2].flatten := by
    rw [List.flatten_cons, List.nil_append, List.flatten_cons, List.flatten_nil, List.append_nil,
      closedWindows_settle]
    exact List.mem_singleton_self _
  have bounds := dominant_share_bounds AnalysisConfig.default none ran closed two.ge
  rw [two] at bounds
  exact_mod_cast bounds

end Real

end Flod.Stage1
