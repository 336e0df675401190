import Flod.Stage1.FlowFile
import Flod.Stage2.Receiver

/-! From the packets of a flow interval to the rates Stage 2 reads per source. Stage 1
prints one rate per flow, Stage 2 adds up those of a source. -/

namespace Flod.System
open Flod.Lib Flod.Net Flod.Stage1 Flod.Stage2

variable {F : Type} [Arith F]

/-- A decimal number, read exactly. -/
def readDecimal (text : String) : F :=
  match text.toList.splitOn '.' with
  | [whole, fraction] => readDigits 10 whole + readDigits 10 fraction / 10 ^ fraction.length
  | _ => readDigits 10 text.toList

/-- `json.load` of the flow file. Stage 2 reads no port and no protocol. -/
def loadFlows (report : FlowReport F) : FlowFile F where
  timestamp := some report.timestamp
  activeIps := report.activeIps.map (fun line => ⟨line.ip, line.dst, readDecimal line.rate⟩)

theorem readDecimal_rateText (count : Nat) : (readDecimal (rateText count) : F) = count / 10 := by
  have printed : (rateText count).toList = joined '.' 10 [count / 10, count % 10] := by
    simp [rateText, joined, String.toList_append, List.intercalate]
  have pieces : (rateText count).toList.splitOn '.' =
      [Nat.toDigits 10 (count / 10), Nat.toDigits 10 (count % 10)] := by
    rw [printed, splitOn_joined (by decide) (by decide) (by decide) (by simp)]
    rfl
  have single : (Nat.toDigits 10 (count % 10)).length = 1 := by
    rw [Nat.toDigits_of_lt_base (Nat.mod_lt count (by decide))]
    rfl
  unfold readDecimal
  simp only [pieces, readDigits_toDigits (by decide : 1 < 10) (by decide), single, pow_one]
  have whole : (count : F) = ((10 * (count / 10) + count % 10 : Nat) : F) := by
    rw [Nat.div_add_mod]
  rw [whole]
  push_cast
  ring

/-- The loop over the flows, one flow at a time. -/
def addRate (victim : String) (rates : Dict String F) (flow : Flow F) : Dict String F :=
  if flow.dst = victim ∧ flow.ip ≠ "" ∧ flow.ip ∉ sentinelTexts then
    rates.set flow.ip (rates.getD flow.ip 0 + flow.rate)
  else rates

section Loop

variable (victim : String) {source : String} (named : source ≠ "" ∧ source ∉ sentinelTexts)

include named

theorem foldl_addRate_getD (flows : List (Flow F)) (rates : Dict String F) :
    (flows.foldl (addRate victim) rates).getD source 0 = rates.getD source 0 +
      (flows.map (fun flow => if flow.dst = victim ∧ flow.ip = source then flow.rate else 0)).sum := by
  induction flows generalizing rates with
  | nil => simp
  | cons flow rest ih =>
    rw [List.foldl_cons, ih, List.map_cons, List.sum_cons, ← add_assoc]
    congr 1
    unfold addRate
    by_cases mine : flow.ip = source
    · by_cases here : flow.dst = victim
      · simp [here, mine, named, Dict.getD_set]
      · simp [here]
    · split_ifs with taken other other
      · exact absurd other.2 mine
      · rw [Dict.getD_set, if_neg mine, add_zero]
      · exact absurd other.2 mine
      · rw [add_zero]

theorem mem_keys_foldl_addRate (flows : List (Flow F)) (rates : Dict String F) :
    source ∈ (flows.foldl (addRate victim) rates).keys ↔
      source ∈ rates.keys ∨ ∃ flow ∈ flows, flow.dst = victim ∧ flow.ip = source := by
  induction flows generalizing rates with
  | nil => simp
  | cons flow rest ih =>
    rw [List.foldl_cons, ih, List.exists_mem_cons_iff, ← or_assoc]
    refine or_congr_left ?_
    unfold addRate
    by_cases mine : flow.ip = source
    · by_cases here : flow.dst = victim
      · simp [here, mine, named, Dict.mem_keys_set]
      · simp [here]
    · split_ifs
      · rw [Dict.mem_keys_set]
        simp [mine, Ne.symm mine]
      · simp [mine]

end Loop

/-- The file a window is handled with is this report, and it is not too old. -/
structure ReadFresh (env : WindowEnv F) (report : FlowReport F) : Prop where
  file : env.flowFile = some (loadFlows report)
  fresh : env.outside.now - report.timestamp ≤ env.flowsMaxAgeSecs

theorem loadVictimFlowRates_of_fresh {env : WindowEnv F} {report : FlowReport F}
    (read : ReadFresh env report) (victim : String) :
    loadVictimFlowRates env victim = (loadFlows report).activeIps.foldl (addRate victim) Dict.empty := by
  unfold loadVictimFlowRates
  simp only [read.file]
  exact if_neg (not_lt.mpr read.fresh)

/-- The packets of a source to a victim. -/
def packetsFrom (source victim : IpAddr) (packets : List PacketMeta) : Nat :=
  packets.countP (fun p => decide (p.srcIp = source ∧ p.dstIp = victim))

def sameEnds (source victim : IpAddr) (key : FlowKey) : Bool :=
  decide (key.1 = source ∧ key.2.1 = victim)

theorem countP_flowKey (source victim : IpAddr) (packets : List PacketMeta) :
    (packets.map PacketMeta.flowKey).countP (sameEnds source victim) =
      packetsFrom source victim packets := by
  rw [List.countP_map]
  rfl

variable (flows : Walk (FlowKey × Nat))

/-- Over all ports and protocols, the printed rates of a source add up to its packets. -/
theorem sum_activeIps {packets : List PacketMeta} {counts : Dict FlowKey Nat}
    (tallied : CountsOf (packets.map PacketMeta.flowKey) counts) (source victim : IpAddr) (timestamp : F) :
    ((loadFlows (writeActiveFlows flows counts timestamp)).activeIps.map (fun flow =>
      if flow.dst = victim.display ∧ flow.ip = source.display then flow.rate else 0)).sum =
        (packetsFrom source victim packets : F) / 10 := by
  have line : ∀ e : FlowKey × Nat,
      (if (flowLine e).dst = victim.display ∧ (flowLine e).ip = source.display then
        readDecimal (flowLine e).rate else 0) =
      ((if sameEnds source victim e.1 then e.2 else 0 : Nat) : F) / 10 := by
    intro e
    by_cases ends : e.1.1 = source ∧ e.1.2.1 = victim
    · simp [flowLine, sameEnds, ends, readDecimal_rateText]
    · have apart : ¬ (e.1.2.1.display = victim.display ∧ e.1.1.display = source.display) := by
        intro same
        exact ends ⟨IpAddr.display_injective same.2, IpAddr.display_injective same.1⟩
      simp [flowLine, sameEnds, ends, apart]
  have sorted : ((flows.order counts.entries).mergeSort (fun a b => b.2 ≤ a.2)).Perm counts.entries :=
    (List.mergeSort_perm _ _).trans (flows.perm _)
  simp only [loadFlows, writeActiveFlows, List.map_map, Function.comp_def, line]
  calc _ = (counts.entries.map (fun e =>
        ((if sameEnds source victim e.1 then e.2 else 0 : Nat) : F) / 10)).sum := (sorted.map _).sum_eq
    _ = ((counts.entries.map (fun e => if sameEnds source victim e.1 then e.2 else 0)).sum : Nat) / 10 := by
        simp only [div_eq_mul_inv, List.sum_map_mul_right]
        rw [Nat.cast_list_sum, List.map_map]
        rfl
    _ = (packetsFrom source victim packets : F) / 10 := by
        rw [tallied.counts, countP_flowKey]

/-- A source has a printed flow to the victim exactly if one of its packets was counted. -/
theorem exists_activeIps {packets : List PacketMeta} {counts : Dict FlowKey Nat}
    (tallied : CountsOf (packets.map PacketMeta.flowKey) counts) (source victim : IpAddr) (timestamp : F) :
    (∃ flow ∈ (loadFlows (writeActiveFlows flows counts timestamp)).activeIps,
      flow.dst = victim.display ∧ flow.ip = source.display) ↔ packetsFrom source victim packets ≠ 0 := by
  have counted : packetsFrom source victim packets ≠ 0 ↔
      ∃ key ∈ counts.keys, sameEnds source victim key = true := by
    rw [← countP_flowKey, ← Nat.pos_iff_ne_zero, List.countP_pos_iff]
    simp only [tallied.keys]
  rw [counted]
  constructor
  · rintro ⟨flow, member, toVictim, fromSource⟩
    simp only [loadFlows, writeActiveFlows, List.map_map, List.mem_map, List.mem_mergeSort, Walk.mem_order] at member
    obtain ⟨e, inside, rfl⟩ := member
    refine ⟨e.1, List.mem_map_of_mem inside, ?_⟩
    exact decide_eq_true ⟨IpAddr.display_injective fromSource, IpAddr.display_injective toVictim⟩
  · rintro ⟨key, member, ends⟩
    obtain ⟨e, inside, rfl⟩ := List.mem_map.mp member
    obtain ⟨fromSource, toVictim⟩ := of_decide_eq_true ends
    refine ⟨⟨(flowLine e).ip, (flowLine e).dst, readDecimal (flowLine e).rate⟩, ?_, ?_, ?_⟩
    · simp only [loadFlows, writeActiveFlows, List.map_map, List.mem_map, List.mem_mergeSort, Walk.mem_order]
      exact ⟨e, inside, rfl⟩
    · exact congrArg IpAddr.display toVictim
    · exact congrArg IpAddr.display fromSource

/-- Of every interval whose flows fit into the map, Stage 2 reads for each source a tenth of
its ingress packets to the victim, whatever their ports and protocols. -/
theorem source_rate_exact (cfg : AnalysisConfig F) (persisted : Option (PersistedState F)) (now : Instant)
    (its : List (Iteration F)) (final : AnalysisState F) (outs : List (List (Effect F)))
    (channel : ∀ it ∈ its, it.arrival.ofChannel = true)
    (ran : run (iterate cfg persisted) (AnalysisState.start now) its = some (final, outs))
    (interval : FlowInterval F) (member : interval ∈ intervalsOf its outs)
    (fits : (interval.packets.map PacketMeta.flowKey).toFinset.card ≤ cfg.maxTrackedFlows)
    (env : WindowEnv F) (read : ReadFresh env (writeActiveFlows flows interval.counts interval.timestamp))
    (victim source : IpAddr) (named : source ≠ .v4 0 ∧ source ≠ .v6 0) :
    (loadVictimFlowRates env victim.display).get? source.display =
      if packetsFrom source victim interval.packets = 0 then none
      else some ((packetsFrom source victim interval.packets : F) / 10) := by
  have tallied := loop_talliesFlows channel ran interval member fits
  have text := display_not_sentinel named
  have total := sum_activeIps flows tallied source victim interval.timestamp
  have present := exists_activeIps flows tallied source victim interval.timestamp
  have rate := foldl_addRate_getD victim.display text
    (loadFlows (writeActiveFlows flows interval.counts interval.timestamp)).activeIps Dict.empty
  have listed := mem_keys_foldl_addRate victim.display text
    (loadFlows (writeActiveFlows flows interval.counts interval.timestamp)).activeIps Dict.empty
  rw [← loadVictimFlowRates_of_fresh read] at rate listed
  rw [total] at rate
  rw [present, Dict.mem_keys_iff] at listed
  cases found : (loadVictimFlowRates env victim.display).get? source.display with
  | none =>
    have quiet : packetsFrom source victim interval.packets = 0 := by
      by_contra some
      simpa [found] using listed.mpr (Or.inr some)
    rw [if_pos quiet]
  | some value =>
    have heard : packetsFrom source victim interval.packets ≠ 0 := by
      simpa [found, Dict.empty, Dict.keys] using listed.mp
    rw [if_neg heard]
    rw [Dict.getD, found] at rate
    simpa [Dict.getD, Dict.empty, Dict.get?, Dict.lookupIn] using rate

/-- Two packets of one source to different ports under different protocols, then the ten
seconds are over. -/
def twoPorts : List (Iteration ℚ) :=
  [packetAt 0 0xC0000201 0x0A000001,
    { reading := readingAt 0
      arrival := .packet
        { direction := .ingress
          srcIp := .v4 0xC0000201
          dstIp := .v4 0x0A000001
          protocol := .udp
          dstPort := 53
          sourcePort := 50000
          ttl := 64
          fingerprintBucket := none } },
    tickAt 10000000000]

/-- The receiver a second after a file was written. -/
def justRead (interval : FlowInterval ℚ) : WindowEnv ℚ :=
  { plainEnv EnforcementConfig.default (interval.timestamp + 1) [] with
    flowFile := some (loadFlows (writeActiveFlows flows interval.counts interval.timestamp)) }

theorem twoPorts_rate :
    ∃ final outs interval, run (iterate AnalysisConfig.default none) (AnalysisState.start 0) twoPorts =
        some (final, outs) ∧ interval ∈ intervalsOf twoPorts outs ∧
      ∀ flows, (loadVictimFlowRates (justRead flows interval) (IpAddr.v4 0x0A000001).display).get?
        (IpAddr.v4 0xC0000201).display = some (2 / 10) := by
  have ran : ∃ final outs, run (iterate AnalysisConfig.default none) (AnalysisState.start 0) twoPorts =
      some (final, outs) ∧ ∃ interval ∈ intervalsOf twoPorts outs,
        packetsFrom (.v4 0xC0000201) (.v4 0x0A000001) interval.packets = 2 ∧ interval.packets.length ≤ 2 := by
    decide +kernel
  obtain ⟨final, outs, reached, interval, member, holds⟩ := ran
  have fits : (interval.packets.map PacketMeta.flowKey).toFinset.card ≤ 8192 := by
    have within := List.toFinset_card_le (interval.packets.map PacketMeta.flowKey)
    rw [List.length_map] at within
    omega
  refine ⟨final, outs, interval, reached, member, fun flows => ?_⟩
  have read : ReadFresh (justRead flows interval) (writeActiveFlows flows interval.counts interval.timestamp) :=
    ⟨rfl, by norm_num [justRead, plainEnv, writeActiveFlows]⟩
  rw [source_rate_exact flows AnalysisConfig.default none 0 twoPorts final outs (by decide) reached interval
    member fits (justRead flows interval) read (.v4 0x0A000001) (.v4 0xC0000201) (by decide), holds.1]
  norm_num

end Flod.System
