import Flod.Stage1.FlowFile

/-! The flow table between two writes, at any capacity. It never outgrows the capacity, what
it holds of a flow is all of it, and a flow it does not hold met a full table every time. -/

namespace Flod.Stage1
open Flod.Lib Flod.Net

variable {F : Type} [Arith F] {cfg : AnalysisConfig F} {persisted : Option (PersistedState F)}

/-- The packets pending for the next write, in a table that may be full. -/
def HoldsFlows (cfg : AnalysisConfig F) (packets : List PacketMeta) (counts : Dict FlowKey Nat) : Prop :=
  CountsHeld cfg.maxTrackedFlows (packets.map PacketMeta.flowKey) counts

omit [Arith F] in
theorem HoldsFlows.foldl {packets : List PacketMeta} {counts : Dict FlowKey Nat}
    (held : HoldsFlows cfg packets counts) (more : List PacketMeta) :
    HoldsFlows cfg (packets ++ more)
      (more.foldl (fun flows packet => trackFlow cfg flows packet.flowKey 1) counts) := by
  induction more generalizing packets counts with
  | nil => simpa using held
  | cons packet more ih =>
    have one : HoldsFlows cfg (packets ++ [packet]) (trackFlow cfg counts packet.flowKey 1) := by
      unfold HoldsFlows
      rw [List.map_append]
      exact held.count packet.flowKey
    simpa using ih one

/-- Effects without a write of the flow file. -/
def NoWrite (effects : List (Effect F)) : Prop := ∀ flows timestamp, Effect.flowsWritten flows timestamp ∉ effects

omit [Arith F] in
theorem noWrite_append {first second : List (Effect F)} :
    NoWrite (first ++ second) ↔ NoWrite first ∧ NoWrite second := by
  simp only [NoWrite, List.mem_append, not_or]
  exact ⟨fun both => ⟨fun flows t => (both flows t).1, fun flows t => (both flows t).2⟩,
    fun both flows t => ⟨both.1 flows t, both.2 flows t⟩⟩

theorem settle_flowCounts (past : List (Happening F)) (reading : Reading F) (st : AnalysisState F)
    (victim : IpAddr) (after : TargetState F) (w : ClosedWindow F) :
    (sinceWrite [] (past ++ (settle reading st victim after w).2.map .did) = [] ∧
        (settle reading st victim after w).1.flowCounts = Dict.empty ∧
        ¬ NoWrite (settle reading st victim after w).2) ∨
      (sinceWrite [] (past ++ (settle reading st victim after w).2.map .did) = sinceWrite [] past ∧
        (settle reading st victim after w).1.flowCounts = st.flowCounts) := by
  rw [sinceWrite_append]
  by_cases writes : flowWriteSecs ≤ (secondsSince reading.now st.lastFlowWrite : F)
  · left
    by_cases saves : savesBaseline reading st.lastBaselineSave w = true
    · simp [settle, writes, saves, sinceWrite, NoWrite]
    · simp [settle, writes, saves, sinceWrite, NoWrite]
  · right
    by_cases saves : savesBaseline reading st.lastBaselineSave w = true
    · simp [settle, writes, saves, sinceWrite]
    · simp [settle, writes, saves, sinceWrite]

theorem loop_holdsFlows {its : List (Iteration F)} {began : Instant} {final : AnalysisState F}
    {outs : List (List (Effect F))} (channel : ∀ it ∈ its, it.arrival.ofChannel = true)
    (ran : run (iterate cfg persisted) (AnalysisState.start began) its = some (final, outs)) :
    HoldsFlows cfg (sinceWrite [] (happened its outs)) final.flowCounts := by
  have start : HoldsFlows cfg (sinceWrite ([] : List PacketMeta) ([] : List (Happening F))) Dict.empty :=
    CountsHeld.empty _
  refine channel_history (I := fun past st => HoldsFlows cfg (sinceWrite [] past) st.flowCounts) ?_ ?_
    start channel ran
  · intro past st it mid victims held onChannel arrived
    rw [sinceWrite_append, sinceWrite_came, arrive_flowCounts onChannel arrived]
    exact held.foldl _
  · intro past reading st v ts after w held _ _
    rcases settle_flowCounts past reading st v after w with ⟨none, emptied, -⟩ | ⟨same, kept⟩
    · rw [none, emptied]
      exact CountsHeld.empty _
    · rw [same, kept]
      exact held

/-! A flow that was taken in stays until the write. -/

theorem iterate_flowCounts {st st' : AnalysisState F} {it : Iteration F} {effects : List (Effect F)}
    (channel : it.arrival.ofChannel = true) (iterated : iterate cfg persisted st it = some (st', effects))
    (unwritten : NoWrite effects) :
    st'.flowCounts =
      it.arrival.ingress.foldl (fun flows packet => trackFlow cfg flows packet.flowKey 1) st.flowCounts := by
  obtain ⟨mid, victims, outs, arrived, checked, rfl⟩ := iterate_cases iterated
  have kept := run_history (I := fun past s => NoWrite past.flatten → s.flowCounts = mid.flowCounts)
    ?_ victims [] mid st' outs (fun _ => rfl) checked
  · rw [kept unwritten, arrive_flowCounts channel arrived]
  · intro past s v s' out inv taken quiet
    rw [List.flatten_append, List.flatten_singleton, noWrite_append] at quiet
    obtain ⟨before, here⟩ := quiet
    rcases checkVictim_cases taken with ⟨rfl, -, -⟩ | ⟨ts, after, w, -, -, -, rfl, rfl⟩
    · exact inv before
    · rcases settle_flowCounts [] it.reading s v after w with ⟨-, -, writes⟩ | ⟨-, same⟩
      · exact absurd here writes
      · rw [same, inv before]

omit [Arith F] in
theorem mem_keys_foldl {key : FlowKey} {flows : Dict FlowKey Nat} (member : key ∈ flows.keys)
    (packets : List PacketMeta) :
    key ∈ (packets.foldl (fun flows packet => trackFlow cfg flows packet.flowKey 1) flows).keys := by
  induction packets generalizing flows with
  | nil => exact member
  | cons packet packets ih =>
    rw [List.foldl_cons]
    exact ih (mem_keys_countCapped 1 member)

theorem run_keeps_flow {its : List (Iteration F)} {st final : AnalysisState F} {outs : List (List (Effect F))}
    {key : FlowKey} (channel : ∀ it ∈ its, it.arrival.ofChannel = true)
    (ran : run (iterate cfg persisted) st its = some (final, outs)) (unwritten : NoWrite outs.flatten)
    (member : key ∈ st.flowCounts.keys) : key ∈ final.flowCounts.keys := by
  induction its generalizing st outs with
  | nil =>
    simp only [run, Option.some.injEq, Prod.mk.injEq] at ran
    rw [← ran.1]
    exact member
  | cons it its ih =>
    obtain ⟨mid, effects, rest, iterated, later, rfl⟩ := run_cons ran
    rw [List.flatten_cons, noWrite_append] at unwritten
    obtain ⟨now, afterwards⟩ := unwritten
    apply ih (fun it member => channel it (List.mem_cons_of_mem _ member)) later afterwards
    rw [iterate_flowCounts (channel it List.mem_cons_self) iterated now]
    exact mem_keys_foldl member _

/-- At every moment of a run on the channel source, for every capacity: the table fits it,
each flow it holds has the number of its ingress packets since the table was last cleared,
and a flow seen since then is missing only if the table was full when each of its packets came. -/
theorem flow_table_exact (cfg : AnalysisConfig F) (persisted : Option (PersistedState F))
    {its : List (Iteration F)} {began : Instant} {final : AnalysisState F} {outs : List (List (Effect F))}
    (channel : ∀ it ∈ its, it.arrival.ofChannel = true)
    (ran : run (iterate cfg persisted) (AnalysisState.start began) its = some (final, outs)) :
    final.flowCounts.size ≤ cfg.maxTrackedFlows ∧
      (∀ key n, final.flowCounts.get? key = some n →
        n = (sinceWrite [] (happened its outs)).countP (fun packet => decide (packet.flowKey = key))) ∧
      ∀ key, final.flowCounts.get? key = none → ∀ before it after packet, its = before ++ it :: after →
        it.arrival.ingress = [packet] → packet.flowKey = key → NoWrite (outs.drop before.length).flatten →
        ∃ mid outs', run (iterate cfg persisted) (AnalysisState.start began) before = some (mid, outs') ∧
          cfg.maxTrackedFlows ≤ mid.flowCounts.size := by
  have held := loop_holdsFlows channel ran
  refine ⟨held.bounded, fun key n found => ?_, ?_⟩
  · rw [held.counts key n found, List.countP_map]
    rfl
  rintro key missing before it after packet rfl came rfl unwritten
  obtain ⟨mid, outs₁, outs₂, first, second, rfl⟩ := run_append ran
  refine ⟨mid, outs₁, first, ?_⟩
  by_contra room
  rw [← run_length first, List.drop_left] at unwritten
  obtain ⟨next, effects, rest, iterated, later, rfl⟩ := run_cons second
  rw [List.flatten_cons, noWrite_append] at unwritten
  obtain ⟨now, afterwards⟩ := unwritten
  -- there was room for the flow, so the packet brought it in
  have taken : packet.flowKey ∈ next.flowCounts.keys := by
    rw [iterate_flowCounts (channel it (by simp)) iterated now, came]
    exact mem_keys_countCapped_self 1 (not_le.mp room)
  have stays := run_keeps_flow (fun it member => channel it (by simp [member])) later afterwards taken
  rw [Dict.mem_keys_iff, missing] at stays
  cases stays

/-- Room for one flow, and packets of two. -/
def oneSlot : AnalysisConfig ℚ := { AnalysisConfig.default with maxTrackedFlows := 1 }

def crowdedFlows : List (Iteration ℚ) := [packetAt 0 1 9, packetAt 1000 2 9, packetAt 2000 1 9]

theorem crowdedFlows_exact :
    ∃ final outs, run (iterate oneSlot none) (AnalysisState.start 0) crowdedFlows = some (final, outs) ∧
      final.flowCounts.get? (.v4 1, .v4 9, 443, 6) = some 2 ∧
      2 = (sinceWrite [] (happened crowdedFlows outs)).countP
        (fun packet => decide (packet.flowKey = (.v4 1, .v4 9, 443, 6))) ∧
      final.flowCounts.get? (.v4 2, .v4 9, 443, 6) = none ∧
      ∃ mid outs', run (iterate oneSlot none) (AnalysisState.start 0) [packetAt 0 1 9] = some (mid, outs') ∧
        1 ≤ mid.flowCounts.size := by
  have ends : ∃ final outs, run (iterate oneSlot none) (AnalysisState.start 0) crowdedFlows =
        some (final, outs) ∧
      final.flowCounts.get? (.v4 1, .v4 9, 443, 6) = some 2 ∧
      final.flowCounts.get? (.v4 2, .v4 9, 443, 6) = none ∧ outs.flatten.length = 0 := by
    decide +kernel
  obtain ⟨final, outs, ran, tracked, missing, quiet⟩ := ends
  have unwritten : NoWrite (outs.drop 1).flatten := by
    intro flows timestamp member
    obtain ⟨effects, here, effect⟩ := List.mem_flatten.mp member
    have all := List.mem_flatten.mpr ⟨effects, List.mem_of_mem_drop here, effect⟩
    rw [List.length_eq_zero_iff.mp quiet] at all
    cases all
  obtain ⟨-, counts, full⟩ := flow_table_exact oneSlot none (by decide) ran
  exact ⟨final, _, ran, tracked, counts _ _ tracked, missing,
    full _ missing [packetAt 0 1 9] (packetAt 1000 2 9) [packetAt 2000 1 9] _ rfl rfl rfl unwritten⟩

end Flod.Stage1
