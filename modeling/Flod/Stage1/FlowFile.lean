import Flod.Lib.CappedCount
import Flod.Net.AddressText
import Flod.Stage1.AnalysisRun

/-! The flow file. The loop counts ingress packets per flow, and about every ten seconds
writes the counts out and starts over. What it writes is a tally of the packets that came
since it last wrote. -/

namespace Flod.Stage1
open Flod.Lib Flod.Net

variable {F : Type} [Arith F] {cfg : AnalysisConfig F} {persisted : Option (PersistedState F)}

/-- One entry of the file, as printed. -/
structure FlowLine where
  ip : String
  dst : String
  port : Nat
  proto : String
  rate : String

structure FlowReport (F : Type) where
  timestamp : F
  activeIps : List FlowLine

def protoStr (proto : BitVec 8) : String :=
  if proto = 6 then "TCP" else if proto = 17 then "UDP" else if proto = 1 then "ICMP" else "OTHER"

/-- `count / 10` with one digit after the point. -/
def rateText (count : Nat) : String := toString (count / 10) ++ "." ++ toString (count % 10)

def flowLine (flow : FlowKey × Nat) : FlowLine where
  ip := flow.1.1.display
  dst := flow.1.2.1.display
  port := flow.1.2.2.1.toNat
  proto := protoStr flow.1.2.2.2
  rate := rateText flow.2

/-- Every tracked flow, the busiest first; the sort is stable, so equally busy ones stay in the
order in which the table is walked. -/
def writeActiveFlows (flows : Walk (FlowKey × Nat)) (flowCounts : Dict FlowKey Nat) (timestamp : F) :
    FlowReport F where
  timestamp := timestamp
  activeIps := ((flows.order flowCounts.entries).mergeSort (fun a b => b.2 ≤ a.2)).map flowLine

/-! The intervals between two writes. -/

def PacketMeta.flowKey (packet : PacketMeta) : FlowKey :=
  (packet.srcIp, packet.dstIp, packet.dstPort, protoNum packet.protocol)

/-- The packets an arrival counts as flows. -/
def Arrival.ingress : Arrival → List PacketMeta
  | .packet p => if p.direction = .ingress then [p] else []
  | _ => []

/-- The channel source never drains the kernel. -/
def Arrival.ofChannel : Arrival → Bool
  | .drained _ => false
  | _ => true

/-- A packet that came, or something the loop did. -/
inductive Happening (F : Type) where
  | came (packet : PacketMeta)
  | did (effect : Effect F)

/-- An iteration first counts what came. -/
def happenings (step : Iteration F × List (Effect F)) : List (Happening F) :=
  step.1.arrival.ingress.map .came ++ step.2.map .did

/-- All that happened in a run, in order. -/
def happened (its : List (Iteration F)) (outs : List (List (Effect F))) : List (Happening F) :=
  (its.zip outs).flatMap happenings

/-- All that can come through the channel: nothing, an egress packet, or an ingress packet
whose flow is counted before its victim is looked at. -/
theorem arrive_channel {st mid : AnalysisState F} {it : Iteration F} {victims : List IpAddr}
    (channel : it.arrival.ofChannel = true) (arrived : arrive cfg persisted st it = some (mid, victims)) :
    (it.arrival.ingress = [] ∧ mid = st) ∨
      (∃ v seen, it.arrival.ingress = [] ∧
        admitVictim cfg persisted it.reading.now st v (·.recordEgress) = some (mid, seen)) ∨
      ∃ packet seen, it.arrival.ingress = [packet] ∧
        admitVictim cfg persisted it.reading.now
          { st with flowCounts := trackFlow cfg st.flowCounts packet.flowKey 1 } packet.dstIp
          (·.recordIngress packet) = some (mid, seen) := by
  unfold arrive at arrived
  cases kind : it.arrival with
  | drained samples => simp [kind, Arrival.ofChannel] at channel
  | timeout =>
    simp only [kind, Option.some.injEq, Prod.mk.injEq] at arrived
    exact Or.inl ⟨rfl, arrived.1.symm⟩
  | packet packet =>
    simp only [kind] at arrived
    obtain ⟨⟨mid', seen⟩, admitted, pair⟩ := Option.map_eq_some_iff.mp arrived
    cases pair
    unfold admitPacket at admitted
    cases way : packet.direction with
    | ingress =>
      simp only [way] at admitted
      exact Or.inr (Or.inr ⟨packet, seen, by simp [Arrival.ingress, way], admitted⟩)
    | egress =>
      simp only [way] at admitted
      obtain ⟨⟨final, seen'⟩, taken, pair⟩ := Option.map_eq_some_iff.mp admitted
      cases pair
      exact Or.inr (Or.inl ⟨packet.dstIp, seen', by simp [Arrival.ingress, way], taken⟩)

/-- An invariant of the loop and of all that happened outlasts an iteration of the channel
source, if what came keeps it and so does every close. -/
theorem iterate_channel {I : List (Happening F) → AnalysisState F → Prop}
    (comes : ∀ past st it mid victims, I past st → it.arrival.ofChannel = true →
      arrive cfg persisted st it = some (mid, victims) → I (past ++ it.arrival.ingress.map .came) mid)
    (closes : ∀ past reading st v ts after w, I past st → st.targetsMap.get? v = some ts →
      closeWindow cfg reading v ts = some (after, w) →
      I (past ++ (settle reading st v after w).2.map .did) (settle reading st v after w).1)
    {past : List (Happening F)} {st st' : AnalysisState F} {it : Iteration F} {effects : List (Effect F)}
    (inv : I past st) (channel : it.arrival.ofChannel = true)
    (iterated : iterate cfg persisted st it = some (st', effects)) :
    I (past ++ happenings (it, effects)) st' := by
  obtain ⟨mid, victims, outs, arrived, checked, rfl⟩ := iterate_cases iterated
  have admitted := comes past st it mid victims inv channel arrived
  have done := run_history (I := fun more s => I (past ++ it.arrival.ingress.map .came ++ more.flatten.map .did) s)
    ?_ victims [] mid st' outs (by simpa using admitted) checked
  · simpa [happenings] using done
  · intro more s v s' out inv taken
    rcases checkVictim_cases taken with ⟨rfl, rfl, -⟩ | ⟨ts, after, w, found, -, closing, rfl, rfl⟩
    · simpa using inv
    · simpa using closes _ it.reading s v ts after w inv found closing

theorem channel_history {I : List (Happening F) → AnalysisState F → Prop}
    (comes : ∀ past st it mid victims, I past st → it.arrival.ofChannel = true →
      arrive cfg persisted st it = some (mid, victims) → I (past ++ it.arrival.ingress.map .came) mid)
    (closes : ∀ past reading st v ts after w, I past st → st.targetsMap.get? v = some ts →
      closeWindow cfg reading v ts = some (after, w) →
      I (past ++ (settle reading st v after w).2.map .did) (settle reading st v after w).1)
    {its : List (Iteration F)} {st final : AnalysisState F} {outs : List (List (Effect F))}
    (start : I [] st) (channel : ∀ it ∈ its, it.arrival.ofChannel = true)
    (ran : run (iterate cfg persisted) st its = some (final, outs)) :
    I (happened its outs) final := by
  have done := run_history_of_always (I := fun past s => I (past.flatMap happenings) s)
    (C := fun _ it _ _ => it.arrival.ofChannel = true ∧ True) ?_ its [] st final (its.zip outs)
    start ((always_true its _).and_events channel) (run_paired ran)
  · simpa [happened] using done
  · intro past s it mid o inv taken met
    obtain ⟨⟨mid', effects⟩, iterated, pair⟩ := Option.map_eq_some_iff.mp taken
    cases pair
    simpa using iterate_channel comes closes inv met.1 iterated

theorem admitVictim_flowCounts {now : Instant} {st st' : AnalysisState F} {victim : IpAddr}
    {record : TargetState F → TargetState F} {seen : Bool}
    (admitted : admitVictim cfg persisted now st victim record = some (st', seen)) :
    st'.flowCounts = st.flowCounts := by
  rcases admitVictim_cases admitted with ⟨-, rfl, -⟩ | ⟨-, -, rfl, -⟩ | ⟨ts, -, -, rfl, -⟩ <;> rfl

theorem arrive_flowCounts {st mid : AnalysisState F} {it : Iteration F} {victims : List IpAddr}
    (channel : it.arrival.ofChannel = true) (arrived : arrive cfg persisted st it = some (mid, victims)) :
    mid.flowCounts =
      it.arrival.ingress.foldl (fun flows packet => trackFlow cfg flows packet.flowKey 1) st.flowCounts := by
  rcases arrive_channel channel arrived with ⟨none, rfl⟩ | ⟨v, seen, none, admitted⟩ |
    ⟨packet, seen, one, admitted⟩
  · rw [none]
    rfl
  · rw [none, admitVictim_flowCounts admitted]
    rfl
  · rw [one, admitVictim_flowCounts admitted]
    rfl

/-- What one write is about: the packets since the write before, and the counts written. -/
structure FlowInterval (F : Type) where
  packets : List PacketMeta
  counts : Dict FlowKey Nat
  timestamp : F

/-- The packets that came since the last write. -/
def sinceWrite : List PacketMeta → List (Happening F) → List PacketMeta
  | since, [] => since
  | since, .came packet :: rest => sinceWrite (since ++ [packet]) rest
  | _, .did (.flowsWritten _ _) :: rest => sinceWrite [] rest
  | since, .did _ :: rest => sinceWrite since rest

def flowIntervals : List PacketMeta → List (Happening F) → List (FlowInterval F)
  | _, [] => []
  | since, .came packet :: rest => flowIntervals (since ++ [packet]) rest
  | since, .did (.flowsWritten counts timestamp) :: rest =>
      ⟨since, counts, timestamp⟩ :: flowIntervals [] rest
  | since, .did _ :: rest => flowIntervals since rest

/-- The intervals of a run of the loop. -/
def intervalsOf (its : List (Iteration F)) (outs : List (List (Effect F))) : List (FlowInterval F) :=
  flowIntervals [] ((its.zip outs).flatMap happenings)

omit [Arith F] in
theorem sinceWrite_append (since : List PacketMeta) (first second : List (Happening F)) :
    sinceWrite since (first ++ second) = sinceWrite (sinceWrite since first) second := by
  induction since, first using sinceWrite.induct with
  | case1 since => rfl
  | case2 since packet rest ih => simpa only [List.cons_append, sinceWrite] using ih
  | case3 since counts timestamp rest ih => simpa only [List.cons_append, sinceWrite] using ih
  | case4 since effect rest other ih => simpa only [List.cons_append, sinceWrite] using ih

omit [Arith F] in
theorem flowIntervals_append (since : List PacketMeta) (first second : List (Happening F)) :
    flowIntervals since (first ++ second) =
      flowIntervals since first ++ flowIntervals (sinceWrite since first) second := by
  induction since, first using sinceWrite.induct with
  | case1 since => rfl
  | case2 since packet rest ih => simpa only [List.cons_append, sinceWrite, flowIntervals] using ih
  | case3 since counts timestamp rest ih =>
    simpa only [List.cons_append, sinceWrite, flowIntervals, List.cons.injEq, true_and] using ih
  | case4 since effect rest other ih =>
    simpa only [List.cons_append, sinceWrite, flowIntervals] using ih

/-- The counts are a tally of the packets, if their flows fit into the map. -/
def TalliesFlows (cfg : AnalysisConfig F) (packets : List PacketMeta) (counts : Dict FlowKey Nat) : Prop :=
  (packets.map PacketMeta.flowKey).toFinset.card ≤ cfg.maxTrackedFlows →
    CountsOf (packets.map PacketMeta.flowKey) counts

/-- The packets still to be written are tallied, and all that was written was. -/
structure CountsFlows (cfg : AnalysisConfig F) (past : List (Happening F)) (st : AnalysisState F) : Prop where
  pending : TalliesFlows cfg (sinceWrite [] past) st.flowCounts
  written : ∀ interval ∈ flowIntervals [] past, TalliesFlows cfg interval.packets interval.counts

omit [Arith F] in
theorem TalliesFlows.track {packets : List PacketMeta} {counts : Dict FlowKey Nat}
    (tallied : TalliesFlows cfg packets counts) (packet : PacketMeta) :
    TalliesFlows cfg (packets ++ [packet]) (trackFlow cfg counts packet.flowKey 1) := by
  intro room
  rw [List.map_append] at room ⊢
  exact (tallied ((card_toFinset_le_append _ _).trans room)).count room

omit [Arith F] in
theorem TalliesFlows.foldl {packets : List PacketMeta} {counts : Dict FlowKey Nat}
    (tallied : TalliesFlows cfg packets counts) (more : List PacketMeta) :
    TalliesFlows cfg (packets ++ more)
      (more.foldl (fun flows packet => trackFlow cfg flows packet.flowKey 1) counts) := by
  induction more generalizing packets counts with
  | nil => simpa using tallied
  | cons packet more ih => simpa using ih (tallied.track packet)

omit [Arith F] in
theorem sinceWrite_came (since packets : List PacketMeta) :
    sinceWrite since (packets.map (Happening.came (F := F))) = since ++ packets := by
  induction packets generalizing since with
  | nil => simp [sinceWrite]
  | cons packet packets ih => simp [sinceWrite, ih]

omit [Arith F] in
theorem flowIntervals_came (since packets : List PacketMeta) :
    flowIntervals since (packets.map (Happening.came (F := F))) = [] := by
  induction packets generalizing since with
  | nil => rfl
  | cons packet packets ih => simp [flowIntervals, ih]

theorem CountsFlows.arrive {past : List (Happening F)} {st mid : AnalysisState F} {it : Iteration F}
    {victims : List IpAddr} (inv : CountsFlows cfg past st) (channel : it.arrival.ofChannel = true)
    (arrived : arrive cfg persisted st it = some (mid, victims)) :
    CountsFlows cfg (past ++ it.arrival.ingress.map .came) mid := by
  constructor
  · rw [sinceWrite_append, sinceWrite_came, arrive_flowCounts channel arrived]
    exact inv.pending.foldl _
  · rw [flowIntervals_append, flowIntervals_came, List.append_nil]
    exact inv.written

/-- A write hands over the tally and starts an empty one. -/
theorem CountsFlows.settle {past : List (Happening F)} {st : AnalysisState F}
    (inv : CountsFlows cfg past st) (reading : Reading F) (victim : IpAddr) (after : TargetState F)
    (w : ClosedWindow F) :
    CountsFlows cfg (past ++ (settle reading st victim after w).2.map .did)
      (settle reading st victim after w).1 := by
  have pending := inv.pending
  have written := inv.written
  by_cases writes : flowWriteSecs ≤ (secondsSince reading.now st.lastFlowWrite : F)
  · constructor
    · intro _
      by_cases saves : savesBaseline reading st.lastBaselineSave w = true
      · simpa [Stage1.settle, sinceWrite_append, writes, saves, sinceWrite] using CountsOf.empty
      · simpa [Stage1.settle, sinceWrite_append, writes, saves, sinceWrite] using CountsOf.empty
    · intro interval member
      have cases : interval ∈ flowIntervals [] past ∨
          interval = ⟨sinceWrite [] past, st.flowCounts, reading.timestamp⟩ := by
        by_cases saves : savesBaseline reading st.lastBaselineSave w = true
        · simpa [Stage1.settle, flowIntervals_append, writes, saves, flowIntervals] using member
        · simpa [Stage1.settle, flowIntervals_append, writes, saves, flowIntervals] using member
      rcases cases with earlier | rfl
      · exact written interval earlier
      · exact pending
  · by_cases saves : savesBaseline reading st.lastBaselineSave w = true
    · constructor
      · simpa [Stage1.settle, sinceWrite_append, writes, saves, sinceWrite] using pending
      · simpa [Stage1.settle, flowIntervals_append, writes, saves, flowIntervals] using written
    · constructor
      · simpa [Stage1.settle, sinceWrite_append, writes, saves, sinceWrite] using pending
      · simpa [Stage1.settle, flowIntervals_append, writes, saves, flowIntervals] using written

/-- Every file a run on the channel source writes is a tally of its interval. -/
theorem loop_talliesFlows {now : Instant} {its : List (Iteration F)} {final : AnalysisState F}
    {outs : List (List (Effect F))} (channel : ∀ it ∈ its, it.arrival.ofChannel = true)
    (ran : run (Stage1.iterate cfg persisted) (AnalysisState.start now) its = some (final, outs)) :
    ∀ interval ∈ intervalsOf its outs, TalliesFlows cfg interval.packets interval.counts := by
  have start : CountsFlows cfg [] (AnalysisState.start now) := ⟨fun _ => .empty, by simp [flowIntervals]⟩
  have done := channel_history (I := CountsFlows cfg)
    (fun _ _ _ _ _ inv onChannel arrived => inv.arrive onChannel arrived)
    (fun _ reading _ v _ after w inv _ _ => inv.settle reading v after w) start channel ran
  exact done.written

end Flod.Stage1
