import Flod.Lib.History
import Flod.Lib.Run
import Flod.Stage1.Window

/-! The analysis loop. An iteration admits what arrived, then checks the victims it
implicates for a window close, each close with its flow report and baseline save.
One clock reading serves a whole iteration. -/

namespace Flod.Stage1
open Flod.Lib Flod.Net

variable {F : Type} [Arith F]

/-- Source, destination, destination port and protocol number. -/
abbrev FlowKey := IpAddr × IpAddr × BitVec 16 × BitVec 8

/-- What the kernel counted for one victim since the last drain. -/
structure WindowSample where
  ingressPackets : Nat
  egressPackets : Nat
  tcp : Nat
  udp : Nat
  icmp : Nat
  sctp : Nat
  gre : Nat
  esp : Nat
  sources : List (IpAddr × Nat)
  flows : List (FlowKey × Nat)
  ports : List (BitVec 16 × Nat)
  ttls : List (BitVec 8 × Nat)
  fingerprints : List (BitVec 8 × Nat)

def WindowSample.default : WindowSample := ⟨0, 0, 0, 0, 0, 0, 0, 0, [], [], [], [], []⟩

/-- The channel source yields packets and timeouts, the kernel source one drain per
tick. A drain that fails brings no samples. -/
inductive Arrival where
  | timeout
  | packet (packet : PacketMeta)
  | drained (samples : List (IpAddr × WindowSample))

structure Iteration (F : Type) where
  reading : Reading F
  arrival : Arrival

structure AnalysisState (F : Type) where
  targetsMap : Dict IpAddr (TargetState F)
  flowCounts : Dict FlowKey Nat
  lastFlowWrite : Instant
  lastBaselineSave : Instant

/-- What the loop leaves outside itself. -/
inductive Effect (F : Type) where
  | flowsWritten (flows : Dict FlowKey Nat) (timestamp : F)
  | windowClosed (w : ClosedWindow F)
  | baselineSaved (snapshot : PersistedState F)

/-- The windows closed, in order. -/
def closedWindows (effects : List (Effect F)) : List (ClosedWindow F) :=
  effects.filterMap (fun
    | .windowClosed w => some w
    | _ => none)

omit [Arith F] in
theorem closedWindows_append (past more : List (Effect F)) :
    closedWindows (past ++ more) = closedWindows past ++ closedWindows more :=
  List.filterMap_append

def closedOf (victim : IpAddr) (effects : List (Effect F)) : List (ClosedWindow F) :=
  (closedWindows effects).filter (fun w => decide (w.victim = victim))

def AnalysisState.start (now : Instant) : AnalysisState F := ⟨Dict.empty, Dict.empty, now, now⟩

def protoNum : Protocol → BitVec 8
  | .tcp => 6
  | .udp => 17
  | .icmp => 1
  | .sctp => 132
  | .gre => 47
  | .esp => 50
  | .other => 0

/-- A flow already tracked always counts; a new one only below the cap. -/
def trackFlow (cfg : AnalysisConfig F) (flows : Dict FlowKey Nat) (key : FlowKey) (count : Nat) :
    Dict FlowKey Nat :=
  match flows.get? key with
  | some existing => flows.set key (existing + count)
  | none => if cfg.maxTrackedFlows ≤ flows.size then flows else flows.set key count

def maxDynamicTargets : Nat := 100

/-- The saved baseline of a victim, if a file was loaded and names it. -/
def lookup (persisted : Option (PersistedState F)) (victim : IpAddr) : Option (PersistedBaseline F) :=
  persisted.bind (fun state => state.victims.get? victim)

/-- The state of a host, created on first sight. The inner none is dynamic tracking at
its cap, the outer one the panic of creation. -/
def ensureTarget (cfg : AnalysisConfig F) (persisted : Option (PersistedState F)) (now : Instant)
    (targetsMap : Dict IpAddr (TargetState F)) (victim : IpAddr) : Option (Option (TargetState F)) :=
  match targetsMap.get? victim with
  | some ts => some (some ts)
  | none =>
      if cfg.victimTargets.isNone ∧ maxDynamicTargets ≤ targetsMap.size then some none
      else (TargetState.new cfg.ewmaAlpha (lookup persisted victim) now).map some

/-- Count something for a victim, if it is protected and can be tracked. -/
def admitVictim (cfg : AnalysisConfig F) (persisted : Option (PersistedState F)) (now : Instant)
    (st : AnalysisState F) (victim : IpAddr) (record : TargetState F → TargetState F) :
    Option (AnalysisState F × Bool) :=
  if cfg.isEffectivelyProtected victim then
    match ensureTarget cfg persisted now st.targetsMap victim with
    | none => none
    | some none => some (st, false)
    | some (some ts) => some ({ st with targetsMap := st.targetsMap.set victim (record ts) }, true)
  else some (st, false)

/-- The cast of a 64-bit kernel count to the width of the accumulators. -/
def asU32 (count : Nat) : Nat := count % 2 ^ 32

def TargetState.recordSample (ts : TargetState F) (sample : WindowSample) : TargetState F :=
  { ts with
    entropy := sample.sources.foldl (fun acc e => acc.addPackets e.1 (asU32 e.2)) ts.entropy
    ipCounts := sample.sources.foldl (fun acc e => acc.set e.1 (acc.getD e.1 0 + asU32 e.2)) ts.ipCounts
    portEntropy := sample.ports.foldl (fun acc e => acc.addPackets e.1 (asU32 e.2)) ts.portEntropy
    welfordTtl := sample.ttls.foldl (fun acc e => acc.updateBatch (e.1.toNat : F) e.2) ts.welfordTtl
    fingerprintEntropy :=
      sample.fingerprints.foldl (fun acc e => acc.addPackets e.1 (asU32 e.2)) ts.fingerprintEntropy
    windowPacketCount := ts.windowPacketCount + sample.ingressPackets
    egressPacketCount := ts.egressPacketCount + sample.egressPackets
    tcpCount := ts.tcpCount + asU32 sample.tcp
    udpCount := ts.udpCount + asU32 sample.udp
    icmpCount := ts.icmpCount + asU32 sample.icmp
    sctpCount := ts.sctpCount + asU32 sample.sctp
    greCount := ts.greCount + asU32 sample.gre
    espCount := ts.espCount + asU32 sample.esp }

theorem TargetState.recordSample_sameBaseline (ts : TargetState F) (sample : WindowSample) :
    SameBaseline ts (ts.recordSample sample) := by
  constructor <;> rfl

/-- One victim of a drain. Unlike a packet's, the flows of an unprotected victim are
not tracked. -/
def admitSample (cfg : AnalysisConfig F) (persisted : Option (PersistedState F)) (now : Instant)
    (st : AnalysisState F) (victim : IpAddr) (sample : WindowSample) : Option (AnalysisState F) :=
  let flowCounts :=
    if cfg.isEffectivelyProtected victim then
      sample.flows.foldl (fun flows e => trackFlow cfg flows e.1 (asU32 e.2)) st.flowCounts
    else st.flowCounts
  (admitVictim cfg persisted now { st with flowCounts := flowCounts } victim (·.recordSample sample)).map
    Prod.fst

def admitSamples (cfg : AnalysisConfig F) (persisted : Option (PersistedState F)) (now : Instant) :
    AnalysisState F → List (IpAddr × WindowSample) → Option (AnalysisState F)
  | st, [] => some st
  | st, (victim, sample) :: rest =>
      match admitSample cfg persisted now st victim sample with
      | none => none
      | some mid => admitSamples cfg persisted now mid rest

/-- The state with the packet counted, and whether its victim is to be checked. Flow
telemetry is ingress only; an egress packet never leads to a check. -/
def admitPacket (cfg : AnalysisConfig F) (persisted : Option (PersistedState F)) (now : Instant)
    (st : AnalysisState F) (packet : PacketMeta) : Option (AnalysisState F × Bool) :=
  match packet.direction with
  | .ingress =>
      let key := (packet.srcIp, packet.dstIp, packet.dstPort, protoNum packet.protocol)
      admitVictim cfg persisted now { st with flowCounts := trackFlow cfg st.flowCounts key 1 } packet.dstIp
        (·.recordIngress packet)
  | .egress =>
      (admitVictim cfg persisted now st packet.dstIp (·.recordEgress)).map (fun result => (result.1, false))

/-- The state after an arrival and the victims to check for a window close, a tick's in the
order the targets are walked. -/
def arrive (cfg : AnalysisConfig F) (persisted : Option (PersistedState F)) (st : AnalysisState F)
    (it : Iteration F) : Option (AnalysisState F × List IpAddr) :=
  match it.arrival with
  | .timeout => some (st, it.reading.hosts.order st.targetsMap.keys)
  | .packet packet =>
      (admitPacket cfg persisted it.reading.now st packet).map (fun result =>
        (result.1, if result.2 then [packet.dstIp] else []))
  | .drained samples =>
      (admitSamples cfg persisted it.reading.now st samples).map (fun mid =>
        (mid, it.reading.hosts.order mid.targetsMap.keys))

def saveIntervalSecs : F := 45.0

def flowWriteSecs : F := 10.0

/-- A clean window past warm-up, once the save interval has passed, saves the baselines
of all targets. -/
def savesBaseline (reading : Reading F) (lastBaselineSave : Instant) (w : ClosedWindow F) : Bool :=
  match w.verdict with
  | none => false
  | some vd => vd.isCleanWindow && decide (saveIntervalSecs ≤ (secondsSince reading.now lastBaselineSave : F))

def snapshot (targetsMap : Dict IpAddr (TargetState F)) (timestamp : F) : PersistedState F where
  savedAt := timestamp
  victims := targetsMap.mapValues TargetState.toPersisted

/-- The loop state once a window of `victim` has closed, and what the close leaves outside. -/
def settle (reading : Reading F) (st : AnalysisState F) (victim : IpAddr) (after : TargetState F)
    (w : ClosedWindow F) : AnalysisState F × List (Effect F) :=
  let targetsMap := st.targetsMap.set victim after
  let writes := decide (flowWriteSecs ≤ (secondsSince reading.now st.lastFlowWrite : F))
  let saves := savesBaseline reading st.lastBaselineSave w
  ({ targetsMap := targetsMap
     flowCounts := if writes then Dict.empty else st.flowCounts
     lastFlowWrite := if writes then reading.now else st.lastFlowWrite
     lastBaselineSave := if saves then reading.now else st.lastBaselineSave },
   (if writes then [Effect.flowsWritten st.flowCounts reading.timestamp] else []) ++
     [Effect.windowClosed w] ++
     (if saves then [Effect.baselineSaved (snapshot targetsMap reading.timestamp)] else []))

@[simp] theorem settle_targetsMap (reading : Reading F) (st : AnalysisState F) (victim : IpAddr)
    (after : TargetState F) (w : ClosedWindow F) :
    (settle reading st victim after w).1.targetsMap = st.targetsMap.set victim after := rfl

theorem closedWindows_settle (reading : Reading F) (st : AnalysisState F) (victim : IpAddr)
    (after : TargetState F) (w : ClosedWindow F) :
    closedWindows (settle reading st victim after w).2 = [w] := by
  simp only [closedWindows, settle, List.filterMap_append]
  split <;> split <;> rfl

theorem closedOf_settle (reading : Reading F) (st : AnalysisState F) (victim v : IpAddr)
    (after : TargetState F) (w : ClosedWindow F) (past : List (Effect F)) :
    closedOf v (past ++ (settle reading st victim after w).2) =
      closedOf v past ++ if w.victim = v then [w] else [] := by
  rw [closedOf, closedWindows_append, closedWindows_settle, List.filter_append]
  by_cases same : w.victim = v <;> simp [closedOf, same]

/-- The effects of a close in their order: a flow report may come first, a save last. -/
theorem throughoutFrom_settle {Q : List (Effect F) → Effect F → Prop} {reading : Reading F}
    {st : AnalysisState F} {victim : IpAddr} {after : TargetState F} {w : ClosedWindow F}
    {past : List (Effect F)} (flows : ∀ counts timestamp, Q past (.flowsWritten counts timestamp))
    (window : ∀ more, closedWindows more = [] → Q (past ++ more) (.windowClosed w))
    (saved : ∀ more, closedWindows more = [w] → savesBaseline reading st.lastBaselineSave w = true →
      Q (past ++ more) (.baselineSaved (snapshot (st.targetsMap.set victim after) reading.timestamp))) :
    ThroughoutFrom Q past (settle reading st victim after w).2 := by
  simp only [settle, throughoutFrom_append]
  refine ⟨⟨?_, ?_⟩, ?_⟩
  · split
    · exact ⟨flows _ _, trivial⟩
    · trivial
  · refine ⟨window _ ?_, trivial⟩
    split <;> rfl
  · by_cases due : savesBaseline reading st.lastBaselineSave w = true
    · rw [if_pos due]
      refine ⟨saved _ ?_ due, trivial⟩
      split <;> rfl
    · rw [if_neg due]
      trivial

def checkVictim (cfg : AnalysisConfig F) (reading : Reading F) (st : AnalysisState F)
    (victim : IpAddr) : Option (AnalysisState F × List (Effect F)) :=
  match st.targetsMap.get? victim with
  | none => some (st, [])
  | some ts =>
      if shouldClose reading.now ts then
        (closeWindow cfg reading victim ts).map (fun closed =>
          settle reading st victim closed.1 closed.2)
      else some (st, [])

/-- One turn of the loop. None is a panic of the thread. -/
def iterate (cfg : AnalysisConfig F) (persisted : Option (PersistedState F)) (st : AnalysisState F)
    (it : Iteration F) : Option (AnalysisState F × List (Effect F)) :=
  match arrive cfg persisted st it with
  | none => none
  | some (mid, victims) =>
      (run (checkVictim cfg it.reading) mid victims).map (fun result =>
        (result.1, result.2.flatten))

end Flod.Stage1
