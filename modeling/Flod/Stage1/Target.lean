import Flod.Stage1.Accumulators
import Flod.Stage1.Config

/-! The running state of one protected host and the part of it that survives a restart. -/

namespace Flod.Stage1
open Flod.Lib Flod.Net

inductive Direction where
  | ingress
  | egress
  deriving DecidableEq, Repr

inductive Protocol where
  | tcp
  | udp
  | icmp
  | sctp
  | gre
  | esp
  | other
  deriving DecidableEq, Repr

/-- The protocol a header's number stands for. ICMP counts for both families. -/
def Protocol.ofNumber (number : BitVec 8) : Protocol :=
  match number.toNat with
  | 6 => .tcp
  | 17 => .udp
  | 1 | 58 => .icmp
  | 132 => .sctp
  | 47 => .gre
  | 50 => .esp
  | _ => .other

/-- One captured packet. The capture time stamp is left out: the loop never reads it. -/
structure PacketMeta where
  direction : Direction
  srcIp : IpAddr
  dstIp : IpAddr
  protocol : Protocol
  dstPort : BitVec 16
  sourcePort : BitVec 16
  ttl : BitVec 8
  fingerprintBucket : Option (BitVec 8)
  deriving DecidableEq, Repr

structure PersistedBaseline (F : Type) where
  rateN : Nat
  rateMean : F
  rateM2 : F
  entropyN : Nat
  entropyMean : F
  entropyM2 : F
  ewmaRate : F
  cooldownCounter : Nat
  peacetimeRateRef : Option F
  peacetimeEntropyRef : Option F

/-- The file of saved baselines, keyed by victim. -/
structure PersistedState (F : Type) where
  savedAt : F
  victims : Dict IpAddr (PersistedBaseline F)

structure TargetState (F : Type) where
  ewma : EwmaState F
  entropy : EntropyAccumulator IpAddr
  tcpCount : Nat
  udpCount : Nat
  icmpCount : Nat
  sctpCount : Nat
  greCount : Nat
  espCount : Nat
  welfordRate : WelfordAccumulator F
  welfordEntropy : WelfordAccumulator F
  peacetimeRateRef : Option F
  peacetimeEntropyRef : Option F
  windowId : Nat
  ipCounts : Dict IpAddr Nat
  portEntropy : EntropyAccumulator (BitVec 16)
  welfordTtl : WelfordAccumulator F
  fingerprintEntropy : EntropyAccumulator (BitVec 8)
  windowPacketCount : Nat
  egressPacketCount : Nat
  lastWindowClose : Instant
  cooldownCounter : Nat
  lastSentTime : F
  consecutiveFrozenWindows : Nat

namespace TargetState

variable {F : Type} [Arith F]

def fresh (ewma : EwmaState F) (now : Instant) : TargetState F where
  ewma := ewma
  entropy := EntropyAccumulator.new
  tcpCount := 0
  udpCount := 0
  icmpCount := 0
  sctpCount := 0
  greCount := 0
  espCount := 0
  welfordRate := WelfordAccumulator.default
  welfordEntropy := WelfordAccumulator.default
  peacetimeRateRef := none
  peacetimeEntropyRef := none
  windowId := 0
  ipCounts := Dict.empty
  portEntropy := EntropyAccumulator.new
  welfordTtl := WelfordAccumulator.default
  fingerprintEntropy := EntropyAccumulator.new
  windowPacketCount := 0
  egressPacketCount := 0
  lastWindowClose := now
  cooldownCounter := 0
  lastSentTime := 0
  consecutiveFrozenWindows := 0

def restore (ts : TargetState F) (p : PersistedBaseline F) : TargetState F :=
  { ts with
    ewma := ts.ewma.setValue p.ewmaRate
    welfordRate := { ts.welfordRate with n := p.rateN, mean := p.rateMean, m2 := p.rateM2 }
    welfordEntropy :=
      { ts.welfordEntropy with n := p.entropyN, mean := p.entropyMean, m2 := p.entropyM2 }
    cooldownCounter := p.cooldownCounter
    peacetimeRateRef := p.peacetimeRateRef
    peacetimeEntropyRef := p.peacetimeEntropyRef }

/-- A fresh target, or one restored from a saved baseline. None is the panic of
`with_alpha`. -/
def new (ewmaAlpha : F) (persisted : Option (PersistedBaseline F)) (now : Instant) :
    Option (TargetState F) :=
  (EwmaState.withAlpha ewmaAlpha).map (fun ewma =>
    match persisted with
    | none => fresh ewma now
    | some p => (fresh ewma now).restore p)

def Capped (ts : TargetState F) : Prop := ts.welfordRate.Capped ∧ ts.welfordEntropy.Capped

/-- Timing, the freeze counter and the caps of a new target never come from the saved
baseline. -/
theorem new_fresh {alpha : F} {persisted : Option (PersistedBaseline F)} {now : Instant}
    {ts : TargetState F} (created : new alpha persisted now = some ts) :
    ts.lastWindowClose = now ∧ ts.consecutiveFrozenWindows = 0 ∧ ts.Capped := by
  have room : warmupWindows ≤ maxN := by decide
  obtain ⟨ewma, _, rfl⟩ := Option.map_eq_some_iff.mp created
  cases persisted <;> exact ⟨rfl, rfl, room, room⟩

def toPersisted (ts : TargetState F) : PersistedBaseline F where
  rateN := ts.welfordRate.n
  rateMean := ts.welfordRate.mean
  rateM2 := ts.welfordRate.m2
  entropyN := ts.welfordEntropy.n
  entropyMean := ts.welfordEntropy.mean
  entropyM2 := ts.welfordEntropy.m2
  ewmaRate := ts.ewma.snapshot
  cooldownCounter := ts.cooldownCounter
  peacetimeRateRef := ts.peacetimeRateRef
  peacetimeEntropyRef := ts.peacetimeEntropyRef

/-- Both baselines have seen enough windows for the target to be evaluated. -/
def isWarm (ts : TargetState F) : Bool := ts.welfordRate.isWarm && ts.welfordEntropy.isWarm

/-- Layer 1, one ingress packet. -/
def recordIngress (ts : TargetState F) (packet : PacketMeta) : TargetState F :=
  let counted : TargetState F :=
    { ts with
      entropy := ts.entropy.addPacket packet.srcIp
      ipCounts := ts.ipCounts.set packet.srcIp (ts.ipCounts.getD packet.srcIp 0 + 1)
      windowPacketCount := ts.windowPacketCount + 1
      portEntropy := ts.portEntropy.addPacket packet.sourcePort
      welfordTtl := ts.welfordTtl.update (packet.ttl.toNat : F)
      fingerprintEntropy := match packet.fingerprintBucket with
        | some bucket => ts.fingerprintEntropy.addPacket bucket
        | none => ts.fingerprintEntropy }
  match packet.protocol with
  | .tcp => { counted with tcpCount := ts.tcpCount + 1 }
  | .udp => { counted with udpCount := ts.udpCount + 1 }
  | .icmp => { counted with icmpCount := ts.icmpCount + 1 }
  | .sctp => { counted with sctpCount := ts.sctpCount + 1 }
  | .gre => { counted with greCount := ts.greCount + 1 }
  | .esp => { counted with espCount := ts.espCount + 1 }
  | .other => counted

theorem recordIngress_counted (ts : TargetState F) (packet : PacketMeta) :
    (ts.recordIngress packet).windowPacketCount = ts.windowPacketCount + 1 ∧
      (ts.recordIngress packet).portEntropy = ts.portEntropy.addPacket packet.sourcePort ∧
      (ts.recordIngress packet).welfordTtl = ts.welfordTtl.update (packet.ttl.toNat : F) := by
  unfold recordIngress
  cases packet.protocol <;> exact ⟨rfl, rfl, rfl⟩

/-- An egress packet only answers how much got through. -/
def recordEgress (ts : TargetState F) : TargetState F :=
  { ts with egressPacketCount := ts.egressPacketCount + 1 }

/-- Counting packets leaves a target's baselines, timing and counters alone. -/
structure SameBaseline (before after : TargetState F) : Prop where
  ewma : after.ewma = before.ewma
  welfordRate : after.welfordRate = before.welfordRate
  welfordEntropy : after.welfordEntropy = before.welfordEntropy
  peacetimeRateRef : after.peacetimeRateRef = before.peacetimeRateRef
  peacetimeEntropyRef : after.peacetimeEntropyRef = before.peacetimeEntropyRef
  windowId : after.windowId = before.windowId
  lastWindowClose : after.lastWindowClose = before.lastWindowClose
  cooldownCounter : after.cooldownCounter = before.cooldownCounter
  lastSentTime : after.lastSentTime = before.lastSentTime
  consecutiveFrozenWindows : after.consecutiveFrozenWindows = before.consecutiveFrozenWindows

omit [Arith F] in
theorem SameBaseline.refl (ts : TargetState F) : SameBaseline ts ts := by
  constructor <;> rfl

omit [Arith F] in
theorem SameBaseline.trans {a b c : TargetState F} (first : SameBaseline a b)
    (second : SameBaseline b c) : SameBaseline a c where
  ewma := second.ewma.trans first.ewma
  welfordRate := second.welfordRate.trans first.welfordRate
  welfordEntropy := second.welfordEntropy.trans first.welfordEntropy
  peacetimeRateRef := second.peacetimeRateRef.trans first.peacetimeRateRef
  peacetimeEntropyRef := second.peacetimeEntropyRef.trans first.peacetimeEntropyRef
  windowId := second.windowId.trans first.windowId
  lastWindowClose := second.lastWindowClose.trans first.lastWindowClose
  cooldownCounter := second.cooldownCounter.trans first.cooldownCounter
  lastSentTime := second.lastSentTime.trans first.lastSentTime
  consecutiveFrozenWindows := second.consecutiveFrozenWindows.trans first.consecutiveFrozenWindows

theorem recordIngress_sameBaseline (ts : TargetState F) (packet : PacketMeta) :
    SameBaseline ts (ts.recordIngress packet) := by
  unfold recordIngress
  cases packet.protocol <;> constructor <;> rfl

omit [Arith F] in
theorem recordEgress_sameBaseline (ts : TargetState F) : SameBaseline ts ts.recordEgress := by
  constructor <;> rfl

end TargetState

end Flod.Stage1
