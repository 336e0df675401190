import Flod.Stage1.FlowFile
import Flod.Stage1.Histogram

/-! Windows on the channel source. The ingress packets of a tracked victim are cut at its
closes; each piece is counted in its own window, by every accumulator of the window, and
the piece since the last close in the window still open. -/

namespace Flod.Stage1
open Flod.Lib Flod.Net Flod.Ipc

variable {F : Type} [Arith F] {cfg : AnalysisConfig F} {persisted : Option (PersistedState F)}

/-- The six protocols with a counter. -/
def TargetState.protocolCounts (ts : TargetState F) : List (Protocol × Nat) :=
  [(.tcp, ts.tcpCount), (.udp, ts.udpCount), (.icmp, ts.icmpCount), (.sctp, ts.sctpCount),
    (.gre, ts.greCount), (.esp, ts.espCount)]

/-- Every accumulator of the open window has counted exactly these packets. -/
structure TalliesWindow (packets : List PacketMeta) (ts : TargetState F) : Prop where
  sources : ts.entropy.Collects (packets.map PacketMeta.srcIp)
  ipCounts : ts.ipCounts = ts.entropy.counts
  windowPacketCount : ts.windowPacketCount = packets.length
  protocols : ∀ e ∈ ts.protocolCounts, e.2 = packets.countP (fun packet => decide (packet.protocol = e.1))
  ports : ts.portEntropy.Collects (packets.map PacketMeta.sourcePort)
  fingerprints : ts.fingerprintEntropy.Collects (packets.filterMap PacketMeta.fingerprintBucket)
  ttls : ts.welfordTtl = packets.foldl (fun w packet => w.update (packet.ttl.toNat : F)) .default

namespace TalliesWindow

variable {packets : List PacketMeta} {ts : TargetState F}

theorem of_cleared (cleared : ts.counts = WindowCounts.cleared) : TalliesWindow [] ts := by
  simp only [TargetState.counts, WindowCounts.cleared, WindowCounts.mk.injEq] at cleared
  obtain ⟨entropy, ipCounts, ports, fingerprints, ttls, total, -, tcp, udp, icmp, sctp, gre, esp⟩ := cleared
  refine ⟨?_, ?_, total, ?_, ?_, ?_, ttls⟩
  · rw [entropy]
    exact EntropyAccumulator.Collects.new
  · rw [ipCounts, entropy]
    rfl
  · simp [TargetState.protocolCounts, tcp, udp, icmp, sctp, gre, esp]
  · rw [ports]
    exact EntropyAccumulator.Collects.new
  · rw [fingerprints]
    exact EntropyAccumulator.Collects.new

theorem recordEgress (tallied : TalliesWindow packets ts) : TalliesWindow packets ts.recordEgress :=
  ⟨tallied.sources, tallied.ipCounts, tallied.windowPacketCount, tallied.protocols, tallied.ports,
    tallied.fingerprints, tallied.ttls⟩

theorem recordIngress (tallied : TalliesWindow packets ts) (packet : PacketMeta) :
    TalliesWindow (packets ++ [packet]) (ts.recordIngress packet) := by
  obtain ⟨entropy, ipCounts⟩ := recordIngress_entropy ts packet
  obtain ⟨total, ports, ttls⟩ := TargetState.recordIngress_counted ts packet
  have protocols := tallied.protocols
  simp only [TargetState.protocolCounts, List.forall_mem_cons] at protocols
  refine ⟨?_, ?_, ?_, ?_, ?_, ?_, ?_⟩
  · rw [entropy, List.map_append]
    exact tallied.sources.addPacket packet.srcIp
  · rw [ipCounts, entropy, tallied.ipCounts]
    rfl
  · rw [total, tallied.windowPacketCount, List.length_append, List.length_singleton]
  · unfold TargetState.recordIngress
    cases kind : packet.protocol <;>
      simp [TargetState.protocolCounts, List.countP_append, kind, protocols]
  · rw [ports, List.map_append]
    exact tallied.ports.addPacket packet.sourcePort
  · rw [List.filterMap_append]
    cases bucket : packet.fingerprintBucket with
    | none =>
      have same : (ts.recordIngress packet).fingerprintEntropy = ts.fingerprintEntropy := by
        unfold TargetState.recordIngress
        cases packet.protocol <;> simp only [bucket]
      simpa [same, bucket] using tallied.fingerprints
    | some b =>
      have more : (ts.recordIngress packet).fingerprintEntropy = ts.fingerprintEntropy.addPacket b := by
        unfold TargetState.recordIngress
        cases packet.protocol <;> simp only [bucket]
      simpa [more, bucket] using tallied.fingerprints.addPacket b
  · rw [ttls, tallied.ttls, List.foldl_append]
    rfl

theorem histogram (tallied : TalliesWindow packets ts) : Histogram (packets.map PacketMeta.srcIp) ts where
  entropy := tallied.sources
  ipCounts := by
    intro ip
    rw [tallied.ipCounts]
    exact tallied.sources.tallied.getD_eq_count ip

end TalliesWindow

/-! The counters of one window agree with each other. -/

theorem sum_countP_le {A B : Type} [DecidableEq B] (f : A → B) {keys : List B} (distinct : keys.Nodup)
    (list : List A) : (keys.map (fun key => list.countP (fun a => decide (f a = key)))).sum ≤ list.length := by
  induction list with
  | nil => simp
  | cons a list ih =>
    have once : (keys.map (fun key => if f a = key then 1 else 0)).sum ≤ 1 := by
      have counts : (keys.map (fun key => if f a = key then 1 else 0)).sum = keys.count (f a) := by
        rw [List.sum_map_ite, List.count, List.countP_eq_length_filter]
        simp [Bool.beq_eq_decide_eq, eq_comm]
      rw [counts]
      exact List.nodup_iff_count_le_one.mp distinct (f a)
    simp only [List.countP_cons, decide_eq_true_eq, List.sum_map_add, List.length_cons]
    omega

/-- The per-source map is the entropy's, and both and the protocol counters fit the total. -/
structure CountsAgree (ts : TargetState F) : Prop where
  ipCounts : ts.ipCounts = ts.entropy.counts
  total : ts.ipCounts.values.sum = ts.windowPacketCount
  protocols : ts.tcpCount + ts.udpCount + ts.icmpCount + ts.sctpCount + ts.greCount + ts.espCount ≤
    ts.windowPacketCount

theorem TalliesWindow.agree {packets : List PacketMeta} {ts : TargetState F}
    (tallied : TalliesWindow packets ts) : CountsAgree ts where
  ipCounts := tallied.ipCounts
  total := by
    rw [tallied.ipCounts, tallied.sources.tallied.sum_values, tallied.windowPacketCount, List.length_map]
  protocols := by
    have each := tallied.protocols
    simp only [TargetState.protocolCounts, List.forall_mem_cons] at each
    obtain ⟨tcp, udp, icmp, sctp, gre, esp, -⟩ := each
    have distinct : [Protocol.tcp, .udp, .icmp, .sctp, .gre, .esp].Nodup := by decide
    have fits := sum_countP_le PacketMeta.protocol distinct packets
    simp only [List.map_cons, List.map_nil, List.sum_cons, List.sum_nil, ← tcp, ← udp, ← icmp, ← sctp, ← gre,
      ← esp] at fits
    rw [tallied.windowPacketCount]
    omega

/-! What is emitted about a window. -/

/-- The vector sent about a window carries the window's figures. -/
theorem closeWindow_sent {reading : Reading F} {victim : IpAddr} {ts after : TargetState F} {w : ClosedWindow F}
    (closing : closeWindow cfg reading victim ts = some (after, w)) {fv : FeatureVector F} (sent : w.sent = some fv) :
    ∃ judged sigmaH sigmaR k isWarmup dominantIp,
      fv = featureVector w.stats reading victim judged sigmaH sigmaR k isWarmup dominantIp := by
  rcases closeWindow_vector closing sent with ⟨-, learned, rfl⟩ | ⟨vd, -, -, rfl⟩
  · exact ⟨_, _, _, _, _, _, rfl⟩
  · exact ⟨_, _, _, _, _, _, rfl⟩

/-- The six protocol shares of a vector. -/
def protocolShares (fv : FeatureVector F) : List F :=
  [fv.protoTcp, fv.protoUdp, fv.protoIcmp, fv.protoSctp, fv.protoGre, fv.protoEsp]

theorem div_le_one_of_le_nat {part whole : Nat} (le : part ≤ whole) :
    (part : F) / (whole : F) ≤ 1 := by
  apply div_le_one_of_le₀
  · exact_mod_cast le
  · positivity

/-- Ratios of counts that agree are shares. -/
structure Shares (fv : FeatureVector F) : Prop where
  dominant : 0 ≤ fv.dominantIpRatio ∧ fv.dominantIpRatio ≤ 1
  proto : 0 ≤ fv.protoRatio ∧ fv.protoRatio ≤ 1
  protocols : ∀ x ∈ protocolShares fv, 0 ≤ x ∧ x ≤ 1
  total : (protocolShares fv).sum ≤ 1

theorem TalliesWindow.dominant_le {packets : List PacketMeta} {ts : TargetState F}
    (tallied : TalliesWindow packets ts) (sources : Walk (IpAddr × Nat)) :
    (dominantSource sources ts.ipCounts).2 ≤ ts.entropy.packetCount := by
  have length := tallied.sources.packetCount
  by_cases empty : packets = []
  · subst empty
    have none : ts.ipCounts.entries = [] := by
      have summed := tallied.sources.tallied.size
      rw [← tallied.ipCounts] at summed
      exact List.length_eq_zero_iff.mp summed
    rcases dominantSource_cases sources ts.ipCounts with ⟨-, zero⟩ | ⟨entry, -⟩
    · rw [zero]
      exact Nat.zero_le _
    · rw [none] at entry
      cases entry
  · obtain ⟨same, -, -⟩ := tallied.histogram.dominant sources (by simpa using empty)
    rw [same, length]
    exact List.count_le_length

theorem TalliesWindow.shares {packets : List PacketMeta} {ts : TargetState F} (tallied : TalliesWindow packets ts)
    (cfg : AnalysisConfig F) (reading : Reading F) (victim : IpAddr) {judged : TargetState F}
    {sigmaH sigmaR k isWarmup : F} {dominantIp : IpAddr} :
    Shares (featureVector (measure cfg reading victim ts).1 reading victim judged sigmaH sigmaR k isWarmup dominantIp) := by
  have fits : ts.tcpCount + ts.udpCount + ts.icmpCount + ts.sctpCount + ts.greCount + ts.espCount ≤
      max ts.windowPacketCount 1 := tallied.agree.protocols.trans (le_max_left _ _)
  refine ⟨?_, ?_, ?_, ?_⟩
  · simp only [featureVector, measure]
    split
    · exact ⟨by positivity, div_le_one_of_le_nat (tallied.dominant_le _)⟩
    · exact ⟨le_rfl, zero_le_one⟩
  · simp only [featureVector, measure]
    split
    · exact ⟨by positivity, div_le_one_of_le_nat (by omega)⟩
    · exact ⟨le_rfl, zero_le_one⟩
  · simp only [protocolShares, featureVector, measure, List.forall_mem_cons]
    refine ⟨?_, ?_, ?_, ?_, ?_, ?_, by simp⟩
    all_goals exact ⟨by positivity, div_le_one_of_le_nat (by omega)⟩
  · have whole : (protocolShares (featureVector (measure cfg reading victim ts).1 reading victim judged sigmaH sigmaR k
        isWarmup dominantIp)).sum =
        ((ts.tcpCount + ts.udpCount + ts.icmpCount + ts.sctpCount + ts.greCount + ts.espCount : Nat) : F) /
          ((max ts.windowPacketCount 1 : Nat) : F) := by
      simp only [protocolShares, featureVector, measure, List.sum_cons, List.sum_nil]
      push_cast
      ring
    rw [whole]
    exact div_le_one_of_le_nat fits

/-! The packets of a victim, cut at its closes. -/

/-- Each closed window with its packets, and the packets since. -/
structure Windows (F : Type) where
  closed : List (List PacketMeta × ClosedWindow F)
  current : List PacketMeta

def Windows.add (v : IpAddr) (ws : Windows F) : Happening F → Windows F
  | .came packet => if packet.dstIp = v then { ws with current := ws.current ++ [packet] } else ws
  | .did (.windowClosed w) => if w.victim = v then ⟨ws.closed ++ [(ws.current, w)], []⟩ else ws
  | .did _ => ws

def windowsOf (v : IpAddr) (past : List (Happening F)) : Windows F := past.foldl (Windows.add v) ⟨[], []⟩

def Windows.packets (ws : Windows F) : List PacketMeta := ws.closed.flatMap Prod.fst ++ ws.current

/-- The ingress packets to a victim. -/
def ingressTo (v : IpAddr) (its : List (Iteration F)) : List PacketMeta :=
  (its.flatMap (fun it => it.arrival.ingress)).filter (fun packet => decide (packet.dstIp = v))

section Cut

variable (v : IpAddr)

omit [Arith F]

theorem windowsOf_append (past more : List (Happening F)) :
    windowsOf v (past ++ more) = more.foldl (Windows.add v) (windowsOf v past) := by
  rw [windowsOf, List.foldl_append, windowsOf]

theorem foldl_came (ws : Windows F) (packets : List PacketMeta) :
    (packets.map .came).foldl (Windows.add v) ws =
      { ws with current := ws.current ++ packets.filter (fun packet => decide (packet.dstIp = v)) } := by
  induction packets generalizing ws with
  | nil => simp
  | cons packet packets ih =>
    rw [List.map_cons, List.foldl_cons, ih]
    by_cases same : packet.dstIp = v
    · simp [Windows.add, same]
    · simp [Windows.add, same]

theorem packets_did (ws : Windows F) (effects : List (Effect F)) :
    ((effects.map .did).foldl (Windows.add v) ws).packets = ws.packets ∧
      ((effects.map .did).foldl (Windows.add v) ws).closed.map Prod.snd =
        ws.closed.map Prod.snd ++ closedOf v effects := by
  induction effects generalizing ws with
  | nil => simp [closedOf, closedWindows]
  | cons effect effects ih =>
    rw [List.map_cons, List.foldl_cons, (ih _).1, (ih _).2]
    cases effect with
    | windowClosed w =>
      by_cases same : w.victim = v
      · simp [Windows.add, Windows.packets, closedOf, closedWindows, same]
      · simp [Windows.add, closedOf, closedWindows, same]
    | flowsWritten flows timestamp => simp [Windows.add, closedOf, closedWindows]
    | baselineSaved snapshot => simp [Windows.add, closedOf, closedWindows]

/-- Cutting loses no packet and no window, and invents none. -/
theorem windowsOf_steps (steps : List (Iteration F × List (Effect F))) :
    (windowsOf v (steps.flatMap happenings)).packets = ingressTo v (steps.map Prod.fst) ∧
      (windowsOf v (steps.flatMap happenings)).closed.map Prod.snd =
        closedOf v (steps.map Prod.snd).flatten := by
  induction steps using List.reverseRecOn with
  | nil => exact ⟨rfl, rfl⟩
  | append_singleton steps step ih =>
    obtain ⟨packets, closed⟩ := ih
    have last : [step].flatMap happenings =
        step.1.arrival.ingress.map .came ++ step.2.map (Happening.did (F := F)) := by
      simp [happenings]
    rw [List.flatMap_append, windowsOf_append, last, List.foldl_append, foldl_came, (packets_did v _ _).1,
      (packets_did v _ _).2]
    constructor
    · rw [List.map_append, ingressTo, List.flatMap_append, List.filter_append, ← ingressTo, ← packets]
      simp [Windows.packets]
    · rw [closed]
      simp [closedOf, closedWindows]

theorem windowsOf_run {its : List (Iteration F)} {outs : List (List (Effect F))}
    (paired : outs.length = its.length) :
    (windowsOf v ((its.zip outs).flatMap happenings)).packets = ingressTo v its ∧
      (windowsOf v ((its.zip outs).flatMap happenings)).closed.map Prod.snd = closedOf v outs.flatten := by
  have cut := windowsOf_steps v (its.zip outs)
  rwa [List.map_fst_zip paired.ge, List.map_snd_zip paired.le] at cut

end Cut

theorem windowsOf_settle (v : IpAddr) (past : List (Happening F)) (reading : Reading F) (st : AnalysisState F)
    (victim : IpAddr) (after : TargetState F) (w : ClosedWindow F) :
    windowsOf v (past ++ (settle reading st victim after w).2.map .did) =
      if w.victim = v then ⟨(windowsOf v past).closed ++ [((windowsOf v past).current, w)], []⟩
      else windowsOf v past := by
  rw [windowsOf_append]
  by_cases writes : flowWriteSecs ≤ (secondsSince reading.now st.lastFlowWrite : F)
  · by_cases saves : savesBaseline reading st.lastBaselineSave w = true
    · simp [settle, writes, saves, Windows.add]
    · simp [settle, writes, saves, Windows.add]
  · by_cases saves : savesBaseline reading st.lastBaselineSave w = true
    · simp [settle, writes, saves, Windows.add]
    · simp [settle, writes, saves, Windows.add]

/-- Every tracked victim's packets are counted as they are cut. A victim whose packets came
without being counted is none the loop could track, now or later. -/
structure Partitions (cfg : AnalysisConfig F) (past : List (Happening F))
    (targets : Dict IpAddr (TargetState F)) : Prop where
  standing : ∀ v ts, targets.get? v = some ts → ts.Standing cfg ∧ cfg.isEffectivelyProtected v = true
  current : ∀ v ts, targets.get? v = some ts → TalliesWindow (windowsOf v past).current ts
  closed : ∀ v, ∀ c ∈ (windowsOf v past).closed, TalliesWindow c.1 c.2.before
  absent : ∀ v, targets.get? v = none → (windowsOf v past).current ≠ [] →
    cfg.isEffectivelyProtected v ≠ true ∨ (cfg.victimTargets.isNone ∧ maxDynamicTargets ≤ targets.size)

theorem ensureTarget_room {now : Instant} {targetsMap : Dict IpAddr (TargetState F)} {victim : IpAddr}
    {ts : TargetState F} (ensured : ensureTarget cfg persisted now targetsMap victim = some (some ts))
    (absent : targetsMap.get? victim = none) : ¬ (cfg.victimTargets.isNone ∧ maxDynamicTargets ≤ targetsMap.size) := by
  intro capped
  simp [ensureTarget, absent, capped] at ensured

namespace Partitions

variable {past : List (Happening F)} {st st' : AnalysisState F} {victim : IpAddr}

theorem start (began : Instant) : Partitions cfg [] (AnalysisState.start began : AnalysisState F).targetsMap where
  standing := by simp [AnalysisState.start]
  current := by simp [AnalysisState.start]
  closed := by simp [windowsOf]
  absent := by simp [windowsOf]

/-- One victim's target and windows change, and those of all others stay as they are. -/
theorem set {past' : List (Happening F)} {targets : Dict IpAddr (TargetState F)} {ts : TargetState F}
    (inv : Partitions cfg past targets) (elsewhere : ∀ v ≠ victim, windowsOf v past' = windowsOf v past)
    (standing : ts.Standing cfg) (guarded : cfg.isEffectivelyProtected victim = true)
    (current : TalliesWindow (windowsOf victim past').current ts)
    (closed : ∀ c ∈ (windowsOf victim past').closed, TalliesWindow c.1 c.2.before) :
    Partitions cfg past' (targets.set victim ts) := by
  refine ⟨fun v other found => ?_, fun v other found => ?_, fun v => ?_, fun v missing came => ?_⟩
  · rw [Dict.get?_set] at found
    split at found
    · next same =>
      cases found
      exact ⟨standing, same ▸ guarded⟩
    · exact inv.standing v other found
  · rw [Dict.get?_set] at found
    split at found
    · next same =>
      cases found
      exact same ▸ current
    · next apart =>
      rw [elsewhere v (Ne.symm apart)]
      exact inv.current v other found
  · by_cases same : v = victim
    · rw [same]
      exact closed
    · rw [elsewhere v same]
      exact inv.closed v
  · rw [Dict.get?_set] at missing
    split at missing
    · cases missing
    · next apart =>
      rw [elsewhere v (Ne.symm apart)] at came
      rcases inv.absent v missing came with unguarded | ⟨any, full⟩
      · exact Or.inl unguarded
      · exact Or.inr ⟨any, full.trans (Dict.size_le_set _ _ _)⟩

omit [Arith F] in
theorem windowsOf_came {packets : List PacketMeta} (headed : ∀ packet ∈ packets, packet.dstIp = victim)
    (past : List (Happening F)) (v : IpAddr) :
    windowsOf v (past ++ packets.map .came) =
      if v = victim then { windowsOf v past with current := (windowsOf v past).current ++ packets }
      else windowsOf v past := by
  rw [windowsOf_append, foldl_came]
  by_cases same : v = victim
  · subst same
    have all : packets.filter (fun packet => decide (packet.dstIp = v)) = packets := by
      rw [List.filter_eq_self]
      exact fun packet member => decide_eq_true (headed packet member)
    rw [if_pos rfl, all]
  · have none : packets.filter (fun packet => decide (packet.dstIp = v)) = [] := by
      rw [List.filter_eq_nil_iff]
      intro packet member
      simp [headed packet member, Ne.symm same]
    rw [if_neg same, none, List.append_nil]

section Admits

variable {packets : List PacketMeta} (inv : Partitions cfg past st.targetsMap)
  (headed : ∀ packet ∈ packets, packet.dstIp = victim)

include inv headed

theorem closed_came (v : IpAddr) :
    ∀ c ∈ (windowsOf v (past ++ packets.map .came)).closed, TalliesWindow c.1 c.2.before := by
  intro c member
  rw [windowsOf_came headed] at member
  split at member <;> exact inv.closed v c member

/-- Packets for a victim that is not tracked, and never will be, change nothing. -/
theorem passes (missing : st.targetsMap.get? victim = none)
    (never : cfg.isEffectivelyProtected victim ≠ true ∨
      (cfg.victimTargets.isNone ∧ maxDynamicTargets ≤ st.targetsMap.size)) :
    Partitions cfg (past ++ packets.map .came) st.targetsMap := by
  refine ⟨inv.standing, fun v ts found => ?_, inv.closed_came headed, fun v missing' came => ?_⟩
  · have apart : v ≠ victim := by
      rintro rfl
      rw [found] at missing
      cases missing
    rw [windowsOf_came headed, if_neg apart]
    exact inv.current v ts found
  · by_cases same : v = victim
    · rw [same]
      exact never
    · rw [windowsOf_came headed, if_neg same] at came
      exact inv.absent v missing' came

/-- Packets that come for a victim, if any, are put down in its target as they come. -/
theorem admits {now : Instant} {record : TargetState F → TargetState F} {seen : Bool}
    (tallies : ∀ since ts, TalliesWindow since ts → TalliesWindow (since ++ packets) (record ts))
    (stands : ∀ ts, TargetState.Standing cfg ts → TargetState.Standing cfg (record ts))
    (admitted : admitVictim cfg persisted now st victim record = some (st', seen)) :
    Partitions cfg (past ++ packets.map .came) st'.targetsMap := by
  rcases admitVictim_cases admitted with ⟨unguarded, rfl, -⟩ | ⟨-, capped, rfl, -⟩ | ⟨ts, guarded, ensured, rfl, -⟩
  · have missing : st'.targetsMap.get? victim = none := by
      cases found : st'.targetsMap.get? victim with
      | none => rfl
      | some ts => exact absurd (inv.standing victim ts found).2 unguarded
    exact inv.passes headed missing (Or.inl unguarded)
  · obtain ⟨missing, full⟩ := ensureTarget_capped capped
    exact inv.passes headed missing (Or.inr full)
  · have held : TargetState.Standing cfg ts ∧ TalliesWindow (windowsOf victim past).current ts := by
      rcases ensureTarget_some ensured with found | ⟨missing, created⟩
      · exact ⟨(inv.standing victim ts found).1, inv.current victim ts found⟩
      · have none : (windowsOf victim past).current = [] := by
          by_contra came
          rcases inv.absent victim missing came with unguarded | full
          · exact unguarded guarded
          · exact ensureTarget_room ensured missing full
        rw [none]
        exact ⟨new_standing created, .of_cleared (new_counts created)⟩
    refine inv.set (fun v apart => ?_) (stands ts held.1) guarded ?_ (inv.closed_came headed victim)
    · rw [windowsOf_came headed, if_neg apart]
    · rw [windowsOf_came headed, if_pos rfl]
      exact tallies _ ts held.2

end Admits

theorem arrive {mid : AnalysisState F} {it : Iteration F} {victims : List IpAddr}
    (inv : Partitions cfg past st.targetsMap) (channel : it.arrival.ofChannel = true)
    (arrived : Stage1.arrive cfg persisted st it = some (mid, victims)) :
    Partitions cfg (past ++ it.arrival.ingress.map .came) mid.targetsMap := by
  rcases arrive_channel channel arrived with ⟨none, rfl⟩ | ⟨v, seen, none, admitted⟩ |
    ⟨packet, seen, one, admitted⟩
  · rw [none, List.map_nil, List.append_nil]
    exact inv
  · rw [none]
    apply inv.admits (by simp) (fun since ts tallied => ?_) (fun ts standing => ?_) admitted
    · rw [List.append_nil]
      exact tallied.recordEgress
    · exact standing.counted .egress
  · rw [one]
    have tracked : Partitions cfg past
        { st with flowCounts := trackFlow cfg st.flowCounts packet.flowKey 1 }.targetsMap := inv
    exact tracked.admits (by simp) (fun since ts tallied => tallied.recordIngress packet)
      (fun ts standing => standing.counted (.ingress packet)) admitted

theorem settle {reading : Reading F} {ts after : TargetState F} {w : ClosedWindow F}
    (inv : Partitions cfg past st.targetsMap) (found : st.targetsMap.get? victim = some ts)
    (closing : closeWindow cfg reading victim ts = some (after, w)) :
    Partitions cfg (past ++ (Stage1.settle reading st victim after w).2.map .did)
      (Stage1.settle reading st victim after w).1.targetsMap := by
  have closes := (closeWindow_spec closing).1
  obtain ⟨standing, guarded⟩ := inv.standing victim ts found
  obtain ⟨standing', cleared⟩ := closeWindow_standing closing standing
  rw [settle_targetsMap]
  refine inv.set (fun v apart => ?_) standing' guarded ?_ (fun c member => ?_)
  · rw [windowsOf_settle, closes.named, if_neg (Ne.symm apart)]
  · rw [windowsOf_settle, closes.named, if_pos rfl]
    exact .of_cleared cleared
  · rw [windowsOf_settle, closes.named, if_pos rfl] at member
    rcases List.mem_append.mp member with earlier | last
    · exact inv.closed victim c earlier
    · rw [List.mem_singleton.mp last, closes.before]
      exact inv.current victim ts found

end Partitions

/-- Throughout a run on the channel source the counters of every window agree, every ingress
packet to a tracked victim is counted in exactly one of its windows, closed or open, and
every vector emitted carries shares. -/
theorem channel_windows_tally (cfg : AnalysisConfig F) (persisted : Option (PersistedState F))
    {its : List (Iteration F)} {began : Instant} {final : AnalysisState F} {outs : List (List (Effect F))}
    (channel : ∀ it ∈ its, it.arrival.ofChannel = true)
    (ran : run (iterate cfg persisted) (AnalysisState.start began) its = some (final, outs)) :
    (∀ v ts, final.targetsMap.get? v = some ts → CountsAgree ts ∧
      (windowsOf v (happened its outs)).packets = ingressTo v its ∧
      (windowsOf v (happened its outs)).closed.map Prod.snd = closedOf v outs.flatten ∧
      (∀ c ∈ (windowsOf v (happened its outs)).closed, TalliesWindow c.1 c.2.before) ∧
      TalliesWindow (windowsOf v (happened its outs)).current ts) ∧
    ∀ w ∈ closedWindows outs.flatten, CountsAgree w.before ∧ ∀ fv ∈ w.sent, Shares fv := by
  have inv : Partitions cfg (happened its outs) final.targetsMap :=
    channel_history (I := fun past st => Partitions cfg past st.targetsMap)
      (fun _ _ _ _ _ inv onChannel arrived => inv.arrive onChannel arrived)
      (fun _ _ _ _ _ _ _ inv found closing => inv.settle found closing) (.start began) channel ran
  have cut : ∀ v, _ := fun v => windowsOf_run v (run_length ran)
  constructor
  · intro v ts found
    exact ⟨(inv.current v ts found).agree, (cut v).1, (cut v).2, inv.closed v, inv.current v ts found⟩
  · intro w member
    have own : w ∈ closedOf w.victim outs.flatten := by
      rw [closedOf, List.mem_filter]
      exact ⟨member, decide_eq_true rfl⟩
    rw [← (cut w.victim).2] at own
    obtain ⟨c, here, rfl⟩ := List.mem_map.mp own
    have tallied := inv.closed _ c here
    refine ⟨tallied.agree, fun fv sent => ?_⟩
    obtain ⟨reading, victim, ts, after, closing⟩ := run_closes ran c.2 member
    obtain ⟨judged, sigmaH, sigmaR, k, isWarmup, dominantIp, rfl⟩ := closeWindow_sent closing sent
    have closes := (closeWindow_spec closing).1
    rw [closes.before] at tallied
    rw [closes.stats]
    exact tallied.shares cfg reading victim

/-- Three packets from two sources, the close after a second, and one packet more. -/
def acrossClose : List (Iteration ℚ) :=
  [packetAt 0 1 9, packetAt 1000 2 9, packetAt 2000 1 9, tickAt 1000000000, packetAt 1000001000 3 9]

theorem acrossClose_tallied :
    ∃ final outs, run (iterate AnalysisConfig.default none) (AnalysisState.start 0) acrossClose =
        some (final, outs) ∧
      ((windowsOf (.v4 9) (happened acrossClose outs)).closed.map (fun c => c.1.length) = [3] ∧
        (windowsOf (.v4 9) (happened acrossClose outs)).current.length = 1) ∧
      ∃ ts, final.targetsMap.get? (.v4 9) = some ts ∧ CountsAgree ts ∧
        (windowsOf (.v4 9) (happened acrossClose outs)).packets = ingressTo (.v4 9) acrossClose ∧
        TalliesWindow (windowsOf (.v4 9) (happened acrossClose outs)).current ts := by
  have ends : ∃ final outs, run (iterate AnalysisConfig.default none) (AnalysisState.start 0) acrossClose =
        some (final, outs) ∧
      ((windowsOf (.v4 9) (happened acrossClose outs)).closed.map (fun c => c.1.length) = [3] ∧
        (windowsOf (.v4 9) (happened acrossClose outs)).current.length = 1) ∧
      (final.targetsMap.get? (.v4 9)).isSome = true := by
    decide +kernel
  obtain ⟨final, outs, ran, cut, tracked⟩ := ends
  obtain ⟨ts, found⟩ := Option.isSome_iff_exists.mp tracked
  have all := channel_windows_tally AnalysisConfig.default none (by decide) ran
  obtain ⟨agree, packets, -, -, tallied⟩ := all.1 _ ts found
  exact ⟨final, outs, ran, cut, ts, found, agree, packets, tallied⟩

end Flod.Stage1
