import Flod.Kernel.Tally
import Flod.Stage1.AnalysisRun

/-! The two backends on the same packets. The channel counts a packet as it comes; the
kernel leaves it pending in the maps until a drain. At any moment the channel's windows
are the kernel's with the pending entries counted, so a drain makes them agree. -/

namespace Flod.Kernel
open Flod.Lib Flod.Net Flod.Stage1

variable {F : Type} {cpus : Nat} {cfg : AnalysisConfig F}

/-- What a host's window has counted so far: nothing, if it is not tracked. -/
def tallyAt (st : AnalysisState F) (host : IpAddr) : Tally :=
  ((st.targetsMap.get? host).map tally).getD 0

/-- `after` is `before` with some hosts seen, and something added for each of them that
is protected. -/
structure Counts (cfg : AnalysisConfig F) (before after : AnalysisState F) (seen : IpAddr → Prop)
    (added : IpAddr → Tally) : Prop where
  tracked : ∀ host, host ∈ after.targetsMap.keys ↔
    host ∈ before.targetsMap.keys ∨ cfg.isEffectivelyProtected host = true ∧ seen host
  tallies : ∀ host, tallyAt after host =
    tallyAt before host + if cfg.isEffectivelyProtected host = true then added host else 0

namespace Counts

variable {a b c : AnalysisState F} {seen seen' : IpAddr → Prop} {added added' : IpAddr → Tally}

theorem nothing (st : AnalysisState F) : Counts cfg st st (fun _ => False) 0 where
  tracked host := by simp
  tallies host := by simp

theorem trans (first : Counts cfg a b seen added) (second : Counts cfg b c seen' added') :
    Counts cfg a c (fun host => seen host ∨ seen' host) (added + added') where
  tracked host := by
    rw [second.tracked, first.tracked, or_assoc, ← and_or_left]
  tallies host := by
    rw [second.tallies, first.tallies, add_assoc]
    split <;> simp

/-- Only what is said of protected hosts matters. -/
theorem congr (counted : Counts cfg a b seen added)
    (same : ∀ host, cfg.isEffectivelyProtected host = true →
      (seen host ↔ seen' host) ∧ added host = added' host) : Counts cfg a b seen' added' where
  tracked host := by
    rw [counted.tracked]
    exact or_congr_right (and_congr_right fun guarded => (same host guarded).1)
  tallies host := by
    rw [counted.tallies]
    split
    next guarded => rw [(same host guarded).2]
    next => rfl

/-- Counting the same from the same state leads to the same counts. -/
theorem agree (first : Counts cfg a b seen added) (second : Counts cfg a c seen added) :
    Counts cfg b c (fun _ => False) 0 where
  tracked host := by
    rw [second.tracked, first.tracked]
    simp
  tallies host := by
    rw [second.tallies, first.tallies]
    simp

end Counts

theorem tallyAt_set (st : AnalysisState F) (victim host : IpAddr) (ts : TargetState F) :
    tallyAt { st with targetsMap := st.targetsMap.set victim ts } host =
      if victim = host then tally ts else tallyAt st host := by
  unfold tallyAt
  rw [Dict.get?_set]
  split <;> rfl

variable [Arith F] {persisted : Option (PersistedState F)}

theorem new_tally {alpha : F} {saved : Option (PersistedBaseline F)} {now : Instant} {ts : TargetState F}
    (created : TargetState.new alpha saved now = some ts) : tally ts = 0 := by
  obtain ⟨ewma, _, rfl⟩ := Option.map_eq_some_iff.mp created
  funext feature
  cases saved with
  | none =>
    cases feature with
    | protocol protocol => cases protocol <;> rfl
    | _ => rfl
  | some p =>
    cases feature with
    | protocol protocol => cases protocol <;> rfl
    | _ => rfl

theorem ensureTarget_tally {now : Instant} {st : AnalysisState F} {victim : IpAddr} {ts : TargetState F}
    (ensured : ensureTarget cfg persisted now st.targetsMap victim = some (some ts)) :
    tally ts = tallyAt st victim := by
  rcases ensureTarget_some ensured with found | ⟨absent, created⟩
  · simp [tallyAt, found]
  · simp [tallyAt, absent, new_tally created]

/-- With configured targets there is no cap on the hosts tracked. -/
theorem admitVictim_counts {targets : VictimTargets} (configured : cfg.victimTargets = some targets)
    {now : Instant} {st st' : AnalysisState F} {victim : IpAddr}
    {record : TargetState F → TargetState F} {added : Tally} {seen : Bool}
    (adds : ∀ ts, tally (record ts) = tally ts + added)
    (admitted : admitVictim cfg persisted now st victim record = some (st', seen)) :
    Counts cfg st st' (victim = ·) (fun host => if victim = host then added else 0) := by
  rcases admitVictim_cases admitted with ⟨guarded, rfl, _⟩ | ⟨_, capped, _⟩ | ⟨ts, guarded, ensured, rfl, _⟩
  · refine (Counts.nothing st').congr ?_
    intro host other
    have apart : victim ≠ host := fun same => guarded (same ▸ other)
    simp [apart]
  · simp [ensureTarget, ensureTarget_capped capped, configured] at capped
  · constructor
    · intro host
      rw [Dict.mem_keys_set]
      by_cases same : victim = host
      · simp [← same, guarded]
      · simp [same, Ne.symm same]
    · intro host
      rw [tallyAt_set]
      by_cases same : victim = host
      · subst same
        rw [if_pos rfl, if_pos guarded, if_pos rfl, adds, ensureTarget_tally ensured]
      · simp [same]

theorem admitPacket_counts {targets : VictimTargets} (configured : cfg.victimTargets = some targets)
    {now : Instant} {st st' : AnalysisState F} {p : Packet} {seen : Bool}
    (admitted : admitPacket cfg persisted now st p.toMeta = some (st', seen)) :
    Counts cfg st st' (p.dstIp = ·) (fun host => if p.dstIp = host then p.tally else 0) := by
  unfold admitPacket Packet.toMeta at admitted
  unfold Packet.tally
  cases direction : p.direction with
  | ingress =>
    rw [direction] at admitted
    have counted := admitVictim_counts configured (fun ts => recordIngress_tally ts p) admitted
    exact ⟨counted.tracked, counted.tallies⟩
  | egress =>
    rw [direction] at admitted
    obtain ⟨⟨mid, checked⟩, taken, same⟩ := Option.map_eq_some_iff.mp admitted
    cases same
    exact admitVictim_counts configured recordEgress_tally taken

theorem admitSamples_counts {targets : VictimTargets} (configured : cfg.victimTargets = some targets)
    {now : Instant} {st st' : AnalysisState F} {samples : List (IpAddr × WindowSample)}
    (small : ∀ e ∈ samples, Small e.2)
    (admitted : admitSamples cfg persisted now st samples = some st') :
    Counts cfg st st' (fun host => ∃ e ∈ samples, e.1 = host)
      (fun host => (samples.map (fun e => if e.1 = host then sampleTally e.2 else 0)).sum) := by
  induction samples generalizing st with
  | nil =>
    simp only [admitSamples, Option.some.injEq] at admitted
    subst admitted
    exact (Counts.nothing st).congr fun host _ => by simp
  | cons e rest ih =>
    obtain ⟨flows, mid, seen, taken, admitted⟩ := admitSamples_cons admitted
    have here := admitVictim_counts configured
      (fun ts => recordSample_tally ts (small e List.mem_cons_self)) taken
    have later := ih (fun e member => small e (List.mem_cons_of_mem _ member)) admitted
    -- The flows a sample brings are not part of any tally.
    have whole : Counts cfg st st' _ _ := (Counts.trans ⟨here.tracked, here.tallies⟩ later)
    refine whole.congr fun host _ => ⟨?_, ?_⟩
    · simp
    · simp

/-- A drain counts for every protected host what was pending. -/
theorem drain_counts {targets : VictimTargets} (configured : cfg.victimTargets = some targets)
    {now : Instant} {maps : Maps cpus} {st st' : AnalysisState F} {samples : Walk (IpAddr × WindowSample)}
    (small : ∀ e ∈ (drain maps).1.entries, Small e.2)
    (admitted : admitSamples cfg persisted now st (samples.order (drain maps).1.entries) = some st') :
    Counts cfg st st' maps.Saw (pending maps) := by
  have counted := admitSamples_counts configured (fun e member => small e (samples.mem_order.mp member)) admitted
  refine counted.congr fun host _ => ⟨?_, ?_⟩
  · rw [← mem_keys_drain]
    simp [Dict.keys]
  · rw [((samples.perm _).map _).sum_eq, Dict.sum_entries_of_key sampleTally]
    have sample := drain_getD maps host
    rw [← sampleTally_sampleOf, ← sample, Dict.getD]
    cases (drain maps).1.get? host with
    | none =>
      funext feature
      cases feature with
      | protocol protocol => cases protocol <;> rfl
      | _ => rfl
    | some sample => rfl

theorem absorb_tally (cfg : AnalysisConfig F) (ts : TargetState F) (stats : WindowStats F) (vd : Verdict F) :
    tally (absorb cfg ts stats vd) = tally ts := by
  funext feature
  unfold absorb
  cases vd.isCleanWindow <;>
    cases feature with
    | protocol protocol => cases protocol <;> rfl
    | _ => rfl

theorem closeWindow_tally {reading : Reading F} {victim : IpAddr} {ts after : TargetState F}
    {w : ClosedWindow F} (closed : closeWindow cfg reading victim ts = some (after, w)) : tally after = 0 := by
  have cleared : tally (measure cfg reading victim ts).2 = 0 := by
    funext feature
    cases feature with
    | protocol protocol => cases protocol <;> rfl
    | _ => rfl
  rcases closeWindow_cases closed with ⟨-, -, rfl⟩ | ⟨vd, sentAt, -, -, -, rfl⟩
  · exact cleared
  · exact (absorb_tally cfg (measure cfg reading victim ts).2 w.stats vd).trans cleared

/-- Close the window of a host, if it is tracked. -/
def closeVictim (cfg : AnalysisConfig F) (reading : Reading F) (st : AnalysisState F) (victim : IpAddr) :
    Option (AnalysisState F × List (ClosedWindow F)) :=
  match st.targetsMap.get? victim with
  | none => some (st, [])
  | some ts =>
      (closeWindow cfg reading victim ts).map (fun closed =>
        ((settle reading st victim closed.1 closed.2).1, [closed.2]))

/-- The figures the two backends must agree on, histograms as multisets. -/
structure SameCounters (a b : TargetState F) : Prop where
  entropy : ∀ ip, a.entropy.counts.getD ip 0 = b.entropy.counts.getD ip 0
  entropyPackets : a.entropy.packetCount = b.entropy.packetCount
  portEntropy : ∀ port, a.portEntropy.counts.getD port 0 = b.portEntropy.counts.getD port 0
  portPackets : a.portEntropy.packetCount = b.portEntropy.packetCount
  fingerprintEntropy : ∀ bucket,
    a.fingerprintEntropy.counts.getD bucket 0 = b.fingerprintEntropy.counts.getD bucket 0
  fingerprintPackets : a.fingerprintEntropy.packetCount = b.fingerprintEntropy.packetCount
  ipCounts : ∀ ip, a.ipCounts.getD ip 0 = b.ipCounts.getD ip 0
  windowPacketCount : a.windowPacketCount = b.windowPacketCount
  egressPacketCount : a.egressPacketCount = b.egressPacketCount
  tcpCount : a.tcpCount = b.tcpCount
  udpCount : a.udpCount = b.udpCount
  icmpCount : a.icmpCount = b.icmpCount
  sctpCount : a.sctpCount = b.sctpCount
  greCount : a.greCount = b.greCount
  espCount : a.espCount = b.espCount

omit [Arith F] in
theorem sameCounters_of_tally {a b : TargetState F} (same : tally a = tally b) : SameCounters a b where
  entropy ip := congrFun same (.source ip)
  entropyPackets := congrFun same .sourcePackets
  portEntropy port := congrFun same (.port port)
  portPackets := congrFun same .portPackets
  fingerprintEntropy bucket := congrFun same (.fingerprint bucket)
  fingerprintPackets := congrFun same .fingerprintPackets
  ipCounts ip := congrFun same (.ipCount ip)
  windowPacketCount := congrFun same .windowPackets
  egressPacketCount := congrFun same .egressPackets
  tcpCount := congrFun same (.protocol .tcp)
  udpCount := congrFun same (.protocol .udp)
  icmpCount := congrFun same (.protocol .icmp)
  sctpCount := congrFun same (.protocol .sctp)
  greCount := congrFun same (.protocol .gre)
  espCount := congrFun same (.protocol .esp)

/-- Windows of the same host, closed on the same counters. -/
structure SameWindow (w w' : ClosedWindow F) : Prop where
  victim : w.victim = w'.victim
  counters : SameCounters w.before w'.before

/-- What a close leaves: nothing changed if the host is not tracked, else its window
reported and started over. -/
theorem closeVictim_cases {reading : Reading F} {st st' : AnalysisState F} {victim : IpAddr}
    {windows : List (ClosedWindow F)} (closed : closeVictim cfg reading st victim = some (st', windows)) :
    (victim ∉ st.targetsMap.keys ∧ st' = st ∧ windows = []) ∨
      ∃ w, victim ∈ st.targetsMap.keys ∧ windows = [w] ∧ w.victim = victim ∧
        tally w.before = tallyAt st victim ∧ (∀ host, host ∈ st'.targetsMap.keys ↔ host ∈ st.targetsMap.keys) ∧
        ∀ host, tallyAt st' host = if victim = host then 0 else tallyAt st host := by
  unfold closeVictim at closed
  cases found : st.targetsMap.get? victim with
  | none =>
    simp only [found, Option.some.injEq, Prod.mk.injEq] at closed
    refine Or.inl ⟨?_, closed.1.symm, closed.2.symm⟩
    simp [Dict.mem_keys_iff, found]
  | some ts =>
    simp only [found] at closed
    obtain ⟨⟨after, w⟩, taken, same⟩ := Option.map_eq_some_iff.mp closed
    cases same
    have member := Dict.mem_keys_of_get? found
    have closes := (closeWindow_spec taken).1
    refine Or.inr ⟨w, member, rfl, closes.named, ?_, ?_, ?_⟩
    · simp [closes.before, tallyAt, found]
    · intro host
      rw [settle_targetsMap, Dict.keys_set_of_mem _ _ member]
    · intro host
      have moved := tallyAt_set st victim host after
      rw [closeWindow_tally taken] at moved
      exact moved

theorem closeVictim_agree {reading : Reading F} {a b a' b' : AnalysisState F} {victim : IpAddr}
    {windows windows' : List (ClosedWindow F)} (agree : Counts cfg a b (fun _ => False) 0)
    (first : closeVictim cfg reading a victim = some (a', windows))
    (second : closeVictim cfg reading b victim = some (b', windows')) :
    Counts cfg a' b' (fun _ => False) 0 ∧ List.Forall₂ SameWindow windows windows' := by
  have tracked : ∀ host, host ∈ b.targetsMap.keys ↔ host ∈ a.targetsMap.keys := by
    simpa using agree.tracked
  have tallies : ∀ host, tallyAt b host = tallyAt a host := by
    simpa using agree.tallies
  rcases closeVictim_cases first with ⟨absent, rfl, rfl⟩ | ⟨w, member, rfl, named, counted, keys, started⟩
  · rcases closeVictim_cases second with ⟨_, rfl, rfl⟩ | ⟨_, member', _⟩
    · exact ⟨agree, .nil⟩
    · exact absurd ((tracked victim).mp member') absent
  · rcases closeVictim_cases second with ⟨absent, _⟩ | ⟨w', _, rfl, named', counted', keys', started'⟩
    · exact absurd ((tracked victim).mpr member) absent
    · refine ⟨⟨?_, ?_⟩, .cons ⟨named.trans named'.symm, ?_⟩ .nil⟩
      · intro host
        rw [keys', keys, tracked]
        simp
      · intro host
        rw [started', started, tallies]
        simp
      · exact sameCounters_of_tally (by rw [counted, counted', tallies])

/-- A packet counted on some processor, or a tick of the loop that closes the windows
of the listed hosts. Which hosts a tick closes, and in which order it goes through the
samples drained, is left open. -/
inductive Event (F : Type) (cpus : Nat) where
  | packet (now : Instant) (cpu : Fin cpus) (packet : Packet)
  | tick (reading : Reading F) (samples : Walk (IpAddr × WindowSample)) (closing : List IpAddr)

/-- The kernel backend: packets go to the maps, and a tick drains them first. -/
def kernelStep (tries : Tries) (cfg : AnalysisConfig F) (persisted : Option (PersistedState F))
    (s : Maps cpus × AnalysisState F) :
    Event F cpus → Option ((Maps cpus × AnalysisState F) × List (ClosedWindow F))
  | .packet _ cpu p => some ((observe tries s.1 cpu p, s.2), [])
  | .tick reading samples closing =>
      match admitSamples cfg persisted reading.now s.2 (samples.order (drain s.1).1.entries) with
      | none => none
      | some mid =>
          (run (closeVictim cfg reading) mid closing).map (fun result =>
            (((drain s.1).2, result.1), result.2.flatten))

/-- The channel backend: packets go to the loop one by one. -/
def channelStep (cfg : AnalysisConfig F) (persisted : Option (PersistedState F)) (st : AnalysisState F) :
    Event F cpus → Option (AnalysisState F × List (ClosedWindow F))
  | .packet now _ p => (admitPacket cfg persisted now st p.toMeta).map (fun result => (result.1, []))
  | .tick reading _ closing =>
      (run (closeVictim cfg reading) st closing).map (fun result => (result.1, result.2.flatten))

/-- The checks of one iteration close the windows of some of the hosts checked. -/
theorem checks_close {reading : Reading F} {victims : List IpAddr} {st st' : AnalysisState F}
    {effects : List (List (Effect F))}
    (ran : run (checkVictim cfg reading) st victims = some (st', effects)) :
    ∃ closing windows, run (closeVictim cfg reading) st closing = some (st', windows) ∧
      windows.flatten = closedWindows effects.flatten := by
  induction victims generalizing st effects with
  | nil =>
    simp only [run, Option.some.injEq, Prod.mk.injEq] at ran
    obtain ⟨rfl, rfl⟩ := ran
    exact ⟨[], [], rfl, rfl⟩
  | cons victim victims ih =>
    obtain ⟨mid, o, rest, checked, later, rfl⟩ := run_cons ran
    obtain ⟨closing, windows, closed, same⟩ := ih later
    rcases checkVictim_cases checked with ⟨rfl, rfl, _⟩ | ⟨ts, after, w, found, _, taken, rfl, rfl⟩
    · exact ⟨closing, windows, closed, same⟩
    · have first : closeVictim cfg reading st victim = some ((settle reading st victim after w).1, [w]) := by
        simp [closeVictim, found, taken]
      refine ⟨victim :: closing, [w] :: windows, by simp only [run, first, closed], ?_⟩
      rw [List.flatten_cons, List.flatten_cons, closedWindows_append, closedWindows_settle, same]

/-- The loop on the kernel source takes such a tick: it closes the windows that are due. -/
theorem iterate_drained {tries : Tries} {s : Maps cpus × AnalysisState F} {reading : Reading F}
    {samples : Walk (IpAddr × WindowSample)} {st' : AnalysisState F} {effects : List (Effect F)}
    (turned : iterate cfg persisted s.2 ⟨reading, .drained (samples.order (drain s.1).1.entries)⟩ =
      some (st', effects)) :
    ∃ closing, kernelStep tries cfg persisted s (.tick reading samples closing) =
      some (((drain s.1).2, st'), closedWindows effects) := by
  simp only [iterate, arrive] at turned
  cases admitted : admitSamples cfg persisted reading.now s.2 (samples.order (drain s.1).1.entries) with
  | none => simp [admitted] at turned
  | some mid =>
    simp only [admitted, Option.map_some] at turned
    obtain ⟨⟨last, checked⟩, ran, same⟩ := Option.map_eq_some_iff.mp turned
    cases same
    obtain ⟨closing, windows, closed, flat⟩ := checks_close ran
    exact ⟨closing, by simp only [kernelStep, admitted, closed, Option.map_some, flat]⟩

/-- The loop on the channel source counts a packet and then takes such a tick. -/
theorem iterate_packet {st st' : AnalysisState F} {reading : Reading F} {p : Packet} (cpu : Fin cpus)
    (samples : Walk (IpAddr × WindowSample)) {effects : List (Effect F)}
    (turned : iterate cfg persisted st ⟨reading, .packet p.toMeta⟩ = some (st', effects)) :
    ∃ closing, run (channelStep cfg persisted) st [.packet reading.now cpu p, .tick reading samples closing] =
      some (st', [[], closedWindows effects]) := by
  simp only [iterate, arrive] at turned
  cases admitted : admitPacket cfg persisted reading.now st p.toMeta with
  | none => simp [admitted] at turned
  | some counted =>
    simp only [admitted, Option.map_some] at turned
    obtain ⟨⟨last, checked⟩, ran, same⟩ := Option.map_eq_some_iff.mp turned
    cases same
    obtain ⟨closing, windows, closed, flat⟩ := checks_close ran
    exact ⟨closing, by simp only [run, channelStep, admitted, closed, Option.map_some, flat]⟩

/-- No map is full when a packet comes, and no count read by a drain has outgrown 32
bits. -/
def Fits (tries : Tries) (s : Maps cpus × AnalysisState F) : Event F cpus → Prop
  | .packet _ _ p => tries.isProtected (toAddr p.dstIp) = true → Room s.1 p
  | .tick _ _ _ => ∀ e ∈ (drain s.1).1.entries, Small e.2

instance (tries : Tries) (s : Maps cpus × AnalysisState F) : (e : Event F cpus) → Decidable (Fits tries s e)
  | .packet _ _ p => inferInstanceAs (Decidable (tries.isProtected (toAddr p.dstIp) = true → Room s.1 p))
  | .tick _ _ _ => inferInstanceAs (Decidable (∀ e ∈ (drain s.1).1.entries, Small e.2))

def Event.Unmapped : Event F cpus → Prop
  | .packet _ _ p => p.srcIp.Unmapped ∧ p.dstIp.Unmapped
  | .tick _ _ _ => True

instance : (e : Event F cpus) → Decidable e.Unmapped
  | .packet _ _ p => inferInstanceAs (Decidable (p.srcIp.Unmapped ∧ p.dstIp.Unmapped))
  | .tick _ _ _ => isTrue trivial

variable {targets : VictimTargets} {tries : Tries} {capacity : Nat}

theorem packet_agree (configured : cfg.victimTargets = some targets)
    (plain : ∀ e ∈ cfg.excludeIps, e.Unmapped) (loaded : load capacity targets cfg.excludeIps = some tries)
    {now : Instant} {maps : Maps cpus} {kernel channel channel' : AnalysisState F} {p : Packet} {seen : Bool}
    (room : tries.isProtected (toAddr p.dstIp) = true → Room maps p) (source : p.srcIp.Unmapped)
    (destination : p.dstIp.Unmapped) (agree : Counts cfg kernel channel maps.Saw (pending maps))
    (admitted : admitPacket cfg persisted now channel p.toMeta = some (channel', seen)) (cpu : Fin cpus) :
    Counts cfg kernel channel' (observe tries maps cpu p).Saw (pending (observe tries maps cpu p)) := by
  refine (agree.trans (admitPacket_counts configured admitted)).congr ?_
  intro host guarded
  by_cases kept : tries.isProtected (toAddr p.dstIp) = true
  · exact ⟨(observe_saw kept (room kept) destination cpu host).symm,
      (observe_pending kept (room kept) source destination cpu host).symm⟩
  · have apart : p.dstIp ≠ host := by
      rintro rfl
      exact kept (isProtected_of_isEffectivelyProtected configured plain loaded destination guarded)
    rw [observe_unprotected kept]
    simp [apart]

theorem step_agree (configured : cfg.victimTargets = some targets)
    (plain : ∀ e ∈ cfg.excludeIps, e.Unmapped) (loaded : load capacity targets cfg.excludeIps = some tries)
    {s mid : Maps cpus × AnalysisState F} {channel channel' : AnalysisState F} {e : Event F cpus}
    {windows windows' : List (ClosedWindow F)} (agree : Counts cfg s.2 channel s.1.Saw (pending s.1))
    (fits : e.Unmapped ∧ Fits tries s e) (first : kernelStep tries cfg persisted s e = some (mid, windows))
    (second : channelStep cfg persisted channel e = some (channel', windows')) :
    Counts cfg mid.2 channel' mid.1.Saw (pending mid.1) ∧ List.Forall₂ SameWindow windows windows' := by
  cases e with
  | packet now cpu p =>
    simp only [kernelStep, Option.some.injEq, Prod.mk.injEq] at first
    obtain ⟨rfl, rfl⟩ := first
    obtain ⟨⟨mid', seen⟩, admitted, same⟩ := Option.map_eq_some_iff.mp second
    cases same
    exact ⟨packet_agree configured plain loaded fits.2 fits.1.1 fits.1.2 agree admitted cpu, .nil⟩
  | tick reading samples closing =>
    simp only [kernelStep] at first
    cases admitted : admitSamples cfg persisted reading.now s.2 (samples.order (drain s.1).1.entries) with
    | none => simp [admitted] at first
    | some drained =>
      simp only [admitted] at first
      obtain ⟨⟨after, closed⟩, ran, same⟩ := Option.map_eq_some_iff.mp first
      cases same
      obtain ⟨⟨after', closed'⟩, ran', same'⟩ := Option.map_eq_some_iff.mp second
      cases same'
      have level := (drain_counts configured fits.2 admitted).agree agree
      obtain ⟨last, paired⟩ := run_simulates
        (fun _ _ _ _ _ _ _ related _ one two => closeVictim_agree related one two) closing _ _ _ _ _ _ level
        (always_true closing drained) ran ran'
      refine ⟨last.congr ?_, List.rel_flatten paired⟩
      intro host _
      rw [drain_maps, pending_cleared]
      exact ⟨(iff_false_intro (not_saw_cleared _ host)).symm, rfl⟩

/-- As long as no map is full and no count outgrows its width, both backends close the
same windows on the same packets, whatever processors the packets land on, however
often the maps are drained and whenever windows close. -/
theorem backends_agree (persisted : Option (PersistedState F)) (sizes : MapSizes)
    (configured : cfg.victimTargets = some targets) (plain : ∀ e ∈ cfg.excludeIps, e.Unmapped)
    (loaded : load sizes.protectedHosts targets cfg.excludeIps = some tries) (now : Instant)
    (events : List (Event F cpus)) (unmapped : ∀ e ∈ events, e.Unmapped)
    (fits : Always (kernelStep tries cfg persisted) (fun s e _ _ => Fits tries s e)
      (Maps.empty cpus sizes, .start now) events)
    {final : Maps cpus × AnalysisState F} {final' : AnalysisState F}
    {windows windows' : List (List (ClosedWindow F))}
    (kernel : run (kernelStep tries cfg persisted) (Maps.empty cpus sizes, .start now) events =
      some (final, windows))
    (channel : run (channelStep cfg persisted) (.start now) events = some (final', windows')) :
    List.Forall₂ (List.Forall₂ SameWindow) windows windows' := by
  have start : Counts cfg (AnalysisState.start now) (AnalysisState.start now) (Maps.empty cpus sizes).Saw
      (pending (Maps.empty cpus sizes)) := by
    have empty : Maps.empty cpus sizes = (Maps.empty cpus sizes).cleared := rfl
    refine (Counts.nothing _).congr ?_
    intro host _
    rw [empty, pending_cleared]
    exact ⟨(iff_false_intro (not_saw_cleared _ host)).symm, rfl⟩
  refine (run_simulates (R := fun s st => Counts cfg s.2 st s.1.Saw (pending s.1)) ?_ events _ _ _ _ _ _
    start (fits.and_events unmapped) kernel channel).2
  intro s st e mid o mid' o' agree fits first second
  exact step_agree configured plain loaded agree fits first second

/-- One protected host. -/
def oneTarget : AnalysisConfig ℚ :=
  { AnalysisConfig.default with victimTargets := some (.list [.v4 0x0a000001]) }

def oneTargetTries : Tries := ⟨⟨256, [(128, toAddr (.v4 0x0a000001))]⟩, ⟨256, []⟩⟩

def packetTo (direction : Direction) (source destination : IpAddr) : Packet :=
  ⟨direction, source, destination, 6, 443, 51000, 64, some 7⟩

/-- Two packets on two processors with a drain between them, one let through, then the
window closes. -/
def spreadPackets : List (Event ℚ 2) :=
  [.packet 0 cpu0 (packetTo .ingress (.v4 0xc6336409) (.v4 0x0a000001)), .tick (readingAt 100000000) .inserted [],
    .packet 150000000 cpu1 (packetTo .ingress (.v4 0xc6336409) (.v4 0x0a000001)),
    .packet 160000000 cpu0 (packetTo .egress (.v4 0xc6336409) (.v4 0x0a000001)),
    .tick (readingAt 1000000000) .inserted [.v4 0x0a000001]]

theorem backends_agree_spread :
    ∃ final windows final' windows',
      run (kernelStep oneTargetTries oneTarget none) (Maps.empty 2 MapSizes.default, .start 0) spreadPackets =
        some (final, windows) ∧
      run (channelStep oneTarget none) (.start 0) spreadPackets = some (final', windows') ∧
      windows.flatten.map (fun w => w.before.windowPacketCount) = [2] ∧
      List.Forall₂ (List.Forall₂ SameWindow) windows windows' := by
  have ran : ∃ final windows, run (kernelStep oneTargetTries oneTarget none)
      (Maps.empty 2 MapSizes.default, .start 0) spreadPackets = some (final, windows) ∧
        windows.flatten.map (fun w => w.before.windowPacketCount) = [2] := by
    decide +kernel
  have ran' : (run (channelStep oneTarget none) (.start 0) spreadPackets).isSome = true := by
    decide +kernel
  obtain ⟨final, windows, kernel, closed⟩ := ran
  obtain ⟨⟨final', windows'⟩, channel⟩ := Option.isSome_iff_exists.mp ran'
  refine ⟨final, windows, final', windows', kernel, channel, closed, ?_⟩
  exact backends_agree none MapSizes.default rfl (by decide) (by rfl) 0 spreadPackets (by decide)
    (by decide +kernel) kernel channel

/-- A native IPv6 packet whose destination is the mapped form of the protected address, a drain
and a second later the close. -/
def mappedPackets : List (Event ℚ 2) :=
  [.packet 0 cpu0 (packetTo .ingress (.v4 0xc6336409) (.v4 0x0a000001)),
    .packet 0 cpu0 (packetTo .ingress (.v6 0x20010db8000000000000000000000001)
      (.v6 (toIpv6Mapped 0x0a000001))),
    .tick (readingAt 100000000) .inserted [], .tick (readingAt 1100000000) .inserted [.v4 0x0a000001]]

/-- The kernel counts it for the protected host and the channel does not. -/
theorem mapped_destination_counted_once :
    Always (kernelStep oneTargetTries oneTarget none) (fun s e _ _ => Fits oneTargetTries s e)
        (Maps.empty 2 MapSizes.default, .start 0) mappedPackets ∧
      (run (kernelStep oneTargetTries oneTarget none) (Maps.empty 2 MapSizes.default, .start 0)
        mappedPackets).map (fun r => r.2.flatten.map (fun w => w.before.windowPacketCount)) = some [2] ∧
      (run (channelStep oneTarget none) (.start 0) mappedPackets).map
        (fun r => r.2.flatten.map (fun w => w.before.windowPacketCount)) = some [1] := by
  decide +kernel

end Flod.Kernel
