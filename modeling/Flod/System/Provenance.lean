import Flod.Stage1.Sightings
import Flod.Stage1.WindowCap
import Flod.Stage2.Attribution
import Flod.System.FlowRates
import Flod.System.Hysteresis

/-! From the wire to the firewall: an address is acted on for a victim only if the victim is a
protected host and the sensor saw the address send to it. -/

namespace Flod.System
open Flod.Lib Flod.Net Flod.Ipc Flod.Stage1 Flod.Stage2

variable {F : Type} [Arith F]

/-- How either stage writes an address: the sensor in the flow file, Stage 2 off the wire. -/
def Names (text : String) (ip : IpAddr) : Prop := text = ip.display ∨ text = decodeIp ip.slot

/-- The iterations showed the named source sending to the named victim, a protected host. -/
def SentTo (cfg : AnalysisConfig F) (its : List (Iteration F)) (source victim : String) : Prop :=
  ∃ s v, Shown its s v ∧ Names source s ∧ Names victim v ∧ cfg.isEffectivelyProtected v = true

/-- Stage 2 reads either nothing or a flow file of this run. -/
def ReadsFlowsOf (effects : List (Effect F)) (env : WindowEnv F) : Prop :=
  ∀ file ∈ env.flowFile, ∃ flows counts timestamp, Effect.flowsWritten counts timestamp ∈ effects ∧
    file = loadFlows (writeActiveFlows flows counts timestamp)

/-- A flow file names nobody but the ends of the flows counted. -/
theorem loadFlows_named {its : List (Iteration F)} {counts : Dict FlowKey Nat}
    (within : FlowsWithin (Shown its) counts) (flows : Walk (FlowKey × Nat)) (timestamp : F) :
    ∀ flow ∈ (loadFlows (writeActiveFlows flows counts timestamp)).activeIps,
      ∃ s v, Shown its s v ∧ flow.ip = s.display ∧ flow.dst = v.display := by
  intro flow member
  simp only [loadFlows, writeActiveFlows, List.map_map, List.mem_map, List.mem_mergeSort, Walk.mem_order] at member
  obtain ⟨e, entry, rfl⟩ := member
  exact ⟨_, _, within e.1 (List.mem_map_of_mem entry), rfl, rfl⟩

/-- A delivered window names a source only if the sensor saw it send to the window's victim. -/
theorem backed_of_closed {cfg : AnalysisConfig F} {persisted : Option (PersistedState F)} {began : Instant}
    {its : List (Iteration F)} {stopped : AnalysisState F} {effects : List (List (Effect F))}
    (ran : run (iterate cfg persisted) (AnalysisState.start began) its = some (stopped, effects))
    {c : Closing F} (closed : c.window ∈ closedWindows effects.flatten)
    (reads : ReadsFlowsOf effects.flatten c.env) (named : victimName c.window ∉ sentinelTexts)
    (unmapped : c.window.victim.Unmapped) {fv : FeatureVector F} (sent : c.window.sent = some fv) (view : View F) :
    Backed (SentTo cfg its) c.env view fv := by
  have sighted := (loop_sighted ran).2
  obtain ⟨reading, victim, ts, after, closing⟩ := run_closes ran c.window closed
  have closes := (closeWindow_spec closing).1
  have address : fv.victimIp = c.window.victim := (closes.addressed fv sent).trans closes.named.symm
  have text : victimText c.env view fv = decodeIp c.window.victim.slot := by
    rw [victimText_of_address (by rw [address]; exact named), address]
  have guarded := run_guards ran c.window closed
  constructor
  · intro known
    rw [text]
    have within : SourcesWithin (Shown its) c.window.victim c.window.before := by
      obtain ⟨effect, member, shown⟩ := List.mem_filterMap.mp closed
      cases effect with
      | windowClosed w =>
        cases shown
        exact sighted _ member
      | flowsWritten flows timestamp => cases shown
      | baselineSaved snapshot => cases shown
    rcases dominant_shown closing sent within with nobody | shown
    · have unknown : dominantText fv = "0.0.0.0" := by rw [dominantText, nobody, decodeIp_unspecified]
      simp [dominantKnown, unknown, sentinelTexts] at known
    · rw [address] at shown
      exact ⟨_, _, shown, Or.inr rfl, Or.inr rfl, guarded⟩
  · intro file read flow listed towards
    obtain ⟨flows, counts, timestamp, member, rfl⟩ := reads file read
    obtain ⟨s, v, shown, from_source, to_victim⟩ := loadFlows_named (sighted _ member) flows timestamp flow listed
    -- the file and the vector print an address that maps none alike
    have same : v = c.window.victim := by
      apply IpAddr.display_injective
      rw [← to_victim, towards, text, decodeIp_slot unmapped, display_eq_text unmapped]
    rw [text]
    exact ⟨s, v, shown, Or.inl from_source, Or.inr (by rw [same]), same ▸ guarded⟩

/-- One packet, and the close that also writes the flow file. -/
def onePacket : List (Iteration ℚ) := [packetAt 0 0xC0000201 0x0A000001, tickAt 10000000000]

/-- The file as Stage 2 reads it. -/
def onePacketFile : FlowFile ℚ := ⟨some 10, [⟨"192.0.2.1", "10.0.0.1", 1 / 10⟩]⟩

def onePacketClosings (effects : List (List (Effect ℚ))) : List (Closing ℚ) :=
  (closedWindows effects.flatten).map (fun w =>
    ⟨w, { plainEnv EnforcementConfig.default 10 [] with flowFile := some onePacketFile }, false⟩)

theorem loadFlows_single {counts : Dict FlowKey Nat}
    (single : counts.entries = [((.v4 0xC0000201, .v4 0x0A000001, 443, 6), 1)]) :
    loadFlows (writeActiveFlows .inserted counts (10 : ℚ)) = onePacketFile := by
  have rate : (readDecimal (rateText 1) : ℚ) = 1 / 10 := by
    rw [readDecimal_rateText]
    norm_num
  have source : (IpAddr.v4 0xC0000201).display = "192.0.2.1" := by decide +kernel
  have victim : (IpAddr.v4 0x0A000001).display = "10.0.0.1" := by decide +kernel
  simp only [loadFlows, writeActiveFlows, Walk.inserted, id_eq, single, List.mergeSort_singleton, List.map_cons,
    List.map_nil, flowLine, source, victim, rate, onePacketFile]

/-- Flow tables written, entry by entry. -/
def flowEntries (effects : List (Effect ℚ)) : List (List (FlowKey × Nat) × ℚ) :=
  effects.filterMap (fun
    | .flowsWritten counts timestamp => some (counts.entries, timestamp)
    | _ => none)

theorem onePacketFile_written {effects : List (Effect ℚ)}
    (written : (flowEntries effects).contains ([((.v4 0xC0000201, .v4 0x0A000001, 443, 6), 1)], 10)) :
    ∃ flows counts timestamp, Effect.flowsWritten counts timestamp ∈ effects ∧
      onePacketFile = loadFlows (writeActiveFlows flows counts timestamp) := by
  obtain ⟨effect, member, shown⟩ := List.mem_filterMap.mp (List.contains_iff_mem.mp written)
  cases effect with
  | flowsWritten counts timestamp =>
    simp only [Option.some.injEq, Prod.mk.injEq] at shown
    obtain ⟨single, rfl⟩ := shown
    exact ⟨.inserted, counts, 10, member, (loadFlows_single single).symm⟩
  | windowClosed w => cases shown
  | baselineSaved snapshot => cases shown

end Flod.System
