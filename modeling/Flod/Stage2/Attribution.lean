import Flod.Stage2.Exemption
import Flod.Stage2.Playbook

/-! Whom enforcement acts on. Whatever relation the dominant source of every window and the
flows of every snapshot satisfy, every call satisfies it too: a tier's at once, a playbook's
through the run that remembers its source. -/

namespace Flod.Stage2
open Flod.Lib Flod.Net Flod.Ipc

variable {F : Type} [Arith F] {Sent : String → String → Prop}

/-- What a window names, it has reason to: the dominant source, if it has one, and every flow to
its victim. -/
structure Backed (Sent : String → String → Prop) (env : WindowEnv F) (view : View F)
    (fv : FeatureVector F) : Prop where
  dominant : dominantKnown fv = true → Sent (dominantText fv) (victimText env view fv)
  flows : ∀ file ∈ env.flowFile, ∀ flow ∈ file.activeIps, flow.dst = victimText env view fv →
    Sent flow.ip (victimText env view fv)

/-- Every run that targets a source has reason to. -/
def RunsBacked (Sent : String → String → Prop) (store : PlaybookStore F) : Prop :=
  ∀ r ∈ store.runs, ∀ source ∈ r.targetSource, Sent source r.targetHost

/-- Every member of a kernel set is there for some victim with reason, and so is every run's source. -/
structure Attributed (Sent : String → String → Prop) (st : ReceiverState F) : Prop where
  sets : ∀ set ip, st.firewall.Holds set ip → ∃ victim, Sent ip victim
  runs : RunsBacked Sent st.playbooks

section Tiers

variable {env : WindowEnv F} {view : View F} {fv : FeatureVector F}

theorem exists_flow_of_mem {victim source : String}
    (member : source ∈ (loadVictimFlowRates env victim).keys) :
    ∃ file ∈ env.flowFile, ∃ flow ∈ file.activeIps, flow.dst = victim ∧ flow.ip = source := by
  unfold loadVictimFlowRates at member
  cases read : env.flowFile with
  | none =>
    rw [read] at member
    cases member
  | some file =>
    refine ⟨file, rfl, ?_⟩
    simp only [read] at member
    cases stamped : file.timestamp with
    | none =>
      rw [stamped] at member
      cases member
    | some written =>
      simp only [stamped] at member
      split at member
      · cases member
      · have from_flow : ∀ (flows : List (Flow F)) (rates : Dict String F),
            source ∈ (flows.foldl (fun rates flow =>
              if flow.dst = victim ∧ flow.ip ≠ "" ∧ flow.ip ∉ sentinelTexts then
                rates.set flow.ip (rates.getD flow.ip 0 + flow.rate)
              else rates) rates).keys →
            source ∈ rates.keys ∨ ∃ flow ∈ flows, flow.dst = victim ∧ flow.ip = source := by
          intro flows
          induction flows with
          | nil => exact fun rates listed => Or.inl listed
          | cons flow flows ih =>
            intro rates listed
            rcases ih _ listed with before | ⟨other, later, ends⟩
            · dsimp only at before
              split at before
              · next taken =>
                rcases (Dict.mem_keys_set _ _ _ _).mp before with rfl | earlier
                · exact Or.inr ⟨flow, List.mem_cons_self, taken.1, rfl⟩
                · exact Or.inl earlier
              · exact Or.inl before
            · exact Or.inr ⟨other, List.mem_cons_of_mem _ later, ends⟩
        rcases from_flow file.activeIps Dict.empty member with none | found
        · cases none
        · exact found

theorem Backed.source (backed : Backed Sent env view fv) {source : String}
    (member : source ∈ (loadVictimFlowRates env (victimText env view fv)).keys) :
    Sent source (victimText env view fv) := by
  obtain ⟨file, read, flow, listed, towards, rfl⟩ := exists_flow_of_mem member
  exact backed.flows file read flow listed towards

theorem TierInputs.mem_calls_victimIp {t : TierInputs F} {c : TierCall F} (member : c ∈ t.calls) :
    c.call.victimIp = t.victimIp := by
  cases makes_of_mem member with
  | dominant ready => rfl
  | source ready listed => rfl
  | throttled tier listed => rfl

/-- The tiers and the flash crowd precaution act for the window's victim, on its dominant
source or on one that has a flow to it. -/
theorem windowCalls_backed (backed : Backed Sent env view fv) {c : TierCall F}
    (member : c ∈ windowCalls env view fv) : Sent c.call.ip c.call.victimIp := by
  unfold windowCalls at member
  dsimp only at member
  split at member
  · split at member
    · next known =>
      rw [TierInputs.mem_calls_victimIp member]
      rcases TierInputs.mem_calls_ip member with dominant | listed
      · rw [dominant]
        exact backed.dominant known
      · exact backed.source listed
    · cases member
  · split at member
    · next precaution =>
      rw [List.mem_singleton.mp member]
      exact backed.dominant precaution.2.1
    · cases member

end Tiers

section Playbooks

variable {env : PassEnv F}

theorem runCalls_target {store : PlaybookStore F} {run : PlaybookRun F} {c : Call F}
    (member : c ∈ runCalls env store run) : run.targetSource = some c.ip ∧ c.victimIp = run.targetHost := by
  unfold runCalls at member
  split at member
  · cases member
  · next stage due =>
    unfold executeStage at member
    split at member
    · unfold executeEscalate at member
      split at member
      · cases member
      · next source target =>
        split at member
        · cases member
        · split at member
          · cases member
          · rw [List.mem_singleton.mp member]
            exact ⟨target, rfl⟩
          · rw [List.mem_singleton.mp member]
            exact ⟨target, rfl⟩
    · split at member
      · cases member
      · split at member <;> cases member

omit [Arith F] in
theorem RunsBacked.update {store : PlaybookStore F} (backed : RunsBacked Sent store) (id : Nat)
    {change : PlaybookRun F → PlaybookRun F}
    (target : ∀ r, (change r).targetSource = r.targetSource ∧ (change r).targetHost = r.targetHost) :
    RunsBacked Sent (store.update id change) := by
  intro r member
  obtain ⟨old, found, rfl⟩ := List.mem_map.mp member
  split
  · rw [(target old).1, (target old).2]
    exact backed old found
  · exact backed old found

omit [Arith F] in
theorem RunsBacked.advance {store : PlaybookStore F} (backed : RunsBacked Sent store) (id : Nat)
    (next : Option Nat) (now : F) : RunsBacked Sent (store.advance id next now) := by
  cases next with
  | none => exact backed.update id (fun _ => ⟨rfl, rfl⟩)
  | some index => exact backed.update id (fun _ => ⟨rfl, rfl⟩)

theorem apply_store {st done : PassState F} {action : StageAction F}
    (applied : action.apply env st = some done) : done.store = st.store := by
  cases action with
  | call c =>
    cases applied
    rfl
  | alert a =>
    cases applied
    rfl
  | nothing =>
    cases applied
    rfl
  | raises => cases applied

theorem RunsBacked.advanceRun {st next : PassState F} {run : PlaybookRun F}
    (backed : RunsBacked Sent st.store) (advanced : advanceRun env st run = some next) :
    RunsBacked Sent next.store := by
  unfold Stage2.advanceRun at advanced
  split at advanced
  · cases advanced
    exact backed
  · split at advanced
    · cases advanced
    · cases advanced
      exact backed
    · split at advanced
      · cases advanced
        exact backed.advance _ _ _
      · split at advanced
        · cases advanced
          exact backed
        · split at advanced
          · cases advanced
          · next done applied =>
            cases advanced
            have kept : RunsBacked Sent done.store := by
              rw [apply_store applied]
              exact backed
            apply RunsBacked.advance
            exact kept

theorem RunsBacked.advanceRuns {st : PassState F} (backed : RunsBacked Sent st.store)
    (runs : List (PlaybookRun F)) : RunsBacked Sent (advanceRuns env st runs).store := by
  induction runs generalizing st with
  | nil => exact backed
  | cons run rest ih =>
    unfold Stage2.advanceRuns
    cases advanced : Stage2.advanceRun env st run with
    | none => exact backed
    | some next => exact ih (backed.advanceRun advanced)

/-- The runs a pass works off are those it found, so their calls are theirs. -/
theorem advanceCalls_backed {st : PassState F} {runs : List (PlaybookRun F)}
    (backed : ∀ r ∈ runs, ∀ source ∈ r.targetSource, Sent source r.targetHost) {c : Call F}
    (member : c ∈ advanceCalls env st runs) : Sent c.ip c.victimIp := by
  induction runs generalizing st with
  | nil => cases member
  | cons run rest ih =>
    unfold advanceCalls at member
    cases advanced : advanceRun env st run with
    | none =>
      rw [advanced] at member
      cases member
    | some next =>
      simp only [advanced, List.mem_append] at member
      rcases member with here | later
      · obtain ⟨source, host⟩ := runCalls_target here
        rw [host]
        exact backed run List.mem_cons_self c.ip source
      · exact ih (fun r among => backed r (List.mem_cons_of_mem _ among)) later

theorem RunsBacked.checkAndStartRuns {store : PlaybookStore F} {host : String} {source : Option String}
    (backed : RunsBacked Sent store) (reason : ∀ ip ∈ source, Sent ip host) (seen : TriggerState) (now : F)
    (playbooks : List (Playbook F)) :
    RunsBacked Sent (checkAndStartRuns host seen source now store playbooks).1 := by
  induction playbooks generalizing store with
  | nil => exact backed
  | cons p rest ih =>
    unfold Stage2.checkAndStartRuns
    split
    · exact ih backed
    · split
      · exact backed
      · exact ih backed
      · split
        · exact backed
        · refine ih fun r member => ?_
          rcases List.mem_append.mp member with old | new
          · exact backed r old
          · rw [List.mem_singleton.mp new]
            exact reason
        · exact ih backed

/-- A pass acts on the sources of runs, and starts runs for the window's source only. -/
theorem pass_backed {host : String} {seen : TriggerState} {source : Option String} {store : PlaybookStore F}
    (backed : RunsBacked Sent store) (reason : ∀ ip ∈ source, Sent ip host) (fw : Firewall F) :
    (∀ c ∈ passCalls env host seen source store fw, Sent c.ip c.victimIp) ∧
      RunsBacked Sent (playbookPass env host seen source store fw).store := by
  have started := backed.checkAndStartRuns reason seen env.now (store.enabledFor host)
  unfold passCalls playbookPass
  dsimp only
  split
  · refine ⟨fun c member => advanceCalls_backed (fun r among => ?_) member, started.advanceRuns _⟩
    exact started r (List.mem_of_mem_filter among)
  · exact ⟨by simp, started⟩

end Playbooks

theorem performAll_holds {env : Surroundings F} {reported : List String} {fw : Firewall F} {set : IpSet}
    {ip : String} {calls : List (Call F)} (held : (performAll env reported fw calls).Holds set ip) :
    fw.Holds set ip ∨ ∃ c ∈ calls, c.ip = ip := by
  induction calls generalizing fw with
  | nil => exact Or.inl held
  | cons c rest ih =>
    rcases ih held with first | ⟨later, member, same⟩
    · rcases perform_holds first with before | ⟨rfl, -⟩
      · exact Or.inl before
      · exact Or.inr ⟨c, List.mem_cons_self, rfl⟩
    · exact Or.inr ⟨later, List.mem_cons_of_mem _ member, same⟩

theorem Attributed.handleWindow {st : ReceiverState F} {a : Arrived F} (attributed : Attributed Sent st)
    (backed : Backed Sent a.env st.view a.fv) :
    Attributed Sent (handleWindow st a).1 ∧
      ∀ c ∈ (handleWindow st a).2.calls, Sent c.call.ip c.call.victimIp := by
  have tiers : ∀ c ∈ windowCalls a.env st.view a.fv, Sent c.call.ip c.call.victimIp :=
    fun c member => windowCalls_backed backed member
  have reason : ∀ ip ∈ (if dominantKnown a.fv then some (dominantText a.fv) else none),
      Sent ip (victimText a.env st.view a.fv) := by
    intro ip named
    split at named
    · next known =>
      cases named
      exact backed.dominant known
    · cases named
  refine ⟨⟨fun set ip held => ?_, (pass_backed attributed.runs reason _).2⟩, tiers⟩
  rw [handleWindow_firewall] at held
  rcases performAll_holds held with before | ⟨c, member, rfl⟩
  · apply attributed.sets set ip
    cases set <;> exact before
  · rcases List.mem_append.mp member with tier | playbook
    · obtain ⟨made, among, rfl⟩ := List.mem_map.mp tier
      exact ⟨_, tiers made among⟩
    · exact ⟨_, (pass_backed attributed.runs reason _).1 c playbook⟩

end Flod.Stage2
