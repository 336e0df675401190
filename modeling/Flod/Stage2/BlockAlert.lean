import Flod.Lib.Run
import Flod.Stage2.Playbook

/-! Block alerts against the blocklist. `_maybe_alert_block` follows every `block_ip` of
Tier 1 and 2 and is not told what the call did; `block_ip` has ways out that block nothing. -/

namespace Flod.Stage2
open Flod.Lib Flod.Net Flod.Ipc

variable {F : Type} [Arith F]

/-- The alert of a block is not suppressed by an earlier one. -/
def alertDue (env : WindowEnv F) (lastBlockAlert : Dict String F) (c : TierCall F) : Prop :=
  c.call.action = .block ∧
    ¬ env.outside.now - lastBlockAlert.getD c.call.ip 0 < (env.cfg.blockDurationSeconds : F)

instance (env : WindowEnv F) (lastBlockAlert : Dict String F) (c : TierCall F) :
    Decidable (alertDue env lastBlockAlert c) :=
  inferInstanceAs (Decidable (_ ∧ _))

/-- A window's block alerts in order, each with the firewall at the moment it is dispatched. -/
def alertTrail (env : WindowEnv F) (reported : List String) :
    Firewall F → Dict String F → List (TierCall F) → List (Alert F × String × Firewall F)
  | _, _, [] => []
  | fw, lastBlockAlert, c :: rest =>
      let after := perform env.outside reported fw c.call
      if alertDue env lastBlockAlert c then
        (.ipBlocked c.call.ip c.call.victimIp (c.call.srcRate.getD 0), c.call.ip, after) ::
          alertTrail env reported after (lastBlockAlert.set c.call.ip env.outside.now) rest
      else alertTrail env reported after lastBlockAlert rest

/-- The alerts are those the window is recorded with. -/
theorem alertTrail_alerts (env : WindowEnv F) (reported : List String) (calls : List (TierCall F))
    (fw : Firewall F) (lastBlockAlert : Dict String F) :
    (alertTrail env reported fw lastBlockAlert calls).map Prod.fst =
      (alertBlocks env lastBlockAlert calls).2 := by
  induction calls generalizing fw lastBlockAlert with
  | nil => rfl
  | cons c rest ih =>
    by_cases due : alertDue env lastBlockAlert c
    · simp only [alertTrail, alertBlocks, if_pos due, if_pos (show _ ∧ _ from due), List.map_cons, ih]
    · simp only [alertTrail, alertBlocks, if_neg due, if_neg (show ¬ (_ ∧ _) from due), ih]

/-- What a call leaves in force for the address it is to block. -/
theorem perform_blocks_iff {env : Surroundings F} (reported : List String) {fw : Firewall F} {call : Call F} :
    (perform env reported fw call).blocks env.now call.ip = true ↔
      fw.blocks env.now call.ip = true ∨
        (fw.debounced env.now call.ip = false ∧ EffectiveBlock env call) := by
  cases perform_cases env reported fw call with
  | suppressed recent same =>
    rw [same]
    simp [recent]
  | stamped due spared recent listed =>
    have kept : (perform env reported fw call).blocks env.now call.ip = fw.blocks env.now call.ip := by
      simp only [Firewall.blocks, listed]
    rw [kept]
    simp [spared]
  | blocked due effective recent listed =>
    have inForce : (perform env reported fw call).blocks env.now call.ip = true := by
      apply blocks_expiry
      rw [listed, Dict.get?_set_self]
    simp [inForce, due, effective]

/-- What it takes for an alert of a block to be true when it is dispatched: the address is
blocked already, or the call blocks it. -/
def Founded (env : Surroundings F) (fw : Firewall F) (call : Call F) : Prop :=
  fw.blocks env.now call.ip = true ∨ (fw.debounced env.now call.ip = false ∧ EffectiveBlock env call)

theorem founded_congr {env : Surroundings F} {fw fw' : Firewall F} {call : Call F}
    (same : SameFor call.ip fw fw') : Founded env fw' call ↔ Founded env fw call := by
  rw [Founded, Founded, same.blocks, same.debounced]

theorem alertDue_set {env : WindowEnv F} {lastBlockAlert : Dict String F} {ip : String} {c : TierCall F}
    (apart : c.call.ip ≠ ip) (now : F) :
    alertDue env (lastBlockAlert.set ip now) c ↔ alertDue env lastBlockAlert c := by
  rw [alertDue, alertDue, Dict.getD_set, if_neg (Ne.symm apart)]

/-- All alerts of a window are true when dispatched, exactly if each is founded on the state
before the window: a window acts on no address twice. -/
theorem alertTrail_true_iff (env : WindowEnv F) (reported : List String) (calls : List (TierCall F))
    (distinct : (calls.map (·.call.ip)).Nodup) (fw : Firewall F) (lastBlockAlert : Dict String F) :
    (∀ x ∈ alertTrail env reported fw lastBlockAlert calls, x.2.2.blocks env.outside.now x.2.1 = true) ↔
      ∀ c ∈ calls, alertDue env lastBlockAlert c → Founded env.outside fw c.call := by
  induction calls generalizing fw lastBlockAlert with
  | nil => simp [alertTrail]
  | cons c rest ih =>
    rw [List.map_cons, List.nodup_cons] at distinct
    have apart : ∀ d ∈ rest, d.call.ip ≠ c.call.ip := by
      intro d member same
      exact distinct.1 (List.mem_map.mpr ⟨d, member, same⟩)
    have later : ∀ alerted, (∀ d ∈ rest, alertDue env alerted d ↔ alertDue env lastBlockAlert d) →
        ((∀ x ∈ alertTrail env reported (perform env.outside reported fw c.call) alerted rest,
            x.2.2.blocks env.outside.now x.2.1 = true) ↔
          ∀ d ∈ rest, alertDue env lastBlockAlert d → Founded env.outside fw d.call) := by
      intro alerted alike
      rw [ih distinct.2]
      refine forall_congr' fun d => forall_congr' fun member => ?_
      rw [alike d member, founded_congr (perform_other reported (apart d member))]
    rw [List.forall_mem_cons]
    by_cases due : alertDue env lastBlockAlert c
    · rw [alertTrail, if_pos due, List.forall_mem_cons,
        later _ (fun d member => alertDue_set (apart d member) _)]
      refine and_congr ?_ Iff.rfl
      rw [perform_blocks_iff]
      simp only [due, true_implies]
      rfl
    · rw [alertTrail, if_neg due, later _ (fun _ _ => Iff.rfl)]
      simp [due]

/-- The alerts of one window, each with the firewall at its moment. -/
def windowAlerts (st : ReceiverState F) (a : Arrived F) : List (Alert F × String × Firewall F) :=
  alertTrail a.env (nextView a.env st.view a.fv).lastMetricsByTarget.keys
    { st.firewall with logs := st.firewall.logs ++ windowIncident a.env st.view a.fv }
    st.view.lastBlockAlert (windowCalls a.env st.view a.fv)

/-- Every block alert of the window is dispatched while its address is in the blocklist. -/
def AlertsTrue (st : ReceiverState F) (a : Arrived F) : Prop :=
  ∀ x ∈ windowAlerts st a, x.2.2.blocks a.env.outside.now x.2.1 = true

/-- Every block with an alert due is one of an address that is blocked already, or gets
blocked: outside the debounce, neither whitelisted nor shared, the command succeeding. -/
def AlertsFounded (st : ReceiverState F) (a : Arrived F) : Prop :=
  ∀ c ∈ windowCalls a.env st.view a.fv, alertDue a.env st.view.lastBlockAlert c →
    Founded a.env.outside st.firewall c.call

/-- In every run of the receiver, with any playbooks, the block alerts are true when they are
dispatched exactly if all of them are founded. -/
theorem block_alerts_true_iff_founded (playbooks : List (Playbook F)) (windows : List (Arrived F)) :
    Always receive (fun st a _ _ => AlertsTrue st a) (ReceiverState.start playbooks) windows ↔
      Always receive (fun st a _ _ => AlertsFounded st a) (ReceiverState.start playbooks) windows := by
  refine always_iff (I := fun _ => True) (fun _ _ _ _ _ _ _ => trivial) ?_ windows _ trivial
  intro st a _ _ _ _
  exact alertTrail_true_iff a.env _ _ (windowCalls_nodup a.env st.view a.fv) _ _

/-- A flood from a source on the whitelist. -/
def whitelistedFlood (now : ℚ) : Arrived ℚ :=
  let a := floodAt now []
  { a with env := { a.env with outside := { a.env.outside with whitelist := ["192.0.2.1"] } } }

/-- The second window has the source's block alerted. The blocklist stays empty. -/
theorem whitelisted_alerted :
    ∃ st outs, run receive (ReceiverState.start []) [whitelistedFlood 5000] = some (st, outs) ∧
      ∃ x ∈ windowAlerts st (whitelistedFlood 5020),
        x.2.1 = "192.0.2.1" ∧ x.2.2.ddosBlocklist.keys = [] := by
  have alerted : (windowAlerts (handleWindow (ReceiverState.start []) (whitelistedFlood 5000)).1
      (whitelistedFlood 5020)).any (fun x =>
        decide (x.2.1 = "192.0.2.1") && decide (x.2.2.ddosBlocklist.keys = [])) = true := by
    decide +kernel
  obtain ⟨x, member, holds⟩ := List.any_eq_true.mp alerted
  rw [Bool.and_eq_true, decide_eq_true_iff, decide_eq_true_iff] at holds
  exact ⟨_, _, rfl, x, member, holds⟩

end Flod.Stage2
