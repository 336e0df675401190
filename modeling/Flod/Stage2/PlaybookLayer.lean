import Flod.Stage2.Debounce

/-! Playbooks on top of the tiers: the receiver with playbooks beside the receiver without
any, fed the same windows. A playbook's own call debounces its target, and a tier's block
within the next ten seconds is lost. -/

namespace Flod.Stage2
open Flod.Lib Flod.Net Flod.Ipc

variable {F : Type} [Arith F]

/-- A receiver with playbooks and one without. -/
structure Beside (F : Type) where
  layered : ReceiverState F
  plain : ReceiverState F

def Beside.start (playbooks : List (Playbook F)) : Beside F :=
  ⟨ReceiverState.start playbooks, ReceiverState.start []⟩

/-- Both receivers handle the same window. -/
def receiveBoth (st : Beside F) (a : Arrived F) : Option (Beside F × Handled F × Handled F) :=
  let layered := handleWindow st.layered a
  let plain := handleWindow st.plain a
  some (⟨layered.1, plain.1⟩, layered.2, plain.2)

/-- Whatever is on the blocklist without playbooks is on it with them. -/
def BlocksKept (st : Beside F) : Prop :=
  ∀ ip ∈ st.plain.firewall.ddosBlocklist.keys, ip ∈ st.layered.firewall.ddosBlocklist.keys

/-- No address the tiers are about to block is debounced by the playbooks alone, unless it
is on the blocklist already. -/
def NonePreempted (st : Beside F) (a : Arrived F) : Prop :=
  ∀ c ∈ windowCalls a.env st.plain.view a.fv, EffectiveBlock a.env.outside c.call →
    st.plain.firewall.debounced a.env.outside.now c.call.ip = false →
      st.layered.firewall.debounced a.env.outside.now c.call.ip = false ∨
        c.call.ip ∈ st.layered.firewall.ddosBlocklist.keys

def Idle (store : PlaybookStore F) : Prop := store.playbooks = [] ∧ store.runs = []

theorem playbookPass_idle (env : PassEnv F) (host : String) (seen : TriggerState) (source : Option String)
    {store : PlaybookStore F} (idle : Idle store) (fw : Firewall F) :
    playbookPass env host seen source store fw = ⟨store, fw, []⟩ := by
  obtain ⟨playbooks, runs, events, nextPlaybook, nextRun⟩ := store
  obtain ⟨rfl, rfl⟩ := idle
  rfl

theorem handleWindow_idle {st : ReceiverState F} (idle : Idle st.playbooks) (a : Arrived F) :
    (handleWindow st a).1.firewall = enforceWindow a.env st.view st.firewall a.fv ∧
      (handleWindow st a).1.playbooks = st.playbooks := by
  simp only [handleWindow, playbookPass_idle _ _ _ _ idle, and_self]

/-- What holds of the two receivers after any number of windows that preempt no block. -/
structure InStep (st : Beside F) : Prop where
  view : st.layered.view = st.plain.view
  idle : Idle st.plain.playbooks
  kept : BlocksKept st

theorem mem_handleWindow_of_mem {st : ReceiverState F} {ip : String} (a : Arrived F)
    (member : ip ∈ st.firewall.ddosBlocklist.keys) :
    ip ∈ (handleWindow st a).1.firewall.ddosBlocklist.keys := by
  rw [handleWindow_firewall]
  exact mem_performAll_of_mem _ _ member

/-- A tier's block is on the list afterwards, unless it was debounced and not on it before. -/
theorem mem_handleWindow_iff {st : ReceiverState F} {a : Arrived F} {c : TierCall F}
    (decided : c ∈ windowCalls a.env st.view a.fv) (effective : EffectiveBlock a.env.outside c.call) :
    c.call.ip ∈ (handleWindow st a).1.firewall.ddosBlocklist.keys ↔
      st.firewall.debounced a.env.outside.now c.call.ip = false ∨
        c.call.ip ∈ st.firewall.ddosBlocklist.keys := by
  rw [Dict.mem_keys_iff, handleWindow_block decided effective, Dict.mem_keys_iff]
  cases st.firewall.debounced a.env.outside.now c.call.ip <;> simp

/-- Without playbooks only the tiers add to the blocklist. -/
theorem mem_handleWindow_idle {st : ReceiverState F} {a : Arrived F} {ip : String}
    (idle : Idle st.playbooks) (member : ip ∈ (handleWindow st a).1.firewall.ddosBlocklist.keys) :
    ip ∈ st.firewall.ddosBlocklist.keys ∨
      st.firewall.debounced a.env.outside.now ip = false ∧
        ∃ c ∈ windowCalls a.env st.view a.fv, c.call.ip = ip ∧ EffectiveBlock a.env.outside c.call := by
  rw [(handleWindow_idle idle a).1] at member
  refine (mem_performAll _ _ member).imp_right fun ⟨due, call, made, own, effective⟩ => ⟨due, ?_⟩
  obtain ⟨c, decided, rfl⟩ := List.mem_map.mp made
  exact ⟨c, decided, own, effective⟩

theorem kept_iff_nonePreempted {st : Beside F} (together : InStep st) (a : Arrived F) :
    BlocksKept ⟨(handleWindow st.layered a).1, (handleWindow st.plain a).1⟩ ↔ NonePreempted st a := by
  constructor
  · intro kept c decided effective due
    have listed := kept c.call.ip ((mem_handleWindow_iff decided effective).mpr (Or.inl due))
    rw [← together.view] at decided
    exact (mem_handleWindow_iff decided effective).mp listed
  · intro spared ip member
    rcases mem_handleWindow_idle together.idle member with before | ⟨due, c, decided, rfl, effective⟩
    · exact mem_handleWindow_of_mem a (together.kept ip before)
    · have reaches := spared c decided effective due
      rw [← together.view] at decided
      exact (mem_handleWindow_iff decided effective).mpr reaches

theorem InStep.next {st : Beside F} (together : InStep st) {a : Arrived F} (spared : NonePreempted st a) :
    InStep ⟨(handleWindow st.layered a).1, (handleWindow st.plain a).1⟩ where
  view := by
    change nextView a.env st.layered.view a.fv = nextView a.env st.plain.view a.fv
    rw [together.view]
  idle := by
    change Idle (handleWindow st.plain a).1.playbooks
    rw [(handleWindow_idle together.idle a).2]
    exact together.idle
  kept := (kept_iff_nonePreempted together a).mpr spared

/-- On every sequence of windows and with any playbooks, the tiers' blocks without the
playbooks are all there with them after every window exactly if no playbook preempts one. -/
theorem tier_blocks_kept_iff_none_preempted (playbooks : List (Playbook F)) (windows : List (Arrived F)) :
    Always receiveBoth (fun _ _ _ after => BlocksKept after) (Beside.start playbooks) windows ↔
      Always receiveBoth (fun st a _ _ => NonePreempted st a) (Beside.start playbooks) windows := by
  have together : InStep (Beside.start playbooks) := ⟨rfl, ⟨rfl, rfl⟩, fun _ member => member⟩
  refine always_iff (I := InStep) ?_ ?_ windows _ together
  · intro st a after handled together received spared
    cases received
    exact together.next spared
  · intro st a after handled together received
    cases received
    exact kept_iff_nonePreempted together a

/-- Throttle the dominant source in the first attack window. -/
def throttleEarly : Playbook ℚ where
  id := 1
  enabled := true
  scope := .all
  definition := some (.obj
    [("triggers", .arr [.obj [("type", .str "persistence"), ("consecutive_windows", one)]]),
      ("stages", .arr [.obj [("type", .str "escalate"), ("target_tier", .number (.finite 3))]])])

/-- Two attack windows without flow data. Without the playbook the second blocks the
source; with it, the source is never blocked. -/
theorem throttleEarly_suppresses_block :
    (throttleEarly.definition.any (fun json => (validateDefinition json).isOk)) = true ∧
      ∃ final outs, run receiveBoth (Beside.start [throttleEarly]) [floodAt 100 [], floodAt 102 []] =
          some (final, outs) ∧
        "192.0.2.1" ∈ final.plain.firewall.ddosBlocklist.keys ∧
        "192.0.2.1" ∉ final.layered.firewall.ddosBlocklist.keys := by
  constructor
  · decide +kernel
  · decide +kernel

end Flod.Stage2
