import Flod.Lib.Run
import Flod.Stage2.Playbook

/-! Whether a block the tiers decide on reaches the blocklist. Blocks and rate limits share
one debounce per address, so a block within ten seconds of any earlier action is dropped. -/

namespace Flod.Stage2
open Flod.Lib Flod.Net Flod.Ipc

variable {F : Type} [Arith F]

theorem handleWindow_block {st : ReceiverState F} {a : Arrived F} {c : TierCall F}
    (decided : c ∈ windowCalls a.env st.view a.fv) (effective : EffectiveBlock a.env.outside c.call) :
    (handleWindow st a).1.firewall.ddosBlocklist.get? c.call.ip =
      if st.firewall.debounced a.env.outside.now c.call.ip then st.firewall.ddosBlocklist.get? c.call.ip
      else some (expiry a.env.outside.now c.call.duration) := by
  obtain ⟨earlier, later, split⟩ := List.append_of_mem decided
  have distinct := windowCalls_nodup a.env st.view a.fv
  rw [split, List.map_append, List.map_cons] at distinct
  have apart : ∀ e ∈ earlier.map (·.call), c.call.ip ≠ e.ip := by
    intro e member same
    obtain ⟨d, listed, rfl⟩ := List.mem_map.mp member
    exact (List.nodup_append.mp distinct).2.2 _ (List.mem_map_of_mem listed) _ List.mem_cons_self same.symm
  rw [handleWindow_firewall, split, List.map_append, List.map_cons, List.append_assoc, List.cons_append]
  exact performAll_block _ _ _ apart effective

/-- Every block the tiers decided on is in force when the window ends. -/
def BlocksInForce (a : Arrived F) (handled : Handled F) (after : ReceiverState F) : Prop :=
  ∀ c ∈ handled.calls, EffectiveBlock a.env.outside c.call →
    after.firewall.blocks a.env.outside.now c.call.ip = true

/-- No address the tiers are about to block was acted on in the last ten seconds, unless
it is blocked already. -/
def NoneDebounced (st : ReceiverState F) (a : Arrived F) : Prop :=
  ∀ c ∈ windowCalls a.env st.view a.fv, EffectiveBlock a.env.outside c.call →
    st.firewall.debounced a.env.outside.now c.call.ip = false ∨
      st.firewall.blocks a.env.outside.now c.call.ip = true

theorem handleWindow_blocks_iff {st : ReceiverState F} {a : Arrived F} {c : TierCall F}
    (decided : c ∈ windowCalls a.env st.view a.fv) (effective : EffectiveBlock a.env.outside c.call) :
    (handleWindow st a).1.firewall.blocks a.env.outside.now c.call.ip = true ↔
      st.firewall.debounced a.env.outside.now c.call.ip = false ∨
        st.firewall.blocks a.env.outside.now c.call.ip = true := by
  have listed := handleWindow_block decided effective
  cases recent : st.firewall.debounced a.env.outside.now c.call.ip with
  | true =>
    rw [recent, if_pos rfl] at listed
    simp only [Firewall.blocks, listed, Bool.true_eq_false, false_or]
  | false =>
    rw [recent, if_neg Bool.false_ne_true] at listed
    simp only [blocks_expiry listed, true_or]

/-- In every run of the receiver, with any playbooks, the blocks the tiers decide on are
in force when their windows end exactly if none of them falls into the debounce. -/
theorem blocks_in_force_iff_none_debounced (playbooks : List (Playbook F)) (windows : List (Arrived F)) :
    Always receive (fun _ a handled after => BlocksInForce a handled after)
        (ReceiverState.start playbooks) windows ↔
      Always receive (fun st a _ _ => NoneDebounced st a) (ReceiverState.start playbooks) windows := by
  refine always_iff (I := fun _ => True) (fun _ _ _ _ _ _ _ => trivial) ?_ windows _ trivial
  intro st a after handled _ received
  cases received
  exact forall_congr' fun c => forall_congr' fun decided => forall_congr' fun effective =>
    handleWindow_blocks_iff decided effective

/-- Two attack windows two seconds apart. The first only meets the hysteresis, so Tier 3
throttles the source. -/
def throttledFlood : List (Arrived ℚ) :=
  [floodAt 100 [⟨"192.0.2.1", "10.0.0.1", 1000⟩], floodAt 102 [⟨"192.0.2.1", "10.0.0.1", 1000⟩]]

/-- The second window decides to block the source, and the source stays unblocked. -/
theorem throttledFlood_not_blocked :
    ∃ final outs, run receive (ReceiverState.start []) throttledFlood = some (final, outs) ∧
      ∃ a handled, throttledFlood.getLast? = some a ∧ outs.getLast? = some handled ∧
        ∃ c ∈ handled.calls, EffectiveBlock a.env.outside c.call ∧ c.tier = 1 ∧
          final.firewall.blocks a.env.outside.now c.call.ip = false := by
  have ran : ∃ final outs, run receive (ReceiverState.start []) throttledFlood = some (final, outs) ∧
      ∃ handled ∈ outs.getLast?, ∃ c ∈ handled.calls, c.call.action = .block ∧ c.tier = 1 ∧
        final.firewall.blocks 102 c.call.ip = false := by
    decide +kernel
  obtain ⟨final, outs, reached, handled, ended, c, member, blocks, tier, unblocked⟩ := ran
  exact ⟨final, outs, reached, _, handled, rfl, ended, c, member,
    ⟨blocks, List.not_mem_nil, List.not_mem_nil, rfl⟩, tier, unblocked⟩

end Flod.Stage2
