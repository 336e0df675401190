import Flod.Lib.Run
import Flod.Stage2.Enforcement
import Flod.Stage2.Lists

/-! The whitelist and the shared addresses against the kernel sets, over any sequence of list
edits, enforcement calls and releases. -/

namespace Flod.Stage2
open Flod.Lib

variable {F : Type} [Arith F]

/-- The two lists and what enforcement acts on. -/
structure Guarded (F : Type) where
  whitelist : List String
  sharedIps : List String
  firewall : Firewall F

/-- Any lists, and kernel sets nothing has been added to. -/
def Guarded.start (whitelist sharedIps : List String) (firewall : Firewall F) : Guarded F :=
  ⟨whitelist, sharedIps, { firewall with ddosBlocklist := Dict.empty, ddosRatelimit := Dict.empty }⟩

/-- A call finds the lists as they are; a kernel entry may expire at any time. -/
inductive Operation (F : Type) where
  | addWhitelist (ip : String)
  | deleteWhitelist (ip : String)
  | addSharedIp (ip : String)
  | deleteSharedIp (ip : String)
  | enforce (env : Surroundings F) (reported : List String) (call : Call F)
  | unblockIp (env : Surroundings F) (reported : List String) (ip victimIp : String)
  | expire (set : IpSet) (ip : String)

/-- What a call reads, with the lists of the state. -/
def Guarded.surroundings (s : Guarded F) (env : Surroundings F) : Surroundings F :=
  { env with whitelist := s.whitelist, sharedIps := s.sharedIps }

def Firewall.expire (fw : Firewall F) (ip : String) : IpSet → Firewall F
  | .ddosBlocklist => { fw with ddosBlocklist := fw.ddosBlocklist.erase ip }
  | .ddosRatelimit => { fw with ddosRatelimit := fw.ddosRatelimit.erase ip }

def Guarded.apply (s : Guarded F) : Operation F → Guarded F
  | .addWhitelist ip => { s with whitelist := (addAddress ip s.whitelist).2.getD s.whitelist }
  | .deleteWhitelist ip => { s with whitelist := (removeAddress ip s.whitelist).2.getD s.whitelist }
  | .addSharedIp ip => { s with sharedIps := (addAddress ip s.sharedIps).2.getD s.sharedIps }
  | .deleteSharedIp ip => { s with sharedIps := (removeAddress ip s.sharedIps).2.getD s.sharedIps }
  | .enforce env reported call =>
      { s with firewall := perform (s.surroundings env) reported s.firewall call }
  | .unblockIp env reported ip victimIp =>
      { s with firewall := (unblockIp (s.surroundings env) reported s.firewall ip victimIp).1 }
  | .expire set ip => { s with firewall := s.firewall.expire ip set }

def Guarded.step (s : Guarded F) (op : Operation F) : Option (Guarded F × Unit) := some (s.apply op, ())

/-- The address is held by a kernel set. -/
def Firewall.Holds (fw : Firewall F) (set : IpSet) (ip : String) : Prop := ip ∈ (fw.members set).keys

/-- No whitelisted address is in either set and no shared one is in the blocklist. -/
structure Guarded.Exempt (s : Guarded F) : Prop where
  whitelist : ∀ ip ∈ s.whitelist, ∀ set, ¬ s.firewall.Holds set ip
  shared : ∀ ip ∈ s.sharedIps, ¬ s.firewall.Holds .ddosBlocklist ip

/-- The addition to a list names an address the kernel does not hold. -/
def Unheld (s : Guarded F) : Operation F → Prop
  | .addWhitelist ip => ∀ set, ¬ s.firewall.Holds set ip
  | .addSharedIp ip => ¬ s.firewall.Holds .ddosBlocklist ip
  | _ => True

section Effects

variable {env : Surroundings F} {reported : List String} {fw : Firewall F} {call : Call F}
  {set : IpSet} {ip x : String}

theorem perform_holds (held : (perform env reported fw call).Holds set x) :
    fw.Holds set x ∨
      (x = call.ip ∧ call.ip ∉ env.whitelist ∧ (set = .ddosBlocklist → call.ip ∉ env.sharedIps)) := by
  rw [Firewall.Holds, perform_members] at held
  split at held
  · next added =>
    rcases (Dict.mem_keys_set _ _ _ _).mp held with rfl | before
    · exact Or.inr (ipsetCommand_exposed env fw call added.1)
    · exact Or.inl before
  · exact Or.inl held

omit [Arith F] in
theorem expire_holds {gone : IpSet} (held : (fw.expire ip gone).Holds set x) : fw.Holds set x := by
  cases gone <;> cases set
  · exact ((Dict.mem_keys_erase _ _ _).mp held).2
  · exact held
  · exact held
  · exact ((Dict.mem_keys_erase _ _ _).mp held).2

omit [Arith F] in
theorem unblockIp_holds {victimIp : String}
    (held : (unblockIp env reported fw ip victimIp).1.Holds set x) : fw.Holds set x := by
  have kept : ∀ {d : Dict String (Option F)} {gone : Bool},
      x ∈ (if gone then d.erase ip else d).keys → x ∈ d.keys := by
    intro d gone member
    cases gone with
    | true => exact ((Dict.mem_keys_erase _ _ _).mp member).2
    | false => exact member
  unfold unblockIp at held
  dsimp only at held
  split at held <;> cases set <;> exact kept held

end Effects

section Runs

variable {s : Guarded F}

omit [Arith F] in
/-- Exemptions survive whatever adds nothing to the lists and nothing exempt to the sets. -/
theorem Guarded.Exempt.mono {s' : Guarded F} (exempt : s.Exempt)
    (whitelist : ∀ ip ∈ s'.whitelist, ip ∈ s.whitelist) (shared : ∀ ip ∈ s'.sharedIps, ip ∈ s.sharedIps)
    (held : ∀ set ip, s'.firewall.Holds set ip → s.firewall.Holds set ip ∨
      (ip ∉ s.whitelist ∧ (set = .ddosBlocklist → ip ∉ s.sharedIps))) : s'.Exempt := by
  constructor
  · intro ip listed set holds
    rcases held set ip holds with before | ⟨exposed, -⟩
    · exact exempt.whitelist ip (whitelist ip listed) set before
    · exact exposed (whitelist ip listed)
  · intro ip listed holds
    rcases held _ ip holds with before | ⟨-, unshared⟩
    · exact exempt.shared ip (shared ip listed) before
    · exact unshared rfl (shared ip listed)

omit [Arith F] in
theorem mem_of_removeAddress {ip x : String} {listed : List String}
    (member : x ∈ (removeAddress ip listed).2.getD listed) : x ∈ listed := by
  rcases removeAddress_cases ip listed with ⟨-, same⟩ | ⟨-, removed⟩
  · rwa [same] at member
  · rw [removed] at member
    exact List.mem_of_mem_erase member

/-- One operation keeps the exemptions exactly when an addition finds its address unheld. -/
theorem exempt_apply_iff (exempt : s.Exempt) (op : Operation F) : (s.apply op).Exempt ↔ Unheld s op := by
  cases op with
  | addWhitelist ip =>
    constructor
    · intro after set holds
      exact after.whitelist ip (mem_addAddress.mpr (Or.inl rfl)) set holds
    · intro unheld
      refine ⟨?_, exempt.shared⟩
      intro x listed set holds
      rcases mem_addAddress.mp listed with rfl | before
      · exact unheld set holds
      · exact exempt.whitelist x before set holds
  | addSharedIp ip =>
    constructor
    · intro after holds
      exact after.shared ip (mem_addAddress.mpr (Or.inl rfl)) holds
    · intro unheld
      refine ⟨exempt.whitelist, ?_⟩
      intro x listed holds
      rcases mem_addAddress.mp listed with rfl | before
      · exact unheld holds
      · exact exempt.shared x before holds
  | deleteWhitelist ip =>
    refine iff_of_true (exempt.mono ?_ ?_ ?_) trivial
    · exact fun x member => mem_of_removeAddress member
    · exact fun x member => member
    · exact fun set x holds => Or.inl holds
  | deleteSharedIp ip =>
    refine iff_of_true (exempt.mono ?_ ?_ ?_) trivial
    · exact fun x member => member
    · exact fun x member => mem_of_removeAddress member
    · exact fun set x holds => Or.inl holds
  | enforce env reported call =>
    refine iff_of_true (exempt.mono (fun _ member => member) (fun _ member => member) ?_) trivial
    intro set x holds
    rcases perform_holds holds with before | ⟨rfl, exposed, unshared⟩
    · exact Or.inl before
    · exact Or.inr ⟨exposed, unshared⟩
  | unblockIp env reported ip victimIp =>
    refine iff_of_true (exempt.mono (fun _ member => member) (fun _ member => member) ?_) trivial
    exact fun set x holds => Or.inl (unblockIp_holds holds)
  | expire set ip =>
    refine iff_of_true (exempt.mono (fun _ member => member) (fun _ member => member) ?_) trivial
    exact fun set x holds => Or.inl (expire_holds holds)

/-- From empty kernel sets, every state of a run spares the exempt addresses exactly when no
addition to a list names an address the kernel is holding. -/
theorem exempt_throughout_iff (whitelist sharedIps : List String) (firewall : Firewall F)
    (ops : List (Operation F)) :
    Always Guarded.step (fun _ _ _ next => next.Exempt) (.start whitelist sharedIps firewall) ops ↔
      Always Guarded.step (fun s op _ _ => Unheld s op) (.start whitelist sharedIps firewall) ops := by
  have stepped : ∀ (s mid : Guarded F) op o, s.Exempt → s.step op = some (mid, o) →
      (mid.Exempt ↔ Unheld s op) := by
    intro s mid op o exempt taken
    simp only [Guarded.step, Option.some.injEq, Prod.mk.injEq] at taken
    obtain ⟨rfl, -⟩ := taken
    exact exempt_apply_iff exempt op
  apply always_iff (I := Guarded.Exempt)
  · intro s op mid o exempt taken unheld
    exact (stepped s mid op o exempt taken).mpr unheld
  · intro s op mid o exempt taken
    exact stepped s mid op o exempt taken
  · constructor
    · intro ip _ set holds
      cases set <;> cases holds
    · intro ip _ holds
      cases holds

end Runs

/-- A block by hand, as the dashboard makes it. -/
def blockedByHand : Operation ℚ :=
  .enforce ⟨1000, [], [], [], fun _ _ => true⟩ [] ⟨.block, "192.0.2.1", 600, "10.0.0.1", none, none⟩

/-- An address blocked first and put on a list afterwards stays blocked. -/
theorem blocked_then_listed :
    (∃ final os, run Guarded.step (.start [] [] Firewall.empty)
        [blockedByHand, .addWhitelist "192.0.2.1"] = some (final, os) ∧
      "192.0.2.1" ∈ final.whitelist ∧ final.firewall.Holds .ddosBlocklist "192.0.2.1") ∧
    (∃ final os, run Guarded.step (.start [] [] Firewall.empty)
        [blockedByHand, .addSharedIp "192.0.2.1"] = some (final, os) ∧
      "192.0.2.1" ∈ final.sharedIps ∧ final.firewall.Holds .ddosBlocklist "192.0.2.1") := by
  have held : (Guarded.apply (.start [] [] Firewall.empty) blockedByHand).firewall.ddosBlocklist.keys =
      ["192.0.2.1"] := by decide +kernel
  have blocked : "192.0.2.1" ∈
      (Guarded.apply (.start [] [] Firewall.empty) blockedByHand).firewall.ddosBlocklist.keys := by
    rw [held]
    exact List.mem_singleton.mpr rfl
  have listed : "192.0.2.1" ∈ (addAddress "192.0.2.1" []).2.getD [] := mem_addAddress.mpr (Or.inl rfl)
  exact ⟨⟨_, _, rfl, listed, blocked⟩, ⟨_, _, rfl, listed, blocked⟩⟩

end Flod.Stage2
