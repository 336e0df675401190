import Flod.Lib.FileUpdate

/-! The whitelist, the shared addresses and the victims: three JSON files and the requests
that add to them and remove from them. -/

namespace Flod.Stage2
open Flod.Lib

inductive ListName where
  | whitelist
  | sharedIps
  | victims
  deriving DecidableEq, Repr

structure Victim where
  ip : String
  description : String
  active : Bool
  deriving DecidableEq, Repr

def Content : ListName → Type
  | .whitelist => List String
  | .sharedIps => List String
  | .victims => List Victim

/-- Every `load_json_file` here is given the empty list to fall back on. -/
def emptyList : (list : ListName) → Content list
  | .whitelist => ([] : List String)
  | .sharedIps => ([] : List String)
  | .victims => ([] : List Victim)

inductive Answer where
  | success
  | badRequest (detail : String)
  deriving DecidableEq, Repr

def addAddress (ip : String) (listed : List String) : Answer × Option (List String) :=
  if ip ∈ listed then (.success, none) else (.success, some (listed ++ [ip]))

/-- `list.remove` takes out the first occurrence only. -/
def removeAddress (ip : String) (listed : List String) : Answer × Option (List String) :=
  if ip ∈ listed then (.success, some (listed.erase ip)) else (.success, none)

def addWhitelist (ip : String) : Request Content Answer := ⟨.whitelist, addAddress ip⟩

def deleteWhitelist (ip : String) : Request Content Answer := ⟨.whitelist, removeAddress ip⟩

def addSharedIp (ip : String) : Request Content Answer := ⟨.sharedIps, addAddress ip⟩

def deleteSharedIp (ip : String) : Request Content Answer := ⟨.sharedIps, removeAddress ip⟩

def appendVictim (ip description : String) (victims : List Victim) : Answer × Option (List Victim) :=
  if victims.any (fun v => v.ip == ip) then (.badRequest "Asset IP is already deployed.", none)
  else (.success, some (victims ++ [⟨ip, description, true⟩]))

/-- The file is written whether or not the address was in it. -/
def removeVictim (ip : String) (victims : List Victim) : Answer × Option (List Victim) :=
  (.success, some (victims.filter (fun v => v.ip != ip)))

def addVictim (ip description : String) : Request Content Answer :=
  ⟨.victims, appendVictim ip description⟩

def deleteVictim (ip : String) : Request Content Answer := ⟨.victims, removeVictim ip⟩

/-- A request on one of the lists, past the check of its address. -/
inductive Edit where
  | addWhitelist (ip : String)
  | deleteWhitelist (ip : String)
  | addSharedIp (ip : String)
  | deleteSharedIp (ip : String)
  | addVictim (ip description : String)
  | deleteVictim (ip : String)

namespace Edit

def request : Edit → Request Content Answer
  | .addWhitelist ip => Stage2.addWhitelist ip
  | .deleteWhitelist ip => Stage2.deleteWhitelist ip
  | .addSharedIp ip => Stage2.addSharedIp ip
  | .deleteSharedIp ip => Stage2.deleteSharedIp ip
  | .addVictim ip description => Stage2.addVictim ip description
  | .deleteVictim ip => Stage2.deleteVictim ip

def ip : Edit → String
  | .addWhitelist ip | .deleteWhitelist ip => ip
  | .addSharedIp ip | .deleteSharedIp ip => ip
  | .addVictim ip _ | .deleteVictim ip => ip

def adds : Edit → Bool
  | .addWhitelist _ | .addSharedIp _ | .addVictim _ _ => true
  | .deleteWhitelist _ | .deleteSharedIp _ | .deleteVictim _ => false

end Edit

/-- The addresses on a list. -/
def addresses : (list : ListName) → Content list → List String
  | .whitelist, listed => listed
  | .sharedIps, listed => listed
  | .victims, victims => victims.map Victim.ip

/-- No address stands twice where a removal takes out one occurrence. -/
def NoRepeats : (list : ListName) → Content list → Prop
  | .whitelist, listed => List.Nodup listed
  | .sharedIps, listed => List.Nodup listed
  | .victims, _ => True

section Effects

variable {listed : List String} {victims : List Victim} {ip description x : String}

theorem addAddress_cases (ip : String) (listed : List String) :
    (ip ∈ listed ∧ addAddress ip listed = (.success, none)) ∨
      (ip ∉ listed ∧ addAddress ip listed = (.success, some (listed ++ [ip]))) := by
  by_cases member : ip ∈ listed <;> simp [addAddress, member]

theorem removeAddress_cases (ip : String) (listed : List String) :
    (ip ∉ listed ∧ removeAddress ip listed = (.success, none)) ∨
      (ip ∈ listed ∧ removeAddress ip listed = (.success, some (listed.erase ip))) := by
  by_cases member : ip ∈ listed <;> simp [removeAddress, member]

theorem mem_addAddress :
    x ∈ (addAddress ip listed).2.getD listed ↔ x = ip ∨ x ∈ listed := by
  rcases addAddress_cases ip listed with ⟨member, same⟩ | ⟨-, added⟩
  · rw [same]
    exact (or_iff_right_of_imp fun (named : x = ip) => named ▸ member).symm
  · simp [added, or_comm]

theorem mem_removeAddress (unique : listed.Nodup) :
    x ∈ (removeAddress ip listed).2.getD listed ↔ x ≠ ip ∧ x ∈ listed := by
  rcases removeAddress_cases ip listed with ⟨absent, same⟩ | ⟨-, removed⟩
  · rw [same]
    exact (and_iff_right_of_imp fun member (named : x = ip) => absent (named ▸ member)).symm
  · simp [removed, unique.mem_erase_iff]

theorem nodup_addAddress (unique : listed.Nodup) : ((addAddress ip listed).2.getD listed).Nodup := by
  rcases addAddress_cases ip listed with ⟨-, same⟩ | ⟨absent, added⟩
  · rw [same]
    exact unique
  · rw [added]
    have apart : ∀ x ∈ listed, x ≠ ip := fun x member same => absent (same ▸ member)
    simpa [List.nodup_append, unique] using apart

theorem nodup_removeAddress (unique : listed.Nodup) :
    ((removeAddress ip listed).2.getD listed).Nodup := by
  rcases removeAddress_cases ip listed with ⟨-, same⟩ | ⟨-, removed⟩
  · rw [same]
    exact unique
  · rw [removed]
    exact unique.erase ip

theorem mem_appendVictim : x ∈ ((appendVictim ip description victims).2.getD victims).map Victim.ip ↔
    x = ip ∨ x ∈ victims.map Victim.ip := by
  by_cases deployed : ip ∈ victims.map Victim.ip
  · have any : victims.any (fun v => v.ip == ip) = true := by simpa using deployed
    simp only [appendVictim, any, if_true, Option.getD_none]
    exact (or_iff_right_of_imp fun (named : x = ip) => named ▸ deployed).symm
  · have absent : victims.any (fun v => v.ip == ip) = false := by simpa using deployed
    simp [appendVictim, absent, or_comm, eq_comm]

theorem mem_removeVictim : x ∈ ((removeVictim ip victims).2.getD victims).map Victim.ip ↔
    x ≠ ip ∧ x ∈ victims.map Victim.ip := by
  simp only [removeVictim, Option.getD_some, List.mem_map, List.mem_filter, bne_iff_ne]
  constructor
  · rintro ⟨v, ⟨member, other⟩, rfl⟩
    exact ⟨other, v, member, rfl⟩
  · rintro ⟨other, v, member, rfl⟩
    exact ⟨v, ⟨member, other⟩, rfl⟩

/-- What a list holds once the request has been served. -/
def Edit.after (e : Edit) (content : Content e.request.file) : Content e.request.file :=
  (e.request.body content).2.getD content

/-- A served request settles its own address and no other. -/
theorem mem_after (e : Edit) {content : Content e.request.file}
    (unique : NoRepeats e.request.file content) (x : String) :
    x ∈ addresses e.request.file (e.after content) ↔
      (x = e.ip ∧ e.adds = true) ∨ (x ≠ e.ip ∧ x ∈ addresses e.request.file content) := by
  have added : ∀ {p : Prop} {ip : String}, (x = ip ∨ p) ↔ (x = ip ∧ true = true) ∨ (x ≠ ip ∧ p) := by
    intro p ip
    by_cases same : x = ip <;> simp [same]
  have removed : ∀ {p : Prop} {ip : String},
      (x ≠ ip ∧ p) ↔ (x = ip ∧ false = true) ∨ (x ≠ ip ∧ p) := by simp
  cases e with
  | addWhitelist ip => exact mem_addAddress.trans added
  | deleteWhitelist ip => exact (mem_removeAddress unique).trans removed
  | addSharedIp ip => exact mem_addAddress.trans added
  | deleteSharedIp ip => exact (mem_removeAddress unique).trans removed
  | addVictim ip description => exact mem_appendVictim.trans added
  | deleteVictim ip => exact mem_removeVictim.trans removed

theorem noRepeats_after (e : Edit) {content : Content e.request.file}
    (unique : NoRepeats e.request.file content) : NoRepeats e.request.file (e.after content) := by
  cases e with
  | addWhitelist ip => exact nodup_addAddress unique
  | deleteWhitelist ip => exact nodup_removeAddress unique
  | addSharedIp ip => exact nodup_addAddress unique
  | deleteSharedIp ip => exact nodup_removeAddress unique
  | addVictim ip description => trivial
  | deleteVictim ip => trivial

end Effects

section Serial

variable {ι : Type} {edits : ι → Edit} {store : (list : ListName) → Content list}

/-- The file requests of the edits. -/
def requestsOf (edits : ι → Edit) (i : ι) : Request Content Answer := (edits i).request

theorem serve_self (store : (list : ListName) → Content list) (i : ι) :
    serve (requestsOf edits) store i (edits i).request.file =
      (edits i).after (store (edits i).request.file) :=
  Function.update_self ..

theorem serve_other {i : ι} {list : ListName} (other : list ≠ (edits i).request.file) :
    serve (requestsOf edits) store i list = store list :=
  Function.update_of_ne other ..

theorem noRepeats_serve (unique : ∀ list, NoRepeats list (store list)) (i : ι) (list : ListName) :
    NoRepeats list (serve (requestsOf edits) store i list) := by
  by_cases same : list = (edits i).request.file
  · subst same
    rw [serve_self]
    exact noRepeats_after (edits i) (unique _)
  · rw [serve_other same]
    exact unique list

theorem mem_serve (unique : ∀ list, NoRepeats list (store list)) (i : ι) (list : ListName) (x : String) :
    x ∈ addresses list (serve (requestsOf edits) store i list) ↔
      if list = (edits i).request.file ∧ x = (edits i).ip then (edits i).adds = true
      else x ∈ addresses list (store list) := by
  by_cases same : list = (edits i).request.file
  · subst same
    rw [serve_self, mem_after (edits i) (unique _)]
    by_cases named : x = (edits i).ip <;> simp [named]
  · rw [serve_other same]
    simp [same]

theorem noRepeats_replay (unique : ∀ list, NoRepeats list (store list)) (log : List ι) :
    ∀ list, NoRepeats list (replay (requestsOf edits) store log list) := by
  induction log generalizing store with
  | nil => exact unique
  | cons i rest ih => exact ih (noRepeats_serve unique i)

theorem replay_keeps {list : ListName} {x : String} {listed : Prop}
    (unique : ∀ list, NoRepeats list (store list)) (log : List ι)
    (kept : ∀ i ∈ log, list = (edits i).request.file → x = (edits i).ip → ((edits i).adds = true ↔ listed))
    (start : x ∈ addresses list (store list) ↔ listed) :
    x ∈ addresses list (replay (requestsOf edits) store log list) ↔ listed := by
  induction log generalizing store with
  | nil => exact start
  | cons i rest ih =>
    refine ih (noRepeats_serve unique i) (fun j member => kept j (List.mem_cons_of_mem i member)) ?_
    rw [mem_serve unique]
    by_cases named : list = (edits i).request.file ∧ x = (edits i).ip
    · rw [if_pos named]
      exact kept i List.mem_cons_self named.1 named.2
    · rw [if_neg named]
      exact start

/-- Requests for different addresses: one that was served has settled its own. -/
theorem replay_settles {i : ι} {earlier later : List ι}
    (apart : ∀ i j, i ≠ j → (edits i).request.file = (edits j).request.file → (edits i).ip ≠ (edits j).ip)
    (unique : ∀ list, NoRepeats list (store list)) :
    (edits i).ip ∈ addresses (edits i).request.file
        (replay (requestsOf edits) store (earlier ++ i :: later) (edits i).request.file) ↔
      (edits i).adds = true := by
  have before : ∀ list, NoRepeats list (replay (requestsOf edits) store earlier list) :=
    noRepeats_replay unique earlier
  have served : ∀ list, NoRepeats list
      (serve (requestsOf edits) (replay (requestsOf edits) store earlier) i list) :=
    noRepeats_serve before i
  have split : replay (requestsOf edits) store (earlier ++ i :: later) =
      replay (requestsOf edits) (serve (requestsOf edits) (replay (requestsOf edits) store earlier) i) later := by
    simp [replay]
  rw [split]
  refine replay_keeps served later ?_ ?_
  · intro j _ sameList sameIp
    by_cases self : i = j
    · rw [self]
    · exact absurd sameIp (apart i j self sameList)
  · rw [mem_serve before]
    simp

end Serial

section Concurrent

variable {ι : Type} [DecidableEq ι]

/-- The address is on the list as the file has it. -/
def Listed (files : (list : ListName) → Option (Content list)) (list : ListName) (x : String) : Prop :=
  x ∈ addresses list (contents emptyList files list)

/-- The lists hold what was added and what was there and not removed, and nothing that was
removed, going by the requests answered with success. -/
structure AsAnswered (edits : ι → Edit) (files : (list : ListName) → Option (Content list))
    (final : FileState (requestsOf edits)) : Prop where
  added : ∀ i, (edits i).adds = true → final.progress i = .done (some .success) →
    Listed final.files (edits i).request.file (edits i).ip
  kept : ∀ list x, Listed files list x →
    (∀ i, list = (edits i).request.file → x = (edits i).ip → (edits i).adds = true) →
    Listed final.files list x
  removed : ∀ i, (edits i).adds = false → final.progress i = .done (some .success) →
    ¬ Listed final.files (edits i).request.file (edits i).ip

/-- Requests for different addresses on lists without repetitions: where no file operation
fails and no two requests on one list overlap, the lists end up as the answers say. -/
theorem lists_as_answered (edits : ι → Edit) (files : (list : ListName) → Option (Content list))
    (es : List (ι × Bool)) (final : FileState (requestsOf edits)) (os : List Unit)
    (apart : ∀ i j, i ≠ j → (edits i).request.file = (edits j).request.file → (edits i).ip ≠ (edits j).ip)
    (unique : ∀ list, NoRepeats list (contents emptyList files list))
    (meets : Always (FileState.step emptyList) (fun _ e _ next => e.2 = true ∧ next.Exclusive)
      (FileState.start (requestsOf edits) files) es)
    (ran : run (FileState.step emptyList) (FileState.start (requestsOf edits) files) es = some (final, os)) :
    AsAnswered edits files final := by
  obtain ⟨log, linear⟩ := FileState.run_linear meets ran
  have settled : ∀ i, final.progress i = .done (some .success) →
      (Listed final.files (edits i).request.file (edits i).ip ↔ (edits i).adds = true) := by
    intro i answered
    have served := linear.fits i
    rw [answered] at served
    obtain ⟨earlier, later, rfl, -⟩ := served
    rw [Listed, linear.value]
    exact replay_settles apart unique
  refine ⟨?_, ?_, ?_⟩
  · intro i adds answered
    exact (settled i answered).mpr adds
  · intro list x listed unremoved
    rw [Listed, linear.value]
    have keeps : x ∈ addresses list (replay (requestsOf edits) _ log list) ↔ True :=
      replay_keeps unique log (fun i _ sameList sameIp => iff_true_intro (unremoved i sameList sameIp))
        (iff_true_intro listed)
    exact keeps.mpr trivial
  · intro i removes answered listed
    rw [(settled i answered).mp listed] at removes
    cases removes

end Concurrent

/-- One address replaces another on the whitelist. -/
def replacement : Bool → Edit
  | false => .deleteWhitelist "192.0.2.1"
  | true => .addWhitelist "192.0.2.2"

def someFiles : (list : ListName) → Option (Content list)
  | .whitelist => some (["192.0.2.1", "192.0.2.9"] : List String)
  | .sharedIps => none
  | .victims => none

theorem replacement_as_answered : ∃ final os,
    run (FileState.step emptyList) (FileState.start (requestsOf replacement) someFiles)
      [(false, true), (false, true), (true, true), (true, true)] = some (final, os) ∧
    AsAnswered replacement someFiles final := by
  refine ⟨_, _, rfl, lists_as_answered replacement someFiles
    [(false, true), (false, true), (true, true), (true, true)] _ _ ?_ ?_ ?_ rfl⟩
  · decide
  · intro list
    cases list with
    | whitelist => exact (by decide : List.Nodup ["192.0.2.1", "192.0.2.9"])
    | sharedIps => exact List.nodup_nil
    | victims => trivial
  · decide +kernel

/-- Two additions to the whitelist. -/
def twoAdditions : Bool → Edit
  | false => .addWhitelist "192.0.2.2"
  | true => .addWhitelist "192.0.2.3"

/-- Three ways an answer goes wrong: a replacement overwrites one made since the read; a read
that fails empties the list; a replacement that fails is answered as done. -/
theorem additions_lost :
    (∃ final os, run (FileState.step emptyList) (FileState.start (requestsOf twoAdditions) someFiles)
        [(false, true), (true, true), (false, true), (true, true)] = some (final, os) ∧
      final.progress false = .done (some .success) ∧ final.progress true = .done (some .success) ∧
      ¬ Listed final.files .whitelist "192.0.2.2") ∧
    (∃ final os, run (FileState.step emptyList) (FileState.start (requestsOf twoAdditions) someFiles)
        [(false, false), (false, true), (true, true), (true, true)] = some (final, os) ∧
      Listed someFiles .whitelist "192.0.2.9" ∧ ¬ Listed final.files .whitelist "192.0.2.9") ∧
    (∃ final os, run (FileState.step emptyList) (FileState.start (requestsOf twoAdditions) someFiles)
        [(false, true), (false, false), (true, true), (true, true)] = some (final, os) ∧
      final.progress false = .done (some .success) ∧ ¬ Listed final.files .whitelist "192.0.2.2") := by
  refine ⟨⟨_, _, rfl, rfl, rfl, ?_⟩, ⟨_, _, rfl, ?_, ?_⟩, ⟨_, _, rfl, rfl, ?_⟩⟩
  · exact (by decide : "192.0.2.2" ∉ ["192.0.2.1", "192.0.2.9", "192.0.2.3"])
  · exact (by decide : "192.0.2.9" ∈ ["192.0.2.1", "192.0.2.9"])
  · exact (by decide : "192.0.2.9" ∉ ["192.0.2.2", "192.0.2.3"])
  · exact (by decide : "192.0.2.2" ∉ ["192.0.2.1", "192.0.2.9", "192.0.2.3"])

end Flod.Stage2
