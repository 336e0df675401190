import Flod.Lib.Dict
import Flod.Net.Address
import Flod.Stage2.Config

/-! Blocking and rate-limiting one address: the two kernel sets, the debounce they share,
the incident log and the list of attacking sources. -/

namespace Flod.Stage2
open Flod.Lib Flod.Net

variable {F : Type} [Arith F]

inductive IpSet where
  | ddosBlocklist
  | ddosRatelimit
  deriving DecidableEq, Repr

/-- What a window is called. -/
inductive Classification where
  | normal
  | flashCrowd
  | ddos
  | anomalous
  deriving DecidableEq, Repr

/-- What an incident row is filed under: the window's name, or the action taken. -/
inductive Label where
  | window (name : Classification)
  | blocked
  | rateLimited
  | rateLimitedFlash
  | released
  deriving DecidableEq, Repr

structure Incident (F : Type) where
  timestamp : F
  srcIp : String
  label : Label
  victimIp : String
  rate : Option F
  entropy : Option F

structure DdosSource (F : Type) where
  victimIp : String
  rate : Option F
  timestamp : F
  action : Label

/-- What enforcement acts on. A set member has the time its entry expires, if it does. -/
structure Firewall (F : Type) where
  recentlyBlocked : Dict String F
  ddosBlocklist : Dict String (Option F)
  ddosRatelimit : Dict String (Option F)
  ddosSources : Dict String (DdosSource F)
  logs : List (Incident F)

def Firewall.empty : Firewall F := ⟨Dict.empty, Dict.empty, Dict.empty, Dict.empty, []⟩

/-- What handling one window reads from outside, with one clock reading for all of it. -/
structure Surroundings (F : Type) where
  now : F
  whitelist : List String
  sharedIps : List String
  victims : List (String × Bool)
  ipsetSucceeds : IpSet → String → Bool

/-- A victim that is not an address is replaced: by the first active configured one, the
first configured one, or the first that ever reported. -/
def resolveVictimIp (victims : List (String × Bool)) (reported : List String) (victimIp : String) : String :=
  if victimIp ≠ "" ∧ victimIp ∉ sentinelTexts then victimIp
  else
    match victims.filter Prod.snd, victims, reported with
    | active :: _, _, _ => active.1
    | [], first :: _, _ => first.1
    | [], [], target :: _ => target
    | [], [], [] => "Unknown"

def ddosSourcesMax : Nat := 4096

/-- The newest nine tenths once the cap is passed. -/
def pruneDdosSources (sources : Dict String (DdosSource F)) : Dict String (DdosSource F) :=
  if sources.size ≤ ddosSourcesMax then sources
  else sources.keepFirst (fun a b => decide (b.2.timestamp ≤ a.2.timestamp)) (ddosSourcesMax * 9 / 10)

/-- Only a block names an attacker; any lesser action clears an earlier entry. -/
def recordDdosSource (sources : Dict String (DdosSource F)) (ip : String) (label : Label)
    (victimIp : String) (srcRate : Option F) (timestamp : F) : Dict String (DdosSource F) :=
  if label = .blocked then pruneDdosSources (sources.set ip ⟨victimIp, srcRate, timestamp, label⟩)
  else sources.erase ip

/-- One call of `block_ip` or `ratelimit_ip`. A rate limit says what it is filed under. -/
inductive Action where
  | block
  | ratelimit (label : Label)
  deriving DecidableEq, Repr

structure Call (F : Type) where
  action : Action
  ip : String
  duration : Nat
  victimIp : String
  srcRate : Option F
  entropy : Option F

def debounceSecs : F := 10.0

/-- The address was acted on less than ten seconds ago, whatever the action was. -/
def Firewall.debounced (fw : Firewall F) (now : F) (ip : String) : Bool :=
  match fw.recentlyBlocked.get? ip with
  | some last => decide (now - last < debounceSecs)
  | none => false

/-- A timeout of zero is an entry that never expires. -/
def expiry (now : F) (duration : Nat) : Option F :=
  if duration = 0 then none else some (now + (duration : F))

/-- `finally` stamps the address on every way out but the debounce. -/
def Firewall.stamp (fw : Firewall F) (now : F) (ip : String) : Firewall F :=
  { fw with recentlyBlocked := fw.recentlyBlocked.set ip now }

/-- The log row and the source list of an action that went through. -/
def Firewall.record (fw : Firewall F) (env : Surroundings F) (reported : List String) (call : Call F)
    (label : Label) : Firewall F :=
  let victimIp := resolveVictimIp env.victims reported call.victimIp
  { fw with
    logs := fw.logs ++ [⟨env.now, call.ip, label, victimIp, call.srcRate, call.entropy⟩]
    ddosSources := recordDdosSource fw.ddosSources call.ip label victimIp call.srcRate env.now }

def ratelimitIp (env : Surroundings F) (reported : List String) (fw : Firewall F) (call : Call F)
    (label : Label) : Firewall F :=
  if fw.debounced env.now call.ip then fw
  else if env.whitelist.contains call.ip then fw.stamp env.now call.ip
  else if env.ipsetSucceeds .ddosRatelimit call.ip then
    (({ fw with
        ddosRatelimit := fw.ddosRatelimit.set call.ip (expiry env.now call.duration) }).record env
      reported call label).stamp env.now call.ip
  else fw.stamp env.now call.ip

/-- A shared address is throttled instead. -/
def blockIp (env : Surroundings F) (reported : List String) (fw : Firewall F) (call : Call F) :
    Firewall F :=
  if fw.debounced env.now call.ip then fw
  else if env.whitelist.contains call.ip then fw.stamp env.now call.ip
  else if env.sharedIps.contains call.ip then
    (ratelimitIp env reported fw call .rateLimited).stamp env.now call.ip
  else if env.ipsetSucceeds .ddosBlocklist call.ip then
    (({ fw with
        ddosBlocklist := fw.ddosBlocklist.set call.ip (expiry env.now call.duration) }).record env
      reported call .blocked).stamp env.now call.ip
  else fw.stamp env.now call.ip

/-- Takes the address out of both sets and says whether it was in either. -/
def unblockIp (env : Surroundings F) (reported : List String) (fw : Firewall F) (ip victimIp : String) :
    Firewall F × Bool :=
  let unblocked := env.ipsetSucceeds .ddosBlocklist ip && (fw.ddosBlocklist.get? ip).isSome
  let unlimited := env.ipsetSucceeds .ddosRatelimit ip && (fw.ddosRatelimit.get? ip).isSome
  let fw' := { fw with
    ddosBlocklist := if unblocked then fw.ddosBlocklist.erase ip else fw.ddosBlocklist
    ddosRatelimit := if unlimited then fw.ddosRatelimit.erase ip else fw.ddosRatelimit }
  if unblocked || unlimited then
    ({ fw' with
        logs := fw'.logs ++
          [⟨env.now, ip, .released, resolveVictimIp env.victims reported victimIp, none, none⟩] }, true)
  else (fw', false)

def perform (env : Surroundings F) (reported : List String) (fw : Firewall F) (call : Call F) :
    Firewall F :=
  match call.action with
  | .block => blockIp env reported fw call
  | .ratelimit label => ratelimitIp env reported fw call label

/-- The `ipset add` a call issues: none if the debounce or the whitelist stops it. -/
def ipsetCommand (env : Surroundings F) (fw : Firewall F) (call : Call F) : Option (IpSet × String) :=
  if fw.debounced env.now call.ip then none
  else if env.whitelist.contains call.ip then none
  else
    match call.action with
    | .ratelimit _ => some (.ddosRatelimit, call.ip)
    | .block => some (if env.sharedIps.contains call.ip then .ddosRatelimit else .ddosBlocklist, call.ip)

def Firewall.members (fw : Firewall F) : IpSet → Dict String (Option F)
  | .ddosBlocklist => fw.ddosBlocklist
  | .ddosRatelimit => fw.ddosRatelimit

/-- Calls take effect one after the other. -/
def performAll (env : Surroundings F) (reported : List String) (fw : Firewall F) (calls : List (Call F)) :
    Firewall F :=
  calls.foldl (perform env reported) fw

/-- Whether the kernel drops the address at this time. -/
def Firewall.blocks (fw : Firewall F) (now : F) (ip : String) : Bool :=
  match fw.ddosBlocklist.get? ip with
  | some (some expires) => decide (now < expires)
  | some none => true
  | none => false

/-- A block that neither list exempts and whose command succeeds. -/
structure EffectiveBlock (env : Surroundings F) (call : Call F) : Prop where
  action : call.action = .block
  exposed : call.ip ∉ env.whitelist
  unshared : call.ip ∉ env.sharedIps
  succeeds : env.ipsetSucceeds .ddosBlocklist call.ip = true

/-- What one call does to the debounce and the blocklist. -/
inductive Performs (env : Surroundings F) (fw : Firewall F) (call : Call F) (fw' : Firewall F) : Prop where
  | suppressed (recent : fw.debounced env.now call.ip = true) (same : fw' = fw)
  | stamped (due : fw.debounced env.now call.ip = false)
      (spared : ¬ EffectiveBlock env call)
      (recent : fw'.recentlyBlocked = fw.recentlyBlocked.set call.ip env.now)
      (listed : fw'.ddosBlocklist = fw.ddosBlocklist)
  | blocked (due : fw.debounced env.now call.ip = false) (effective : EffectiveBlock env call)
      (recent : fw'.recentlyBlocked = fw.recentlyBlocked.set call.ip env.now)
      (listed : fw'.ddosBlocklist = fw.ddosBlocklist.set call.ip (expiry env.now call.duration))

/-- What the debounce and the blocklist hold for one address. -/
structure SameFor (ip : String) (fw fw' : Firewall F) : Prop where
  recent : fw'.recentlyBlocked.get? ip = fw.recentlyBlocked.get? ip
  listed : fw'.ddosBlocklist.get? ip = fw.ddosBlocklist.get? ip

omit [Arith F] in
theorem SameFor.refl (ip : String) (fw : Firewall F) : SameFor ip fw fw := ⟨rfl, rfl⟩

omit [Arith F] in
theorem SameFor.trans {ip : String} {first second third : Firewall F} (before : SameFor ip first second)
    (after : SameFor ip second third) : SameFor ip first third :=
  ⟨after.recent.trans before.recent, after.listed.trans before.listed⟩

theorem SameFor.debounced {ip : String} {fw fw' : Firewall F} (same : SameFor ip fw fw') (now : F) :
    fw'.debounced now ip = fw.debounced now ip := by
  simp only [Firewall.debounced, same.recent]

theorem SameFor.blocks {ip : String} {fw fw' : Firewall F} (same : SameFor ip fw fw') (now : F) :
    fw'.blocks now ip = fw.blocks now ip := by
  simp only [Firewall.blocks, same.listed]

section Effects

variable (env : Surroundings F) (reported : List String) (fw : Firewall F) (call : Call F)

theorem ratelimitIp_effect (label : Label) (due : fw.debounced env.now call.ip = false) :
    (ratelimitIp env reported fw call label).recentlyBlocked = fw.recentlyBlocked.set call.ip env.now ∧
      (ratelimitIp env reported fw call label).ddosBlocklist = fw.ddosBlocklist := by
  simp only [ratelimitIp, due, Bool.false_eq_true, if_false]
  split
  · exact ⟨rfl, rfl⟩
  · split <;> exact ⟨rfl, rfl⟩

theorem perform_suppressed (recent : fw.debounced env.now call.ip = true) :
    perform env reported fw call = fw := by
  unfold perform
  cases call.action with
  | block => simp only [blockIp, recent, if_true]
  | ratelimit label => simp only [ratelimitIp, recent, if_true]

theorem blockIp_effect (due : fw.debounced env.now call.ip = false) (action : call.action = .block) :
    Performs env fw call (blockIp env reported fw call) := by
  simp only [blockIp, due, Bool.false_eq_true, if_false, List.contains_iff_mem]
  by_cases whitelisted : call.ip ∈ env.whitelist
  · rw [if_pos whitelisted]
    exact .stamped due (fun effective => effective.exposed whitelisted) rfl rfl
  · rw [if_neg whitelisted]
    by_cases shared : call.ip ∈ env.sharedIps
    · rw [if_pos shared]
      obtain ⟨recent, listed⟩ := ratelimitIp_effect env reported fw call .rateLimited due
      refine .stamped due (fun effective => effective.unshared shared) ?_ listed
      -- `finally` of both functions stamps the address
      change Dict.set _ call.ip env.now = _
      rw [recent, Dict.set_set]
    · rw [if_neg shared]
      by_cases succeeds : env.ipsetSucceeds .ddosBlocklist call.ip = true
      · rw [if_pos succeeds]
        exact .blocked due ⟨action, whitelisted, shared, succeeds⟩ rfl rfl
      · rw [if_neg succeeds]
        exact .stamped due (fun effective => succeeds effective.succeeds) rfl rfl

theorem perform_cases : Performs env fw call (perform env reported fw call) := by
  cases recent : fw.debounced env.now call.ip with
  | true => exact .suppressed recent (perform_suppressed env reported fw call recent)
  | false =>
    cases acts : call.action with
    | block =>
      have effect := blockIp_effect env reported fw call recent acts
      simpa only [perform, acts] using effect
    | ratelimit label =>
      obtain ⟨stamped, listed⟩ := ratelimitIp_effect env reported fw call label recent
      refine .stamped recent (fun e => by simp [e.action] at acts) ?_ ?_
      · simpa only [perform, acts] using stamped
      · simpa only [perform, acts] using listed

omit [Arith F] in
@[simp] theorem members_stamp (now : F) (ip : String) (set : IpSet) :
    (fw.stamp now ip).members set = fw.members set := by
  cases set <;> rfl

theorem ratelimitIp_members (label : Label) (set : IpSet) (due : fw.debounced env.now call.ip = false)
    (exposed : call.ip ∉ env.whitelist) :
    (ratelimitIp env reported fw call label).members set =
      if set = .ddosRatelimit ∧ env.ipsetSucceeds set call.ip = true then
        (fw.members set).set call.ip (expiry env.now call.duration)
      else fw.members set := by
  simp only [ratelimitIp, due, List.contains_iff_mem, exposed, Bool.false_eq_true, if_false]
  cases succeeds : env.ipsetSucceeds .ddosRatelimit call.ip with
  | true => cases set <;> simp [Firewall.members, Firewall.stamp, Firewall.record, succeeds]
  | false => cases set <;> simp [Firewall.members, Firewall.stamp, succeeds]

/-- What a call does to the kernel sets, its one command does. -/
theorem perform_members (set : IpSet) :
    (perform env reported fw call).members set =
      if ipsetCommand env fw call = some (set, call.ip) ∧ env.ipsetSucceeds set call.ip = true then
        (fw.members set).set call.ip (expiry env.now call.duration)
      else fw.members set := by
  cases due : fw.debounced env.now call.ip with
  | true => simp [perform_suppressed env reported fw call due, ipsetCommand, due]
  | false =>
    unfold perform
    by_cases exposed : call.ip ∈ env.whitelist
    · cases call.action <;> simp [blockIp, ratelimitIp, ipsetCommand, due, exposed]
    · cases acts : call.action with
      | ratelimit label =>
        have issued : ipsetCommand env fw call = some (.ddosRatelimit, call.ip) := by
          simp [ipsetCommand, due, exposed, acts]
        rw [issued]
        refine (ratelimitIp_members env reported fw call label set due exposed).trans ?_
        cases set <;> simp
      | block =>
        by_cases shared : call.ip ∈ env.sharedIps
        · have issued : ipsetCommand env fw call = some (.ddosRatelimit, call.ip) := by
            simp [ipsetCommand, due, exposed, shared, acts]
          have through : blockIp env reported fw call =
              (ratelimitIp env reported fw call .rateLimited).stamp env.now call.ip := by
            simp [blockIp, due, exposed, shared]
          rw [through, members_stamp, ratelimitIp_members env reported fw call _ set due exposed, issued]
          cases set <;> simp
        · cases succeeds : env.ipsetSucceeds .ddosBlocklist call.ip with
          | true =>
            cases set <;>
              simp [blockIp, ipsetCommand, due, exposed, shared, acts, succeeds, Firewall.members,
                Firewall.record, Firewall.stamp]
          | false =>
            cases set <;>
              simp [blockIp, ipsetCommand, due, exposed, shared, acts, succeeds, Firewall.members,
                Firewall.stamp]

/-- A command names the call's own address, one its set is not closed to. -/
theorem ipsetCommand_exposed {set : IpSet} {ip : String} (issued : ipsetCommand env fw call = some (set, ip)) :
    ip = call.ip ∧ call.ip ∉ env.whitelist ∧ (set = .ddosBlocklist → call.ip ∉ env.sharedIps) := by
  unfold ipsetCommand at issued
  split at issued
  · cases issued
  · split at issued
    · cases issued
    · next exposed =>
      have outside : call.ip ∉ env.whitelist := by simpa using exposed
      cases acts : call.action with
      | ratelimit label =>
        rw [acts] at issued
        cases issued
        exact ⟨rfl, outside, nofun⟩
      | block =>
        simp only [acts, Option.some.injEq, Prod.mk.injEq] at issued
        obtain ⟨rfl, rfl⟩ := issued
        refine ⟨rfl, outside, ?_⟩
        intro blocks shared
        simp [shared] at blocks

variable {env fw call}

theorem perform_other {ip : String} (apart : ip ≠ call.ip) :
    SameFor ip fw (perform env reported fw call) := by
  cases perform_cases env reported fw call with
  | suppressed recent same => rw [same]; exact .refl ip fw
  | stamped due spared recent listed =>
    exact ⟨by rw [recent, Dict.get?_set_of_ne _ _ apart], by rw [listed]⟩
  | blocked due effective recent listed =>
    exact ⟨by rw [recent, Dict.get?_set_of_ne _ _ apart], by rw [listed, Dict.get?_set_of_ne _ _ apart]⟩

theorem debounced_of_stamped {fw' : Firewall F} {now : F} {ip : String}
    (recent : fw'.recentlyBlocked = fw.recentlyBlocked.set ip now) : fw'.debounced now ip = true := by
  simp only [Firewall.debounced, recent, Dict.get?_set_self, sub_self, debounceSecs, decide_eq_true_eq]
  norm_num

theorem perform_debounced : (perform env reported fw call).debounced env.now call.ip = true := by
  cases perform_cases env reported fw call with
  | suppressed recent same => rw [same]; exact recent
  | stamped due spared recent listed => exact debounced_of_stamped recent
  | blocked due effective recent listed => exact debounced_of_stamped recent

theorem performAll_append (first second : List (Call F)) :
    performAll env reported fw (first ++ second) =
      performAll env reported (performAll env reported fw first) second :=
  List.foldl_append

theorem performAll_other {ip : String} (calls : List (Call F)) (apart : ∀ c ∈ calls, ip ≠ c.ip) :
    SameFor ip fw (performAll env reported fw calls) := by
  induction calls generalizing fw with
  | nil => exact .refl ip fw
  | cons c rest ih =>
    have first : SameFor ip fw (perform env reported fw c) :=
      perform_other reported (apart c List.mem_cons_self)
    exact first.trans (ih fun c member => apart c (List.mem_cons_of_mem _ member))

/-- No call of the same moment has an effect on a debounced address. -/
theorem performAll_debounced {ip : String} (calls : List (Call F))
    (recent : fw.debounced env.now ip = true) : SameFor ip fw (performAll env reported fw calls) := by
  induction calls generalizing fw with
  | nil => exact .refl ip fw
  | cons c rest ih =>
    have first : SameFor ip fw (perform env reported fw c) := by
      by_cases same : ip = c.ip
      · rw [perform_suppressed env reported fw c (same ▸ recent)]
        exact .refl ip fw
      · exact perform_other reported same
    exact first.trans (ih ((first.debounced env.now).trans recent))

/-- Of the calls of one moment, those after the first for an address do nothing to it. -/
theorem performAll_later (earlier later : List (Call F)) :
    SameFor call.ip (perform env reported (performAll env reported fw earlier) call)
      (performAll env reported fw (earlier ++ call :: later)) := by
  rw [performAll_append]
  exact performAll_debounced reported later (perform_debounced reported)

/-- What the blocklist holds for an address after the calls of one moment, the first of
which for that address is a block. -/
theorem performAll_block (earlier later : List (Call F)) (apart : ∀ c ∈ earlier, call.ip ≠ c.ip)
    (effective : EffectiveBlock env call) :
    (performAll env reported fw (earlier ++ call :: later)).ddosBlocklist.get? call.ip =
      if fw.debounced env.now call.ip then fw.ddosBlocklist.get? call.ip
      else some (expiry env.now call.duration) := by
  have before : SameFor call.ip fw (performAll env reported fw earlier) :=
    performAll_other reported earlier apart
  rw [(performAll_later reported earlier later).listed, ← before.debounced env.now, ← before.listed]
  cases perform_cases env reported (performAll env reported fw earlier) call with
  | suppressed recent same => rw [same, if_pos recent]
  | stamped due spared recent listed => exact absurd effective spared
  | blocked due effective recent listed => rw [listed, Dict.get?_set_self, due, if_neg (by simp)]

theorem mem_performAll_of_mem {ip : String} (calls : List (Call F)) (member : ip ∈ fw.ddosBlocklist.keys) :
    ip ∈ (performAll env reported fw calls).ddosBlocklist.keys := by
  induction calls generalizing fw with
  | nil => exact member
  | cons c rest ih =>
    refine ih ?_
    cases perform_cases env reported fw c with
    | suppressed recent same => rwa [same]
    | stamped due spared recent listed => rwa [listed]
    | blocked due effective recent listed =>
      rw [listed, Dict.mem_keys_set]
      exact Or.inr member

/-- What calls of one moment add, a block added that was not debounced before them. -/
theorem mem_performAll {ip : String} (calls : List (Call F))
    (member : ip ∈ (performAll env reported fw calls).ddosBlocklist.keys) :
    ip ∈ fw.ddosBlocklist.keys ∨
      fw.debounced env.now ip = false ∧ ∃ c ∈ calls, c.ip = ip ∧ EffectiveBlock env c := by
  cases recent : fw.debounced env.now ip with
  | true =>
    rw [Dict.mem_keys_iff, (performAll_debounced reported calls recent).listed, ← Dict.mem_keys_iff] at member
    exact Or.inl member
  | false =>
    suffices added : ip ∈ fw.ddosBlocklist.keys ∨ ∃ c ∈ calls, c.ip = ip ∧ EffectiveBlock env c from
      added.imp_right fun found => ⟨rfl, found⟩
    clear recent
    induction calls generalizing fw with
    | nil => exact Or.inl member
    | cons c rest ih =>
      rcases ih member with before | ⟨d, listed, found⟩
      · cases perform_cases env reported fw c with
        | suppressed recent same => exact Or.inl (same ▸ before)
        | stamped due spared recent listed => exact Or.inl (listed ▸ before)
        | blocked due effective recent listed =>
          rw [listed, Dict.mem_keys_set] at before
          rcases before with rfl | before
          · exact Or.inr ⟨c, List.mem_cons_self, rfl, effective⟩
          · exact Or.inl before
      · exact Or.inr ⟨d, List.mem_cons_of_mem _ listed, found⟩

theorem blocks_expiry {now : F} {ip : String} {duration : Nat}
    (listed : fw.ddosBlocklist.get? ip = some (expiry now duration)) : fw.blocks now ip = true := by
  unfold expiry at listed
  split at listed
  · simp only [Firewall.blocks, listed]
  · next positive =>
    simp only [Firewall.blocks, listed, decide_eq_true_eq]
    have lasts : (0 : F) < (duration : F) := Nat.cast_pos.mpr (Nat.pos_of_ne_zero positive)
    exact lt_add_of_pos_right now lasts

end Effects

end Flod.Stage2
