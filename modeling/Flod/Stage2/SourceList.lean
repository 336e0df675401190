import Flod.Lib.Journal
import Flod.Stage2.Enforcement

/-! The list of attacking sources across a restart. The running process keeps it entry by
entry; a new one rebuilds it from the newest rows of the incident log. The rebuild reads a
bounded number of rows, so a block with too many rows after it is forgotten. -/

namespace Flod.Stage2
open Flod.Lib Flod.Net

variable {F : Type} [Arith F]

/-- The classes the rebuild asks the log for. A release is not among them. -/
def enforces : Label → Bool
  | .blocked => true
  | .rateLimited => true
  | .rateLimitedFlash => true
  | .window _ => false
  | .released => false

/-- What an incident row says of its address: a block names an attacker, a throttle clears it. -/
def Incident.source (row : Incident F) : Option (DdosSource F) :=
  if row.label = .blocked then some ⟨row.victimIp, row.rate, row.timestamp, row.label⟩ else none

/-- The enforcement rows of the log, newest first. -/
def enforcementRows (logs : List (Incident F)) : List (Incident F) :=
  (logs.filter (fun row => enforces row.label)).reverse

/-- The rows the rebuild reads. -/
def restoredRows (logs : List (Incident F)) : List (Incident F) :=
  (enforcementRows logs).take (ddosSourcesMax * 4)

/-- The loop of `load_ddos_sources`. -/
def restoreSources : List (Incident F) → List String → Dict String (DdosSource F) → Dict String (DdosSource F)
  | [], _, sources => sources
  | row :: rest, seen, sources =>
      if row.srcIp ∈ seen then restoreSources rest seen sources
      else
        restoreSources rest (row.srcIp :: seen)
          (recordDdosSource sources row.srcIp row.label row.victimIp row.rate row.timestamp)

/-- `load_ddos_sources` in a process that has just started. -/
def loadDdosSources (logs : List (Incident F)) : Dict String (DdosSource F) :=
  restoreSources (restoredRows logs) [] Dict.empty

/-- One call from the dashboard or the receiver. A rate limit is filed under one of two labels. -/
inductive SourceEvent (F : Type) where
  | block (env : Surroundings F) (reported : List String) (call : Call F)
  | ratelimit (env : Surroundings F) (reported : List String) (call : Call F) (flash : Bool)
  | unblock (env : Surroundings F) (reported : List String) (ip victimIp : String)

def SourceEvent.apply (fw : Firewall F) : SourceEvent F → Firewall F
  | .block env reported call => blockIp env reported fw call
  | .ratelimit env reported call flash =>
      ratelimitIp env reported fw call (if flash then .rateLimitedFlash else .rateLimited)
  | .unblock env reported ip victimIp => (unblockIp env reported fw ip victimIp).1

/-- What a call does to the log and the list: nothing, a row the rebuild does not ask for, or an
enforcement row that takes effect on the list. -/
inductive Notes (fw fw' : Firewall F) : Prop where
  | nothing (logs : fw'.logs = fw.logs) (sources : fw'.ddosSources = fw.ddosSources)
  | released (row : Incident F) (ignored : enforces row.label = false) (logs : fw'.logs = fw.logs ++ [row])
      (sources : fw'.ddosSources = fw.ddosSources)
  | enforced (row : Incident F) (asked : enforces row.label = true) (logs : fw'.logs = fw.logs ++ [row])
      (sources : fw'.ddosSources = recordDdosSource fw.ddosSources row.srcIp row.label row.victimIp row.rate
        row.timestamp)

theorem ratelimitIp_notes (env : Surroundings F) (reported : List String) (fw : Firewall F) (call : Call F)
    (label : Label) (asked : enforces label = true) : Notes fw (ratelimitIp env reported fw call label) := by
  unfold ratelimitIp
  split
  · exact .nothing rfl rfl
  · split
    · exact .nothing rfl rfl
    · split
      · exact .enforced ⟨env.now, call.ip, label, _, call.srcRate, call.entropy⟩ asked rfl rfl
      · exact .nothing rfl rfl

theorem blockIp_notes (env : Surroundings F) (reported : List String) (fw : Firewall F) (call : Call F) :
    Notes fw (blockIp env reported fw call) := by
  unfold blockIp
  split
  · exact .nothing rfl rfl
  · split
    · exact .nothing rfl rfl
    · split
      · cases ratelimitIp_notes env reported fw call .rateLimited rfl with
        | nothing logs sources => exact .nothing logs sources
        | released row ignored logs sources => exact .released row ignored logs sources
        | enforced row asked logs sources => exact .enforced row asked logs sources
      · split
        · exact .enforced ⟨env.now, call.ip, .blocked, _, call.srcRate, call.entropy⟩ rfl rfl rfl
        · exact .nothing rfl rfl

theorem unblockIp_notes (env : Surroundings F) (reported : List String) (fw : Firewall F) (ip victimIp : String) :
    Notes fw (unblockIp env reported fw ip victimIp).1 := by
  unfold unblockIp
  dsimp only
  split
  · exact .released ⟨env.now, ip, .released, _, none, none⟩ rfl rfl rfl
  · exact .nothing rfl rfl

theorem apply_notes (fw : Firewall F) (e : SourceEvent F) : Notes fw (e.apply fw) := by
  cases e with
  | block env reported call => exact blockIp_notes env reported fw call
  | ratelimit env reported call flash =>
    refine ratelimitIp_notes env reported fw call _ ?_
    cases flash <;> rfl
  | unblock env reported ip victimIp => exact unblockIp_notes env reported fw ip victimIp

/-- Addresses the log has a block for. -/
def blockedAddresses (logs : List (Incident F)) : List String :=
  (logs.filter (fun row => row.label = .blocked)).map Incident.srcIp

/-- The latest enforcement row of an address is a block. -/
def StandsBlocked (logs : List (Incident F)) (ip : String) : Prop :=
  ∃ row, Journal.latest Incident.srcIp ip (enforcementRows logs) = some row ∧ row.label = .blocked

/-- What the enforcement rows of a log say of an address. -/
def standing (logs : List (Incident F)) (ip : String) : Option (DdosSource F) :=
  Journal.stands Incident.srcIp Incident.source ip (enforcementRows logs)

section Replay

variable {logs : List (Incident F)} {ip : String}

omit [Arith F] in
theorem isSome_standing_iff : (standing logs ip).isSome ↔ StandsBlocked logs ip := by
  unfold standing StandsBlocked Journal.stands
  cases Journal.latest Incident.srcIp ip (enforcementRows logs) with
  | none => simp
  | some row => by_cases blocked : row.label = .blocked <;> simp [Incident.source, blocked]

omit [Arith F] in
theorem StandsBlocked.mem_blockedAddresses (stands : StandsBlocked logs ip) : ip ∈ blockedAddresses logs := by
  obtain ⟨row, found, blocked⟩ := stands
  have own : row.srcIp = ip := by simpa using List.find?_some found
  have listed : row ∈ logs := by
    have asked := List.mem_of_find?_eq_some found
    exact List.mem_of_mem_filter (List.mem_reverse.mp asked)
  exact own ▸ List.mem_map_of_mem (List.mem_filter.mpr ⟨listed, by simpa using blocked⟩)

omit [Arith F] in
theorem enforcementRows_concat (row : Incident F) :
    enforcementRows (logs ++ [row]) =
      if enforces row.label then row :: enforcementRows logs else enforcementRows logs := by
  unfold enforcementRows
  cases asked : enforces row.label <;> simp [asked]

omit [Arith F] in
theorem dedup_length_le_of_subset {first second : List String} (within : first ⊆ second) :
    first.dedup.length ≤ second.dedup.length := by
  refine (List.subperm_of_subset (List.nodup_dedup first) ?_).length_le
  intro ip member
  exact List.mem_dedup.mpr (within (List.mem_dedup.mp member))

/-- Among few enough addresses nothing is ever pruned, and a row takes effect as a journal
entry. -/
theorem recordDdosSource_eq_enter {addresses : List String} {sources : Dict String (DdosSource F)}
    {row : Incident F} (few : addresses.dedup.length ≤ ddosSourcesMax) (within : sources.keys ⊆ addresses)
    (named : row.label = .blocked → row.srcIp ∈ addresses) :
    recordDdosSource sources row.srcIp row.label row.victimIp row.rate row.timestamp =
        Journal.enter Incident.srcIp Incident.source sources row ∧
      (Journal.enter Incident.srcIp Incident.source sources row).keys ⊆ addresses := by
  unfold recordDdosSource Journal.enter Incident.source
  by_cases blocked : row.label = .blocked
  · have inside : (sources.set row.srcIp ⟨row.victimIp, row.rate, row.timestamp, row.label⟩).keys ⊆ addresses := by
      intro ip member
      rcases (Dict.mem_keys_set _ _ _ _).mp member with rfl | before
      · exact named blocked
      · exact within before
    have room : (sources.set row.srcIp ⟨row.victimIp, row.rate, row.timestamp, row.label⟩).size ≤
        ddosSourcesMax := by
      have distinct := List.subperm_of_subset (Dict.nodup _) fun ip member => List.mem_dedup.mpr (inside member)
      exact le_trans (by simpa [Dict.size] using distinct.length_le) few
    simp only [blocked, if_true] at inside room ⊢
    exact ⟨by rw [pruneDdosSources, if_pos room], inside⟩
  · simp only [blocked, if_false, true_and]
    intro ip member
    exact within ((Dict.mem_keys_erase _ _ _).mp member).2

/-- The rebuild loop reads the journal backwards. -/
theorem restoreSources_eq_rebuild {addresses : List String} (few : addresses.dedup.length ≤ ddosSourcesMax)
    (rows : List (Incident F)) (seen : List String) (sources : Dict String (DdosSource F))
    (within : sources.keys ⊆ addresses) (named : ∀ row ∈ rows, row.label = .blocked → row.srcIp ∈ addresses) :
    restoreSources rows seen sources = Journal.rebuild Incident.srcIp Incident.source rows seen sources := by
  induction rows generalizing seen sources with
  | nil => rfl
  | cons row rest ih =>
    have later : ∀ row ∈ rest, row.label = .blocked → row.srcIp ∈ addresses :=
      fun row member => named row (List.mem_cons_of_mem _ member)
    obtain ⟨same, inside⟩ := recordDdosSource_eq_enter few within (named row List.mem_cons_self)
    simp only [restoreSources, Journal.rebuild]
    split
    · exact ih seen sources within later
    · rw [same]
      exact ih _ _ inside later

/-- The list is what the log's enforcement rows say. -/
def Follows (fw : Firewall F) : Prop := ∀ ip, fw.ddosSources.get? ip = standing fw.logs ip

omit [Arith F] in
theorem Follows.keys_subset {fw : Firewall F} (follows : Follows fw) :
    fw.ddosSources.keys ⊆ blockedAddresses fw.logs := by
  intro ip member
  rw [Dict.mem_keys_iff, follows, isSome_standing_iff] at member
  exact member.mem_blockedAddresses

omit [Arith F] in
theorem blockedAddresses_concat (row : Incident F) : blockedAddresses logs ⊆ blockedAddresses (logs ++ [row]) := by
  unfold blockedAddresses
  rw [List.filter_append, List.map_append]
  exact List.subset_append_left _ _

/-- Each call keeps the list at what the log says. -/
theorem Follows.apply {fw : Firewall F} (follows : Follows fw) (e : SourceEvent F)
    (few : (blockedAddresses (e.apply fw).logs).dedup.length ≤ ddosSourcesMax) : Follows (e.apply fw) := by
  intro ip
  cases apply_notes fw e with
  | nothing logs sources => rw [logs, sources, follows]
  | released row ignored logs sources =>
    rw [logs, sources, follows, standing, standing, enforcementRows_concat, if_neg (by simp [ignored])]
  | enforced row asked logs sources =>
    rw [logs] at few
    have within := List.Subset.trans follows.keys_subset (blockedAddresses_concat row)
    have named : row.label = .blocked → row.srcIp ∈ blockedAddresses (fw.logs ++ [row]) := by
      intro blocked
      simp [blockedAddresses, blocked]
    rw [sources, (recordDdosSource_eq_enter few within named).1, logs, standing, enforcementRows_concat,
      if_pos asked]
    exact Journal.get?_enter_of_stands row follows ip

theorem blockedAddresses_subset_apply (fw : Firewall F) (e : SourceEvent F) :
    blockedAddresses fw.logs ⊆ blockedAddresses (e.apply fw).logs := by
  cases apply_notes fw e with
  | nothing logs sources => rw [logs]; exact List.Subset.refl _
  | released row ignored logs sources => rw [logs]; exact blockedAddresses_concat row
  | enforced row asked logs sources => rw [logs]; exact blockedAddresses_concat row

/-- A history of calls. -/
def applyAll (fw : Firewall F) (events : List (SourceEvent F)) : Firewall F := events.foldl SourceEvent.apply fw

theorem blockedAddresses_subset_applyAll (events : List (SourceEvent F)) (fw : Firewall F) :
    blockedAddresses fw.logs ⊆ blockedAddresses (applyAll fw events).logs := by
  induction events generalizing fw with
  | nil => exact List.Subset.refl _
  | cons e rest ih => exact List.Subset.trans (blockedAddresses_subset_apply fw e) (ih (e.apply fw))

theorem Follows.applyAll {fw : Firewall F} (follows : Follows fw) (events : List (SourceEvent F))
    (few : (blockedAddresses (applyAll fw events).logs).dedup.length ≤ ddosSourcesMax) :
    Follows (applyAll fw events) := by
  induction events generalizing fw with
  | nil => exact follows
  | cons e rest ih =>
    have sofar : (blockedAddresses (e.apply fw).logs).dedup.length ≤ ddosSourcesMax :=
      (dedup_length_le_of_subset (blockedAddresses_subset_applyAll rest (e.apply fw))).trans few
    exact ih (follows.apply e sofar) few

/-- The rebuilt list has what the log says of the addresses among the rows read, and no other
address. -/
theorem get?_loadDdosSources (few : (blockedAddresses logs).dedup.length ≤ ddosSourcesMax) (ip : String) :
    (loadDdosSources logs).get? ip =
      if ip ∈ (restoredRows logs).map Incident.srcIp then standing logs ip else none := by
  have named : ∀ row ∈ restoredRows logs, row.label = .blocked → row.srcIp ∈ blockedAddresses logs := by
    intro row member blocked
    have asked : row ∈ enforcementRows logs := List.mem_of_mem_take member
    have listed : row ∈ logs := List.mem_of_mem_filter (List.mem_reverse.mp asked)
    exact List.mem_map_of_mem (List.mem_filter.mpr ⟨listed, by simpa using blocked⟩)
  rw [loadDdosSources, restoreSources_eq_rebuild few _ _ _ (List.nil_subset _) named,
    Journal.get?_rebuild_empty, restoredRows, Journal.stands_take]
  rfl

end Replay

/-- After every history of calls that blocks few enough addresses, a new process rebuilds the
list the running one holds if and only if every address whose latest action is a block has a
row among those the rebuild reads. -/
theorem restart_restores_sources_iff (events : List (SourceEvent F))
    (few : (blockedAddresses (applyAll Firewall.empty events).logs).dedup.length ≤ ddosSourcesMax) :
    (∀ ip, (loadDdosSources (applyAll Firewall.empty events).logs).get? ip =
        (applyAll Firewall.empty events).ddosSources.get? ip) ↔
      ∀ ip, StandsBlocked (applyAll Firewall.empty events).logs ip →
        ip ∈ (restoredRows (applyAll Firewall.empty events).logs).map Incident.srcIp := by
  have follows : Follows (applyAll Firewall.empty events) := Follows.applyAll (fun _ => rfl) events few
  refine forall_congr' fun ip => ?_
  rw [get?_loadDdosSources few, follows ip, ← isSome_standing_iff]
  by_cases read : ip ∈ (restoredRows (applyAll Firewall.empty events).logs).map Incident.srcIp
  · rw [if_pos read]
    exact iff_of_true rfl fun _ => read
  · rw [if_neg read]
    cases standing (applyAll Firewall.empty events).logs ip with
    | none => exact iff_of_true rfl nofun
    | some source => exact iff_of_false nofun fun kept => read (kept rfl)

def calmAt (now : ℚ) : Surroundings ℚ := ⟨now, [], [], [], fun _ _ => true⟩

def blockAt (now : ℚ) (ip : String) : SourceEvent ℚ :=
  .block (calmAt now) [] ⟨.block, ip, 3600, "10.0.0.1", none, none⟩

def throttleAt (now : ℚ) (ip : String) : SourceEvent ℚ :=
  .ratelimit (calmAt now) [] ⟨.ratelimit .rateLimited, ip, 3600, "10.0.0.1", none, none⟩ false

/-- One block and a throttle of another address are restored. -/
theorem block_and_throttle_restored :
    (blockedAddresses (applyAll Firewall.empty [blockAt 0 "192.0.2.1", throttleAt 1 "192.0.2.7"]).logs).dedup.length ≤
        ddosSourcesMax ∧
      ∀ ip, (loadDdosSources (applyAll Firewall.empty [blockAt 0 "192.0.2.1", throttleAt 1 "192.0.2.7"]).logs).get? ip =
        (applyAll Firewall.empty [blockAt 0 "192.0.2.1", throttleAt 1 "192.0.2.7"]).ddosSources.get? ip := by
  refine ⟨by decide +kernel, (restart_restores_sources_iff _ (by decide +kernel)).mpr ?_⟩
  intro ip stands
  have named : ip ∈ ["192.0.2.1"] := stands.mem_blockedAddresses
  rw [List.mem_singleton.mp named]
  decide +kernel

/-- A block, and then one throttle of another address every ten seconds. -/
def worn (n : Nat) : List (SourceEvent ℚ) :=
  blockAt 0 "192.0.2.1" :: (List.range n).map (fun i => throttleAt (10 * (i + 1)) "192.0.2.7")

def throttledRow (i : Nat) : Incident ℚ := ⟨10 * (i + 1), "192.0.2.7", .rateLimited, "10.0.0.1", none, none⟩

theorem throttleAt_apply {fw : Firewall ℚ} {now : ℚ} {ip : String} (due : fw.debounced now ip = false) :
    ((throttleAt now ip).apply fw).logs = fw.logs ++ [⟨now, ip, .rateLimited, "10.0.0.1", none, none⟩] ∧
      ((throttleAt now ip).apply fw).recentlyBlocked = fw.recentlyBlocked.set ip now := by
  change (ratelimitIp (calmAt now) [] fw ⟨_, ip, 3600, "10.0.0.1", none, none⟩ .rateLimited).logs = _ ∧
    (ratelimitIp (calmAt now) [] fw ⟨_, ip, 3600, "10.0.0.1", none, none⟩ .rateLimited).recentlyBlocked = _
  unfold ratelimitIp
  rw [if_neg (by rw [show (calmAt now).now = now from rfl, due]; decide)]
  exact ⟨rfl, rfl⟩

/-- Every throttle is due again when it comes and leaves one more row. -/
theorem applyAll_worn (n : Nat) :
    (applyAll Firewall.empty (worn n)).logs =
        ⟨0, "192.0.2.1", .blocked, "10.0.0.1", none, none⟩ :: (List.range n).map throttledRow ∧
      (applyAll Firewall.empty (worn n)).debounced (10 * (n + 1)) "192.0.2.7" = false := by
  induction n with
  | zero => exact ⟨rfl, by decide +kernel⟩
  | succ n ih =>
    obtain ⟨logs, due⟩ := ih
    obtain ⟨noted, stamped⟩ := throttleAt_apply due
    have longer : applyAll Firewall.empty (worn (n + 1)) =
        (throttleAt (10 * (n + 1)) "192.0.2.7").apply (applyAll Firewall.empty (worn n)) := by
      simp [applyAll, worn, List.range_succ]
    rw [longer]
    constructor
    · rw [noted, logs, List.range_succ, List.map_append, List.cons_append]
      rfl
    · have apart : ¬ (10 * (((n + 1 : Nat) : ℚ) + 1) - 10 * ((n : ℚ) + 1) < debounceSecs) := by
        rw [debounceSecs]
        push_cast
        norm_num
        linarith
      simp only [Firewall.debounced, stamped, Dict.get?_set_self, apart, decide_false]

/-- Once as many rows as the rebuild reads have followed a block, the process still lists the
address and a new one does not. -/
theorem worn_block_forgotten :
    (blockedAddresses (applyAll Firewall.empty (worn (ddosSourcesMax * 4))).logs).dedup.length ≤ ddosSourcesMax ∧
      (loadDdosSources (applyAll Firewall.empty (worn (ddosSourcesMax * 4))).logs).get? "192.0.2.1" = none ∧
      ((applyAll Firewall.empty (worn (ddosSourcesMax * 4))).ddosSources.get? "192.0.2.1").isSome = true := by
  have logs := (applyAll_worn (ddosSourcesMax * 4)).1
  have blocked : blockedAddresses (applyAll Firewall.empty (worn (ddosSourcesMax * 4))).logs = ["192.0.2.1"] := by
    simp [logs, blockedAddresses, List.filter_map, Function.comp_def, throttledRow]
  have few : (blockedAddresses (applyAll Firewall.empty (worn (ddosSourcesMax * 4))).logs).dedup.length ≤
      ddosSourcesMax := by
    rw [blocked]
    decide
  have rows : enforcementRows (applyAll Firewall.empty (worn (ddosSourcesMax * 4))).logs =
      ((List.range (ddosSourcesMax * 4)).map throttledRow).reverse ++
        [⟨0, "192.0.2.1", .blocked, "10.0.0.1", none, none⟩] := by
    simp [logs, enforcementRows, enforces, List.filter_map, Function.comp_def, throttledRow]
  refine ⟨few, ?_, ?_⟩
  · rw [get?_loadDdosSources few, if_neg]
    rw [restoredRows, rows, List.take_left' (by simp)]
    simp [throttledRow]
  · rw [Follows.applyAll (fun _ => rfl) _ few, isSome_standing_iff]
    refine ⟨⟨0, "192.0.2.1", .blocked, "10.0.0.1", none, none⟩, ?_, rfl⟩
    have others : ((List.range (ddosSourcesMax * 4)).map throttledRow).reverse.find?
        (fun row => decide (row.srcIp = "192.0.2.1")) = none :=
      List.find?_eq_none.mpr (by simp [throttledRow])
    rw [Journal.latest, rows, List.find?_append, others]
    rfl

end Flod.Stage2
