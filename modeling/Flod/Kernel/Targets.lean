import Flod.Lib.PrefixTrie
import Flod.Net.AddressText
import Flod.Stage1.Config

/-! Which packets the kernel backend keeps. The programs match a destination, in its
sixteen octets, against two prefix tries filled at load time; user space checks the
address again on every drain. -/

namespace Flod.Kernel
open Flod.Lib Flod.Net Flod.Stage1

/-- Sixteen octets, most significant first. -/
abbrev Addr := BitVec 128

def toAddr (ip : IpAddr) : Addr := ip.slot

/-- The mapped form is unwrapped back to IPv4. -/
def fromAddr (addr : Addr) : IpAddr :=
  match ipv4Mapped addr with
  | some v4 => .v4 v4
  | none => .v6 addr

theorem fromAddr_toAddr {ip : IpAddr} (unmapped : ip.Unmapped) : fromAddr (toAddr ip) = ip := by
  cases ip with
  | v4 bits => simp [fromAddr, toAddr, IpAddr.slot]
  | v6 bits =>
    have none : ipv4Mapped bits = none := unmapped
    simp [fromAddr, toAddr, IpAddr.slot, none]

/-- The sixteen octets are never lost: only an IPv4-mapped IPv6 address changes family. -/
theorem toAddr_fromAddr (addr : Addr) : toAddr (fromAddr addr) = addr := by
  unfold fromAddr ipv4Mapped
  split
  next v4 mapped =>
    split at mapped
    next high =>
      cases mapped
      have top : addr.toNat / 2 ^ 32 = 0xffff := by
        have shifted := congrArg BitVec.toNat high
        simpa [BitVec.toNat_ushiftRight, Nat.shiftRight_eq_div_pow] using shifted
      apply BitVec.eq_of_toNat_eq
      rw [toAddr, IpAddr.slot, toIpv6Mapped_toNat, BitVec.toNat_setWidth, ← top]
      omega
    next => cases mapped
  next => rfl

theorem fromAddr_injective : Function.Injective fromAddr := by
  intro a b same
  rw [← toAddr_fromAddr a, same, toAddr_fromAddr]

theorem toAddr_inj {a b : IpAddr} (first : a.Unmapped) (second : b.Unmapped) :
    toAddr a = toAddr b ↔ a = b := by
  refine ⟨fun same => ?_, congrArg toAddr⟩
  rw [← fromAddr_toAddr first, same, fromAddr_toAddr second]

structure Tries where
  protectedHosts : PrefixTrie 128
  excludedHosts : PrefixTrie 128

/-- An address list becomes full-length prefixes, a subnet one entry. -/
def targetEntries : VictimTargets → List (Nat × Addr)
  | .list ips => ips.map (fun ip => (128, toAddr ip))
  | .subnet (.v4 ip) bits => [(96 + bits, toAddr (.v4 ip))]
  | .subnet (.v6 ip) bits => [(bits, toAddr (.v6 ip))]

def populateTargets (capacity : Nat) (targets : VictimTargets) : Option (PrefixTrie 128) :=
  (PrefixTrie.empty capacity).insertAll (targetEntries targets)

def populateExcluded (capacity : Nat) (excludeIps : List IpAddr) : Option (PrefixTrie 128) :=
  (PrefixTrie.empty capacity).insertAll (excludeIps.map (fun ip => (128, toAddr ip)))

/-- One size option bounds both tries. None ends the process. -/
def load (maxProtectedHosts : Nat) (targets : VictimTargets) (excludeIps : List IpAddr) : Option Tries := do
  let protectedHosts ← populateTargets maxProtectedHosts targets
  let excludedHosts ← populateExcluded maxProtectedHosts excludeIps
  return { protectedHosts, excludedHosts }

def Tries.isProtected (tries : Tries) (addr : Addr) : Bool :=
  (tries.protectedHosts.longestMatch addr).isSome && (tries.excludedHosts.longestMatch addr).isNone

variable {F : Type}

/-- A packet counts on this backend when the programs count it and the drain admits
its destination. -/
def keeps (tries : Tries) (cfg : AnalysisConfig F) (destination : IpAddr) : Bool :=
  tries.isProtected (toAddr destination) && cfg.isEffectivelyProtected (fromAddr (toAddr destination))

theorem msb_octet (count : Nat) (x : BitVec (8 * count)) (i : Nat) (inside : i < 8 * count) :
    ((octets count x).getD (i / 8) 0).getMsbD (i % 8) = x.getMsbD i := by
  have position : i / 8 < count := by omega
  have offset : i % 8 < 8 := Nat.mod_lt i (by decide)
  have octet : (octets count x).getD (i / 8) 0 = x.extractLsb' (8 * (count - 1 - i / 8)) 8 := by
    simp [octets, position]
  rw [octet, BitVec.getMsbD, BitVec.getMsbD, BitVec.getLsbD_extractLsb']
  have bit : 8 * (count - 1 - i / 8) + (8 - 1 - i % 8) = 8 * count - 1 - i := by omega
  simp [offset, inside, bit, show 8 - 1 - i % 8 < 8 by omega]

theorem mask_msb : ∀ extra < 8, ∀ j < 8, (0xff <<< (8 - extra) : Byte).getMsbD j = decide (j < extra) := by
  decide

/-- Masking an octet compares its leading bits. -/
theorem masked_iff (x y : Byte) {extra : Nat} (small : extra < 8) :
    (x &&& (0xff <<< (8 - extra) : Byte)) = (y &&& (0xff <<< (8 - extra) : Byte)) ↔
      ∀ j < extra, x.getMsbD j = y.getMsbD j := by
  constructor
  · intro same j inside
    have bit := congrArg (fun b : Byte => b.getMsbD j) same
    simp only [BitVec.getMsbD_and, mask_msb extra small j (by omega), inside, decide_true,
      Bool.and_true] at bit
    exact bit
  · intro agree
    apply BitVec.eq_of_getMsbD_eq
    intro j width
    rw [BitVec.getMsbD_and, BitVec.getMsbD_and, mask_msb extra small j width]
    by_cases inside : j < extra
    · rw [agree j inside]
    · simp [inside]

theorem take_octets_iff (count : Nat) (x y : BitVec (8 * count)) {bytes : Nat} (most : bytes ≤ count) :
    (octets count x).take bytes = (octets count y).take bytes ↔ AgreeTo (8 * bytes) x y := by
  constructor
  · intro same i inside
    have position : i / 8 < bytes := by omega
    have octet : (octets count x).getD (i / 8) 0 = (octets count y).getD (i / 8) 0 := by
      have entry := congrArg (fun l : List Byte => l.getD (i / 8) 0) same
      simpa [List.getD_eq_getElem?_getD, List.getElem?_take, position] using entry
    rw [← msb_octet count x i (by omega), octet, msb_octet count y i (by omega)]
  · intro agree
    apply List.ext_getElem (by simp)
    intro j left right
    have position : j < bytes := by simp at left; omega
    apply BitVec.eq_of_getMsbD_eq
    intro k width
    have bit := agree (8 * j + k) (by omega)
    rw [← msb_octet count x _ (by omega), ← msb_octet count y _ (by omega)] at bit
    have index : (8 * j + k) / 8 = j := by omega
    have rest : (8 * j + k) % 8 = k := by omega
    rw [index, rest] at bit
    simpa [List.getD_eq_getElem?_getD, show j < count by omega] using bit

/-- Comparing whole octets and then a masked one compares that many leading bits. -/
theorem prefixMatches_iff (count : Nat) (net target : BitVec (8 * count)) {bits : Nat}
    (most : bits ≤ 8 * count) :
    prefixMatches (octets count net) (octets count target) bits = true ↔ AgreeTo bits net target := by
  have whole := take_octets_iff count net target (by omega : bits / 8 ≤ count)
  have extra : bits % 8 < 8 := Nat.mod_lt bits (by decide)
  simp only [prefixMatches, Bool.and_eq_true, Bool.or_eq_true, beq_iff_eq, whole,
    masked_iff _ _ extra]
  constructor
  · rintro ⟨front, rest⟩ i inside
    by_cases early : i < 8 * (bits / 8)
    · exact front i early
    · have index : i / 8 = bits / 8 := by omega
      have tail := rest.resolve_left (by omega) (i % 8) (by omega)
      rw [← msb_octet count net i (by omega), ← msb_octet count target i (by omega), index]
      exact tail
  · intro agree
    refine ⟨fun i inside => agree i (by omega), ?_⟩
    by_cases none : bits % 8 = 0
    · exact Or.inl none
    · refine Or.inr fun j inside => ?_
      have bit := agree (8 * (bits / 8) + j) (by omega)
      rw [← msb_octet count net _ (by omega), ← msb_octet count target _ (by omega)] at bit
      have index : (8 * (bits / 8) + j) / 8 = bits / 8 := by omega
      have rest : (8 * (bits / 8) + j) % 8 = j := by omega
      rwa [index, rest] at bit

/-- Whatever the user-space check accepts, the trie of protected prefixes matches. -/
theorem contains_matches {targets : VictimTargets} {a : IpAddr} (contained : targets.contains a = true) :
    ∃ e ∈ targetEntries targets, AgreeTo e.1 e.2 (toAddr a) := by
  cases targets with
  | list ips =>
    have member : a ∈ ips := by simpa [VictimTargets.contains] using contained
    exact ⟨(128, toAddr a), List.mem_map.mpr ⟨a, member, rfl⟩, AgreeTo.refl _ _⟩
  | subnet ip bits =>
    cases ip with
    | v4 net =>
      cases a with
      | v4 target =>
        simp only [VictimTargets.contains, Bool.and_eq_true, decide_eq_true_eq] at contained
        have agree := (prefixMatches_iff 4 net target contained.1).mp contained.2
        exact ⟨_, List.mem_singleton_self _, (agreeTo_append (0xffff : BitVec 96) net target bits).mpr agree⟩
      | v6 target => simp [VictimTargets.contains] at contained
    | v6 net =>
      cases a with
      | v4 target => simp [VictimTargets.contains] at contained
      | v6 target =>
        simp only [VictimTargets.contains, Bool.and_eq_true, decide_eq_true_eq] at contained
        have agree := (prefixMatches_iff 16 net target contained.1).mp contained.2
        exact ⟨_, List.mem_singleton_self _, agree⟩

theorem matches_excluded {excludeIps : List IpAddr} (plain : ∀ e ∈ excludeIps, e.Unmapped) {a : IpAddr}
    (unmapped : a.Unmapped) :
    (∃ e ∈ excludeIps.map (fun ip => (128, toAddr ip)), AgreeTo e.1 e.2 (toAddr a)) ↔ a ∈ excludeIps := by
  constructor
  · rintro ⟨_, member, agree⟩
    obtain ⟨e, listed, rfl⟩ := List.mem_map.mp member
    have same : e = a := (toAddr_inj (plain e listed) unmapped).mp (agreeTo_width.mp agree)
    exact same ▸ listed
  · intro listed
    exact ⟨_, List.mem_map.mpr ⟨a, listed, rfl⟩, AgreeTo.refl _ _⟩

theorem load_spec {capacity : Nat} {targets : VictimTargets} {excludeIps : List IpAddr} {tries : Tries}
    (loaded : load capacity targets excludeIps = some tries) (addr : Addr) :
    tries.isProtected addr = true ↔
      (∃ e ∈ targetEntries targets, AgreeTo e.1 e.2 addr) ∧
        ¬ ∃ e ∈ excludeIps.map (fun ip => (128, toAddr ip)), AgreeTo e.1 e.2 addr := by
  obtain ⟨inside, first, later⟩ := Option.bind_eq_some_iff.mp loaded
  obtain ⟨outside, second, made⟩ := Option.bind_eq_some_iff.mp later
  cases made
  have nothing : ¬ ∃ e ∈ (PrefixTrie.empty capacity : PrefixTrie 128).entries, AgreeTo e.1 e.2 addr := by
    simp [PrefixTrie.empty]
  have found := (PrefixTrie.insertAll_matches first addr).trans (or_iff_right nothing)
  have carved := (PrefixTrie.insertAll_matches second addr).trans (or_iff_right nothing)
  rw [Tries.isProtected, Bool.and_eq_true, Option.isNone_iff_eq_none, ← Option.not_isSome_iff_eq_none,
    PrefixTrie.longestMatch_isSome, PrefixTrie.longestMatch_isSome, found, carved]

theorem targetEntries_short {targets : VictimTargets} {a : IpAddr}
    (contained : targets.contains a = true) : ∀ e ∈ targetEntries targets, e.1 ≤ 128 := by
  intro e member
  cases targets with
  | list ips =>
    obtain ⟨ip, _, rfl⟩ := List.mem_map.mp member
    exact le_rfl
  | subnet ip bits =>
    cases ip <;> cases a <;> simp [VictimTargets.contains] at contained <;>
      simp [targetEntries] at member <;> subst member <;> simp <;> omega

theorem load_isSome {capacity : Nat} {targets : VictimTargets} {excludeIps : List IpAddr}
    (short : ∀ e ∈ targetEntries targets, e.1 ≤ 128) (hosts : (targetEntries targets).length ≤ capacity)
    (carved : excludeIps.length ≤ capacity) : (load capacity targets excludeIps).isSome := by
  have full : ∀ e ∈ excludeIps.map (fun ip => (128, toAddr ip)), e.1 ≤ 128 := by simp
  have first : (populateTargets capacity targets).isSome :=
    PrefixTrie.insertAll_isSome short (by simpa [PrefixTrie.empty] using hosts)
  have second : (populateExcluded capacity excludeIps).isSome :=
    PrefixTrie.insertAll_isSome full (by simpa [PrefixTrie.empty] using carved)
  obtain ⟨inside, found⟩ := Option.isSome_iff_exists.mp first
  obtain ⟨outside, also⟩ := Option.isSome_iff_exists.mp second
  simp [load, found, also]

variable {cfg : AnalysisConfig F} {targets : VictimTargets}

theorem isEffectivelyProtected_iff (configured : cfg.victimTargets = some targets) (a : IpAddr) :
    cfg.isEffectivelyProtected a = true ↔ targets.contains a = true ∧ a ∉ cfg.excludeIps := by
  simp [AnalysisConfig.isEffectivelyProtected, configured]

/-- The programs count every packet the user-space check would accept. -/
theorem isProtected_of_isEffectivelyProtected {capacity : Nat} {tries : Tries}
    (configured : cfg.victimTargets = some targets) (plain : ∀ e ∈ cfg.excludeIps, e.Unmapped)
    (loaded : load capacity targets cfg.excludeIps = some tries) {a : IpAddr} (unmapped : a.Unmapped)
    (effective : cfg.isEffectivelyProtected a = true) : tries.isProtected (toAddr a) = true := by
  obtain ⟨contained, kept⟩ := (isEffectivelyProtected_iff configured a).mp effective
  rw [load_spec loaded, matches_excluded plain unmapped]
  exact ⟨contains_matches contained, kept⟩

/-- Once loaded, the kernel backend keeps exactly the packets whose destination is
effectively protected. The load refuses only a configuration that protects nothing, or
one with more addresses than its tries were sized for. -/
theorem keeps_iff_isEffectivelyProtected (capacity : Nat)
    (configured : cfg.victimTargets = some targets) (plain : ∀ e ∈ cfg.excludeIps, e.Unmapped)
    (destination : IpAddr) (unmapped : destination.Unmapped) :
    (∀ tries, load capacity targets cfg.excludeIps = some tries →
      (keeps tries cfg destination = true ↔ cfg.isEffectivelyProtected destination = true)) ∧
    (load capacity targets cfg.excludeIps = none →
      cfg.isEffectivelyProtected destination = false ∨ capacity < (targetEntries targets).length ∨
        capacity < cfg.excludeIps.length) := by
  refine ⟨?_, ?_⟩
  · intro tries loaded
    rw [keeps, Bool.and_eq_true, fromAddr_toAddr unmapped]
    exact ⟨And.right, fun effective =>
      ⟨isProtected_of_isEffectivelyProtected configured plain loaded unmapped effective, effective⟩⟩
  · intro refused
    by_contra otherwise
    simp only [not_or, Bool.not_eq_false, not_lt] at otherwise
    obtain ⟨effective, hosts, carved⟩ := otherwise
    have contained := ((isEffectivelyProtected_iff configured destination).mp effective).1
    have some := load_isSome (targetEntries_short contained) hosts carved
    simp [refused] at some

/-- A subnet with a prefix that cuts an octet, one of its hosts excluded. -/
def carvedConfig : AnalysisConfig ℚ :=
  { AnalysisConfig.default with
    victimTargets := some (.subnet (.v4 0x0a000000) 20)
    excludeIps := [.v4 0x0a000001] }

theorem keeps_carved :
    ∃ tries, load 1024 (.subnet (.v4 0x0a000000) 20) carvedConfig.excludeIps = some tries ∧
      (keeps tries carvedConfig (.v4 0x0a000f09) = true ↔
        carvedConfig.isEffectivelyProtected (.v4 0x0a000f09) = true) ∧
      carvedConfig.isEffectivelyProtected (.v4 0x0a000f09) = true ∧
      carvedConfig.isEffectivelyProtected (.v4 0x0a000001) = false ∧
      carvedConfig.isEffectivelyProtected (.v4 0x0a001001) = false := by
  have plain : ∀ e ∈ carvedConfig.excludeIps, e.Unmapped := by decide
  refine ⟨_, rfl, ?_, by decide, by decide, by decide⟩
  exact (keeps_iff_isEffectivelyProtected 1024 rfl plain (.v4 0x0a000f09) trivial).1 _ rfl

end Flod.Kernel
