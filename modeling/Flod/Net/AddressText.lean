import Flod.Net.Address
import Mathlib.Data.List.TakeWhile

/-! The text Python prints for an address names that address alone. Reading the
digits back, and splitting the text at its separators, undoes the printing. -/

namespace Flod.Net

/-- `str` of an `ipaddress` object. -/
def IpAddr.text : IpAddr → String
  | .v4 bits => dottedQuad bits
  | .v6 bits => ipv6Text bits

def digitValue (c : Char) : Nat := (List.range 16).findIdx (fun d => d.digitChar == c)

def readDigits (base : Nat) (digits : List Char) : Nat :=
  digits.foldl (fun acc c => base * acc + digitValue c) 0

theorem digitValue_digitChar : ∀ d < 16, digitValue d.digitChar = d := by decide

theorem readDigits_toDigits {base : Nat} (two : 1 < base) (most : base ≤ 16) (n : Nat) :
    readDigits base (Nat.toDigits base n) = n := by
  induction n using Nat.strong_induction_on with
  | _ n ih =>
    rw [Nat.toDigits_eq_if two]
    by_cases single : n < base
    · have value := digitValue_digitChar n (by omega)
      simp [readDigits, single, value]
    · have smaller : n / base < n := Nat.div_lt_self (by omega) two
      have last := digitValue_digitChar (n % base) (by have := Nat.mod_lt n (by omega : 0 < base); omega)
      rw [if_neg single, readDigits, List.foldl_append]
      change base * readDigits base (Nat.toDigits base (n / base)) + digitValue (n % base).digitChar = n
      rw [ih _ smaller, last, Nat.div_add_mod]

/-- A separator is no digit, so it never stands inside a number. -/
theorem not_mem_toDigits {base : Nat} (two : 1 < base) (most : base ≤ 16) {c : Char}
    (separator : ∀ d < 16, d.digitChar ≠ c) (n : Nat) : c ∉ Nat.toDigits base n := by
  induction n using Nat.strong_induction_on with
  | _ n ih =>
    rw [Nat.toDigits_eq_if two]
    split
    · simpa using (separator n (by omega)).symm
    · have smaller : n / base < n := Nat.div_lt_self (by omega) two
      have last := separator (n % base) (by have := Nat.mod_lt n (by omega : 0 < base); omega)
      simpa using ⟨ih _ smaller, last.symm⟩

theorem eq_of_chunks {w : Nat} (width count : Nat) (covers : w ≤ width * count) {x y : BitVec w}
    (same : ∀ i < count, x.extractLsb' (width * i) width = y.extractLsb' (width * i) width) : x = y := by
  apply BitVec.eq_of_getLsbD_eq
  intro i inside
  have positive : 0 < width := Nat.pos_of_ne_zero (fun zero => by simp [zero] at covers; omega)
  have chunk : i / width < count := (Nat.div_lt_iff_lt_mul positive).mpr (by rw [mul_comm]; omega)
  have bit := congrArg (fun (b : BitVec width) => b.getLsbD (i % width)) (same _ chunk)
  simpa [BitVec.getLsbD_extractLsb', Nat.mod_lt i positive, Nat.div_add_mod] using bit

theorem octets_injective {w count : Nat} (covers : w ≤ 8 * count) {x y : BitVec w}
    (same : octets count x = octets count y) : x = y := by
  apply eq_of_chunks 8 count covers
  intro i inside
  have position : count - 1 - i < count := by omega
  have at_position := congrArg (fun bytes => bytes[count - 1 - i]?) same
  simpa [octets, List.getElem?_range position, show count - 1 - (count - 1 - i) = i by omega]
    using at_position

theorem hextets_injective {x y : BitVec 128} (same : hextets x = hextets y) : x = y := by
  apply eq_of_chunks 16 8 (by omega)
  intro i inside
  have position : 7 - i < 8 := by omega
  have at_position := congrArg (fun groups => groups[7 - i]?) same
  have value : (x.extractLsb' (16 * i) 16).toNat = (y.extractLsb' (16 * i) 16).toNat := by
    simpa [hextets, List.getElem?_range position, show 7 - (7 - i) = i by omega] using at_position
  exact BitVec.eq_of_toNat_eq value

/-- Numbers joined by a separator, as the two printers write them. -/
def joined (separator : Char) (base : Nat) (numbers : List Nat) : List Char :=
  [separator].intercalate (numbers.map (Nat.toDigits base))

theorem splitOn_joined {separator : Char} {base : Nat} (two : 1 < base) (most : base ≤ 16)
    (apart : ∀ d < 16, d.digitChar ≠ separator) {numbers : List Nat} (some : numbers ≠ []) :
    (joined separator base numbers).splitOn separator = numbers.map (Nat.toDigits base) := by
  apply List.splitOn_intercalate
  · intro digits member
    obtain ⟨n, _, rfl⟩ := List.mem_map.mp member
    exact not_mem_toDigits two most apart n
  · simpa using some

theorem map_readDigits {base : Nat} (two : 1 < base) (most : base ≤ 16) (numbers : List Nat) :
    (numbers.map (Nat.toDigits base)).map (readDigits base) = numbers := by
  rw [List.map_map]
  exact (List.map_congr_left (fun n _ => readDigits_toDigits two most n)).trans (List.map_id numbers)

theorem dottedQuad_toList (bits : BitVec 32) :
    (dottedQuad bits).toList = joined '.' 10 ((octets 4 bits).map BitVec.toNat) := by
  simp [dottedQuad, joined, String.toList_intercalate, Function.comp_def, Nat.repr]

theorem dottedQuad_injective {x y : BitVec 32} (same : dottedQuad x = dottedQuad y) : x = y := by
  have digit : ∀ d < 16, d.digitChar ≠ '.' := by decide
  have parts : ∀ bits : BitVec 32,
      ((dottedQuad bits).toList.splitOn '.').map (readDigits 10) = (octets 4 bits).map BitVec.toNat := by
    intro bits
    have some : (octets 4 bits).map BitVec.toNat ≠ [] := by simp [octets, List.range_succ]
    rw [dottedQuad_toList, splitOn_joined (by decide) (by decide) digit some,
      map_readDigits (by decide) (by decide)]
  have numbers : (octets 4 x).map BitVec.toNat = (octets 4 y).map BitVec.toNat := by
    rw [← parts x, same, parts y]
  have bytes := (List.map_injective_iff.mpr (fun _ _ => BitVec.eq_of_toNat_eq)) numbers
  exact octets_injective (by decide) bytes

theorem zeroRun_spec (groups : List Nat) :
    groups = List.replicate (zeroRun groups) 0 ++ groups.drop (zeroRun groups) := by
  induction groups with
  | nil => rfl
  | cons g rest ih =>
    cases g with
    | zero => simpa [zeroRun, List.replicate_succ] using ih
    | succ n => rfl

theorem longestZeroRun_spec (groups : List Nat) :
    (longestZeroRun groups).2 = zeroRun (groups.drop (longestZeroRun groups).1) ∨
      (longestZeroRun groups).2 = 0 := by
  unfold longestZeroRun
  have kept : ∀ (starts : List Nat) (best : Nat × Nat),
      (best.2 = zeroRun (groups.drop best.1) ∨ best.2 = 0) →
      let found := starts.foldl (fun best start =>
        let length := zeroRun (groups.drop start)
        if best.2 < length then (start, length) else best) best
      found.2 = zeroRun (groups.drop found.1) ∨ found.2 = 0 := by
    intro starts
    induction starts with
    | nil => exact fun best holds => holds
    | cons start rest ih =>
      intro best holds
      apply ih
      dsimp only
      split
      · exact Or.inl rfl
      · exact holds
  exact kept _ (0, 0) (Or.inr rfl)

theorem longestZeroRun_split (groups : List Nat) :
    groups = groups.take (longestZeroRun groups).1 ++
      List.replicate (longestZeroRun groups).2 0 ++
      groups.drop ((longestZeroRun groups).1 + (longestZeroRun groups).2) := by
  rw [List.append_assoc]
  rcases longestZeroRun_spec groups with run | none
  · have tail := zeroRun_spec (groups.drop (longestZeroRun groups).1)
    rw [← run, List.drop_drop] at tail
    rw [← tail, List.take_append_drop]
  · rw [none, Nat.add_zero, List.replicate_zero, List.nil_append, List.take_append_drop]

/-- The groups a colon-separated text stands for, `::` filled up with zeros. -/
def readGroups (text : List Char) : List Nat :=
  let pieces := text.splitOn ':'
  if [] ∈ pieces then
    let front := pieces.takeWhile (· ≠ [])
    let back := (pieces.reverse.takeWhile (· ≠ [])).reverse
    front.map (readDigits 16) ++ List.replicate (8 - front.length - back.length) 0 ++
      back.map (readDigits 16)
  else pieces.map (readDigits 16)

/-- The pieces between the colons of joined groups. No group at all leaves one empty piece. -/
def groupPieces (groups : List (List Char)) : List (List Char) := if groups = [] then [[]] else groups

theorem splitOn_groups (groups : List Nat) :
    (joined ':' 16 groups).splitOn ':' = groupPieces (groups.map (Nat.toDigits 16)) := by
  by_cases empty : groups = []
  · simp [empty, joined, groupPieces]
  · rw [splitOn_joined (by decide) (by decide) (by decide) empty]
    simp [groupPieces, empty]

theorem takeWhile_groupPieces {groups : List (List Char)} (printed : [] ∉ groups)
    (rest : List (List Char)) :
    (groupPieces groups ++ [] :: rest).takeWhile (· ≠ []) = groups := by
  unfold groupPieces
  split
  next empty => simp [empty]
  next =>
    have all : ∀ piece ∈ groups, decide (piece ≠ []) = true := by
      intro piece member
      exact decide_eq_true (fun empty => printed (empty ▸ member))
    rw [List.takeWhile_append_of_pos all]
    simp

theorem reverse_groupPieces (groups : List (List Char)) :
    (groupPieces groups).reverse = groupPieces groups.reverse := by
  unfold groupPieces
  split <;> simp_all

theorem nil_not_mem_toDigits (groups : List Nat) : [] ∉ groups.map (Nat.toDigits 16) := by
  simp [Nat.toDigits_ne_nil]

/-- A compressed text gives back its groups around the zeros it left out. -/
theorem readGroups_compressed (front back : List Nat) :
    readGroups (joined ':' 16 front ++ ':' :: ':' :: joined ':' 16 back) =
      front ++ List.replicate (8 - front.length - back.length) 0 ++ back := by
  have pieces : (joined ':' 16 front ++ ':' :: ':' :: joined ':' 16 back).splitOn ':' =
      groupPieces (front.map (Nat.toDigits 16)) ++ [] :: groupPieces (back.map (Nat.toDigits 16)) := by
    have later := List.splitOn_append_cons_self (a := ':') [] (joined ':' 16 back)
    rw [List.nil_append] at later
    rw [List.splitOn_append_cons_self, later, splitOn_groups, splitOn_groups, List.splitOn_nil]
    rfl
  have first := takeWhile_groupPieces (nil_not_mem_toDigits front)
    (groupPieces (back.map (Nat.toDigits 16)))
  have printed : [] ∉ (back.map (Nat.toDigits 16)).reverse := by simp [Nat.toDigits_ne_nil]
  have last := takeWhile_groupPieces printed (groupPieces (front.map (Nat.toDigits 16))).reverse
  have reversed : (groupPieces (front.map (Nat.toDigits 16)) ++
      [] :: groupPieces (back.map (Nat.toDigits 16))).reverse =
        groupPieces (back.map (Nat.toDigits 16)).reverse ++
          [] :: (groupPieces (front.map (Nat.toDigits 16))).reverse := by
    simp [reverse_groupPieces]
  rw [readGroups, pieces, if_pos (by simp), reversed, first, last, List.reverse_reverse]
  dsimp only
  rw [map_readDigits (by decide) (by decide), map_readDigits (by decide) (by decide),
    List.length_map, List.length_map]

theorem readGroups_full {groups : List Nat} (some : groups ≠ []) :
    readGroups (joined ':' 16 groups) = groups := by
  rw [readGroups, splitOn_joined (by decide) (by decide) (by decide) some,
    if_neg (nil_not_mem_toDigits groups), map_readDigits (by decide) (by decide)]

theorem toList_groups (groups : List Nat) :
    (":".intercalate (groups.map hex)).toList = joined ':' 16 groups := by
  simp [joined, String.toList_intercalate, Function.comp_def, hex]

theorem hextets_length (bits : BitVec 128) : (hextets bits).length = 8 := by
  simp [hextets]

theorem readGroups_ipv6Text (bits : BitVec 128) : readGroups (ipv6Text bits).toList = hextets bits := by
  have eight := hextets_length bits
  have split := longestZeroRun_split (hextets bits)
  simp only [ipv6Text]
  generalize longestZeroRun (hextets bits) = found at split ⊢
  by_cases long : 1 < found.2
  · rw [if_pos long, String.toList_append, String.toList_append, toList_groups, toList_groups]
    have length := congrArg List.length split
    simp only [List.length_append, List.length_take, List.length_replicate, List.length_drop, eight]
      at length
    have left_out : 8 - ((hextets bits).take found.1).length -
        ((hextets bits).drop (found.1 + found.2)).length = found.2 := by
      simp only [List.length_take, List.length_drop, eight]
      omega
    have compressed := readGroups_compressed ((hextets bits).take found.1)
      ((hextets bits).drop (found.1 + found.2))
    rw [left_out, ← split] at compressed
    rw [List.append_assoc]
    exact compressed
  · have some : hextets bits ≠ [] := by
      intro empty
      simp [empty] at eight
    rw [if_neg long, toList_groups, readGroups_full some]

theorem ipv6Text_injective {x y : BitVec 128} (same : ipv6Text x = ipv6Text y) : x = y := by
  have groups : hextets x = hextets y := by
    rw [← readGroups_ipv6Text, same, readGroups_ipv6Text]
  exact hextets_injective groups

theorem not_mem_joined {separator c : Char} {base : Nat} (two : 1 < base) (most : base ≤ 16)
    (apart : ∀ d < 16, d.digitChar ≠ c) (other : c ≠ separator) (numbers : List Nat) :
    c ∉ joined separator base numbers := by
  unfold joined
  induction numbers with
  | nil => simp
  | cons n rest ih =>
    have first := not_mem_toDigits two most apart n
    cases rest with
    | nil => simpa using first
    | cons m rest =>
      simp only [List.map_cons, List.intercalate_cons_cons, List.mem_append, List.mem_singleton] at ih ⊢
      rintro ((inside | inside) | inside)
      · exact first inside
      · exact other inside
      · exact ih inside

theorem not_mem_dottedQuad {c : Char} (apart : ∀ d < 16, d.digitChar ≠ c) (other : c ≠ '.')
    (bits : BitVec 32) : c ∉ (dottedQuad bits).toList := by
  rw [dottedQuad_toList]
  exact not_mem_joined (by decide) (by decide) apart other _

theorem not_mem_ipv6Text {c : Char} (apart : ∀ d < 16, d.digitChar ≠ c) (other : c ≠ ':')
    (bits : BitVec 128) : c ∉ (ipv6Text bits).toList := by
  have plain : ∀ groups : List Nat, c ∉ joined ':' 16 groups :=
    not_mem_joined (by decide) (by decide) apart other
  simp only [ipv6Text]
  split
  · rw [String.toList_append, String.toList_append, toList_groups, toList_groups]
    simp [plain, other]
  · rw [toList_groups]
    exact plain _

theorem dot_mem_dottedQuad (bits : BitVec 32) : '.' ∈ (dottedQuad bits).toList := by
  rw [dottedQuad_toList]
  simp [joined, octets, List.range_succ]

theorem dottedQuad_ne_ipv6Text (x : BitVec 32) (y : BitVec 128) : dottedQuad x ≠ ipv6Text y := by
  intro same
  exact not_mem_ipv6Text (by decide) (by decide) y (same ▸ dot_mem_dottedQuad x)

theorem IpAddr.text_injective {a b : IpAddr} (same : a.text = b.text) : a = b := by
  cases a with
  | v4 x =>
    cases b with
    | v4 y => exact congrArg IpAddr.v4 (dottedQuad_injective same)
    | v6 y => exact absurd same (dottedQuad_ne_ipv6Text x y)
  | v6 x =>
    cases b with
    | v4 y => exact absurd same.symm (dottedQuad_ne_ipv6Text y x)
    | v6 y => exact congrArg IpAddr.v6 (ipv6Text_injective same)

/-- An IPv4 address, or an IPv6 address that maps none. -/
def IpAddr.Unmapped : IpAddr → Prop
  | .v4 _ => True
  | .v6 bits => ipv4Mapped bits = none

instance (a : IpAddr) : Decidable a.Unmapped :=
  match a with
  | .v4 _ => isTrue trivial
  | .v6 bits => inferInstanceAs (Decidable (ipv4Mapped bits = none))

theorem toIpv6Mapped_toNat (bits : BitVec 32) :
    (toIpv6Mapped bits).toNat = 0xffff * 2 ^ 32 + bits.toNat := by
  rw [toIpv6Mapped, BitVec.toNat_append, ← Nat.shiftLeft_add_eq_or_of_lt bits.isLt, Nat.shiftLeft_eq]
  rfl

@[simp] theorem ipv4Mapped_toIpv6Mapped (bits : BitVec 32) :
    ipv4Mapped (toIpv6Mapped bits) = some bits := by
  have value := toIpv6Mapped_toNat bits
  have high : toIpv6Mapped bits >>> 32 = 0xffff := by bv_omega
  have low : (toIpv6Mapped bits).setWidth 32 = bits := by bv_omega
  simp [ipv4Mapped, high, low]

theorem decodeIp_slot {a : IpAddr} (unmapped : a.Unmapped) : decodeIp a.slot = a.text := by
  cases a with
  | v4 bits => simp [decodeIp, IpAddr.slot, IpAddr.text]
  | v6 bits =>
    have none : ipv4Mapped bits = none := unmapped
    simp [decodeIp, IpAddr.slot, IpAddr.text, none]

/-- Rust's text of an address, as the flow file has it. A mapped address keeps its dots. -/
def IpAddr.display : IpAddr → String
  | .v4 bits => dottedQuad bits
  | .v6 bits =>
      match ipv4Mapped bits with
      | some low => "::ffff:" ++ dottedQuad low
      | none => ipv6Text bits

theorem display_eq_text {a : IpAddr} (unmapped : a.Unmapped) : a.display = a.text := by
  cases a with
  | v4 bits => rfl
  | v6 bits =>
    have none : ipv4Mapped bits = none := unmapped
    simp [IpAddr.display, IpAddr.text, none]

theorem ipv4Mapped_injective {x y : BitVec 128} {low : BitVec 32} (first : ipv4Mapped x = some low)
    (second : ipv4Mapped y = some low) : x = y := by
  unfold ipv4Mapped at first second
  split_ifs at first second with high high'
  simp only [Option.some.injEq] at first second
  bv_omega

/-- A mapped address is the only one whose text has both colons and dots. -/
theorem IpAddr.display_injective {a b : IpAddr} (same : a.display = b.display) : a = b := by
  have colon : ∀ (x : BitVec 32) (text : String), dottedQuad x ≠ "::ffff:" ++ text := by
    intro x text alike
    have none := not_mem_dottedQuad (c := ':') (by decide) (by decide) x
    rw [alike, String.toList_append] at none
    exact none (List.mem_append_left _ (by decide))
  have dot : ∀ (x : BitVec 128) (y : BitVec 32), ipv6Text x ≠ "::ffff:" ++ dottedQuad y := by
    intro x y alike
    have none := not_mem_ipv6Text (c := '.') (by decide) (by decide) x
    rw [alike, String.toList_append] at none
    exact none (List.mem_append_right _ (dot_mem_dottedQuad y))
  cases a with
  | v4 x =>
    cases b with
    | v4 y => exact congrArg IpAddr.v4 (dottedQuad_injective same)
    | v6 y =>
      cases mapped : ipv4Mapped y with
      | none => exact absurd same (by simpa [display, mapped] using dottedQuad_ne_ipv6Text x y)
      | some low => exact absurd same (by simpa [display, mapped] using colon x _)
  | v6 x =>
    cases b with
    | v4 y =>
      cases mapped : ipv4Mapped x with
      | none => exact absurd same.symm (by simpa [display, mapped] using dottedQuad_ne_ipv6Text y x)
      | some low => exact absurd same.symm (by simpa [display, mapped] using colon y _)
    | v6 y =>
      simp only [display] at same
      cases first : ipv4Mapped x with
      | none =>
        cases second : ipv4Mapped y with
        | none =>
          simp only [first, second] at same
          exact congrArg IpAddr.v6 (ipv6Text_injective same)
        | some low =>
          simp only [first, second] at same
          exact absurd same (dot x low)
      | some low =>
        cases second : ipv4Mapped y with
        | none =>
          simp only [first, second] at same
          exact absurd same.symm (dot y low)
        | some low' =>
          simp only [first, second, String.append_right_inj] at same
          rw [← dottedQuad_injective same] at second
          exact congrArg IpAddr.v6 (ipv4Mapped_injective first second)

/-- The texts the receiver skips are those of the two unspecified addresses. -/
theorem display_not_sentinel {a : IpAddr} (named : a ≠ .v4 0 ∧ a ≠ .v6 0) :
    a.display ≠ "" ∧ a.display ∉ sentinelTexts := by
  have zero4 : (IpAddr.v4 0).display = "0.0.0.0" := by decide +kernel
  have zero6 : (IpAddr.v6 0).display = "::" := by decide +kernel
  have letter : 'U' ∉ a.display.toList := by
    cases a with
    | v4 x => exact not_mem_dottedQuad (by decide) (by decide) x
    | v6 x =>
      simp only [IpAddr.display]
      cases ipv4Mapped x with
      | none => exact not_mem_ipv6Text (by decide) (by decide) x
      | some low =>
        rw [String.toList_append, List.mem_append, not_or]
        exact ⟨by decide, not_mem_dottedQuad (by decide) (by decide) low⟩
  refine ⟨?_, ?_⟩
  · intro empty
    cases a with
    | v4 x =>
      have dot := dot_mem_dottedQuad x
      simp only [IpAddr.display] at empty
      simp [empty] at dot
    | v6 x =>
      simp only [IpAddr.display] at empty
      cases mapped : ipv4Mapped x with
      | none =>
        -- The empty text would read back as eight zeros, whose text is `::`.
        simp only [mapped] at empty
        have groups := readGroups_ipv6Text x
        rw [empty] at groups
        have zero : x = 0 := hextets_injective (groups.symm.trans (by decide))
        exact named.2 (congrArg IpAddr.v6 zero)
      | some low => simp [mapped] at empty
  · simp only [sentinelTexts, List.mem_cons, List.not_mem_nil, or_false, not_or]
    refine ⟨?_, ?_, ?_⟩
    · intro unknown
      rw [unknown] at letter
      exact letter (by decide)
    · intro zero
      exact named.1 (IpAddr.display_injective (zero.trans zero4.symm))
    · intro zero
      exact named.2 (IpAddr.display_injective (zero.trans zero6.symm))

/-- The vector and the flow file agree on exactly the addresses that map none. -/
theorem unmapped_of_decodeIp {a : IpAddr} (same : decodeIp a.slot = a.display) : a.Unmapped := by
  cases a with
  | v4 bits => trivial
  | v6 bits =>
    cases mapped : ipv4Mapped bits with
    | none => exact mapped
    | some low =>
      have length := congrArg String.length same
      simp [decodeIp, IpAddr.slot, IpAddr.display, mapped] at length

end Flod.Net
