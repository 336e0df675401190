import Flod.Net.Address

/-! Ethernet frames as bytes: up to two VLAN tags, the IP header behind them, and what an
IP packet carries behind its options or extension headers. -/

namespace Flod.Net

abbrev Frame := List Byte

/-- The byte at an offset, zero past the end. -/
def byteAt (frame : Frame) (offset : Nat) : Byte := frame.getD offset 0

/-- A field of whole bytes, most significant first. -/
def fieldAt (w : Nat) (frame : Frame) (offset : Nat) : BitVec w :=
  ofOctets w ((List.range (w / 8)).map (fun i => byteAt frame (offset + i)))

theorem byteAt_take {frame : Frame} {count offset : Nat} (inside : offset < count) :
    byteAt (frame.take count) offset = byteAt frame offset := by
  unfold byteAt
  rw [List.getD_eq_getElem?_getD, List.getD_eq_getElem?_getD, List.getElem?_take_of_lt inside]

theorem byteAt_drop (frame : Frame) (start offset : Nat) :
    byteAt (frame.drop start) offset = byteAt frame (start + offset) := by
  unfold byteAt
  rw [List.getD_eq_getElem?_getD, List.getD_eq_getElem?_getD, List.getElem?_drop]

theorem byteAt_initial {part frame : Frame} (initial : part <+: frame) {offset : Nat} (inside : offset < part.length) :
    byteAt part offset = byteAt frame offset := by
  obtain ⟨rest, rfl⟩ := initial
  unfold byteAt
  rw [List.getD_eq_getElem?_getD, List.getD_eq_getElem?_getD, List.getElem?_append_left inside]

theorem fieldAt_congr {w : Nat} {frame frame' : Frame} {offset offset' : Nat}
    (same : ∀ i < w / 8, byteAt frame (offset + i) = byteAt frame' (offset' + i)) :
    fieldAt w frame offset = fieldAt w frame' offset' := by
  unfold fieldAt
  congr 1
  apply List.map_congr_left
  intro i member
  exact same i (List.mem_range.mp member)

theorem fieldAt_take {w : Nat} {frame : Frame} {count offset : Nat} (inside : offset + w / 8 ≤ count) :
    fieldAt w (frame.take count) offset = fieldAt w frame offset :=
  fieldAt_congr fun _ _ => byteAt_take (by omega)

theorem fieldAt_drop (w : Nat) (frame : Frame) (start offset : Nat) :
    fieldAt w (frame.drop start) offset = fieldAt w frame (start + offset) :=
  fieldAt_congr fun i _ => by rw [byteAt_drop, Nat.add_assoc]

def ethIpv4 : BitVec 16 := 0x0800

def ethIpv6 : BitVec 16 := 0x86DD

def eth8021Q : BitVec 16 := 0x8100

def eth8021AD : BitVec 16 := 0x88A8

/-- The ethertypes that introduce a VLAN tag. -/
def isTag (etherType : BitVec 16) : Bool := etherType == eth8021Q || etherType == eth8021AD

inductive Family where
  | v4
  | v6
  deriving DecidableEq, Repr

/-- Where an IP header starts. -/
structure IpHeader where
  family : Family
  offset : Nat
  deriving DecidableEq, Repr

/-- The IPv4 header length in words. -/
def ihl (frame : Frame) (offset : Nat) : Nat := (byteAt frame offset).toNat % 16

def version (frame : Frame) (offset : Nat) : Nat := (byteAt frame offset).toNat / 16

/-- The header an ethertype announces, if all of it is in the frame. -/
def ipHeaderAt (frame : Frame) (etherType : BitVec 16) (offset : Nat) : Option IpHeader :=
  if etherType = ethIpv4 ∧ version frame offset = 4 ∧ 5 ≤ ihl frame offset ∧
      offset + 4 * ihl frame offset ≤ frame.length then some ⟨.v4, offset⟩
  else if etherType = ethIpv6 ∧ version frame offset = 6 ∧ offset + 40 ≤ frame.length then
    some ⟨.v6, offset⟩
  else none

theorem ipHeaderAt_cases {frame : Frame} {etherType : BitVec 16} {offset : Nat} {h : IpHeader}
    (found : ipHeaderAt frame etherType offset = some h) :
    (etherType = ethIpv4 ∧ h = ⟨.v4, offset⟩ ∧ 5 ≤ ihl frame offset ∧
      offset + 4 * ihl frame offset ≤ frame.length) ∨
    (etherType = ethIpv6 ∧ h = ⟨.v6, offset⟩ ∧ offset + 40 ≤ frame.length) := by
  unfold ipHeaderAt at found
  split at found
  next announced =>
    cases found
    exact Or.inl ⟨announced.1, rfl, announced.2.2⟩
  next =>
    split at found
    next announced =>
      cases found
      exact Or.inr ⟨announced.1, rfl, announced.2.2⟩
    next => cases found

/-- The header behind at most so many VLAN tags, the ethertype ending at `offset`. -/
def ipHeaderBehind (frame : Frame) : Nat → Nat → Option IpHeader
  | 0, offset => ipHeaderAt frame (fieldAt 16 frame (offset - 2)) offset
  | tags + 1, offset =>
      if isTag (fieldAt 16 frame (offset - 2)) then ipHeaderBehind frame tags (offset + 4)
      else ipHeaderAt frame (fieldAt 16 frame (offset - 2)) offset

/-- The complete IP header of a frame with at most two VLAN tags. -/
def ipHeader (frame : Frame) : Option IpHeader := ipHeaderBehind frame 2 14

theorem ipHeaderBehind_le {frame : Frame} {h : IpHeader} (tags offset : Nat)
    (found : ipHeaderBehind frame tags offset = some h) : h.offset ≤ offset + 4 * tags := by
  have here : ∀ {etherType : BitVec 16} {start : Nat}, ipHeaderAt frame etherType start = some h →
      h.offset = start := by
    intro etherType start announced
    rcases ipHeaderAt_cases announced with ⟨_, rfl, _⟩ | ⟨_, rfl, _⟩ <;> rfl
  induction tags generalizing offset with
  | zero => exact (here found).le
  | succ tags ih =>
    rw [ipHeaderBehind] at found
    split at found
    · have bound := ih (offset + 4) found
      omega
    · have same := here found
      omega

theorem ipHeaderAt_take {frame : Frame} {etherType : BitVec 16} {offset count : Nat} {h : IpHeader}
    (found : ipHeaderAt frame etherType offset = some h) (room : offset + 60 ≤ count) :
    ipHeaderAt (frame.take count) etherType offset = some h := by
  have first : byteAt (frame.take count) offset = byteAt frame offset := byteAt_take (by omega)
  have sameVersion : version (frame.take count) offset = version frame offset := by rw [version, first, version]
  have sameIhl : ihl (frame.take count) offset = ihl frame offset := by rw [ihl, first, ihl]
  have short : ihl frame offset < 16 := Nat.mod_lt _ (by decide)
  unfold ipHeaderAt at found ⊢
  rw [sameVersion, sameIhl, List.length_take]
  split at found
  next announced =>
    rw [if_pos ⟨announced.1, announced.2.1, announced.2.2.1, by omega⟩]
    exact found
  next =>
    split at found
    next announced =>
      have other : etherType ≠ ethIpv4 := by
        rw [announced.1]
        decide
      rw [if_neg (fun both => other both.1), if_pos ⟨announced.1, announced.2.1, by omega⟩]
      exact found
    next => cases found

/-- A header that ends within the snap length survives the cut. -/
theorem ipHeaderBehind_take {frame : Frame} {h : IpHeader} {count : Nat} (tags offset : Nat)
    (room : offset + 4 * tags + 60 ≤ count) (found : ipHeaderBehind frame tags offset = some h) :
    ipHeaderBehind (frame.take count) tags offset = some h := by
  have outer : fieldAt 16 (frame.take count) (offset - 2) = fieldAt 16 frame (offset - 2) :=
    fieldAt_take (by omega)
  induction tags generalizing offset with
  | zero =>
    rw [ipHeaderBehind, outer]
    exact ipHeaderAt_take found (by omega)
  | succ tags ih =>
    rw [ipHeaderBehind] at found ⊢
    rw [outer]
    split at found
    next tagged =>
      rw [if_pos tagged]
      exact ih (offset + 4) (by omega) found (fieldAt_take (by omega))
    next plain =>
      rw [if_neg plain]
      exact ipHeaderAt_take found (by omega)

namespace IpHeader

variable (h : IpHeader) (frame : Frame)

def source : IpAddr :=
  match h.family with
  | .v4 => .v4 (fieldAt 32 frame (h.offset + 12))
  | .v6 => .v6 (fieldAt 128 frame (h.offset + 8))

def destination : IpAddr :=
  match h.family with
  | .v4 => .v4 (fieldAt 32 frame (h.offset + 16))
  | .v6 => .v6 (fieldAt 128 frame (h.offset + 24))

/-- The protocol, or the kind of the first extension header. -/
def protocol : Byte :=
  match h.family with
  | .v4 => byteAt frame (h.offset + 9)
  | .v6 => byteAt frame (h.offset + 6)

def ttl : Byte :=
  match h.family with
  | .v4 => byteAt frame (h.offset + 8)
  | .v6 => byteAt frame (h.offset + 7)

theorem fields_take {count : Nat} (room : h.offset + 40 ≤ count) :
    h.source (frame.take count) = h.source frame ∧ h.destination (frame.take count) = h.destination frame ∧
      h.protocol (frame.take count) = h.protocol frame ∧ h.ttl (frame.take count) = h.ttl frame := by
  rcases h with ⟨family, offset⟩
  cases family with
  | v4 =>
    refine ⟨congrArg IpAddr.v4 (fieldAt_take ?_), congrArg IpAddr.v4 (fieldAt_take ?_), byteAt_take ?_,
      byteAt_take ?_⟩ <;> dsimp only at * <;> omega
  | v6 =>
    refine ⟨congrArg IpAddr.v6 (fieldAt_take ?_), congrArg IpAddr.v6 (fieldAt_take ?_), byteAt_take ?_,
      byteAt_take ?_⟩ <;> dsimp only at * <;> omega

end IpHeader

/-- Whether a packet is a fragment, and whether it starts the datagram. -/
inductive Fragment where
  | whole
  | first
  | later
  deriving DecidableEq, Repr

def Fragment.of (offset : Nat) (more : Bool) : Fragment :=
  if offset ≠ 0 then .later else if more then .first else .whole

/-- What follows the IP header with its options or extension headers. -/
structure Upper where
  protocol : Byte
  offset : Nat
  fragment : Fragment
  deriving DecidableEq, Repr

/-- The chain of IPv6 extension headers: hop-by-hop, routing and destination options
count their length in eight bytes, the authentication header in four, and the fragment
header is always eight bytes long. -/
def extensions (frame : Frame) : Nat → Byte → Nat → Fragment → Option Upper
  | 0, _, _, _ => none
  | fuel + 1, next, offset, fragment =>
      let units := (byteAt frame (offset + 1)).toNat
      if next = 0 ∨ next = 43 ∨ next = 60 then
        if offset + 8 * (units + 1) ≤ frame.length then
          extensions frame fuel (byteAt frame offset) (offset + 8 * (units + 1)) fragment
        else none
      else if next = 51 then
        if offset + 4 * (units + 2) ≤ frame.length then
          extensions frame fuel (byteAt frame offset) (offset + 4 * (units + 2)) fragment
        else none
      else if next = 44 then
        if offset + 8 ≤ frame.length then
          let word := (fieldAt 16 frame (offset + 2)).toNat
          extensions frame fuel (byteAt frame offset) (offset + 8) (.of (word / 8) (decide (word % 2 = 1)))
        else none
      else some ⟨next, offset, fragment⟩

def isExtension (next : Byte) : Prop := next = 0 ∨ next = 43 ∨ next = 60 ∨ next = 51 ∨ next = 44

instance (next : Byte) : Decidable (isExtension next) := inferInstanceAs (Decidable (_ ∨ _))

/-- Every extension header is at least eight bytes long, so the chain ends within the
length of the frame. -/
def IpHeader.upper (h : IpHeader) (frame : Frame) : Option Upper :=
  match h.family with
  | .v4 =>
      let word := (fieldAt 16 frame (h.offset + 6)).toNat
      some ⟨h.protocol frame, h.offset + 4 * ihl frame h.offset,
        .of (word % 2 ^ 13) (decide (word / 2 ^ 13 % 2 = 1))⟩
  | .v6 => extensions frame (frame.length + 1) (h.protocol frame) (h.offset + 40) .whole

/-- Without an extension header the packet's protocol follows at once. -/
theorem extensions_of_not {frame : Frame} {next : Byte} (plain : ¬ isExtension next) (fuel offset : Nat)
    (fragment : Fragment) : extensions frame (fuel + 1) next offset fragment = some ⟨next, offset, fragment⟩ := by
  simp only [isExtension, not_or] at plain
  obtain ⟨hop, routing, destination, authentication, fragmented⟩ := plain
  have options : ¬ (next = 0 ∨ next = 43 ∨ next = 60) := by
    rintro (same | same | same)
    exacts [hop same, routing same, destination same]
  unfold extensions
  dsimp only
  rw [if_neg options, if_neg authentication, if_neg fragmented]

end Flod.Net
