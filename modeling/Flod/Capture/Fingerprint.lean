import Flod.Capture.Headers

/-! The two walks over the options of a SYN. They go hand in hand over known options of
the right length, and part after ten of them or at the first option that is unknown or
malformed: there one walk stops and the other goes on. -/

namespace Flod.Capture
open Flod.Net Flod.Kernel

/-- The options both walks read: their presence bits, their length, and the steps the
programs have left. -/
structure Common where
  presence : Byte
  bytes : Nat
  steps : Nat
  deriving DecidableEq, Repr

def common : Nat → List Byte → Common
  | 0, _ => ⟨0, 0, 0⟩
  | steps + 1, options =>
      match knownOption options with
      | none => ⟨0, 0, steps + 1⟩
      | some (element, len) =>
          let rest := common steps (options.drop len)
          ⟨presenceOf element ||| rest.presence, len + rest.bytes, rest.steps⟩

/-- The presence bits of several options together. -/
def gathered (bits : List Byte) : Byte := bits.foldl (· ||| ·) 0

theorem foldl_or_eq (bits : List Byte) (acc : Byte) : bits.foldl (· ||| ·) acc = acc ||| gathered bits := by
  unfold gathered
  induction bits generalizing acc with
  | nil => simp
  | cons b bits ih =>
    rw [List.foldl_cons, ih, List.foldl_cons, ih (0 ||| b)]
    simp [BitVec.or_assoc]

theorem gathered_cons (b : Byte) (bits : List Byte) : gathered (b :: bits) = b ||| gathered bits := by
  rw [gathered, List.foldl_cons, foldl_or_eq]
  simp

theorem or_lt_sixteen {x y : Byte} (first : x.toNat < 16) (second : y.toNat < 16) : (x ||| y).toNat < 16 := by
  rw [BitVec.toNat_or]
  exact Nat.or_lt_two_pow (n := 4) first second

theorem gathered_lt {bits : List Byte} (small : ∀ b ∈ bits, b.toNat < 16) : (gathered bits).toNat < 16 := by
  induction bits with
  | nil => decide
  | cons b bits ih =>
    rw [gathered_cons]
    exact or_lt_sixteen (small b List.mem_cons_self) (ih fun b' member => small b' (List.mem_cons_of_mem b member))

/-- Bits add nothing together if none of them does alone. -/
theorem or_gathered_eq_iff (presence : Byte) (bits : List Byte) :
    presence ||| gathered bits = presence ↔ ∀ b ∈ bits, presence ||| b = presence := by
  have split : ∀ p x y : Byte, p ||| (x ||| y) = p ↔ p ||| x = p ∧ p ||| y = p := by
    intro p x y
    constructor
    · intro both
      constructor
      · rw [← both]
        ext i
        simp
        grind
      · rw [← both]
        ext i
        simp
        grind
    · rintro ⟨first, second⟩
      rw [← BitVec.or_assoc, first, second]
  induction bits with
  | nil => simp [gathered]
  | cons b bits ih =>
    rw [gathered_cons, split, List.forall_mem_cons]
    exact and_congr_right fun _ => ih

/-- The presence bits of the options the iterator yields. -/
def iterated (options : List Byte) : Byte :=
  gathered ((knownOptions options.length options).map presenceOf)

theorem knownOption_cases {options : List Byte} {element : TcpOptionElement} {len : Nat}
    (known : knownOption options = some (element, len)) :
    options ≠ [] ∧ 1 ≤ len ∧ len ≤ options.length ∧
      ((byteAt options 0 = 1 ∧ element = .noop ∧ len = 1) ∨
        (byteAt options 0 = 2 ∧ element = .maximumSegmentSize ∧ len = 4) ∨
        (byteAt options 0 = 3 ∧ element = .windowScale ∧ len = 3) ∨
        (byteAt options 0 = 4 ∧ element = .selectiveAcknowledgementPermitted ∧ len = 2) ∨
        (byteAt options 0 = 5 ∧ element = .selectiveAcknowledgement ∧ len = (byteAt options 1).toNat ∧ 10 ≤ len) ∨
        (byteAt options 0 = 8 ∧ element = .timestamp ∧ len = 10)) := by
  unfold knownOption at known
  dsimp only at known
  split_ifs at known with none noop mss scale permitted sack timestamp <;> cases known
  · exact ⟨none, le_rfl, List.length_pos_iff.mpr none, Or.inl ⟨noop, rfl, rfl⟩⟩
  · exact ⟨none, by omega, mss.2.2, Or.inr (Or.inl ⟨mss.1, rfl, rfl⟩)⟩
  · exact ⟨none, by omega, scale.2.2, Or.inr (Or.inr (Or.inl ⟨scale.1, rfl, rfl⟩))⟩
  · exact ⟨none, by omega, permitted.2.2, Or.inr (Or.inr (Or.inr (Or.inl ⟨permitted.1, rfl, rfl⟩)))⟩
  · exact ⟨none, by omega, sack.2.2,
      Or.inr (Or.inr (Or.inr (Or.inr (Or.inl ⟨sack.1, rfl, rfl, by omega⟩))))⟩
  · exact ⟨none, by omega, timestamp.2.2,
      Or.inr (Or.inr (Or.inr (Or.inr (Or.inr ⟨timestamp.1, rfl, rfl⟩))))⟩

/-- More fuel than bytes changes nothing: every option is at least one byte long. -/
theorem knownOptions_fuel (fuel fuel' : Nat) (options : List Byte) (enough : options.length ≤ fuel)
    (enough' : options.length ≤ fuel') : knownOptions fuel options = knownOptions fuel' options := by
  have nothing : ∀ fuel, knownOptions fuel [] = [] := by
    intro fuel
    cases fuel <;> rfl
  induction fuel generalizing fuel' options with
  | zero =>
    rw [List.length_eq_zero_iff.mp (Nat.le_zero.mp enough), nothing, nothing]
  | succ fuel ih =>
    cases fuel' with
    | zero => rw [List.length_eq_zero_iff.mp (Nat.le_zero.mp enough'), nothing, nothing]
    | succ fuel' =>
      unfold knownOptions
      cases known : knownOption options with
      | none => rfl
      | some found =>
        obtain ⟨_, positive, _⟩ := knownOption_cases known
        have shorter : (options.drop found.2).length + 1 ≤ options.length := by
          rw [List.length_drop]
          have fits := (knownOption_cases known).2.2.1
          omega
        simp only [List.cons.injEq, true_and]
        exact ih fuel' (options.drop found.2) (by omega) (by omega)

theorem iterated_none {options : List Byte} (unknown : knownOption options = none) : iterated options = 0 := by
  unfold iterated
  cases options.length with
  | zero => rfl
  | succ fuel => simp [knownOptions, unknown, gathered]

theorem iterated_some {options : List Byte} {element : TcpOptionElement} {len : Nat}
    (known : knownOption options = some (element, len)) :
    iterated options = presenceOf element ||| iterated (options.drop len) := by
  obtain ⟨nonempty, positive, fits, _⟩ := knownOption_cases known
  obtain ⟨fuel, long⟩ : ∃ fuel, options.length = fuel + 1 :=
    ⟨options.length - 1, by have := List.length_pos_iff.mpr nonempty; omega⟩
  have rest := knownOptions_fuel fuel (options.drop len).length (options.drop len)
    (by rw [List.length_drop]; omega) le_rfl
  unfold iterated
  rw [long, knownOptions, known]
  simp only
  rw [rest, List.map_cons, gathered_cons]

theorem iterated_common (steps : Nat) (options : List Byte) :
    iterated options =
      (common steps options).presence ||| iterated (options.drop (common steps options).bytes) := by
  induction steps generalizing options with
  | zero => simp [common]
  | succ steps ih =>
    cases known : knownOption options with
    | none => simp [common, known]
    | some found =>
      rcases found with ⟨element, len⟩
      rw [iterated_some known, ih (options.drop len)]
      simp [common, known, BitVec.or_assoc]

/-- The walks part when the programs' steps are used up or the iterator stops. -/
theorem common_stops (steps : Nat) (options : List Byte) :
    (common steps options).steps = 0 ∨ knownOption (options.drop (common steps options).bytes) = none := by
  induction steps generalizing options with
  | zero => exact Or.inl rfl
  | succ steps ih =>
    cases known : knownOption options with
    | none => exact Or.inr (by simp [common, known])
    | some found => simpa [common, known] using ih (options.drop found.2)

/-- The bytes between two offsets of a frame. -/
structure AreaAt (frame : Frame) (start stop : Nat) (area : List Byte) : Prop where
  length : start + area.length = stop
  inside : stop ≤ frame.length
  bytes : ∀ i < area.length, byteAt area i = byteAt frame (start + i)

theorem AreaAt.drop {frame : Frame} {start stop len : Nat} {area : List Byte} (at' : AreaAt frame start stop area)
    (fits : len ≤ area.length) : AreaAt frame (start + len) stop (area.drop len) where
  length := by
    have whole := at'.length
    rw [List.length_drop]
    omega
  inside := at'.inside
  bytes i inside := by
    rw [List.length_drop] at inside
    rw [byteAt_drop, at'.bytes _ (by omega), Nat.add_assoc]

/-- Over a known option of the right length the programs do what the iterator does. -/
theorem walkOptions_known {frame : Frame} {pos stop : Nat} {options : List Byte}
    (area : AreaAt frame pos stop options) {element : TcpOptionElement} {len : Nat}
    (known : knownOption options = some (element, len)) (steps : Nat) (presence : Byte) :
    walkOptions frame stop (steps + 1) pos presence =
      walkOptions frame stop steps (pos + len) (presence ||| presenceOf element) := by
  obtain ⟨nonempty, positive, fits, kinds⟩ := knownOption_cases known
  have whole := area.length
  have inside := area.inside
  have before : ¬ stop ≤ pos := by omega
  have read : readByte frame pos = some (byteAt options 0) := by
    rw [readByte_of_lt (by omega), area.bytes 0 (by omega), Nat.add_zero]
  rw [walkOptions, if_neg before, read]
  dsimp only
  rcases kinds with ⟨kind, rfl, rfl⟩ | ⟨kind, rfl, rfl⟩ | ⟨kind, rfl, rfl⟩ | ⟨kind, rfl, rfl⟩ |
    ⟨kind, rfl, same, long⟩ | ⟨kind, rfl, rfl⟩ <;> rw [kind]
  · simp [presenceOf]
  · rfl
  · rfl
  · rfl
  · have length : readByte frame (pos + 1) = some (byteAt options 1) := by
      rw [readByte_of_lt (by omega), area.bytes 1 (by omega)]
    have most : max (byteAt options 1).toNat 2 = len := by omega
    rw [length]
    dsimp only
    rw [most]
    rfl
  · rfl

theorem walkOptions_common {frame : Frame} {stop : Nat} (steps : Nat) {pos : Nat} {options : List Byte}
    (area : AreaAt frame pos stop options) (presence : Byte) :
    walkOptions frame stop steps pos presence =
      walkOptions frame stop (common steps options).steps (pos + (common steps options).bytes)
        (presence ||| (common steps options).presence) := by
  induction steps generalizing pos options presence with
  | zero => simp [common, walkOptions]
  | succ steps ih =>
    cases known : knownOption options with
    | none => simp [common, known]
    | some found =>
      rcases found with ⟨element, len⟩
      rw [walkOptions_known area known, ih (area.drop (knownOption_cases known).2.2.1)]
      simp [common, known, BitVec.or_assoc, Nat.add_assoc]

theorem presenceOf_lt (o : TcpOptionElement) : (presenceOf o).toNat < 16 := by
  cases o <;> decide

theorem common_lt (steps : Nat) (options : List Byte) : (common steps options).presence.toNat < 16 := by
  have none : (0 : Byte).toNat < 16 := by decide
  induction steps generalizing options with
  | zero => exact none
  | succ steps ih =>
    unfold common
    split
    · exact none
    next element len _ => exact or_lt_sixteen (presenceOf_lt element) (ih (options.drop len))

theorem iterated_lt (options : List Byte) : (iterated options).toNat < 16 := by
  apply gathered_lt
  intro b member
  obtain ⟨o, _, rfl⟩ := List.mem_map.mp member
  exact presenceOf_lt o

/-- The option at an offset as the programs read it, with the offset of the next. None is
the end of the walk. -/
def stride (frame : Frame) (pos : Nat) : Option (Byte × Nat) :=
  match readByte frame pos with
  | none => none
  | some kind =>
      if kind = 0 then none
      else if kind = 1 then some (kind, pos + 1)
      else if kind = 2 then some (kind, pos + 4)
      else if kind = 3 then some (kind, pos + 3)
      else if kind = 4 then some (kind, pos + 2)
      else if kind = 8 then some (kind, pos + 10)
      else (readByte frame (pos + 1)).map fun len => (kind, pos + max len.toNat 2)

/-- The kinds of the options the programs meet from an offset on. -/
def kindsFrom (frame : Frame) (stop : Nat) : Nat → Nat → List Byte
  | 0, _ => []
  | steps + 1, pos =>
      if stop ≤ pos then []
      else
        match stride frame pos with
        | none => []
        | some (kind, next) => kind :: kindsFrom frame stop steps next

/-- The presence bit of an option kind. -/
def bitOf (kind : Byte) : Byte :=
  if kind = 2 then optMss
  else if kind = 3 then optWscale
  else if kind = 4 ∨ kind = 5 then optSack
  else if kind = 8 then optTimestamp
  else 0

theorem bitOf_lt (kind : Byte) : (bitOf kind).toNat < 16 := by
  unfold bitOf
  split_ifs <;> decide

theorem walkOptions_step (frame : Frame) (stop steps pos : Nat) (presence : Byte) :
    walkOptions frame stop (steps + 1) pos presence =
      if stop ≤ pos then presence
      else
        match stride frame pos with
        | none => presence
        | some (kind, next) => walkOptions frame stop steps next (presence ||| bitOf kind) := by
  rw [walkOptions]
  unfold stride
  congr 1
  cases readByte frame pos with
  | none => rfl
  | some kind =>
    dsimp only
    split_ifs with eol noop mss scale permitted timestamp sack
    · rfl
    · simp [noop, bitOf]
    · simp [mss, bitOf]
    · simp [scale, bitOf]
    · simp [permitted, bitOf]
    · simp [timestamp, bitOf]
    · cases readByte frame (pos + 1) with
      | none => rfl
      | some len => simp [sack, bitOf]
    · cases readByte frame (pos + 1) with
      | none => rfl
      | some len =>
        have other : bitOf kind = 0 := by
          have neither : ¬ (kind = 4 ∨ kind = 5) := by
            rintro (same | same)
            exacts [permitted same, sack same]
          rw [bitOf, if_neg mss, if_neg scale, if_neg neither, if_neg timestamp]
        simp [other]

theorem walkOptions_eq (frame : Frame) (stop steps pos : Nat) (presence : Byte) :
    walkOptions frame stop steps pos presence =
      presence ||| gathered ((kindsFrom frame stop steps pos).map bitOf) := by
  induction steps generalizing pos presence with
  | zero => simp [walkOptions, kindsFrom, gathered]
  | succ steps ih =>
    rw [walkOptions_step, kindsFrom]
    split
    · simp [gathered]
    · cases stride frame pos with
      | none => simp [gathered]
      | some option => simp only [ih, List.map_cons, gathered_cons, BitVec.or_assoc]

theorem windowBucket_lt (window : BitVec 16) : (windowBucket window).toNat < 4 := by
  unfold windowBucket
  split_ifs <;> decide

/-- Four bits of presence and two of window make one of 64 buckets, and the window leaves
the presence readable. -/
theorem bucket_spec {p q w : Byte} (first : p.toNat < 16) (second : q.toNat < 16) (window : w.toNat < 4) :
    (p ||| w <<< 4).toNat < 64 ∧ (p ||| w <<< 4 = q ||| w <<< 4 ↔ p = q) := by
  have table : ∀ (p q : Fin 16) (w : Fin 4),
      (BitVec.ofNat 8 p ||| BitVec.ofNat 8 w <<< 4).toNat < 64 ∧
        (BitVec.ofNat 8 p ||| BitVec.ofNat 8 w <<< 4 = BitVec.ofNat 8 q ||| BitVec.ofNat 8 w <<< 4 ↔
          BitVec.ofNat 8 p.val = BitVec.ofNat 8 q.val) := by
    decide +kernel
  simpa using table ⟨p.toNat, first⟩ ⟨q.toNat, second⟩ ⟨w.toNat, window⟩

/-- Past the options both walks read, each of them meets only kinds seen before. -/
def NothingNew (frame : Frame) (l4Offset : Nat) (segment : List Byte) : Prop :=
  let shared := common maxTcpOptionSteps (optionBytes segment)
  let rest := (optionBytes segment).drop shared.bytes
  (∀ kind ∈ kindsFrom frame (l4Offset + doff segment * 4) shared.steps (l4Offset + tcpHdrLen + shared.bytes),
      shared.presence ||| bitOf kind = shared.presence) ∧
    ∀ o ∈ knownOptions rest.length rest, shared.presence ||| presenceOf o = shared.presence

instance (frame : Frame) (l4Offset : Nat) (segment : List Byte) :
    Decidable (NothingNew frame l4Offset segment) := inferInstanceAs (Decidable (_ ∧ _))

/-- The options of a segment lie in the frame behind its fixed header. -/
theorem optionBytes_areaAt {frame : Frame} {l4Offset : Nat} {segment : List Byte}
    (located : segment <+: frame.drop l4Offset) (least : 5 ≤ doff segment)
    (complete : 4 * doff segment ≤ segment.length) :
    AreaAt frame (l4Offset + tcpHdrLen) (l4Offset + doff segment * 4) (optionBytes segment) := by
  have long : segment.length ≤ frame.length - l4Offset := by
    rw [← List.length_drop]
    exact located.length_le
  have length : (optionBytes segment).length = 4 * doff segment - 20 := by
    rw [optionBytes, List.length_drop, List.length_take, Nat.min_eq_left complete]
    rfl
  have header : tcpHdrLen = 20 := rfl
  refine ⟨by omega, by omega, ?_⟩
  intro i inside
  rw [optionBytes, byteAt_drop, byteAt_take (by omega), byteAt_initial located (by omega), byteAt_drop, Nat.add_assoc]

/-- The programs' bucket: the options both walks read, then what the programs meet. -/
theorem programs_bucket {frame : Frame} {p : Parsed} {segment : List Byte} (tcp : p.proto = ipProtoTcp)
    (located : segment <+: frame.drop p.l4Offset) (least : 5 ≤ doff segment)
    (complete : 4 * doff segment ≤ segment.length) (syn : isSyn segment = true) :
    Kernel.fingerprintBucket frame p =
      let shared := common maxTcpOptionSteps (optionBytes segment)
      some ((shared.presence ||| gathered ((kindsFrom frame (p.l4Offset + doff segment * 4) shared.steps
        (p.l4Offset + tcpHdrLen + shared.bytes)).map bitOf)) ||| windowBucket (fieldAt 16 segment 14) <<< 4) := by
  have long := located.length_le
  rw [List.length_drop] at long
  have bounds : inBounds frame p.l4Offset tcpHdrLen = true := decide_eq_true (by unfold tcpHdrLen; omega)
  have sameDoff : doff (frame.drop p.l4Offset) = doff segment := by
    rw [doff, ← byteAt_initial located (by omega), doff]
  have sameSyn : isSyn (frame.drop p.l4Offset) = true := by
    rw [isSyn, ← byteAt_initial located (by omega), ← isSyn, syn]
  have sameWindow : fieldAt 16 (frame.drop p.l4Offset) 14 = fieldAt 16 segment 14 :=
    fieldAt_congr fun i inside => (byteAt_initial located (by omega)).symm
  have walked := walkOptions_common maxTcpOptionSteps (optionBytes_areaAt located least complete) 0
  rw [walkOptions_eq _ _ (common _ _).steps] at walked
  simp only [Kernel.fingerprintBucket, tcp, bounds, sameSyn, sameDoff, sameWindow, walked]
  simp

/-- The library's bucket: the options both walks read, then what the iterator yields. -/
theorem library_bucket (e : Etherparse) (segment : List Byte) :
    fingerprintBucket e segment =
      let shared := common maxTcpOptionSteps (optionBytes segment)
      (shared.presence ||| iterated ((optionBytes segment).drop shared.bytes)) |||
        windowBucket (fieldAt 16 segment 14) <<< 4 := by
  have yielded : (e.options (optionBytes segment)).foldl (fun acc o => acc ||| presenceOf o) 0 =
      iterated (optionBytes segment) := by
    rw [e.iterates, iterated, gathered, List.foldl_map]
  rw [fingerprintBucket, yielded, iterated_common maxTcpOptionSteps]

/-- For every SYN whose header is in the frame both buckets exist and are below 64, and
they are the same exactly if the longer walk meets nothing new after the two have parted. -/
theorem buckets_agree_iff (e : Etherparse) (frame : Frame) (p : Parsed) (segment : List Byte)
    (tcp : p.proto = ipProtoTcp) (located : segment <+: frame.drop p.l4Offset) (least : 5 ≤ doff segment)
    (complete : 4 * doff segment ≤ segment.length) (syn : isSyn segment = true) :
    ∃ bucket, Kernel.fingerprintBucket frame p = some bucket ∧ bucket.toNat < 64 ∧
      (fingerprintBucket e segment).toNat < 64 ∧
      (bucket = fingerprintBucket e segment ↔ NothingNew frame p.l4Offset segment) := by
  refine ⟨_, programs_bucket tcp located least complete syn, ?_⟩
  rw [library_bucket]
  unfold NothingNew
  have stops := common_stops maxTcpOptionSteps (optionBytes segment)
  have known := common_lt maxTcpOptionSteps (optionBytes segment)
  have window := windowBucket_lt (fieldAt 16 segment 14)
  generalize common maxTcpOptionSteps (optionBytes segment) = shared at stops known ⊢
  dsimp only
  generalize kindsEq : kindsFrom frame (p.l4Offset + doff segment * 4) shared.steps
    (p.l4Offset + tcpHdrLen + shared.bytes) = kinds
  generalize restEq : (optionBytes segment).drop shared.bytes = rest at stops
  have met : (gathered (kinds.map bitOf)).toNat < 16 := by
    apply gathered_lt
    intro b member
    obtain ⟨kind, _, rfl⟩ := List.mem_map.mp member
    exact bitOf_lt kind
  have programs := or_lt_sixteen known met
  have library := or_lt_sixteen known (iterated_lt rest)
  refine ⟨(bucket_spec programs library window).1, (bucket_spec library programs window).1, ?_⟩
  rw [(bucket_spec programs library window).2]
  have metIff := or_gathered_eq_iff shared.presence (kinds.map bitOf)
  have yieldedIff := or_gathered_eq_iff shared.presence ((knownOptions rest.length rest).map presenceOf)
  rw [List.forall_mem_map] at metIff yieldedIff
  rw [← metIff, ← yieldedIff, ← iterated]
  rcases stops with used | unknown
  · have nothing : kinds = [] := by rw [← kindsEq, used, kindsFrom]
    rw [nothing]
    simp [gathered, eq_comm]
  · rw [iterated_none unknown]
    simp

/-- A SYN with the given header length and options and the largest window. -/
def synSegment (words : Byte) (options : List Byte) : List Byte :=
  ([199, 56, 1, 187, 0, 0, 0, 0, 0, 0, 0, 0] : List Byte) ++ [words <<< 4, 0x02, 0xff, 0xff, 0, 0, 0, 0] ++ options

/-- A SYN with the options of a common stack: segment size, SACK permitted, time stamp,
padding, window scale. -/
def commonSyn : List Byte :=
  synSegment 10 [2, 4, 5, 180, 4, 2, 8, 10, 0, 0, 0, 1, 0, 0, 0, 0, 1, 3, 3, 7]

theorem buckets_agree_common :
    ∃ p, parse (taggedIpv4 5 0 6 commonSyn) = some p ∧
      Kernel.fingerprintBucket (taggedIpv4 5 0 6 commonSyn) p = some (fingerprintBucket documented commonSyn) ∧
      fingerprintBucket documented commonSyn = 63 := by
  let p : Parsed := ⟨toIpv6Mapped 0xc6336409, toIpv6Mapped 0x0a000001, 6, 42, 64⟩
  have read : parse (taggedIpv4 5 0 6 commonSyn) = some p := by decide +kernel
  obtain ⟨bucket, found, _, _, same⟩ :=
    buckets_agree_iff documented (taggedIpv4 5 0 6 commonSyn) p commonSyn rfl ⟨[], by decide +kernel⟩
      (by decide +kernel) (by decide +kernel) (by decide +kernel)
  rw [same.mpr (by decide +kernel)] at found
  exact ⟨p, read, found, by decide +kernel⟩

/-- The buckets of a SYN with the given options on the two paths. -/
def bucketsOf (words : Byte) (options : List Byte) : Option Byte × Option Byte :=
  let frame := taggedIpv4 5 0 6 (synSegment words options)
  ((parse frame).bind (Kernel.fingerprintBucket frame),
    (capture documented .ingress frame).bind (·.fingerprintBucket))

/-- An option of an unknown kind, one of the wrong length, and ten of padding, each before
or in place of the segment size. -/
theorem buckets_differ :
    bucketsOf 7 [30, 4, 0, 0, 2, 4, 5, 180] = (some 49, some 48) ∧
    bucketsOf 7 [2, 6, 5, 180, 0, 0, 0, 0] = (some 49, some 48) ∧
    bucketsOf 9 [1, 1, 1, 1, 1, 1, 1, 1, 1, 1, 2, 4, 5, 180, 0, 0] = (some 48, some 49) := by
  decide +kernel

end Flod.Capture
