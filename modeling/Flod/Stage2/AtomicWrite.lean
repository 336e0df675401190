import Mathlib.Data.Fintype.Pi
import Flod.Lib.Disk
import Flod.Lib.Run

/-! The JSON files of Stage 2, at the level of single file operations. A save writes a temporary
file and renames it over the file; the temporary name is the same for every thread of the
process, and opening it exclusively is all that keeps two saves apart. -/

namespace Flod.Stage2
open Flod.Lib

/-- `save_json_file` of a text, or `load_json_file` with the text of its default. -/
inductive FileCall (B : Type) where
  | save (text : List B)
  | load (default : List B)

/-- What a call writes when it writes. -/
def FileCall.text {B : Type} : FileCall B → List B
  | .save text => text
  | .load default => default

/-- How far a call has come. The clean-up of `_atomic_write` first asks whether the temporary
name exists and then removes it. -/
inductive FilePhase (B : Type) where
  | idle
  | creating
  | writing (fd : Nat) (left : List B)
  | cleaning
  | removing
  | reading (fd : Nat)
  | done (found : Option (List B))

/-- An operation goes through, with the number of blocks a write takes, or raises. -/
inductive FileOperation where
  | goes (blocks : Nat)
  | raises

structure FileStore (ι B : Type) where
  disk : Disk Place B
  progress : ι → FilePhase B
  replaced : List ι

section Steps

variable {ι B : Type} [DecidableEq ι]

def FileStore.start (initial : Option (List B)) : FileStore ι B := ⟨Disk.holding .path initial, fun _ => .idle, []⟩

def FileStore.place (s : FileStore ι B) (i : ι) (phase : FilePhase B) : FileStore ι B :=
  { s with progress := Function.update s.progress i phase }

/-- The next file operation of a call. -/
def FileStore.advance (calls : ι → FileCall B) (s : FileStore ι B) (i : ι) (op : FileOperation) : FileStore ι B :=
  match s.progress i, op with
  | .idle, .goes _ =>
      match calls i, s.disk.names .path with
      | .save _, _ => s.place i .creating
      | .load _, none => s.place i .creating
      | .load _, some fd => s.place i (.reading fd)
  | .idle, .raises => s.place i (.done none)
  | .creating, .goes _ =>
      if (s.disk.names .tmp).isSome then s.place i (.done none)
      else { s with disk := s.disk.create .tmp }.place i (.writing s.disk.next (calls i).text)
  | .creating, .raises => s.place i (.done none)
  | .writing _ [], .goes _ =>
      if (s.disk.names .tmp).isSome then
        { s with disk := s.disk.rename .tmp .path, replaced := s.replaced ++ [i] }.place i .cleaning
      else s.place i .cleaning
  | .writing fd (b :: left), .goes blocks =>
      { s with disk := s.disk.append fd ((b :: left).take blocks) }.place i (.writing fd ((b :: left).drop blocks))
  | .writing _ _, .raises => s.place i .cleaning
  | .cleaning, .goes _ => s.place i (if (s.disk.names .tmp).isSome then .removing else .done none)
  | .cleaning, .raises => s.place i (.done none)
  | .removing, .goes _ => { s with disk := s.disk.unlink .tmp }.place i (.done none)
  | .removing, .raises => s.place i (.done none)
  | .reading fd, .goes _ => s.place i (.done (some (s.disk.files fd)))
  | .reading _, .raises => s.place i (.done none)
  | .done _, _ => s

def FileStore.step (calls : ι → FileCall B) (s : FileStore ι B) (e : ι × FileOperation) :
    Option (FileStore ι B × Unit) :=
  some (s.advance calls e.1 e.2, ())

/-- The call has opened the temporary name and not yet returned. -/
def FilePhase.busy : FilePhase B → Bool
  | .writing _ _ | .cleaning | .removing => true
  | _ => false

/-- The call has done its writing and is in its clean-up. -/
def FilePhase.tidying : FilePhase B → Bool
  | .cleaning | .removing => true
  | _ => false

/-- The next operation of the call opens the temporary name. -/
def FilePhase.opens : FilePhase B → Bool
  | .creating => true
  | _ => false

/-- No call opens the temporary name while another cleans up after its own write. -/
def KeptApart (s : FileStore ι B) (e : ι × FileOperation) : Prop :=
  (s.progress e.1).opens = true → ∀ j, (s.progress j).tidying = false

instance [Fintype ι] (s : FileStore ι B) (e : ι × FileOperation) : Decidable (KeptApart s e) :=
  inferInstanceAs (Decidable (_ → ∀ _, _))

/-- The text of the last replacement, the initial one before the first. -/
def currentText (calls : ι → FileCall B) (initial : Option (List B)) (replaced : List ι) : Option (List B) :=
  (replaced.getLast?.map (fun i => (calls i).text)).or initial

end Steps

section Invariant

variable {ι B : Type} [DecidableEq ι] {calls : ι → FileCall B} {initial : Option (List B)} {s : FileStore ι B}
  {i : ι}

omit [DecidableEq ι] in
@[simp] theorem currentText_concat (replaced : List ι) (i : ι) :
    currentText calls initial (replaced ++ [i]) = some (calls i).text := by
  simp [currentText]

/-- A text that stood in the file at some moment, whole. -/
def Stood (calls : ι → FileCall B) (initial : Option (List B)) (replaced : List ι) (text : List B) : Prop :=
  ∃ past, past <+: replaced ∧ currentText calls initial past = some text

omit [DecidableEq ι] in
theorem Stood.concat {replaced : List ι} {text : List B} (stood : Stood calls initial replaced text) (i : ι) :
    Stood calls initial (replaced ++ [i]) text := by
  obtain ⟨past, before, whole⟩ := stood
  exact ⟨past, before.trans (List.prefix_append _ _), whole⟩

/-- What a call may rely on at each stage. -/
def FilePhase.Fits (calls : ι → FileCall B) (initial : Option (List B)) (disk : Disk Place B) (replaced : List ι)
    (i : ι) : FilePhase B → Prop
  | .writing fd left => disk.names .tmp = some fd ∧ disk.files fd ++ left = (calls i).text
  | .reading fd => fd < disk.next ∧ disk.names .tmp ≠ some fd ∧ Stood calls initial replaced (disk.files fd)
  | .done (some text) => Stood calls initial replaced text
  | _ => True

/-- The file is whole, every call is where it should be, and at most one has the temporary name. -/
structure StoreSound (calls : ι → FileCall B) (initial : Option (List B)) (s : FileStore ι B) : Prop where
  whole : s.disk.read .path = currentText calls initial s.replaced
  apart : ∀ fd, s.disk.names .path = some fd → s.disk.names .tmp ≠ some fd
  fits : ∀ i, (s.progress i).Fits calls initial s.disk s.replaced i
  single : ∀ i j, (s.progress i).busy = true → (s.progress j).busy = true → i = j

omit [DecidableEq ι] in
/-- What a call that is not writing relies on outlasts a change to a file it does not read. -/
theorem FilePhase.Fits.carry {disk disk' : Disk Place B} {replaced replaced' : List ι} {phase : FilePhase B}
    (fits : phase.Fits calls initial disk replaced i) (still : ∀ fd left, phase ≠ .writing fd left)
    (reads : ∀ fd, fd < disk.next → disk.names .tmp ≠ some fd →
      fd < disk'.next ∧ disk'.names .tmp ≠ some fd ∧ disk'.files fd = disk.files fd)
    (grows : ∀ text, Stood calls initial replaced text → Stood calls initial replaced' text) :
    phase.Fits calls initial disk' replaced' i := by
  cases phase with
  | writing fd left => exact absurd rfl (still fd left)
  | reading fd =>
    obtain ⟨known, unnamed, stood⟩ := fits
    obtain ⟨known', unnamed', same⟩ := reads fd known unnamed
    refine ⟨known', unnamed', ?_⟩
    rw [same]
    exact grows _ stood
  | done found =>
    cases found with
    | none => trivial
    | some text => exact grows text fits
  | idle => trivial
  | creating => trivial
  | cleaning => trivial
  | removing => trivial

omit [DecidableEq ι] in
theorem sound_start (calls : ι → FileCall B) (initial : Option (List B)) :
    StoreSound calls initial (FileStore.start initial) where
  whole := by
    rw [FileStore.start, Disk.read_holding]
    rfl
  apart := by
    intro fd _ same
    rw [FileStore.start, Disk.names_holding_of_ne initial (by decide)] at same
    cases same
  fits _ := trivial
  single i j busy := nomatch busy

/-- One call moves on, and the others may still rely on what they relied on. -/
theorem StoreSound.moves (sound : StoreSound calls initial s) {disk : Disk Place B} {replaced : List ι} {phase : FilePhase B}
    (whole : disk.read .path = currentText calls initial replaced)
    (apart : ∀ fd, disk.names .path = some fd → disk.names .tmp ≠ some fd)
    (own : phase.Fits calls initial disk replaced i)
    (others : ∀ j, j ≠ i → (s.progress j).Fits calls initial disk replaced j)
    (busy : phase.busy = true → ∀ j, (s.progress j).busy = true → j = i) :
    StoreSound calls initial ⟨disk, Function.update s.progress i phase, replaced⟩ where
  whole := whole
  apart := apart
  fits j := by
    dsimp only
    by_cases same : j = i
    · subst same
      rw [Function.update_self]
      exact own
    · rw [Function.update_of_ne same]
      exact others j same
  single j k := by
    dsimp only
    intro first second
    by_cases here : j = i
    · by_cases there : k = i
      · exact here.trans there.symm
      · rw [here, Function.update_self] at first
        rw [Function.update_of_ne there] at second
        exact here.trans (busy first k second).symm
    · rw [Function.update_of_ne here] at first
      by_cases there : k = i
      · rw [there, Function.update_self] at second
        exact (busy second j first).trans there.symm
      · rw [Function.update_of_ne there] at second
        exact sound.single j k first second

theorem StoreSound.place (sound : StoreSound calls initial s) {phase : FilePhase B}
    (fits : phase.Fits calls initial s.disk s.replaced i)
    (busy : phase.busy = true → (s.progress i).busy = true) : StoreSound calls initial (s.place i phase) :=
  sound.moves sound.whole sound.apart fits (fun j _ => sound.fits j)
    fun now j other => sound.single j i other (busy now)

omit [DecidableEq ι] in
/-- While a call has the temporary name, no other is writing. -/
theorem StoreSound.not_writing (sound : StoreSound calls initial s) (busy : (s.progress i).busy = true) {j : ι}
    (other : j ≠ i) (fd : Nat) (left : List B) : s.progress j ≠ .writing fd left := by
  intro writing
  exact other (sound.single j i (by rw [writing]; rfl) busy)

/-- The temporary name is free, and nobody is cleaning up. -/
theorem StoreSound.create (sound : StoreSound calls initial s) (free : s.disk.names .tmp = none)
    (quiet : ∀ j, (s.progress j).tidying = false) :
    StoreSound calls initial
      ({ s with disk := s.disk.create .tmp }.place i (.writing s.disk.next (calls i).text)) := by
  have path : (s.disk.create .tmp).names .path = s.disk.names .path := Disk.names_create_of_ne _ (by decide)
  have old : ∀ fd, fd < s.disk.next → (s.disk.create .tmp).files fd = s.disk.files fd :=
    fun fd known => Disk.files_create _ _ (Nat.ne_of_lt known)
  have nobody : ∀ j fd left, s.progress j ≠ .writing fd left := by
    intro j fd left writing
    have named := sound.fits j
    rw [writing] at named
    have taken := named.1
    rw [free] at taken
    cases taken
  refine sound.moves ?_ ?_ ?_ (fun j _ => ?_) fun _ j busy => ?_
  · rw [← sound.whole, Disk.read, Disk.read, path]
    cases found : s.disk.names .path with
    | none => rfl
    | some fd => exact congrArg some (old fd (s.disk.known _ _ found))
  · intro fd found same
    rw [path] at found
    rw [Disk.names_create_self, Option.some.injEq] at same
    have known := s.disk.known _ _ found
    omega
  · exact ⟨Disk.names_create_self _ _, by rw [Disk.files_create_self, List.nil_append]⟩
  · refine (sound.fits j).carry (nobody j) (fun fd known _ => ⟨Nat.lt_succ_of_lt known, ?_, old fd known⟩) fun _ => id
    rw [Disk.names_create_self, ne_eq, Option.some.injEq]
    omega
  · cases phase : s.progress j with
    | writing fd left => exact absurd phase (nobody j fd left)
    | cleaning => have told := quiet j; rw [phase] at told; cases told
    | removing => have told := quiet j; rw [phase] at told; cases told
    | idle => rw [phase] at busy; cases busy
    | creating => rw [phase] at busy; cases busy
    | reading fd => rw [phase] at busy; cases busy
    | done found => rw [phase] at busy; cases busy

/-- A write goes to the temporary file, which nobody else has open. -/
theorem StoreSound.append (sound : StoreSound calls initial s) {fd : Nat} {left : List B}
    (writing : s.progress i = .writing fd left) (blocks : Nat) :
    StoreSound calls initial
      ({ s with disk := s.disk.append fd (left.take blocks) }.place i (.writing fd (left.drop blocks))) := by
  have busy : (s.progress i).busy = true := by rw [writing]; rfl
  have own := sound.fits i
  rw [writing] at own
  obtain ⟨named, text⟩ := own
  have others : ∀ k, k ≠ fd → (s.disk.append fd (left.take blocks)).files k = s.disk.files k :=
    fun k other => Disk.files_append_of_ne _ _ other
  refine sound.moves ?_ sound.apart ⟨named, ?_⟩ ?_ fun _ j other => sound.single j i other busy
  · rw [← sound.whole, Disk.read, Disk.read]
    cases found : s.disk.names .path with
    | none => simp [Disk.append, found]
    | some k =>
      have differs : k ≠ fd := fun same => sound.apart k found (same ▸ named)
      simp only [Disk.append, found, Option.map_some]
      exact congrArg some (others k differs)
  · rw [Disk.files_append_self, List.append_assoc, List.take_append_drop]
    exact text
  · intro j other
    refine (sound.fits j).carry (sound.not_writing busy other) (fun k known unnamed => ⟨known, unnamed, ?_⟩) fun _ => id
    exact others k fun same => unnamed (same ▸ named)

/-- A call that has the temporary name frees it, with every file as it was. -/
theorem StoreSound.frees (sound : StoreSound calls initial s) (busy : (s.progress i).busy = true) {disk : Disk Place B}
    {replaced : List ι} {phase : FilePhase B} (gone : disk.names .tmp = none) (files : disk.files = s.disk.files)
    (next : disk.next = s.disk.next) (whole : disk.read .path = currentText calls initial replaced)
    (own : phase.Fits calls initial disk replaced i)
    (grows : ∀ text, Stood calls initial s.replaced text → Stood calls initial replaced text) :
    StoreSound calls initial ⟨disk, Function.update s.progress i phase, replaced⟩ := by
  have unnamed : ∀ fd, disk.names .tmp ≠ some fd := by
    intro fd same
    rw [gone] at same
    cases same
  refine sound.moves whole (fun fd _ => unnamed fd) own (fun j other => ?_) fun _ j other => sound.single j i other busy
  exact (sound.fits j).carry (sound.not_writing busy other)
    (fun fd known _ => ⟨next ▸ known, unnamed fd, congrFun files fd⟩) grows

/-- The whole text is in the temporary file, and the file is replaced by it. -/
theorem StoreSound.replace (sound : StoreSound calls initial s) {fd : Nat} (writing : s.progress i = .writing fd []) :
    StoreSound calls initial
      ({ s with disk := s.disk.rename .tmp .path, replaced := s.replaced ++ [i] }.place i .cleaning) := by
  have busy : (s.progress i).busy = true := by rw [writing]; rfl
  have own := sound.fits i
  rw [writing] at own
  obtain ⟨named, text⟩ := own
  rw [List.append_nil] at text
  refine sound.frees busy (Disk.names_rename_source named) (Disk.files_rename ..) (Disk.next_rename ..) ?_ trivial
    fun _ stood => stood.concat i
  rw [currentText_concat, Disk.read, Disk.names_rename_target named (by decide), Disk.files_rename, Option.map_some, text]

/-- Cleaning up removes the call's own temporary file: nobody else is writing. -/
theorem StoreSound.remove (sound : StoreSound calls initial s) (removing : s.progress i = .removing) :
    StoreSound calls initial ({ s with disk := s.disk.unlink .tmp }.place i (.done none)) := by
  have busy : (s.progress i).busy = true := by rw [removing]; rfl
  have path : (s.disk.unlink .tmp).names .path = s.disk.names .path := Disk.names_unlink_of_ne _ (by decide)
  refine sound.frees busy (Disk.names_unlink_self ..) rfl rfl ?_ trivial fun _ => id
  rw [← sound.whole, Disk.read, Disk.read, path]
  rfl

theorem StoreSound.advance (sound : StoreSound calls initial s) {op : FileOperation} (orderly : KeptApart s (i, op)) :
    StoreSound calls initial (s.advance calls i op) := by
  have ends : ∀ found : Option (List B), (∀ text ∈ found, Stood calls initial s.replaced text) →
      StoreSound calls initial (s.place i (.done found)) := by
    intro found stood
    refine sound.place ?_ nofun
    cases found with
    | none => trivial
    | some text => exact stood text rfl
  have fails : StoreSound calls initial (s.place i (.done none)) := ends none nofun
  unfold FileStore.advance
  cases phase : s.progress i with
  | idle =>
    cases op with
    | raises => exact fails
    | goes blocks =>
      dsimp only
      split
      · exact sound.place trivial nofun
      · exact sound.place trivial nofun
      · next _ fd _ found =>
        refine sound.place ⟨s.disk.known _ _ found, sound.apart fd found, s.replaced, List.prefix_rfl, ?_⟩ nofun
        rw [← sound.whole, Disk.read, found, Option.map_some]
  | creating =>
    cases op with
    | raises => exact fails
    | goes blocks =>
      dsimp only
      split
      · exact fails
      · next absent => exact sound.create (by simpa using absent) (orderly (by rw [phase]; rfl))
  | writing fd left =>
    have busy : (s.progress i).busy = true := by rw [phase]; rfl
    cases op with
    | raises => cases left <;> exact sound.place trivial fun _ => busy
    | goes blocks =>
      cases left with
      | nil =>
        dsimp only
        split
        · exact sound.replace phase
        · exact sound.place trivial fun _ => busy
      | cons b left => exact sound.append phase blocks
  | cleaning =>
    have busy : (s.progress i).busy = true := by rw [phase]; rfl
    cases op with
    | raises => exact fails
    | goes blocks =>
      dsimp only
      split
      · exact sound.place trivial fun _ => busy
      · exact fails
  | removing =>
    cases op with
    | raises => exact fails
    | goes blocks => exact sound.remove phase
  | reading fd =>
    cases op with
    | raises => exact fails
    | goes blocks =>
      refine ends _ fun text same => ?_
      cases same
      have own := sound.fits i
      rw [phase] at own
      exact own.2.2
  | done found => exact sound

end Invariant

/-- Whatever saves and loads of a file are interleaved, operation by operation, and whichever of
them raise: if no call opens the temporary name while another is cleaning up, the file holds at
every moment the whole text of the last save that replaced it, and every load that read it got a
text that stood in it whole. -/
theorem json_file_whole {ι B : Type} [DecidableEq ι] (calls : ι → FileCall B) (initial : Option (List B))
    (es : List (ι × FileOperation)) (final : FileStore ι B) (outs : List Unit)
    (orderly : Always (FileStore.step calls) (fun s e _ _ => KeptApart s e) (FileStore.start initial) es)
    (ran : run (FileStore.step calls) (FileStore.start initial) es = some (final, outs)) :
    final.disk.read .path = currentText calls initial final.replaced ∧
      ∀ i text, final.progress i = .done (some text) → Stood calls initial final.replaced text := by
  have sound := run_history_of_always (I := fun _ s => StoreSound calls initial s) ?_ es [] _ final outs
    (sound_start calls initial) orderly ran
  · refine ⟨sound.whole, fun i text finished => ?_⟩
    have told := sound.fits i
    rw [finished] at told
    exact told
  · intro past s e mid o sound taken orderly
    cases taken
    exact sound.advance orderly

section Threads

/-- Two saves and a load of one file, from three threads. -/
def twoSaves : Fin 3 → FileCall Nat
  | 0 => .save [1, 1]
  | 1 => .save [2, 2]
  | 2 => .load [0]

/-- Three saves of one file. -/
def threeSaves : Fin 3 → FileCall Nat := fun i => .save [i.val + 1, i.val + 1]

/-- The second save is turned away while the first is writing; a load that opened the file before
the replacement reads the old text after it. -/
def turnedAway : List (Fin 3 × FileOperation) :=
  [(0, .goes 0), (0, .goes 0), (1, .goes 0), (0, .goes 1), (1, .goes 0), (2, .goes 0), (0, .goes 1), (0, .goes 0),
    (0, .goes 0), (2, .goes 0)]

theorem turnedAway_whole :
    ∃ final outs, run (FileStore.step twoSaves) (FileStore.start (some [7])) turnedAway = some (final, outs) ∧
      final.replaced = [0] ∧ final.disk.read .path = currentText twoSaves (some [7]) final.replaced ∧
      ∀ i text, final.progress i = .done (some text) → Stood twoSaves (some [7]) final.replaced text := by
  have ran : ∃ final outs, run (FileStore.step twoSaves) (FileStore.start (some [7])) turnedAway =
      some (final, outs) ∧ final.replaced = [0] := by
    decide +kernel
  obtain ⟨final, outs, reached, replaced⟩ := ran
  exact ⟨final, outs, reached, replaced,
    json_file_whole twoSaves (some [7]) turnedAway final outs (by decide +kernel) reached⟩

/-- The clean-up of one save removes the temporary file of the next, whose rename then takes the
half-written file of a third. -/
example : ∃ final outs, run (FileStore.step threeSaves) (FileStore.start (some [7]))
    [(0, .goes 0), (0, .goes 0), (0, .goes 2), (0, .goes 0), (1, .goes 0), (1, .goes 0), (0, .goes 0),
      (0, .goes 0), (1, .goes 2), (2, .goes 0), (2, .goes 0), (2, .goes 1), (1, .goes 0)] = some (final, outs) ∧
    final.disk.read .path = some [3] := by
  decide +kernel

end Threads

end Flod.Stage2
