import Mathlib.Logic.Function.Basic

/-! A directory and the files its names lead to. A file is written through a handle and outlives
its name; renaming moves a name onto another in one step, so that whoever looks the other up
finds the one file or the other. -/

namespace Flod.Lib

/-- A file, and the temporary name beside it under which a new one is written. -/
inductive Place where
  | path
  | tmp
  deriving DecidableEq, Repr

/-- Files are numbered in the order of their creation. -/
structure Disk (N B : Type) where
  names : N → Option Nat
  files : Nat → List B
  next : Nat
  known : ∀ n k, names n = some k → k < next

namespace Disk

variable {N B : Type} [DecidableEq N]

/-- A directory in which one name leads to a file, or none does. -/
def holding (n : N) : Option (List B) → Disk N B
  | none => ⟨fun _ => none, fun _ => [], 0, nofun⟩
  | some text =>
      ⟨fun m => if m = n then some 0 else none, fun _ => text, 1, fun m k found => by
        split at found
        · cases found
          exact Nat.one_pos
        · cases found⟩

/-- The whole of what a name leads to. -/
def read (d : Disk N B) (n : N) : Option (List B) := (d.names n).map d.files

/-- A new file under the name, with nothing in it. -/
def create (d : Disk N B) (n : N) : Disk N B where
  names := Function.update d.names n (some d.next)
  files := Function.update d.files d.next []
  next := d.next + 1
  known m k found := by
    by_cases same : m = n
    · rw [same, Function.update_self, Option.some.injEq] at found
      omega
    · rw [Function.update_of_ne same] at found
      exact Nat.lt_succ_of_lt (d.known m k found)

def append (d : Disk N B) (k : Nat) (blocks : List B) : Disk N B :=
  { d with files := Function.update d.files k (d.files k ++ blocks) }

/-- What the first name leads to is found under the second from now on, if it leads anywhere. -/
def rename (d : Disk N B) (source target : N) : Disk N B :=
  match found : d.names source with
  | none => d
  | some file =>
      { d with
        names := Function.update (Function.update d.names target (some file)) source none
        known := by
          intro m k named
          by_cases moved : m = source
          · rw [moved, Function.update_self] at named
            cases named
          · rw [Function.update_of_ne moved] at named
            by_cases here : m = target
            · rw [here, Function.update_self, Option.some.injEq] at named
              exact named ▸ d.known source file found
            · rw [Function.update_of_ne here] at named
              exact d.known m k named }

def unlink (d : Disk N B) (n : N) : Disk N B where
  names := Function.update d.names n none
  files := d.files
  next := d.next
  known m k found := by
    by_cases same : m = n
    · rw [same, Function.update_self] at found
      cases found
    · rw [Function.update_of_ne same] at found
      exact d.known m k found

variable {d : Disk N B} {n m source target : N} {k file : Nat}

theorem read_holding (n : N) (text : Option (List B)) : (holding n text).read n = text := by
  cases text with
  | none => rfl
  | some text => simp [holding, read]

theorem names_holding_of_ne (text : Option (List B)) (other : m ≠ n) : (holding n text).names m = none := by
  cases text with
  | none => rfl
  | some text => simp [holding, other]

@[simp] theorem names_create_self (d : Disk N B) (n : N) : (d.create n).names n = some d.next :=
  Function.update_self ..

theorem names_create_of_ne (d : Disk N B) (other : m ≠ n) : (d.create n).names m = d.names m :=
  Function.update_of_ne other ..

theorem files_create (d : Disk N B) (n : N) (old : k ≠ d.next) : (d.create n).files k = d.files k :=
  Function.update_of_ne old ..

@[simp] theorem files_create_self (d : Disk N B) (n : N) : (d.create n).files d.next = [] :=
  Function.update_self ..

omit [DecidableEq N] in
theorem files_append_of_ne (d : Disk N B) (blocks : List B) (other : k ≠ file) :
    (d.append file blocks).files k = d.files k :=
  Function.update_of_ne other ..

omit [DecidableEq N] in
@[simp] theorem files_append_self (d : Disk N B) (k : Nat) (blocks : List B) :
    (d.append k blocks).files k = d.files k ++ blocks :=
  Function.update_self ..

@[simp] theorem files_rename (d : Disk N B) (source target : N) : (d.rename source target).files = d.files := by
  unfold rename
  split <;> rfl

@[simp] theorem next_rename (d : Disk N B) (source target : N) : (d.rename source target).next = d.next := by
  unfold rename
  split <;> rfl

theorem names_rename (found : d.names source = some file) :
    (d.rename source target).names =
      Function.update (Function.update d.names target (some file)) source none := by
  unfold rename
  split
  · next none => rw [found] at none; cases none
  · next other same => rw [found] at same; cases same; rfl

theorem names_rename_target (found : d.names source = some file) (differs : target ≠ source) :
    (d.rename source target).names target = some file := by
  rw [names_rename found, Function.update_of_ne differs, Function.update_self]

theorem names_rename_source (found : d.names source = some file) : (d.rename source target).names source = none := by
  rw [names_rename found, Function.update_self]

@[simp] theorem names_unlink_self (d : Disk N B) (n : N) : (d.unlink n).names n = none := Function.update_self ..

theorem names_unlink_of_ne (d : Disk N B) (other : m ≠ n) : (d.unlink n).names m = d.names m :=
  Function.update_of_ne other ..

end Disk

end Flod.Lib
