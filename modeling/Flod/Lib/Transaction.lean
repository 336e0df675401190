/-! A database connection that opens transactions by itself. Changes to the layout take effect
where they are made: at once outside a transaction, with it inside one. Changes to rows open a
transaction, and a rollback undoes what the open one did and nothing else. -/

namespace Flod.Lib

/-- What is stored, and what an open transaction sees instead. -/
structure SqlConnection (D : Type) where
  stored : D
  working : Option D

namespace SqlConnection

variable {D T : Type}

def opened (stored : D) : SqlConnection D := ⟨stored, none⟩

/-- What a query on the connection sees. -/
def contents (c : SqlConnection D) : D := c.working.getD c.stored

def alterLayout (c : SqlConnection D) (change : D → D) : SqlConnection D :=
  match c.working with
  | none => { c with stored := change c.stored }
  | some seen => { c with working := some (change seen) }

def alterRows (c : SqlConnection D) (change : D → D) : SqlConnection D :=
  { c with working := some (change c.contents) }

def commit (c : SqlConnection D) : SqlConnection D := opened c.contents

def rollback (c : SqlConnection D) : SqlConnection D := opened c.stored

/-- Statements in order, up to the first that fails: because it cannot be executed, or because
it is the one given. The flag says whether all were executed. -/
def script [DecidableEq T] (exec : T → SqlConnection D → Option (SqlConnection D)) (fails : Option T) :
    SqlConnection D → List T → SqlConnection D × Bool
  | c, [] => (c, true)
  | c, t :: rest =>
      if fails = some t then (c, false)
      else
        match exec t c with
        | none => (c, false)
        | some next => script exec fails next rest

variable (c : SqlConnection D) (d : D) (change : D → D)

@[simp] theorem contents_opened : (opened d).contents = d := rfl

@[simp] theorem alterLayout_opened : (opened d).alterLayout change = opened (change d) := rfl

@[simp] theorem rollback_opened : (opened d).rollback = opened d := rfl

@[simp] theorem commit_opened : (opened d).commit = opened d := rfl

@[simp] theorem contents_alterRows : (c.alterRows change).contents = change c.contents := rfl

@[simp] theorem contents_alterLayout : (c.alterLayout change).contents = change c.contents := by
  unfold alterLayout contents
  cases c.working <;> rfl

@[simp] theorem rollback_alterRows : (c.alterRows change).rollback = c.rollback := rfl

/-- Inside a transaction a change of the layout is undone like any other. -/
@[simp] theorem rollback_alterLayout_alterRows (layout : D → D) :
    ((c.alterRows change).alterLayout layout).rollback = c.rollback := rfl

end SqlConnection

end Flod.Lib
