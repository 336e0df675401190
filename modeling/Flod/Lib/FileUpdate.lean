import Flod.Lib.Run
import Mathlib.Logic.Function.Basic
import Mathlib.Data.Fintype.Pi

/-! Requests that read a file, compute from what they read and replace the file. No lock is
held in between, so requests interleave at every read and replacement, and either may fail.
Where nothing fails and no two requests on one file overlap, the outcome is that of the
requests one after the other. -/

namespace Flod.Lib

/-- A request: its file, and what it answers and saves, if anything, given what it read. -/
structure Request {K : Type} (C : K → Type) (A : Type) where
  file : K
  body : C file → A × Option (C file)

/-- How far a request has come. It creates a file it does not find; an answer of none is an
exception. -/
inductive Progress (C A : Type) where
  | waiting
  | creating
  | saving (answer : A) (content : C)
  | done (answer : Option A)

/-- The request has read its file and will replace it. -/
def Progress.busy {C A : Type} : Progress C A → Bool
  | .waiting => false
  | .creating => true
  | .saving _ _ => true
  | .done _ => false

/-- Where a request stands once its body has run. -/
def Progress.ofResult {C A : Type} (result : A × Option C) : Progress C A :=
  match result.2 with
  | none => .done (some result.1)
  | some content => .saving result.1 content

structure FileState {K ι A : Type} {C : K → Type} (requests : ι → Request C A) where
  files : (k : K) → Option (C k)
  progress : (i : ι) → Progress (C (requests i).file) A

namespace FileState

variable {K ι A : Type} [DecidableEq K] [DecidableEq ι] {C : K → Type} {requests : ι → Request C A}

/-- Nothing has been read yet. -/
def start (requests : ι → Request C A) (files : (k : K) → Option (C k)) : FileState requests :=
  ⟨files, fun _ => .waiting⟩

def place (s : FileState requests) (i : ι) (progress : Progress (C (requests i).file) A) :
    FileState requests :=
  { s with progress := Function.update s.progress i progress }

def write (s : FileState requests) (k : K) (content : C k) : FileState requests :=
  { s with files := Function.update s.files k (some content) }

/-- The next file operation of a request, which succeeds or fails. A file that cannot be read
counts as the default; one that cannot be created is an exception, one that cannot be
replaced is passed over in silence. -/
def advance (initial : (k : K) → C k) (s : FileState requests) (e : ι × Bool) : FileState requests :=
  match s.progress e.1 with
  | .waiting =>
      if e.2 then
        match s.files (requests e.1).file with
        | none => s.place e.1 .creating
        | some content => s.place e.1 (.ofResult ((requests e.1).body content))
      else s.place e.1 (.ofResult ((requests e.1).body (initial (requests e.1).file)))
  | .creating =>
      if e.2 then
        (s.write (requests e.1).file (initial (requests e.1).file)).place e.1
          (.ofResult ((requests e.1).body (initial (requests e.1).file)))
      else s.place e.1 (.done none)
  | .saving answer content =>
      if e.2 then (s.write (requests e.1).file content).place e.1 (.done (some answer))
      else s.place e.1 (.done (some answer))
  | .done _ => s

def step (initial : (k : K) → C k) (s : FileState requests) (e : ι × Bool) :
    Option (FileState requests × Unit) :=
  some (s.advance initial e, ())

/-- No two requests on one file are between their read and their replacement. -/
def Exclusive (s : FileState requests) : Prop :=
  ∀ i j, i ≠ j → (requests i).file = (requests j).file →
    ¬ ((s.progress i).busy = true ∧ (s.progress j).busy = true)

instance [Fintype ι] (s : FileState requests) : Decidable s.Exclusive :=
  inferInstanceAs (Decidable (∀ i j, i ≠ j → (requests i).file = (requests j).file →
    ¬ ((s.progress i).busy = true ∧ (s.progress j).busy = true)))

end FileState

section

variable {K ι A : Type} [DecidableEq K] {C : K → Type}

/-- What each file stands for, the default where it is missing. -/
def contents (initial : (k : K) → C k) (files : (k : K) → Option (C k)) (k : K) : C k :=
  (files k).getD (initial k)

theorem contents_write (initial : (k : K) → C k) (files : (k : K) → Option (C k)) (k : K) (content : C k) :
    contents initial (Function.update files k (some content)) =
      Function.update (contents initial files) k content := by
  funext other
  by_cases same : other = k
  · subst same
    simp [contents]
  · simp [contents, same]

theorem contents_create {initial : (k : K) → C k} {files : (k : K) → Option (C k)} {k : K}
    (missing : files k = none) :
    contents initial (Function.update files k (some (initial k))) = contents initial files := by
  rw [contents_write, Function.update_eq_self_iff]
  simp [contents, missing]

variable (requests : ι → Request C A)

/-- One request run by itself. -/
def serve (store : (k : K) → C k) (i : ι) : (k : K) → C k :=
  Function.update store (requests i).file
    (((requests i).body (store (requests i).file)).2.getD (store (requests i).file))

/-- Requests run one after the other. -/
def replay (store : (k : K) → C k) (log : List ι) : (k : K) → C k :=
  log.foldl (serve requests) store

theorem replay_concat (store : (k : K) → C k) (log : List ι) (i : ι) :
    replay requests store (log ++ [i]) = serve requests (replay requests store log) i := by
  simp [replay]

/-- Where a request stands agrees with the log: its answer is the one given there, and what
it is about to save was computed from what its file still is. -/
def Fits (initial before : (k : K) → C k) (log : List ι) (files : (k : K) → Option (C k)) (i : ι) :
    Progress (C (requests i).file) A → Prop
  | .waiting => True
  | .creating => files (requests i).file = none
  | .saving answer content =>
      (requests i).body (contents initial files (requests i).file) = (answer, some content)
  | .done answer => ∃ earlier later, log = earlier ++ i :: later ∧
      answer = some ((requests i).body (replay requests before earlier (requests i).file)).1

variable {requests} {initial before : (k : K) → C k} {log : List ι} {files : (k : K) → Option (C k)}
  {i : ι} {progress : Progress (C (requests i).file) A}

theorem Fits.concat (fits : Fits requests initial before log files i progress) (j : ι) :
    Fits requests initial before (log ++ [j]) files i progress := by
  cases progress with
  | waiting => trivial
  | creating => exact fits
  | saving answer content => exact fits
  | done answer =>
    obtain ⟨earlier, later, rfl, given⟩ := fits
    exact ⟨earlier, later ++ [j], by simp, given⟩

/-- Writing a file leaves every request that is not using it where it was. -/
theorem Fits.write (fits : Fits requests initial before log files i progress) {k : K} (content : C k)
    (unused : (requests i).file = k → progress.busy = false) :
    Fits requests initial before log (Function.update files k (some content)) i progress := by
  have apart : progress.busy = true → (requests i).file ≠ k := by
    intro busy same
    rw [unused same] at busy
    cases busy
  cases progress with
  | waiting => trivial
  | creating => exact (Function.update_of_ne (apart rfl) _ _).trans fits
  | saving answer saved =>
    rw [Fits, contents_write, Function.update_of_ne (apart rfl)]
    exact fits
  | done answer => exact fits

end

namespace FileState

variable {K ι A : Type} [DecidableEq K] [DecidableEq ι] {C : K → Type} {requests : ι → Request C A}

/-- The files are those of the logged requests run one after the other. -/
structure Linear (initial before : (k : K) → C k) (log : List ι) (s : FileState requests) : Prop where
  value : contents initial s.files = replay requests before log
  fits : ∀ i, Fits requests initial before log s.files i (s.progress i)

variable {initial before : (k : K) → C k} {log : List ι} {s : FileState requests} {i : ι}

theorem Linear.of_others {progress : Progress (C (requests i).file) A}
    (value : contents initial s.files = replay requests before log)
    (others : ∀ j, j ≠ i → Fits requests initial before log s.files j (s.progress j))
    (self : Fits requests initial before log s.files i progress) :
    Linear initial before log (s.place i progress) where
  value := value
  fits := by
    intro j
    by_cases same : j = i
    · subst same
      simpa [place] using self
    · simpa [place, same] using others j same

/-- A request whose body has run on what its file is: it is logged at once if it saves nothing. -/
theorem Linear.place_result (value : contents initial s.files = replay requests before log)
    (others : ∀ j, j ≠ i → Fits requests initial before log s.files j (s.progress j)) :
    ∃ log, Linear initial before log
      (s.place i (.ofResult ((requests i).body (contents initial s.files (requests i).file)))) := by
  cases result : (requests i).body (contents initial s.files (requests i).file) with
  | mk answer saved =>
    cases saved with
    | some content => exact ⟨log, .of_others value others result⟩
    | none =>
      have kept : contents initial s.files = replay requests before (log ++ [i]) := by
        rw [replay_concat, ← value, serve, result]
        exact (Function.update_eq_self _ _).symm
      refine ⟨log ++ [i], .of_others kept (fun j other => (others j other).concat i) ⟨log, [], rfl, ?_⟩⟩
      rw [← value, result]

theorem advance_linear (linear : Linear initial before log s) (exclusive : s.Exclusive) (i : ι) :
    ∃ log, Linear initial before log (s.advance initial (i, true)) := by
  have others : ∀ j, j ≠ i → Fits requests initial before log s.files j (s.progress j) :=
    fun j _ => linear.fits j
  have written : (s.progress i).busy = true → ∀ content j, j ≠ i →
      Fits requests initial before log (s.write (requests i).file content).files j (s.progress j) := by
    intro busy content j other
    apply (linear.fits j).write content
    intro same
    simpa [busy] using exclusive j i other same
  have self := linear.fits i
  cases stands : s.progress i with
  | waiting =>
    cases found : s.files (requests i).file with
    | none =>
      simp only [advance, stands, found, if_true]
      exact ⟨log, .of_others linear.value others found⟩
    | some content =>
      have read : contents initial s.files (requests i).file = content := by simp [contents, found]
      simp only [advance, stands, found, ← read, if_true]
      exact Linear.place_result linear.value others
  | creating =>
    rw [stands] at self written
    have missing : s.files (requests i).file = none := self
    have same : contents initial (s.write (requests i).file (initial (requests i).file)).files =
        contents initial s.files := contents_create missing
    have read : contents initial (s.write (requests i).file (initial (requests i).file)).files
        (requests i).file = initial (requests i).file := by
      rw [same]
      simp [contents, missing]
    have next := Linear.place_result (same.trans linear.value) (written rfl _)
    simp only [advance, stands, if_true]
    rw [read] at next
    exact next
  | saving answer content =>
    rw [stands] at self written
    have computed : (requests i).body (contents initial s.files (requests i).file) =
        (answer, some content) := self
    have saved : contents initial (s.write (requests i).file content).files =
        replay requests before (log ++ [i]) := by
      rw [replay_concat, ← linear.value, serve, computed]
      exact contents_write initial s.files _ content
    simp only [advance, stands, if_true]
    refine ⟨log ++ [i], .of_others saved (fun j other => (written rfl content j other).concat i) ?_⟩
    refine ⟨log, [], rfl, ?_⟩
    rw [← linear.value, computed]
  | done answer =>
    simp only [advance, stands]
    exact ⟨log, linear⟩

/-- Requests that never overlapped on a file and never met a failure: the files are those of
the requests run one after the other, and every answer is the one given there. -/
theorem run_linear {files : (k : K) → Option (C k)} {final : FileState requests} {os : List Unit}
    {es : List (ι × Bool)}
    (meets : Always (step initial) (fun _ e _ next => e.2 = true ∧ next.Exclusive)
      (start requests files) es)
    (ran : run (step initial) (start requests files) es = some (final, os)) :
    ∃ log, Linear initial (contents initial files) log final := by
  have kept : ∀ (past : List Unit) (s : FileState requests) e mid o,
      (s.Exclusive ∧ ∃ log, Linear initial (contents initial files) log s) →
      step initial s e = some (mid, o) → (e.2 = true ∧ mid.Exclusive) →
      mid.Exclusive ∧ ∃ log, Linear initial (contents initial files) log mid := by
    rintro past s ⟨i, ok⟩ mid o ⟨exclusive, log, linear⟩ taken ⟨rfl, next⟩
    simp only [step, Option.some.injEq, Prod.mk.injEq] at taken
    obtain ⟨rfl, -⟩ := taken
    exact ⟨next, advance_linear linear exclusive i⟩
  have unread : (start requests files).Exclusive := by
    intro i j _ _ both
    cases both.1
  have empty : Linear initial (contents initial files) [] (start requests files) :=
    ⟨rfl, fun _ => trivial⟩
  exact (run_history_of_always kept es [] _ final os ⟨unread, [], empty⟩ meets ran).2

end FileState

end Flod.Lib
