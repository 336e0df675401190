import Flod.Lib.Substitution
import Mathlib.Data.List.TakeWhile

/-! Patterns written as sequences of characters and repetitions, with the texts they stand for. -/

namespace Flod.Lib.Substitution

variable {α : Type}

/-- A piece of a pattern: one character, or as many of a set as stand there and at least one. -/
inductive Segment (α : Type) where
  | one (c : α)
  | oneOrMore (set : α → Bool)

/-- The texts a sequence of segments stands for. -/
inductive Matches : List (Segment α) → List α → Prop
  | nil : Matches [] []
  | one {segments : List (Segment α)} {word : List α} (c : α) :
      Matches segments word → Matches (.one c :: segments) (c :: word)
  | oneOrMore {segments : List (Segment α)} {set : α → Bool} {run word : List α} :
      run ≠ [] → (∀ x ∈ run, set x = true) → Matches segments word → Matches (.oneOrMore set :: segments) (run ++ word)

/-- A repetition is followed by a character it does not take, if by anything. -/
def Separated : List (Segment α) → Prop
  | [] => True
  | .one _ :: rest => Separated rest
  | [.oneOrMore _] => True
  | .oneOrMore set :: .one c :: rest => set c = false ∧ Separated rest
  | .oneOrMore _ :: .oneOrMore _ :: _ => False

theorem matches_literal {segments : List (Segment α)} {word : List α} (matched : Matches segments word) :
    ∀ lead : List α, Matches (lead.map .one ++ segments) (lead ++ word)
  | [] => matched
  | c :: lead => .one c (matches_literal matched lead)

theorem separated_literal (segments : List (Segment α)) (separated : Separated segments) :
    ∀ word : List α, Separated (word.map .one ++ segments)
  | [] => separated
  | _ :: word => separated_literal segments separated word

theorem eq_of_matches_literal : ∀ {word other : List α}, Matches (word.map .one) other → other = word
  | [], _, .nil => rfl
  | c :: _, _, .one _ more => congrArg (c :: ·) (eq_of_matches_literal more)

variable [DecidableEq α]

def Segment.width : Segment α → List α → Option Nat
  | .one c, text => if text.head? = some c then some 1 else none
  | .oneOrMore set, text => if text.takeWhile set = [] then none else some (text.takeWhile set).length

def widthOf : List (Segment α) → List α → Option Nat
  | [], _ => some 0
  | s :: rest, text => (s.width text).bind fun n => (widthOf rest (text.drop n)).map (n + ·)

theorem Segment.width_pos {s : Segment α} {text : List α} {n : Nat} (found : s.width text = some n) : 0 < n := by
  cases s with
  | one c =>
    simp only [Segment.width] at found
    split at found
    · cases found
      exact Nat.one_pos
    · cases found
  | oneOrMore set =>
    simp only [Segment.width] at found
    split at found
    · cases found
    · rename_i here
      cases found
      exact List.length_pos_of_ne_nil here

def Pattern.ofSegments (segments : List (Segment α)) (nonempty : segments ≠ []) : Pattern α where
  width := widthOf segments
  positive := by
    intro text n found
    cases segments with
    | nil => exact absurd rfl nonempty
    | cons s rest =>
      obtain ⟨m, first, others⟩ := Option.bind_eq_some_iff.mp found
      obtain ⟨k, -, rfl⟩ := Option.map_eq_some_iff.mp others
      have some_width := s.width_pos first
      omega

theorem matches_of_widthOf : ∀ {segments : List (Segment α)} {text : List α} {n : Nat},
    widthOf segments text = some n → Matches segments (text.take n)
  | [], text, n, found => by
    cases found
    exact .nil
  | s :: segments, text, n, found => by
    obtain ⟨m, first, others⟩ := Option.bind_eq_some_iff.mp found
    obtain ⟨k, more, rfl⟩ := Option.map_eq_some_iff.mp others
    have again := matches_of_widthOf more
    cases s with
    | one c =>
      simp only [Segment.width] at first
      split at first
      · rename_i here
        cases first
        obtain ⟨rest, rfl⟩ := List.head?_eq_some_iff.mp here
        rw [Nat.add_comm, List.take_succ_cons]
        exact .one c again
      · cases first
    | oneOrMore set =>
      simp only [Segment.width] at first
      split at first
      · cases first
      · rename_i here
        cases first
        have run_eq : text.take (text.takeWhile set).length = text.takeWhile set :=
          List.prefix_iff_eq_take.mp (List.takeWhile_prefix set) |>.symm
        rw [List.take_add, run_eq]
        exact .oneOrMore here (fun x mem => List.mem_takeWhile_imp mem) again

/-- In a separated sequence the repetitions have no choice: the match is the longest there is, which
is also the one that backtracking finds first. -/
theorem widthOf_longest {segments : List (Segment α)} {word : List α} (matched : Matches segments word)
    (separated : Separated segments) (rest : List α) :
    ∃ n, widthOf segments (word ++ rest) = some n ∧ word.length ≤ n := by
  induction matched with
  | nil => exact ⟨0, rfl, Nat.le_refl 0⟩
  | @one segments word c _ ih =>
    obtain ⟨n, found, longer⟩ := ih separated
    refine ⟨1 + n, ?_, by rw [List.length_cons]; omega⟩
    simp [widthOf, Segment.width, found]
  | @oneOrMore segments set run word nonempty inSet others ih =>
    have passes : (run ++ word ++ rest).takeWhile set = run ++ (word ++ rest).takeWhile set := by
      rw [List.append_assoc, List.takeWhile_append_of_pos inSet]
    have some_run : run ++ (word ++ rest).takeWhile set ≠ [] := by simp [nonempty]
    cases others with
    | nil =>
      refine ⟨(run ++ ([] ++ rest).takeWhile set).length, ?_, by simp⟩
      simp only [widthOf, Segment.width, passes, if_neg some_run, Option.bind_some, Option.map_some, Nat.add_zero]
    | @one segments word c _ =>
      obtain ⟨n, found, longer⟩ := ih separated.2
      have stops : (c :: word ++ rest).takeWhile set = [] := List.takeWhile_cons_of_neg (by simp [separated.1])
      rw [stops, List.append_nil] at passes
      refine ⟨run.length + n, ?_, by rw [List.length_append]; omega⟩
      have dropped : (run ++ c :: word ++ rest).drop run.length = c :: word ++ rest := by
        rw [List.append_assoc, List.drop_left]
      rw [widthOf, Segment.width, passes, if_neg nonempty, Option.bind_some, dropped, found, Option.map_some]
    | oneOrMore _ _ _ => exact separated.elim

/-- A literal text. -/
def Pattern.literal (word : List α) (nonempty : word ≠ []) : Pattern α :=
  .ofSegments (word.map .one) (by simpa using nonempty)

theorem width_literal {word : List α} (nonempty : word ≠ []) (text : List α) :
    (Pattern.literal word nonempty).width (word ++ text) ≠ none := by
  obtain ⟨n, found, -⟩ := widthOf_longest (matches_literal .nil word) (separated_literal [] trivial word) text
  rw [List.append_nil, List.append_nil] at found
  exact Option.ne_none_iff_exists'.mpr ⟨n, found⟩

/-- A pattern that ends in a repetition takes all it can. -/
theorem greedy_ofSegments {set : α → Bool} : ∀ (segments : List (Segment α)) {text rest : List α} {c : α} {n : Nat},
    widthOf (segments ++ [.oneOrMore set]) text = some n → text.drop n = c :: rest → set c = false
  | [], text, rest, c, n, found, rest_eq => by
    obtain ⟨m, first, others⟩ := Option.bind_eq_some_iff.mp found
    cases others
    simp only [Segment.width] at first
    split at first
    · cases first
    · cases first
      have dropped : text.dropWhile set = c :: rest := by
        have parts : text.takeWhile set ++ text.dropWhile set = text := List.takeWhile_append_dropWhile
        calc text.dropWhile set
          _ = (text.takeWhile set ++ text.dropWhile set).drop (text.takeWhile set).length := List.drop_left.symm
          _ = text.drop (text.takeWhile set).length := by rw [parts]
          _ = c :: rest := rest_eq
      have head := List.head?_dropWhile_not set text
      rw [dropped] at head
      simpa using head
  | s :: segments, text, rest, c, n, found, rest_eq => by
    obtain ⟨m, -, others⟩ := Option.bind_eq_some_iff.mp found
    obtain ⟨k, more, rfl⟩ := Option.map_eq_some_iff.mp others
    have rest_eq' : (text.drop m).drop k = c :: rest := by
      rw [List.drop_drop]
      exact rest_eq
    exact greedy_ofSegments segments more rest_eq'

end Flod.Lib.Substitution
