import Mathlib.Data.BitVec
import Mathlib.Data.List.Basic

/-! Longest-prefix matching over words: which leading bits agree, and a bounded set of
prefixes whose lookup finds the longest one that a key starts with. -/

namespace Flod.Lib

variable {w : Nat}

/-- The first `length` bits agree, counted from the most significant. -/
def AgreeTo (length : Nat) (x y : BitVec w) : Prop := ∀ i < length, x.getMsbD i = y.getMsbD i

instance (length : Nat) (x y : BitVec w) : Decidable (AgreeTo length x y) :=
  inferInstanceAs (Decidable (∀ i < length, x.getMsbD i = y.getMsbD i))

theorem AgreeTo.refl (length : Nat) (x : BitVec w) : AgreeTo length x x := fun _ _ => rfl

theorem agreeTo_width {x y : BitVec w} : AgreeTo w x y ↔ x = y := by
  refine ⟨fun agree => BitVec.eq_of_getMsbD_eq agree, ?_⟩
  rintro rfl
  exact AgreeTo.refl w x

theorem agreeTo_append {v : Nat} (high : BitVec v) (x y : BitVec w) (length : Nat) :
    AgreeTo (v + length) (high ++ x) (high ++ y) ↔ AgreeTo length x y := by
  constructor
  · intro agree i inside
    have bit := agree (v + i) (by omega)
    simpa [BitVec.getMsbD_append] using bit
  · intro agree i inside
    by_cases past : v ≤ i
    · simpa [BitVec.getMsbD_append, past] using agree (i - v) (by omega)
    · simp [BitVec.getMsbD_append, past]

structure PrefixTrie (w : Nat) where
  capacity : Nat
  entries : List (Nat × BitVec w)

namespace PrefixTrie

def empty (capacity : Nat) : PrefixTrie w := ⟨capacity, []⟩

/-- A prefix longer than a key is refused, one already present is overwritten, and a
new one needs room. -/
def insert (trie : PrefixTrie w) (length : Nat) (key : BitVec w) : Option (PrefixTrie w) :=
  if w < length then none
  else if trie.entries.any (fun e => e.1 == length && decide (AgreeTo length e.2 key)) then some trie
  else if trie.capacity ≤ trie.entries.length then none
  else some { trie with entries := trie.entries ++ [(length, key)] }

def insertAll (trie : PrefixTrie w) : List (Nat × BitVec w) → Option (PrefixTrie w)
  | [] => some trie
  | (length, key) :: rest => (trie.insert length key).bind (fun next => next.insertAll rest)

/-- The length of the longest stored prefix of a full-length key. -/
def longestMatch (trie : PrefixTrie w) (key : BitVec w) : Option Nat :=
  ((trie.entries.filter (fun e => decide (AgreeTo e.1 e.2 key))).map Prod.fst).max?

theorem longestMatch_isSome (trie : PrefixTrie w) (key : BitVec w) :
    (trie.longestMatch key).isSome ↔ ∃ e ∈ trie.entries, AgreeTo e.1 e.2 key := by
  rw [longestMatch, Option.isSome_iff_ne_none, ne_eq, List.max?_eq_none_iff]
  simp [List.filter_eq_nil_iff]

theorem insert_matches {trie next : PrefixTrie w} {length : Nat} {key : BitVec w}
    (inserted : trie.insert length key = some next) (other : BitVec w) :
    (∃ e ∈ next.entries, AgreeTo e.1 e.2 other) ↔
      (∃ e ∈ trie.entries, AgreeTo e.1 e.2 other) ∨ AgreeTo length key other := by
  unfold insert at inserted
  split at inserted
  · cases inserted
  · split at inserted
    next present =>
      cases inserted
      refine ⟨Or.inl, fun either => either.elim id fun new => ?_⟩
      obtain ⟨e, member, same⟩ := List.any_eq_true.mp present
      simp only [Bool.and_eq_true, beq_iff_eq, decide_eq_true_eq] at same
      obtain ⟨rfl, agree⟩ := same
      exact ⟨e, member, fun i inside => (agree i inside).trans (new i inside)⟩
    · split at inserted
      · cases inserted
      · cases inserted
        simp [or_and_right, exists_or]

theorem insertAll_matches {prefixes : List (Nat × BitVec w)} {trie next : PrefixTrie w}
    (inserted : trie.insertAll prefixes = some next) (other : BitVec w) :
    (∃ e ∈ next.entries, AgreeTo e.1 e.2 other) ↔
      (∃ e ∈ trie.entries, AgreeTo e.1 e.2 other) ∨ ∃ e ∈ prefixes, AgreeTo e.1 e.2 other := by
  induction prefixes generalizing trie with
  | nil =>
    cases inserted
    simp
  | cons first rest ih =>
    rcases first with ⟨length, key⟩
    obtain ⟨mid, one, more⟩ := Option.bind_eq_some_iff.mp inserted
    rw [ih more, insert_matches one other]
    simp [or_assoc]

/-- Short enough prefixes that are not too many all go in. -/
theorem insertAll_isSome {prefixes : List (Nat × BitVec w)} {trie : PrefixTrie w}
    (short : ∀ e ∈ prefixes, e.1 ≤ w) (room : trie.entries.length + prefixes.length ≤ trie.capacity) :
    (trie.insertAll prefixes).isSome := by
  induction prefixes generalizing trie with
  | nil => rfl
  | cons first rest ih =>
    rcases first with ⟨length, key⟩
    have fits : ¬ w < length := by
      have := short (length, key) List.mem_cons_self
      omega
    simp only [List.length_cons] at room
    have later : ∀ e ∈ rest, e.1 ≤ w := fun e member => short e (List.mem_cons_of_mem _ member)
    simp only [insertAll, insert, if_neg fits]
    split
    · exact ih later (by omega)
    · rw [if_neg (by omega)]
      exact ih later (by simp only [List.length_append, List.length_singleton]; omega)

end PrefixTrie

end Flod.Lib
