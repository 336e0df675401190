import Mathlib.Data.List.Infix
import Mathlib.Logic.Relation

/-! Replacing the matches of a pattern in a text, from left to right and without overlaps. An
occurrence that cannot overlap the marker stands in the result only if the scan has kept it, and
then the scan can be followed back from it. -/

namespace Flod.Lib.Substitution

variable {α : Type}

/-- How long the match at the front of a text is, if there is one. -/
structure Pattern (α : Type) where
  width : List α → Option Nat
  positive : ∀ {text : List α} {n : Nat}, width text = some n → 0 < n

/-- The first `skip` characters belong to the match taken last. -/
def replaceFrom (p : Pattern α) (marker : List α) : Nat → List α → List α
  | _, [] => []
  | skip + 1, _ :: rest => replaceFrom p marker skip rest
  | 0, c :: rest =>
    match p.width (c :: rest) with
    | none => c :: replaceFrom p marker 0 rest
    | some n => marker ++ replaceFrom p marker (n - 1) rest

def replace (p : Pattern α) (marker text : List α) : List α := replaceFrom p marker 0 text

theorem replaceFrom_keep {p : Pattern α} {marker rest : List α} {c : α} (missed : p.width (c :: rest) = none) :
    replaceFrom p marker 0 (c :: rest) = c :: replaceFrom p marker 0 rest := by
  rw [replaceFrom, missed]

theorem replaceFrom_take {p : Pattern α} {marker rest : List α} {c : α} {n : Nat}
    (found : p.width (c :: rest) = some n) :
    replaceFrom p marker 0 (c :: rest) = marker ++ replaceFrom p marker (n - 1) rest := by
  rw [replaceFrom, found]

theorem replaceFrom_skip (p : Pattern α) (marker : List α) : ∀ (skip : Nat) (text : List α),
    replaceFrom p marker skip text = replaceFrom p marker 0 (text.drop skip)
  | 0, _ => rfl
  | _ + 1, [] => by simp [replaceFrom]
  | skip + 1, _ :: rest => replaceFrom_skip p marker skip rest

section Overlap

/-- No occurrence of a word can share a character with an occurrence of the marker. -/
def Apart (word marker : List α) : Prop :=
  ¬ marker <:+: word ∧ ¬ word <:+: marker ∧ (∀ s ∈ word.tails, s ≠ [] → ¬ s <+: marker) ∧
    ∀ s ∈ word.inits, s ≠ [] → ¬ s <:+ marker

instance [DecidableEq α] (word marker : List α) : Decidable (Apart word marker) := inferInstanceAs (Decidable (_ ∧ _))

theorem Apart.nonempty {word marker : List α} (apart : Apart word marker) : word ≠ [] := by
  intro empty
  apply apart.2.1
  rw [empty]
  exact List.nil_infix

/-- What is left of a word does not begin inside a marker. -/
theorem Apart.not_begun {word marker : List α} (apart : Apart word marker) {v rest after : List α}
    (tail : v <:+ word) (ne : v ≠ []) : marker ++ rest ≠ v ++ after := by
  intro same
  rcases List.append_eq_append_iff.mp same with ⟨more, longer, -⟩ | ⟨more, longer, -⟩
  · have within : marker <+: v := ⟨more, longer.symm⟩
    exact apart.1 (within.isInfix.trans tail.isInfix)
  · exact apart.2.2.1 v ((List.mem_tails v word).mpr tail) ne ⟨more, longer.symm⟩

/-- A word does not begin in the end of a marker. -/
theorem Apart.not_ending {word marker : List α} (apart : Apart word marker) {x rest after : List α}
    (tail : x <:+ marker) (ne : x ≠ []) : x ++ rest ≠ word ++ after := by
  intro same
  rcases List.append_eq_append_iff.mp same with ⟨more, longer, -⟩ | ⟨more, longer, -⟩
  · exact apart.2.2.2 x ((List.mem_inits x word).mpr ⟨more, longer.symm⟩) ne tail
  · have within : word <+: x := ⟨more, longer.symm⟩
    exact apart.2.1 (within.isInfix.trans tail.isInfix)

end Overlap

section Scan

variable {p : Pattern α} {marker text : List α}

/-- The scan of a text has written something and has something left to read. -/
inductive Reaches (p : Pattern α) (marker text : List α) : List α → List α → Prop
  | start : Reaches p marker text [] text
  | keep {out : List α} {c : α} {rest : List α} :
      Reaches p marker text out (c :: rest) → p.width (c :: rest) = none → Reaches p marker text (out ++ [c]) rest
  | take {out : List α} {c : α} {rest : List α} {n : Nat} :
      Reaches p marker text out (c :: rest) → p.width (c :: rest) = some n →
      Reaches p marker text (out ++ marker) ((c :: rest).drop n)

/-- A match ends where the scan goes on. -/
def Lands (p : Pattern α) (marker text rest : List α) : Prop :=
  ∃ out source n, Reaches p marker text out source ∧ p.width source = some n ∧ rest = source.drop n

theorem Reaches.suffix {out rest : List α} (reached : Reaches p marker text out rest) : rest <:+ text := by
  induction reached with
  | start => exact List.suffix_refl text
  | keep _ _ ih => exact (List.suffix_cons _ _).trans ih
  | take _ _ ih => exact (List.drop_suffix _ _).trans ih

theorem drop_width {c : α} {rest : List α} {n : Nat} (found : p.width (c :: rest) = some n) :
    (c :: rest).drop n = rest.drop (n - 1) := by
  have some_width := p.positive found
  obtain ⟨m, rfl⟩ : ∃ m, n = m + 1 := ⟨n - 1, by omega⟩
  rfl

/-- What the scan has written stands in the result, and what it has left is replaced behind it. -/
theorem Reaches.written {out rest : List α} (reached : Reaches p marker text out rest) :
    replace p marker text = out ++ replaceFrom p marker 0 rest := by
  induction reached with
  | start => rfl
  | keep _ missed ih => rw [ih, replaceFrom_keep missed, List.append_assoc, List.singleton_append]
  | take _ found ih => rw [ih, replaceFrom_take found, drop_width found, replaceFrom_skip, List.append_assoc]

/-- The scan keeps a stretch in which no match begins. -/
theorem Reaches.forward {out rest : List α} : ∀ {stretch : List α},
    Reaches p marker text out (stretch ++ rest) →
    (∀ v, v <:+ stretch → v ≠ [] → p.width (v ++ rest) = none) → Reaches p marker text (out ++ stretch) rest
  | [], reached, _ => by rwa [List.append_nil]
  | c :: stretch, reached, missed => by
    have here : p.width (c :: (stretch ++ rest)) = none := missed _ (List.suffix_refl _) (List.cons_ne_nil c stretch)
    have next := (reached.keep here).forward fun v tail ne => missed v (tail.trans (List.suffix_cons c stretch)) ne
    rwa [List.append_assoc, List.singleton_append] at next

section Unique

/-- One move of the scan, on what is written and what is left. -/
inductive Advances (p : Pattern α) (marker : List α) : List α × List α → List α × List α → Prop
  | keep {out : List α} {c : α} {rest : List α} :
      p.width (c :: rest) = none → Advances p marker (out, c :: rest) (out ++ [c], rest)
  | take {out : List α} {c : α} {rest : List α} {n : Nat} :
      p.width (c :: rest) = some n → Advances p marker (out, c :: rest) (out ++ marker, (c :: rest).drop n)

theorem advances_unique : Relator.RightUnique (Advances p marker) := by
  intro state left right first second
  cases first with
  | keep missed =>
    cases second with
    | keep _ => rfl
    | take found => cases missed.symm.trans found
  | take found =>
    cases second with
    | keep missed => cases missed.symm.trans found
    | take found' =>
      cases found.symm.trans found'
      rfl

theorem Reaches.advances {out rest : List α} (reached : Reaches p marker text out rest) :
    Relation.ReflTransGen (Advances p marker) ([], text) (out, rest) := by
  induction reached with
  | start => exact .refl
  | keep _ missed ih => exact ih.tail (.keep missed)
  | take _ found ih => exact ih.tail (.take found)

variable (marked : marker ≠ [])
include marked

theorem Advances.length_lt {state next : List α × List α} (moves : Advances p marker state next) :
    state.1.length < next.1.length := by
  have some_marker := List.length_pos_of_ne_nil marked
  cases moves with
  | keep _ => simp
  | take _ => simpa using some_marker

theorem advances_length_le {state later : List α × List α}
    (moves : Relation.ReflTransGen (Advances p marker) state later) : state.1.length ≤ later.1.length := by
  induction moves with
  | refl => exact le_rfl
  | tail _ last ih => exact ih.trans (last.length_lt marked).le

theorem eq_of_advances {state later : List α × List α}
    (moves : Relation.ReflTransGen (Advances p marker) state later) (same : state.1.length = later.1.length) :
    state = later := by
  rcases Relation.ReflTransGen.cases_head moves with here | ⟨next, first, others⟩
  · exact here
  · have longer := first.length_lt marked
    have more := advances_length_le marked others
    omega

/-- What is written tells where the scan is. -/
theorem Reaches.unique {out rest rest' : List α} (first : Reaches p marker text out rest)
    (second : Reaches p marker text out rest') : rest = rest' := by
  rcases Relation.ReflTransGen.total_of_right_unique advances_unique first.advances second.advances with on | on
  · exact congrArg Prod.snd (eq_of_advances marked on rfl)
  · exact (congrArg Prod.snd (eq_of_advances marked on rfl)).symm

end Unique

/-- A text in which no match begins is left as it is. -/
theorem replace_of_unmatched (unmatched : ∀ tail ∈ text.tails, p.width tail = none) :
    replace p marker text = text := by
  have began : Reaches p marker text [] (text ++ []) := by
    rw [List.append_nil]
    exact .start
  have done := began.forward fun v tail _ => by
    rw [List.append_nil]
    exact unmatched v ((List.mem_tails v text).mpr tail)
  rw [done.written, List.nil_append, replaceFrom, List.append_nil]

/-- Where the scan has come past a character, it has kept it or a match has ended behind it. -/
theorem Reaches.previous {out rest before : List α} {c : α} (reached : Reaches p marker text out rest)
    (stands : text = before ++ c :: rest) :
    (∃ earlier, out = earlier ++ [c] ∧ Reaches p marker text earlier (c :: rest) ∧ p.width (c :: rest) = none) ∨
      Lands p marker text rest := by
  cases reached with
  | start =>
    have longer := congrArg List.length stands
    simp only [List.length_append, List.length_cons] at longer
    omega
  | @keep earlier x _ held missed =>
    obtain ⟨front, text_eq⟩ := held.suffix
    have same : front ++ [x] ++ rest = before ++ [c] ++ rest := by simpa using text_eq.trans stands
    have x_eq : x = c := (List.append_inj' (List.append_cancel_right same) rfl).2 |> List.singleton_inj.mp
    subst x_eq
    exact .inl ⟨earlier, rfl, held, missed⟩
  | take held found => exact .inr ⟨_, _, _, held, found, rfl⟩

/-- The scan followed back over a stretch of the text: all of it was kept, or a match ended in it. -/
theorem Reaches.back {out rest before stretch : List α} (reached : Reaches p marker text out rest)
    (stands : text = before ++ stretch ++ rest) :
    (∃ earlier, out = earlier ++ stretch ∧ Reaches p marker text earlier (stretch ++ rest) ∧
        (stretch ≠ [] → p.width (stretch ++ rest) = none)) ∨
      ∃ front tail, stretch = front ++ tail ∧ front ≠ [] ∧ Lands p marker text (tail ++ rest) := by
  induction stretch using List.reverseRecOn generalizing out rest with
  | nil => exact .inl ⟨out, (List.append_nil out).symm, reached, fun ne => absurd rfl ne⟩
  | append_singleton stretch c ih =>
    have before_c : text = before ++ stretch ++ c :: rest := by simpa using stands
    have joined : stretch ++ [c] ++ rest = stretch ++ c :: rest := List.append_cons _ _ _ |>.symm
    rcases reached.previous before_c with ⟨earlier, rfl, held, missed⟩ | landed
    · rcases ih held before_c with ⟨first, rfl, kept, passed⟩ | ⟨front, tail, rfl, ne, landed⟩
      · refine .inl ⟨first, List.append_assoc _ _ _, joined ▸ kept, fun _ => joined ▸ ?_⟩
        cases stretch with
        | nil => exact missed
        | cons x xs => exact passed (List.cons_ne_nil x xs)
      · refine .inr ⟨front, tail ++ [c], List.append_assoc _ _ _, ne, ?_⟩
        rwa [← List.append_cons]
    · exact .inr ⟨stretch ++ [c], [], (List.append_nil _).symm, by simp, landed⟩

/-- No match stops before a character of a set. -/
def Greedy (p : Pattern α) (set : α → Bool) : Prop :=
  ∀ {text rest : List α} {c : α} {n : Nat}, p.width text = some n → text.drop n = c :: rest → set c = false

/-- A greedy match does not end in front of what it could have taken. -/
theorem Reaches.back_greedy {set : α → Bool} (greedy : Greedy p set) {out rest before stretch : List α} {c : α}
    (reached : Reaches p marker text out (c :: rest)) (stands : text = before ++ stretch ++ c :: rest)
    (inSet : ∀ x ∈ stretch ++ [c], set x = true) :
    ∃ earlier, out = earlier ++ stretch ∧ Reaches p marker text earlier (stretch ++ c :: rest) ∧
      (stretch ≠ [] → p.width (stretch ++ c :: rest) = none) := by
  rcases reached.back stands with kept | ⟨front, tail, rfl, -, landed⟩
  · exact kept
  · exfalso
    obtain ⟨written, source, n, -, found, rest_eq⟩ := landed
    cases tail with
    | nil =>
      have outside := greedy found rest_eq.symm
      exact Bool.false_ne_true (outside.symm.trans (inSet c (by simp)))
    | cons x tail =>
      have outside := greedy found rest_eq.symm
      exact Bool.false_ne_true (outside.symm.trans (inSet x (by simp)))

variable {word : List α} (apart : Apart word marker)
include apart

/-- The scan keeps what is written of a word at its front. -/
theorem kept_front : ∀ {v : List α}, v <:+ word → ∀ {rest after : List α}, replaceFrom p marker 0 rest = v ++ after →
    ∃ more, rest = v ++ more
  | [], _, rest, _, _ => ⟨rest, rfl⟩
  | c :: v, tail, [], after, written => by cases written
  | c :: v, tail, x :: rest, after, written => by
    cases found : p.width (x :: rest) with
    | none =>
      rw [replaceFrom_keep found] at written
      obtain ⟨rfl, others⟩ := List.cons.inj written
      obtain ⟨more, rfl⟩ := kept_front ((List.suffix_cons x v).trans tail) others
      exact ⟨more, rfl⟩
    | some n =>
      rw [replaceFrom_take found] at written
      exact absurd written (apart.not_begun tail (List.cons_ne_nil c v))

/-- Where a word apart from the marker is written, the scan has come to it and kept it. -/
theorem written_reached : ∀ (rest : List α) (skip : Nat) {out before after : List α},
    Reaches p marker text out (rest.drop skip) → replaceFrom p marker skip rest = before ++ word ++ after →
      ∃ more, Reaches p marker text (out ++ before) (word ++ more) ∧ p.width (word ++ more) = none
  | [], skip, out, before, after, _, written => by
    have empty : word = [] := by
      rw [replaceFrom] at written
      exact (List.append_eq_nil_iff.mp (List.append_eq_nil_iff.mp written.symm).1).2
    exact absurd empty apart.nonempty
  | c :: rest, skip + 1, out, before, after, reached, written => written_reached rest skip reached written
  | c :: rest, 0, out, before, after, reached, written => by
    cases found : p.width (c :: rest) with
    | none =>
      cases before with
      | nil =>
        obtain ⟨more, here⟩ := kept_front apart (List.suffix_refl word) written
        refine ⟨more, ?_, here ▸ found⟩
        rw [List.append_nil, ← here]
        exact reached
      | cons x before =>
        rw [replaceFrom_keep found] at written
        obtain ⟨rfl, others⟩ := List.cons.inj written
        have again := written_reached rest 0 (reached.keep found) others
        rwa [List.append_assoc] at again
    | some n =>
      have landed : Reaches p marker text (out ++ marker) (rest.drop (n - 1)) := by
        rw [← drop_width found]
        exact reached.take found
      rw [replaceFrom_take found, List.append_assoc] at written
      -- the word begins behind the marker: it cannot begin in it
      obtain ⟨gap, later, others⟩ : ∃ gap, before = marker ++ gap ∧
          replaceFrom p marker (n - 1) rest = gap ++ (word ++ after) := by
        rcases List.append_eq_append_iff.mp written with behind | ⟨gap, inside, others⟩
        · exact behind
        · cases gap with
          | nil => exact ⟨[], by rw [inside, List.append_nil, List.append_nil], others.symm⟩
          | cons x gap =>
            exact absurd others.symm (apart.not_ending ⟨before, inside.symm⟩ (List.cons_ne_nil x gap))
      rw [← List.append_assoc] at others
      have again := written_reached rest (n - 1) landed others
      rwa [later, ← List.append_assoc]

theorem replace_reached {before after : List α} (written : replace p marker text = before ++ word ++ after) :
    ∃ more, Reaches p marker text before (word ++ more) ∧ p.width (word ++ more) = none :=
  written_reached apart text 0 .start written

/-- Replacing makes no word that is apart from the marker. -/
theorem infix_of_replace (held : word <:+: replace p marker text) : word <:+: text := by
  obtain ⟨before, after, written⟩ := held
  obtain ⟨more, reached, -⟩ := replace_reached apart written.symm
  exact (List.prefix_append word more).isInfix.trans reached.suffix.isInfix

/-- A word that is matched wherever it stands is not left. -/
theorem not_infix_replace (matched : ∀ more, p.width (word ++ more) ≠ none) : ¬ word <:+: replace p marker text := by
  rintro ⟨before, after, written⟩
  obtain ⟨more, -, missed⟩ := replace_reached apart written.symm
  exact matched more missed

end Scan

end Flod.Lib.Substitution
