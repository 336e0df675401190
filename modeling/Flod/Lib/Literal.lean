import Flod.Lib.Segments

/-! Replacing one word wherever it stands. The occurrences of another word that it cannot overlap stay
as they are, so that what was said of their places in the text can be said of the result; and a part
that stands only within the word is gone with it. -/

namespace Flod.Lib.Substitution

variable {α : Type}

/-- Every occurrence of a part stands in the whole. -/
def StandsIn (whole part text : List α) : Prop :=
  ∀ before after, text = before ++ (part ++ after) →
    ∃ front back, whole = front ++ (part ++ back) ∧ front <:+ before ∧ back <+: after

/-- Two occurrences of a word do not overlap. -/
def NoOverlap (word text : List α) : Prop :=
  ∀ before gap after after', text = before ++ (word ++ after) → text = before ++ gap ++ (word ++ after') →
    gap ≠ [] → word.length ≤ gap.length

/-- Every occurrence of a word comes right after a lead. -/
def ComesAfter (lead word text : List α) : Prop :=
  ∀ before after, text = before ++ (word ++ after) → lead <:+ before

section Places

variable {whole part lead word text : List α}

theorem standsIn_of_places (places : ∀ i < text.length + 1, part <+: text.drop i → ∃ k < whole.length + 1,
      part <+: whole.drop k ∧ whole.take k <:+ text.take i ∧
        whole.drop (k + part.length) <+: text.drop (i + part.length)) : StandsIn whole part text := by
  rintro before after rfl
  have inside : before.length < (before ++ (part ++ after)).length + 1 := by
    rw [List.length_append]
    omega
  obtain ⟨k, -, ⟨back, there⟩, front, behind⟩ := places before.length inside
    (by rw [List.drop_left]; exact List.prefix_append part after)
  rw [List.take_left] at front
  rw [← List.drop_drop, ← there, List.drop_left, ← List.drop_drop, List.drop_left, List.drop_left] at behind
  exact ⟨whole.take k, back, by rw [there, List.take_append_drop], front, behind⟩

theorem noOverlap_of_places (places : ∀ i < text.length + 1, ∀ j < text.length + 1, word <+: text.drop i →
    word <+: text.drop j → i < j → i + word.length ≤ j) : NoOverlap word text := by
  rintro before gap after after' rfl again gap_ne
  have gap_pos := List.length_pos_of_ne_nil gap_ne
  have first : word <+: (before ++ (word ++ after)).drop before.length := by
    rw [List.drop_left]
    exact List.prefix_append word after
  have second : word <+: (before ++ (word ++ after)).drop (before ++ gap).length := by
    rw [again, List.drop_left]
    exact List.prefix_append word after'
  have fits := congrArg List.length again
  simp only [List.length_append] at fits second
  have apart := places before.length (by simp only [List.length_append]; omega) (before.length + gap.length)
    (by simp only [List.length_append]; omega) first second (by omega)
  omega

theorem comesAfter_of_places (places : ∀ i < text.length + 1, word <+: text.drop i → lead <:+ text.take i) :
    ComesAfter lead word text := by
  rintro before after rfl
  have inside : before.length < (before ++ (word ++ after)).length + 1 := by
    rw [List.length_append]
    omega
  have led := places before.length inside (by rw [List.drop_left]; exact List.prefix_append word after)
  rwa [List.take_left] at led

end Places

section Lead

variable {p : Pattern α} {set : α → Bool} {marker lead word text : List α} {c : α}
  (led : ComesAfter lead (c :: word) text) (greedy : Greedy p set) (inSet : ∀ x ∈ lead ++ [c], set x = true)
include led greedy inSet

/-- A greedy pattern that comes to a word has kept the lead it could have taken with it. -/
theorem ComesAfter.kept (lead_ne : lead ≠ []) {out more : List α}
    (reached : Reaches p marker text out (c :: word ++ more)) :
    lead <:+ out ∧ p.width (lead ++ (c :: word ++ more)) = none := by
  obtain ⟨before, text_eq⟩ := reached.suffix
  obtain ⟨front, rfl⟩ := led before more text_eq.symm
  obtain ⟨earlier, rfl, -, passed⟩ := Reaches.back_greedy greedy reached text_eq.symm inSet
  exact ⟨List.suffix_append earlier lead, passed lead_ne⟩

theorem ComesAfter.replaced (lead_ne : lead ≠ []) (apart : Apart (c :: word) marker) :
    ComesAfter lead (c :: word) (replace p marker text) := by
  intro before after written
  obtain ⟨more, reached, -⟩ := replace_reached apart (by rw [written, List.append_assoc])
  exact (led.kept greedy inSet lead_ne reached).1

end Lead

variable [DecidableEq α] {value marker whole part word text : List α} {nonempty : value ≠ []}

/-- Where a match of a word ends, the word stands. -/
theorem literal_lands {rest : List α} (landed : Lands (.literal value nonempty) marker text rest) :
    ∃ before, text = before ++ (value ++ rest) := by
  obtain ⟨out, source, n, reached, found, rfl⟩ := landed
  obtain ⟨before, rfl⟩ := reached.suffix
  have taken : source.take n = value := eq_of_matches_literal (matches_of_widthOf found)
  exact ⟨before, by rw [← taken, List.take_append_drop]⟩

section Apart

variable (clear : Apart word value)
include clear

/-- No match begins in a word that is apart from what is matched. -/
theorem Apart.not_matched {v rest : List α} (tail : v <:+ word) (ne : v ≠ []) :
    (Pattern.literal value nonempty).width (v ++ rest) = none := by
  by_contra found
  obtain ⟨n, found⟩ := Option.ne_none_iff_exists'.mp found
  have taken : (v ++ rest).take n = value := eq_of_matches_literal (matches_of_widthOf found)
  have again : value ++ (v ++ rest).drop n = v ++ rest := by rw [← taken, List.take_append_drop]
  exact clear.not_begun tail ne again

/-- And none ends in it. -/
theorem Apart.not_lands {before front rest : List α} (start : front <+: word) (ne : front ≠ [])
    (stands : text = before ++ (front ++ rest)) : ¬ Lands (.literal value nonempty) marker text rest := by
  intro landed
  obtain ⟨other, text_eq⟩ := literal_lands landed
  have same : other ++ value = before ++ front := by
    rw [stands, ← List.append_assoc, ← List.append_assoc] at text_eq
    exact (List.append_cancel_right text_eq).symm
  rcases List.append_eq_append_iff.mp same with ⟨x, -, value_eq⟩ | ⟨x, -, front_eq⟩
  · exact clear.2.2.2 front ((List.mem_inits front word).mpr start) ne ⟨x, value_eq.symm⟩
  · have within : value <:+ front := ⟨x, front_eq.symm⟩
    exact clear.1 (within.isInfix.trans start.isInfix)

theorem Apart.forward {out front back rest : List α} (split : word = front ++ back)
    (reached : Reaches (.literal value nonempty) marker text out (word ++ rest)) :
    Reaches (.literal value nonempty) marker text (out ++ front) (back ++ rest) := by
  rw [split, List.append_assoc] at reached
  refine reached.forward fun v tail ne => ?_
  rw [← List.append_assoc]
  apply clear.not_matched
  · obtain ⟨before, rfl⟩ := tail
    exact ⟨before, by rw [split, List.append_assoc]⟩
  · simp [ne]

/-- The scan that comes to a part of such a word has come to the word. -/
theorem Apart.back {out before front rest : List α} (start : front <+: word)
    (reached : Reaches (.literal value nonempty) marker text out rest) (stands : text = before ++ (front ++ rest)) :
    ∃ earlier, out = earlier ++ front ∧ Reaches (.literal value nonempty) marker text earlier (front ++ rest) := by
  rcases reached.back (by rw [stands, List.append_assoc]) with ⟨earlier, out_eq, kept, -⟩ | ⟨v, tail, rfl, ne, landed⟩
  · exact ⟨earlier, out_eq, kept⟩
  · have begins : v <+: word := (List.prefix_append v tail).trans start
    have stands' : text = before ++ (v ++ (tail ++ rest)) := by rw [stands, List.append_assoc]
    exact absurd landed (clear.not_lands begins ne stands')

end Apart

/-- Replacing a word leaves a part in a whole that it cannot overlap. -/
theorem StandsIn.replaced (stands : StandsIn whole part text) (clear : Apart whole value)
    (apart : Apart part marker) : StandsIn whole part (replace (.literal value nonempty) marker text) := by
  intro written after result
  obtain ⟨more, reached, -⟩ := replace_reached apart (by rw [result, List.append_assoc])
  obtain ⟨before, text_eq⟩ := reached.suffix
  obtain ⟨front, back, whole_eq, ⟨first, rfl⟩, ⟨rest, rfl⟩⟩ := stands before more text_eq.symm
  have begins : front <+: whole := ⟨part ++ back, whole_eq.symm⟩
  obtain ⟨earlier, rfl, come⟩ := clear.back begins reached (by rw [← text_eq, List.append_assoc])
  have whole_next : Reaches (.literal value nonempty) marker text earlier (whole ++ rest) := by
    rw [whole_eq, List.append_assoc, List.append_assoc]
    exact come
  have past := clear.forward (List.append_nil whole).symm whole_next
  refine ⟨front, back, whole_eq, List.suffix_append earlier front, ?_⟩
  have whole_written := past.written
  rw [result, whole_eq] at whole_written
  simp only [List.append_assoc, List.nil_append, List.append_cancel_left_eq] at whole_written
  rw [whole_written]
  exact List.prefix_append back _

/-- Replacing a word does not push together occurrences of another that it cannot overlap. -/
theorem NoOverlap.replaced (separate : NoOverlap word text) (clear : Apart word value) (apart : Apart word marker)
    (marked : marker ≠ []) : NoOverlap word (replace (.literal value nonempty) marker text) := by
  intro written gap after after' result again gap_ne
  by_contra short
  rw [result] at again
  -- the gap is a beginning of the first occurrence, which the scan has kept up to the second
  obtain ⟨tail, word_eq⟩ : ∃ tail, word = gap ++ tail := by
    rw [List.append_assoc, List.append_cancel_left_eq] at again
    rcases List.append_eq_append_iff.mp again with ⟨x, gap_eq, -⟩ | ⟨x, word_eq, -⟩
    · rw [gap_eq, List.length_append] at short
      omega
    · exact ⟨x, word_eq⟩
  obtain ⟨more, first, -⟩ := replace_reached apart (by rw [result, List.append_assoc])
  obtain ⟨more', second, -⟩ := replace_reached apart (by rw [result, again, ← List.append_assoc])
  have same : tail ++ more = word ++ more' := (clear.forward word_eq first).unique marked second
  obtain ⟨before, text_eq⟩ := first.suffix
  have overlapping : text = before ++ gap ++ (word ++ more') := by
    rw [← same, ← text_eq, word_eq, List.append_assoc, List.append_assoc]
  exact short (separate before gap more more' text_eq.symm overlapping gap_ne)

/-- A match of a word does not end inside another occurrence of the word. -/
theorem NoOverlap.not_lands {nonempty : word ≠ []} (separate : NoOverlap word text) {before front back rest : List α}
    (split : word = front ++ back) (front_ne : front ≠ []) (back_ne : back ≠ [])
    (stands : text = before ++ (word ++ rest)) : ¬ Lands (.literal word nonempty) marker text (back ++ rest) := by
  intro landed
  obtain ⟨other, again⟩ := literal_lands landed
  have joined : other ++ word = before ++ front := by
    have both : other ++ word ++ (back ++ rest) = before ++ front ++ (back ++ rest) := by
      rw [List.append_assoc, ← again, stands, split]
      simp only [List.append_assoc]
    exact List.append_cancel_right both
  have front_pos := List.length_pos_of_ne_nil front_ne
  have back_pos := List.length_pos_of_ne_nil back_ne
  have lengths := congrArg List.length joined
  have parts := congrArg List.length split
  simp only [List.length_append] at lengths parts
  obtain ⟨gap, before_eq⟩ : other <+: before :=
    List.prefix_of_prefix_length_le ⟨word, joined⟩ (List.prefix_append before front) (by omega)
  have distance := congrArg List.length before_eq
  rw [List.length_append] at distance
  have gap_ne : gap ≠ [] := by
    apply List.ne_nil_of_length_pos
    omega
  have second : text = other ++ gap ++ (word ++ rest) := by rw [before_eq, stands]
  have far := separate other gap (back ++ rest) rest again second gap_ne
  omega

/-- A part that stands only in a word, whose occurrences do not overlap, is gone with the word. -/
theorem StandsIn.gone {nonempty : whole ≠ []} (stands : StandsIn whole part text) (separate : NoOverlap whole text)
    (apart : Apart part marker) : ¬ part <:+: replace (.literal whole nonempty) marker text := by
  rintro ⟨written, after, result⟩
  obtain ⟨more, reached, missed⟩ := replace_reached apart result.symm
  obtain ⟨before, text_eq⟩ := reached.suffix
  obtain ⟨front, back, whole_eq, ⟨first, rfl⟩, ⟨rest, rfl⟩⟩ := stands before more text_eq.symm
  have here : front ++ (part ++ (back ++ rest)) = whole ++ rest := by
    rw [whole_eq, List.append_assoc, List.append_assoc]
  have hit : (Pattern.literal whole nonempty).width (front ++ (part ++ (back ++ rest))) ≠ none := by
    rw [here]
    exact width_literal nonempty rest
  rcases reached.back text_eq.symm with ⟨-, -, -, passed⟩ | ⟨v, tail, rfl, v_ne, landed⟩
  · cases front with
    | nil => exact hit missed
    | cons c front => exact hit (passed (List.cons_ne_nil c front))
  · have split : whole = v ++ (tail ++ (part ++ back)) := by rw [whole_eq, List.append_assoc]
    have remains : tail ++ (part ++ back) ≠ [] := by simp [apart.nonempty]
    have there : text = first ++ (whole ++ rest) := by rw [← here, ← text_eq, List.append_assoc]
    have inside : Lands (.literal whole nonempty) marker text (tail ++ (part ++ back) ++ rest) := by
      rw [List.append_assoc, List.append_assoc]
      exact landed
    exact separate.not_lands split v_ne remains there inside

end Flod.Lib.Substitution
