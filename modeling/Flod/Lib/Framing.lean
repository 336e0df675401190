import Mathlib.Data.List.Basic

/-! Fixed-size frames laid end to end on a stream. Encodings are over arbitrary
messages and symbols; all that is known of them is their common length. -/

namespace Flod.Lib

variable {M B : Type} {encode : M → List B} {size : Nat}

/-- The stream is whole frames, then fewer symbols than a frame has. -/
def Framed (encode : M → List B) (size : Nat) (messages : List M) (tail stream : List B) : Prop :=
  stream = messages.flatMap encode ++ tail ∧ tail.length < size

theorem framed_nil (positive : 0 < size) : Framed encode size [] [] [] := ⟨rfl, positive⟩

theorem Framed.front (fixed : ∀ m, (encode m).length = size) {messages : List M}
    {tail frame rest : List B} (framed : Framed encode size messages tail (frame ++ rest))
    (whole : frame.length = size) :
    ∃ m later, messages = m :: later ∧ frame = encode m ∧ Framed encode size later tail rest := by
  obtain ⟨split, short⟩ := framed
  cases messages with
  | nil =>
    have longer := congrArg List.length split
    simp only [List.flatMap_nil, List.nil_append, List.length_append] at longer
    omega
  | cons m later =>
    rw [List.flatMap_cons, List.append_assoc] at split
    obtain ⟨same, remains⟩ := List.append_inj split (whole.trans (fixed m).symm)
    exact ⟨m, later, rfl, same, remains, short⟩

theorem Framed.concat {messages : List M} {stream : List B}
    (framed : Framed encode size messages [] stream) (m : M) :
    Framed encode size (messages ++ [m]) [] (stream ++ encode m) :=
  ⟨by simp [framed.1], framed.2⟩

/-- Symbols short of a frame written after whole frames are a tail. -/
theorem Framed.cut {messages : List M} {stream : List B}
    (framed : Framed encode size messages [] stream) {part : List B} (short : part.length < size) :
    Framed encode size messages part (stream ++ part) :=
  ⟨by simp [framed.1], short⟩

end Flod.Lib
