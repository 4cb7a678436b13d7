import Mathlib.Tactic.Common
import QueryBinding.Proofs.Literal.Parity

/-! Literals of joined texts. A text with an even number of apostrophes leaves no literal
open, so if no apostrophe follows that would be taken for a doubled one, the literals of
both texts are those of the first and then those of the second, which stand further
behind. -/

namespace QueryBinding.Literal

/-- The same place in a text that begins `n` characters further behind. -/
def Mode.later (n : ℕ) : Mode → Mode
  | .gap => .gap
  | .inside start => .inside (start + n)
  | .closing start => .closing (start + n)

/-- A literal that may go on is over where no apostrophe follows. -/
theorem spansFrom_closing {rest : List Char} (h : rest.head? ≠ some '\'') (start offset : ℕ) :
    spansFrom (.closing start) offset rest = ⟨start, offset⟩ :: spansFrom .gap offset rest := by
  cases rest with
  | nil => rfl
  | cons c rest =>
    have hc : c ≠ '\'' := fun hc => h (congrArg some hc)
    simp [spansFrom, hc]

theorem spansFrom_append {m : Mode} {cs rest : List Char}
    (hm : (cs.count '\'' + m.parity) % 2 = 0) (hr : rest.head? ≠ some '\'') (offset : ℕ) :
    spansFrom m offset (cs ++ rest) =
      spansFrom m offset cs ++ spansFrom .gap (offset + cs.length) rest := by
  induction cs generalizing m offset with
  | nil =>
    cases m with
    | gap => rfl
    | inside start => simp [Mode.parity] at hm
    | closing start => exact spansFrom_closing hr start offset
  | cons c cs ih =>
    have hlen : offset + (c :: cs).length = offset + 1 + cs.length := by simp; omega
    rw [hlen, List.cons_append]
    -- every apostrophe that is read changes the parity of the mode
    by_cases hc : c = '\''
    · subst hc
      rw [List.count_cons_self] at hm
      cases m with
      | gap => exact ih (m := .inside offset) (by simp only [Mode.parity] at hm ⊢; omega) _
      | inside start => exact ih (m := .closing start) (by simp only [Mode.parity] at hm ⊢; omega) _
      | closing start => exact ih (m := .inside start) (by simp only [Mode.parity] at hm ⊢; omega) _
    · rw [List.count_cons_of_ne hc] at hm
      cases m with
      | gap => simpa [spansFrom, hc] using ih (m := .gap) hm (offset + 1)
      | inside start => simpa [spansFrom, hc] using ih (m := .inside start) hm (offset + 1)
      | closing start => simpa [spansFrom, hc] using ih (m := .gap) hm (offset + 1)

theorem spansFrom_add (n : ℕ) (m : Mode) (offset : ℕ) (cs : List Char) :
    spansFrom (m.later n) (offset + n) cs = (spansFrom m offset cs).map (Span.shift n) := by
  induction cs generalizing m offset with
  | nil => cases m <;> simp [spansFrom, Mode.later, Span.shift]
  | cons c cs ih =>
    have hgap := ih .gap (offset + 1)
    have hinside := fun start => ih (.inside start) (offset + 1)
    have hclosing := fun start => ih (.closing start) (offset + 1)
    simp only [Mode.later, Nat.add_right_comm _ 1 n] at hgap hinside hclosing
    by_cases hc : c = '\'' <;> cases m <;>
      simp [spansFrom, Mode.later, Span.shift, hc, hgap, hinside, hclosing]

/-- Behind an even number of apostrophes another character parts the literals. -/
theorem spans_append_cons {cs : List Char} {c : Char} (h : cs.count '\'' % 2 = 0) (hc : c ≠ '\'')
    (rest : List Char) :
    spans (cs ++ c :: rest) = spans cs ++ (spans rest).map (Span.shift (cs.length + 1)) := by
  have hhead : (c :: rest).head? ≠ some '\'' := by simpa using hc
  have hshift := spansFrom_add (cs.length + 1) .gap 0 rest
  rw [Mode.later, Nat.zero_add] at hshift
  rw [spans, spansFrom_append (m := .gap) h hhead, Nat.zero_add, spansFrom, if_neg hc, hshift]
  rfl

end QueryBinding.Literal
