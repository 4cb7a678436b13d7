import Mathlib.Tactic.Common
import QueryBinding.Literal
import QueryBinding.Proofs.Token

/-! Literals and the parity of apostrophes. The literals of a text cover its
apostrophes and the offsets with an odd number of apostrophes before them, and no
other offsets. So whether an offset lies in a literal can be told from the
characters before it by counting alone. -/

namespace QueryBinding.Literal

open Token

/-- An apostrophe stands at the offset or an odd number of them before it, of
which `before` were read earlier. -/
def Enclosed (before : Nat) (cs : List Char) (k : Nat) : Prop :=
  k < cs.length ∧ (cs[k]? = some '\'' ∨ ((cs.take k).count '\'' + before) % 2 = 1)

/-- Where the literal at hand began. -/
def Mode.start? : Mode → Option Nat
  | .gap => none
  | .inside start => some start
  | .closing start => some start

/-- The parity of the apostrophes read so far. -/
def Mode.parity : Mode → Nat
  | .inside _ => 1
  | _ => 0

variable {cs : List Char}

theorem enclosed_nil (before k : Nat) : ¬ Enclosed before [] k := fun h => by simpa using h.1

theorem enclosed_succ {before k : Nat} {c : Char} :
    Enclosed before (c :: cs) (k + 1) ↔ Enclosed (before + [c].count '\'') cs k := by
  have hcount : ([c] ++ cs.take k).count '\'' = [c].count '\'' + (cs.take k).count '\'' :=
    List.count_append
  rw [List.singleton_append] at hcount
  have hsum : (c :: cs.take k).count '\'' + before =
      (cs.take k).count '\'' + (before + [c].count '\'') := by omega
  rw [Enclosed, Enclosed, List.take_succ_cons, hsum, List.getElem?_cons_succ, List.length_cons,
    Nat.add_lt_add_iff_right]

/-- The first character of a text is set apart. -/
theorem enclosed_cons {before offset i : Nat} {c : Char} :
    offset ≤ i ∧ Enclosed before (c :: cs) (i - offset) ↔
      (i = offset ∧ (c = '\'' ∨ before % 2 = 1)) ∨
        (offset + 1 ≤ i ∧ Enclosed (before + [c].count '\'') cs (i - (offset + 1))) := by
  rcases Nat.lt_trichotomy i offset with h | rfl | h
  · omega
  · have hpast : ¬ i + 1 ≤ i := Nat.not_succ_le_self i
    simp only [Enclosed, hpast, Nat.sub_self, Nat.le_refl, true_and, false_and, or_false,
      List.length_cons, Nat.zero_lt_succ, List.getElem?_cons_zero, Option.some.injEq,
      List.take_zero, List.count_nil, Nat.zero_add]
  · obtain ⟨k, rfl⟩ : ∃ k, i = offset + (k + 1) := ⟨i - (offset + 1), by omega⟩
    have hsub : offset + (k + 1) - (offset + 1) = k := by omega
    rw [Nat.add_sub_cancel_left, enclosed_succ, hsub]
    constructor
    · exact fun h => Or.inr ⟨by omega, h.2⟩
    · rintro (⟨he, -⟩ | h)
      · omega
      · exact ⟨by omega, h.2⟩

theorem enclosed_two {k : Nat} : Enclosed 2 cs k ↔ Enclosed 0 cs k := by
  rw [Enclosed, Enclosed, Nat.add_mod_right, Nat.add_zero]

theorem contains_natCast {start stop i : Nat} :
    (⟨start, stop⟩ : Span).contains i = true ↔ start ≤ i ∧ i < stop := by
  simp only [Span.contains, Bool.and_eq_true, decide_eq_true_eq]
  omega

/-- A scan in the middle of a text yields the literal at hand and those behind it. -/
theorem exists_mem_spansFrom_iff {m : Mode} {offset i : Nat} (hm : ∀ s ∈ m.start?, s ≤ offset) :
    (∃ s ∈ spansFrom m offset cs, s.contains i = true) ↔
      (∃ s ∈ m.start?, s ≤ i ∧ i < offset) ∨
        (offset ≤ i ∧ Enclosed m.parity cs (i - offset)) := by
  induction cs generalizing m offset with
  | nil => cases m <;> simp [spansFrom, Mode.start?, enclosed_nil, contains_natCast]
  | cons c cs ih =>
    rw [enclosed_cons]
    cases m with
    | gap =>
      by_cases hc : c = '\''
      · rw [spansFrom, if_pos hc, ih (by simp [Mode.start?])]
        simp only [Mode.start?, Mode.parity, hc, Option.mem_some_iff, exists_eq_left',
          List.count_singleton_self]
        grind
      · rw [spansFrom, if_neg hc, ih (by simp [Mode.start?])]
        simp [Mode.start?, Mode.parity, hc]
    | inside start =>
      have hs : start ≤ offset := hm start rfl
      by_cases hc : c = '\''
      · rw [spansFrom, if_pos hc, ih (by simp [Mode.start?]; omega)]
        simp only [Mode.start?, Mode.parity, hc, Option.mem_some_iff, exists_eq_left',
          List.count_singleton_self, Nat.reduceAdd, enclosed_two]
        grind
      · rw [spansFrom, if_neg hc, ih (by simp [Mode.start?]; omega)]
        simp [Mode.start?, Mode.parity, hc]
        grind
    | closing start =>
      have hs : start ≤ offset := hm start rfl
      by_cases hc : c = '\''
      · rw [spansFrom, if_pos hc, ih (by simp [Mode.start?]; omega)]
        simp only [Mode.start?, Mode.parity, hc, Option.mem_some_iff, exists_eq_left',
          List.count_singleton_self]
        grind
      · rw [spansFrom, if_neg hc]
        simp only [List.mem_cons, or_and_right, exists_or, exists_eq_left, contains_natCast]
        rw [ih (by simp [Mode.start?])]
        simp [Mode.start?, Mode.parity, hc]

/-- The literals of a text cover what an odd number of apostrophes comes before,
and the apostrophes. -/
theorem exists_mem_spans_iff {i : Nat} :
    (∃ s ∈ spans cs, s.contains i = true) ↔
      i < cs.length ∧ (cs[i]? = some '\'' ∨ ¬ Unquoted cs i) := by
  rw [spans, exists_mem_spansFrom_iff (by simp [Mode.start?]), Unquoted]
  simp [Mode.start?, Mode.parity, Enclosed]

theorem start_nonneg_of_mem_spansFrom {m : Mode} {offset : Nat} :
    ∀ s ∈ spansFrom m offset cs, 0 ≤ s.start := by
  induction cs generalizing m offset with
  | nil => cases m <;> simp [spansFrom]
  | cons c cs ih =>
    cases m with
    | closing start =>
      rw [spansFrom]
      split_ifs
      · exact ih
      · exact List.forall_mem_cons.mpr ⟨Int.natCast_nonneg _, ih⟩
    | _ =>
      rw [spansFrom]
      split_ifs <;> exact ih

/-- The offsets in literals are not negative. -/
theorem exists_natCast_of_contains {s : Span} {i : Int} (hs : s ∈ spans cs)
    (hi : s.contains i = true) : ∃ k : Nat, i = k := by
  have h0 := start_nonneg_of_mem_spansFrom s hs
  simp only [Span.contains, Bool.and_eq_true, decide_eq_true_eq] at hi
  exact ⟨i.toNat, by omega⟩

end QueryBinding.Literal
