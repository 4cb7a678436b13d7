import Mathlib.Data.List.TakeWhile
import Mathlib.Tactic.Common
import QueryBinding.Text.Identifier

/-! What a text says at an offset, told without reading it from the start. An
offset lies outside literals if an even number of apostrophes stands before it,
a colon belongs to no cast if it ends a maximal run of colons of odd length, and
a name is the longest run of word characters. -/

namespace QueryBinding.Token

/-- The offset is outside literals, unless an apostrophe stands there. -/
def Unquoted (cs : List Char) (i : Nat) : Prop := (cs.take i).count '\'' % 2 = 0

/-- All colons that stand right before `stop` begin at `first`. -/
structure Colons (cs : List Char) (first stop : Nat) : Prop where
  le : first ≤ stop
  colon : ∀ j, first ≤ j → j < stop → cs[j]? = some ':'
  maximal : ∀ j, j + 1 = first → cs[j]? ≠ some ':'

/-- A maximal run of colons of odd length ends at `last`. -/
def EndsOddRun (cs : List Char) (last : Nat) : Prop :=
  cs[last + 1]? ≠ some ':' ∧ ∃ first, Colons cs first (last + 1) ∧ (last + 1 - first) % 2 = 1

/-- An identifier begins at the offset. -/
def OpensName (cs : List Char) (i : Nat) : Prop :=
  ∃ c, cs[i]? = some c ∧ Identifier.isStart c = true

/-- The longest run of word characters from the offset on. -/
def wordAt (cs : List Char) (i : Nat) : List Char := (cs.drop i).takeWhile Identifier.isWord

def Positional (cs : List Char) (i : Nat) : Prop := cs[i]? = some '?' ∧ Unquoted cs i

/-- The colon of a named placeholder stands at the offset. -/
structure Named (cs : List Char) (i : Nat) : Prop where
  unquoted : Unquoted cs i
  run : EndsOddRun cs i
  opens : OpensName cs (i + 1)

/-- A colon that stands for itself is at the offset. -/
structure Bare (cs : List Char) (i : Nat) : Prop where
  unquoted : Unquoted cs i
  run : EndsOddRun cs i
  closed : ¬ OpensName cs (i + 1)

variable {cs : List Char}

theorem Colons.first_unique {first first' stop : Nat} (h : Colons cs first stop)
    (h' : Colons cs first' stop) : first = first' := by
  have hle := h.le
  have hle' := h'.le
  rcases Nat.lt_trichotomy first first' with hlt | heq | hlt
  · exact absurd (h.colon (first' - 1) (by omega) (by omega)) (h'.maximal _ (by omega))
  · exact heq
  · exact absurd (h'.colon (first - 1) (by omega) (by omega)) (h.maximal _ (by omega))

theorem Colons.snoc {first stop : Nat} (h : Colons cs first stop) (hc : cs[stop]? = some ':') :
    Colons cs first (stop + 1) where
  le := Nat.le_succ_of_le h.le
  colon j hj hlt := by
    rcases Nat.lt_or_eq_of_le (Nat.le_of_lt_succ hlt) with hlt | rfl
    · exact h.colon j hj hlt
    · exact hc
  maximal := h.maximal

/-- No colon stands right before an offset that does not follow one. -/
theorem Colons.none {i : Nat} (h : ∀ j, j + 1 = i → cs[j]? ≠ some ':') : Colons cs i i :=
  ⟨Nat.le_refl i, fun j hj hlt => absurd hlt (by omega), h⟩

theorem EndsOddRun.colon {i : Nat} (h : EndsOddRun cs i) : cs[i]? = some ':' := by
  obtain ⟨-, first, hr, hodd⟩ := h
  exact hr.colon i (by omega) (Nat.lt_succ_self i)

/-- An odd run is an even run with one colon more. -/
theorem endsOddRun_of_even {first i : Nat} (h : Colons cs first i) (heven : (i - first) % 2 = 0)
    (hc : cs[i]? = some ':') (hn : cs[i + 1]? ≠ some ':') : EndsOddRun cs i := by
  have hle := h.le
  exact ⟨hn, first, h.snoc hc, by omega⟩

/-- The second colon of a pair that follows an even run ends no odd run. -/
theorem not_endsOddRun_of_even {first i : Nat} (h : Colons cs first i)
    (heven : (i - first) % 2 = 0) (hc : cs[i]? = some ':') (hc' : cs[i + 1]? = some ':') :
    ¬ EndsOddRun cs (i + 1) := by
  rintro ⟨-, first', hr, hodd⟩
  have hle := h.le
  have := hr.first_unique ((h.snoc hc).snoc hc')
  omega

theorem getElem?_wordAt {i k : Nat} (h : k < (wordAt cs i).length) :
    (wordAt cs i)[k]? = cs[i + k]? := by
  obtain ⟨rest, hrest⟩ := List.takeWhile_prefix (l := cs.drop i) Identifier.isWord
  rw [← List.getElem?_drop, ← hrest]
  exact (List.getElem?_append_left h).symm

theorem isWord_of_mem_wordAt {i : Nat} {c : Char} (h : c ∈ wordAt cs i) :
    Identifier.isWord c = true := List.mem_takeWhile_imp h

end QueryBinding.Token
