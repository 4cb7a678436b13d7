import Mathlib.Data.List.Basic
import QueryBinding.Proofs.Lexeme.Location
import QueryBinding.Template.Parse

/-! The placeholders of a parsed text. They are exactly the question marks and the
names that the text tells of at its offsets, in order and ranked, and the
normalized text differs from the source only in that every name, with its colon,
is a question mark. -/

namespace QueryBinding

namespace Lexeme

/-- The name of a placeholder, or that it has none. -/
def token? : Lexeme → Option (Option String)
  | positional => some none
  | named name => some (some (String.ofList name))
  | _ => none

/-- The placeholders among located lexemes. -/
def tokens (es : List (Nat × Lexeme)) : List (Nat × Option String) :=
  es.filterMap fun e => e.2.token?.map (e.1, ·)

theorem mem_tokens_iff {es : List (Nat × Lexeme)} {i : Nat} {name : Option String} :
    (i, name) ∈ tokens es ↔ ∃ l, (i, l) ∈ es ∧ l.token? = some name := by
  simp only [tokens, List.mem_filterMap, Option.map_eq_some_iff, Prod.mk.injEq]
  constructor
  · rintro ⟨⟨j, l⟩, he, n, hn, rfl, rfl⟩
    exact ⟨l, he, hn⟩
  · rintro ⟨l, he, hn⟩
    exact ⟨(i, l), he, name, hn, rfl, rfl⟩

/-- Placeholders begin one behind the other. -/
theorem pairwise_tokens (offset : Nat) (ls : List Lexeme) :
    (tokens (located offset ls)).Pairwise fun s t => s.1 < t.1 := by
  rw [tokens, List.pairwise_filterMap]
  apply (pairwise_located offset ls).imp
  rintro ⟨i, l⟩ ⟨j, m⟩ hle s hs t ht
  obtain ⟨-, -, rfl⟩ := Option.map_eq_some_iff.mp hs
  obtain ⟨-, -, rfl⟩ := Option.map_eq_some_iff.mp ht
  have := width_pos l
  exact Nat.lt_of_lt_of_le (Nat.lt_add_of_pos_right this) hle

theorem token?_eq_none_iff {l : Lexeme} : l.token? = some none ↔ l = positional := by
  cases l <;> simp [token?]

theorem token?_eq_some_iff {l : Lexeme} {name : String} :
    l.token? = some (some name) ↔ l = named name.toList := by
  cases l with
  | named cs =>
    simp only [token?, Option.some.injEq, named.injEq]
    constructor
    · rintro rfl
      exact String.toList_ofList.symm
    · rintro rfl
      exact String.ofList_toList
  | _ => simp [token?]

end Lexeme

namespace Placeholder

/-- The placeholder at an offset, with its name and rank. -/
def ofToken (t : (Nat × Option String) × Nat) : Placeholder :=
  ⟨if t.1.2.isSome then .named else .positional, t.1.2, t.2, t.1.1⟩

end Placeholder

namespace Template

open Lexeme Token

theorem placeholdersFrom_eq (offset rank : Nat) (ls : List Lexeme) :
    placeholdersFrom offset rank ls =
      ((tokens (located offset ls)).zipIdx rank).map Placeholder.ofToken := by
  induction ls generalizing offset rank with
  | nil => rfl
  | cons l ls ih => cases l <;> simp [placeholdersFrom, ih, located, tokens, token?, width,
      List.zipIdx_cons, Placeholder.ofToken]

/-- Placeholders are the tokens of a text, without their ranks. -/
theorem map_placeholdersFrom (offset rank : Nat) (ls : List Lexeme) :
    (placeholdersFrom offset rank ls).map (fun p => (p.position, p.name)) =
      (tokens (located offset ls)).map fun t => ((t.1 : Int), t.2) := by
  rw [placeholdersFrom_eq, List.map_map]
  conv_rhs => rw [← List.zipIdx_map_fst rank (tokens (located offset ls)), List.map_map]
  rfl

theorem exists_placeholder_iff {offset rank i : Nat} {ls : List Lexeme} {name : Option String} :
    (∃ p ∈ placeholdersFrom offset rank ls, p.position = i ∧ p.name = name) ↔
      ∃ l, (i, l) ∈ located offset ls ∧ l.token? = some name := by
  rw [← mem_tokens_iff]
  have h : ((i : Int), name) ∈
      (placeholdersFrom offset rank ls).map (fun p => (p.position, p.name)) ↔
        (i, name) ∈ tokens (located offset ls) := by
    rw [map_placeholdersFrom, List.mem_map]
    constructor
    · rintro ⟨⟨j, n⟩, ht, he⟩
      cases he
      exact ht
    · exact fun ht => ⟨_, ht, rfl⟩
  rw [← h, List.mem_map]
  simp only [Prod.mk.injEq]

/-- Placeholders that are those of a text, in order, and nothing else. -/
structure Exact (cs : List Char) (ps : List Placeholder) : Prop where
  positional (i : Nat) : (∃ p ∈ ps, p.position = i ∧ p.name = none) ↔ Positional cs i
  named (i : Nat) (name : String) : (∃ p ∈ ps, p.position = i ∧ p.name = some name) ↔
    Named cs i ∧ name.toList = wordAt cs (i + 1)
  nonneg : ∀ p ∈ ps, 0 ≤ p.position
  sorted : ps.Pairwise fun p q => p.position < q.position
  index (k : Nat) (h : k < ps.length) : ps[k].index = k
  kind : ∀ p ∈ ps, p.kind = .named ↔ p.name ≠ none

theorem exact_scan (cs : List Char) : Exact cs (placeholdersFrom 0 0 (scan cs)) where
  positional i := by
    simp only [exists_placeholder_iff, token?_eq_none_iff, exists_eq_right,
      mem_located_positional_iff]
  named i name := by
    simp only [exists_placeholder_iff, token?_eq_some_iff, exists_eq_right, mem_located_named_iff]
  nonneg p hp := by
    rw [placeholdersFrom_eq] at hp
    obtain ⟨t, -, rfl⟩ := List.mem_map.mp hp
    exact Int.natCast_nonneg _
  sorted := by
    have h : (((placeholdersFrom 0 0 (scan cs)).map fun p => (p.position, p.name)).Pairwise
        fun s t => s.1 < t.1) := by
      rw [map_placeholdersFrom, List.pairwise_map]
      exact (pairwise_tokens 0 _).imp fun hlt => Int.ofNat_lt.mpr hlt
    rwa [List.pairwise_map] at h
  index k h := by
    simp [placeholdersFrom_eq, Placeholder.ofToken]
  kind p hp := by
    rw [placeholdersFrom_eq] at hp
    obtain ⟨⟨⟨i, name⟩, r⟩, -, rfl⟩ := List.mem_map.mp hp
    cases name <;> simp [Placeholder.ofToken]

/-! ### The normalized text -/

open Classical in
/-- What becomes of the character at an offset: the colon of a named placeholder
is a question mark, its name is gone, and all else is kept. -/
noncomputable def rewrite (cs : List Char) (i : Nat) : List Char :=
  if Named cs i then ['?']
  else if ∃ j, Named cs j ∧ j < i ∧ i ≤ j + (wordAt cs (j + 1)).length then []
  else cs[i]?.toList

noncomputable def rewritten (cs : List Char) : List Char :=
  (List.range cs.length).flatMap (rewrite cs)

theorem flatMap_getElem?_toList (cs : List Char) (i n : Nat) :
    (List.range' i n).flatMap (fun k => cs[k]?.toList) = (cs.drop i).take n := by
  induction n generalizing i with
  | zero => simp
  | succ n ih =>
    rw [List.range'_succ, List.flatMap_cons, ih]
    by_cases hi : i < cs.length
    · rw [List.drop_eq_getElem_cons hi, List.take_succ_cons, List.getElem?_eq_getElem hi]
      rfl
    · rw [List.drop_of_length_le (by omega), List.drop_of_length_le (by omega),
        List.getElem?_eq_none (by omega)]
      simp

variable {cs : List Char}

theorem rewrite_named {i : Nat} (h : Named cs i) : rewrite cs i = ['?'] := if_pos h

theorem rewrite_name {i j : Nat} (h : Named cs j) (hj : j < i)
    (hi : i ≤ j + (wordAt cs (j + 1)).length) : rewrite cs i = [] := by
  have hnot : ¬ Named cs i := by
    intro hn
    have hi' := mem_located_named_iff.mpr ⟨hn, rfl⟩
    have hj' := mem_located_named_iff.mpr ⟨h, rfl⟩
    have := located_unique (i := i) hi' hj' (Nat.le_refl i) (by simp [width]) (by omega)
      (by rw [width]; omega)
    cases this
    omega
  rw [rewrite, if_neg hnot, if_pos ⟨j, h, hj, hi⟩]

/-- The characters of a lexeme that is no name are kept. -/
theorem rewrite_other {i k : Nat} {l : Lexeme} (h : (i, l) ∈ located 0 (scan cs))
    (hl : ∀ name, l ≠ named name) (hi : i ≤ k) (hk : k < i + l.width) :
    rewrite cs k = cs[k]?.toList := by
  have hnot : ∀ j, Named cs j → j ≤ k → ¬ k ≤ j + (wordAt cs (j + 1)).length := by
    intro j hj hjk hle
    have hj' := mem_located_named_iff.mpr ⟨hj, rfl⟩
    have := located_unique (i := k) h hj' hi hk hjk (by rw [width]; omega)
    cases this
    exact hl _ rfl
  have hout : ¬ ∃ j, Named cs j ∧ j < k ∧ k ≤ j + (wordAt cs (j + 1)).length := by
    rintro ⟨j, hj, hjk, hle⟩
    exact hnot j hj (Nat.le_of_lt hjk) hle
  rw [rewrite, if_neg fun hn => hnot k hn (Nat.le_refl k) (by omega), if_neg hout]

theorem flatMap_rewrite {i : Nat} {l : Lexeme} (h : (i, l) ∈ located 0 (scan cs)) :
    (List.range' i l.width).flatMap (rewrite cs) = l.normal.source := by
  by_cases hl : ∃ name, l = named name
  · obtain ⟨name, rfl⟩ := hl
    obtain ⟨hn, rfl⟩ := mem_located_named_iff.mp h
    rw [width, List.range'_succ, List.flatMap_cons, rewrite_named hn, List.flatMap_eq_nil_iff.mpr]
    · rfl
    · intro k hk
      rw [List.mem_range'_1] at hk
      exact rewrite_name hn (by omega) (by omega)
  · have hl : ∀ name, l ≠ named name := fun name he => hl ⟨name, he⟩
    have hkeep : ∀ k ∈ List.range' i l.width, rewrite cs k = cs[k]?.toList := by
      intro k hk
      rw [List.mem_range'_1] at hk
      exact rewrite_other h hl hk.1 hk.2
    have hsource := take_drop_flatten h
    rw [flatten_scan] at hsource
    rw [List.flatMap_congr hkeep, flatMap_getElem?_toList, hsource]
    cases l with
    | named name => exact absurd rfl (hl name)
    | _ => rfl

/-- The normalized text is rewritten offset by offset. -/
theorem flatten_normal_eq {offset : Nat} {ls : List Lexeme}
    (h : ∀ e ∈ located offset ls, e ∈ located 0 (scan cs)) :
    flatten (ls.map normal) =
      (List.range' offset (flatten ls).length).flatMap (rewrite cs) := by
  induction ls generalizing offset with
  | nil => rfl
  | cons l ls ih =>
    have ih := ih fun e he => h e (List.mem_cons_of_mem _ he)
    rw [List.map_cons, flatten_cons, ih, ← flatMap_rewrite (h _ List.mem_cons_self),
      length_flatten_cons, ← List.range'_append_1, List.flatMap_append]

theorem flatten_map_normal_scan (cs : List Char) :
    flatten ((scan cs).map normal) = rewritten cs := by
  have h : ∀ e ∈ located 0 (scan cs), e ∈ located 0 (scan cs) := fun _ he => he
  rw [flatten_normal_eq h, flatten_scan, rewritten, List.range_eq_range']

/-! ### Parsing -/

theorem parse_default (sql : String) : ∃ parsed, parse {} sql = .ok parsed ∧
    parsed.template = ofLexemes sql (scan sql.toList) := ⟨_, rfl, rfl⟩

/-- Whatever the rules, a text that is read gives the template of its lexemes. -/
theorem template_of_parse {rules : Rules} {sql : String} {parsed : Parsed}
    (h : parse rules sql = .ok parsed) : parsed.template = ofLexemes sql (scan sql.toList) := by
  unfold parse at h
  split at h
  · cases h
  · simp only at h
    split at h
    · cases h
    · cases h
      rfl

/-- Reading a text by the usual rules succeeds. Its placeholders are exactly those
that the text tells of, the normalized text is the text with a question mark for
every name, and the literals are those of the text. -/
theorem parse_placeholders (sql : String) : ∃ parsed, parse {} sql = .ok parsed ∧
    parsed.template.source = sql ∧
    Exact sql.toList parsed.template.placeholders ∧
    parsed.template.normalized.toList = rewritten sql.toList ∧
    parsed.template.literals = Literal.spans sql.toList := by
  obtain ⟨parsed, hp, ht⟩ := parse_default sql
  refine ⟨parsed, hp, ?_⟩
  rw [ht]
  refine ⟨rfl, exact_scan sql.toList, ?_, rfl⟩
  rw [ofLexemes, String.toList_ofList, flatten_map_normal_scan]

/-- Of three colons the first two are a cast and the last one opens a name. -/
example : (parse {} "x:::a ':b' ?").toOption.map (·.template.normalized) =
    some "x::? ':b' ?" := rfl

end Template

end QueryBinding
