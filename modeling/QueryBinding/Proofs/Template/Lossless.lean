import QueryBinding.Proofs.Literal.Parity
import QueryBinding.Proofs.Template.Placeholders

/-! Normalizing a text loses nothing. Outside literals the normalized text has
one question mark for every placeholder, and putting the placeholders back in
their order gives the source. A placeholder is written in the source where it
says it is, apart from all others and from the literals. So the normalized text
and the names of the placeholders determine the template. -/

namespace QueryBinding

/-- Whether a lexeme makes a placeholder. -/
def Lexeme.isPlaceholder : Lexeme → Bool
  | positional => true
  | named _ => true
  | _ => false

namespace Literal

/-- A question mark outside the literals of a text is at the offset. -/
def isMark (cs : List Char) (i : Nat) : Bool :=
  cs[i]? == some '?' && (spans cs).all fun s => !s.contains i

/-- The offsets of the question marks outside literals. -/
def marks (cs : List Char) : List Nat := (List.range cs.length).filter (isMark cs)

/-- A text from `offset` on with the marks replaced by the given texts, one for each. -/
def fillFrom (mark : Nat → Bool) : Nat → List Char → List String → List Char
  | _, [], _ => []
  | offset, c :: cs, [] => c :: fillFrom mark (offset + 1) cs []
  | offset, c :: cs, t :: ts =>
    if mark offset then t.toList ++ fillFrom mark (offset + 1) cs ts
    else c :: fillFrom mark (offset + 1) cs (t :: ts)

/-- A text with the question marks outside its literals replaced. -/
def fill (cs : List Char) (texts : List String) : List Char := fillFrom (isMark cs) 0 cs texts

theorem isMark_iff {cs : List Char} {i : Nat} :
    isMark cs i = true ↔ Token.Positional cs i := by
  have hspans : (∃ s ∈ spans cs, s.contains i = true) ↔ _ := exists_mem_spans_iff
  simp only [isMark, Bool.and_eq_true, beq_iff_eq, List.all_eq_true, Bool.not_eq_true',
    Token.Positional, and_congr_right_iff]
  intro hc
  have hlt := (List.getElem?_eq_some_iff.mp hc).1
  constructor
  · intro hout
    by_contra hu
    obtain ⟨s, hs, hi⟩ := hspans.mpr ⟨hlt, Or.inr hu⟩
    rw [hout s hs] at hi
    cases hi
  · intro hu s hs
    by_contra hi
    obtain ⟨-, ha | hq⟩ := hspans.mp ⟨s, hs, by simpa using hi⟩
    · rw [hc] at ha
      cases ha
    · exact hq hu

theorem fillFrom_mark {mark : Nat → Bool} {offset : Nat} (h : mark offset = true) {c : Char}
    {cs : List Char} {t : String} {ts : List String} :
    fillFrom mark offset (c :: cs) (t :: ts) = t.toList ++ fillFrom mark (offset + 1) cs ts := by
  rw [fillFrom, if_pos h]

/-- What holds no mark is kept. -/
theorem fillFrom_append {mark : Nat → Bool} {offset : Nat} {cs : List Char}
    (h : ∀ k, offset ≤ k → k < offset + cs.length → mark k = false) (rest : List Char)
    (ts : List String) :
    fillFrom mark offset (cs ++ rest) ts = cs ++ fillFrom mark (offset + cs.length) rest ts := by
  induction cs generalizing offset with
  | nil => rfl
  | cons c cs ih =>
    have h0 := h offset (Nat.le_refl _) (by simp)
    have ih := @ih (offset + 1) fun k hk hlt => h k (by omega) (by simp; omega)
    have hlen : offset + (c :: cs).length = offset + 1 + cs.length := by
      rw [List.length_cons]
      omega
    rw [hlen, List.cons_append, List.cons_append, ← ih]
    cases ts with
    | nil => rfl
    | cons t ts => rw [fillFrom, h0]; rfl

end Literal

namespace Span

/-- No offset belongs to both. -/
def Disjoint (s t : Span) : Prop := ∀ i, s.contains i = true → t.contains i = false

theorem disjoint_of_le {s t : Span} (h : s.stop ≤ t.start) : s.Disjoint t := by
  intro i hi
  simp only [contains, Bool.and_eq_true, decide_eq_true_eq] at hi
  simp only [contains, Bool.and_eq_false_iff, decide_eq_false_iff_not]
  omega

end Span

namespace Placeholder

/-- The offsets that a placeholder takes up in the source. -/
def span (p : Placeholder) : Span := ⟨p.position, p.position + p.text.length⟩

end Placeholder

namespace Template

open Lexeme Token Literal

/-! ### The marks of a normalized text -/

/-- Among proper lexemes a mark is a positional placeholder. -/
theorem isMark_site {cs : List Char} {i k : Nat} {l : Lexeme}
    (h : (i, l) ∈ located 0 (scan cs)) (hi : i ≤ k) (hk : k < i + l.width) :
    isMark cs k = true ↔ l = positional := by
  rw [isMark_iff, ← mem_located_positional_iff]
  constructor
  · intro hp
    have := located_unique h hp hi hk (Nat.le_refl k) (by simp [width])
    cases this
    rfl
  · rintro rfl
    obtain rfl : k = i := by simp only [width] at hk; omega
    exact h

section Normalized

variable {cs : List Char} {offset : Nat} {l : Lexeme} {ls : List Lexeme}

theorem filter_isMark_lexeme (h : (offset, l.normal) ∈ located 0 (scan cs)) :
    ((List.range' offset l.normal.width).filter (isMark cs)).length =
      if l.isPlaceholder then 1 else 0 := by
  by_cases hp : l.normal = positional
  · have hmark := (isMark_site h (Nat.le_refl _) (Nat.lt_add_of_pos_right (width_pos _))).mpr hp
    have hl : l.isPlaceholder = true := by cases l <;> simp_all [normal, isPlaceholder]
    simp [hp, width, hmark, hl]
  · have hl : l.isPlaceholder = false := by cases l <;> simp_all [normal, isPlaceholder]
    have hnone : (List.range' offset l.normal.width).filter (isMark cs) = [] := by
      rw [List.filter_eq_nil_iff]
      intro k hk hm
      rw [List.mem_range'_1] at hk
      exact hp ((isMark_site h hk.1 hk.2).mp hm)
    rw [hnone, hl]
    rfl

/-- There are as many marks as placeholders. -/
theorem filter_isMark_lexemes (h : ∀ e ∈ located offset (ls.map normal), e ∈ located 0 (scan cs))
    (position rank : Nat) :
    ((List.range' offset (flatten (ls.map normal)).length).filter (isMark cs)).length =
      (placeholdersFrom position rank ls).length := by
  induction ls generalizing offset position rank with
  | nil => rfl
  | cons l ls ih =>
    have hl := filter_isMark_lexeme (h _ List.mem_cons_self)
    rw [List.map_cons, length_flatten_cons, ← List.range'_append_1, List.filter_append,
      List.length_append, hl]
    have ih := ih fun e he => h e (List.mem_cons_of_mem _ he)
    cases l <;> simp [placeholdersFrom, isPlaceholder, ← ih, Nat.add_comm]

theorem placeholdersFrom_skip {position rank : Nat} (h : l.isPlaceholder = false) :
    placeholdersFrom position rank (l :: ls) = placeholdersFrom (position + l.width) rank ls := by
  cases l with
  | positional => cases h
  | named name => cases h
  | _ => rfl

theorem normal_of_not_isPlaceholder (h : l.isPlaceholder = false) : l.normal = l := by
  cases l with
  | named name => cases h
  | _ => rfl

/-- Putting the placeholders back where the marks are gives the source. -/
theorem fillFrom_lexemes (h : ∀ e ∈ located offset (ls.map normal), e ∈ located 0 (scan cs))
    (position rank : Nat) :
    fillFrom (isMark cs) offset (flatten (ls.map normal))
      ((placeholdersFrom position rank ls).map Placeholder.text) = flatten ls := by
  induction ls generalizing offset position rank with
  | nil => rfl
  | cons l ls ih =>
    have hl := h _ List.mem_cons_self
    have ih := ih fun e he => h e (List.mem_cons_of_mem _ he)
    have hmark : l.normal = positional → isMark cs offset = true := fun hp =>
      (isMark_site hl (Nat.le_refl _) (Nat.lt_add_of_pos_right (width_pos _))).mpr hp
    cases hp : l.isPlaceholder with
    | true =>
      -- one mark, which takes the first text
      cases l with
      | positional =>
        show fillFrom (isMark cs) offset ('?' :: flatten (ls.map normal))
          ("?" :: (placeholdersFrom (position + 1) (rank + 1) ls).map Placeholder.text) =
            '?' :: flatten ls
        rw [fillFrom_mark (hmark rfl)]
        exact congrArg ('?' :: ·) (ih _ _)
      | named name =>
        show fillFrom (isMark cs) offset ('?' :: flatten (ls.map normal))
          ((":" ++ String.ofList name) ::
            (placeholdersFrom (position + (name.length + 1)) (rank + 1) ls).map Placeholder.text) =
              ':' :: name ++ flatten ls
        have htext : (":" ++ String.ofList name).toList = ':' :: name := by simp
        rw [fillFrom_mark (hmark rfl), htext]
        exact congrArg (':' :: name ++ ·) (ih _ _)
      | _ => cases hp
    | false =>
      have hn := normal_of_not_isPlaceholder hp
      have hkeep : ∀ k, offset ≤ k → k < offset + l.source.length → isMark cs k = false := by
        intro k hk hlt
        rw [length_source] at hlt
        rw [hn] at hl
        rw [Bool.eq_false_iff]
        intro hm
        rw [(isMark_site hl hk hlt).mp hm] at hp
        cases hp
      rw [List.map_cons, hn, flatten_cons, flatten_cons, fillFrom_append hkeep, length_source,
        placeholdersFrom_skip hp]
      rw [hn] at ih
      rw [ih]

end Normalized

theorem length_marks_normal (cs : List Char) :
    (marks (flatten ((scan cs).map normal))).length = (placeholdersFrom 0 0 (scan cs)).length := by
  rw [marks, List.range_eq_range']
  exact filter_isMark_lexemes (fun e he => by rwa [scan_flatten_normal]) 0 0

theorem fill_normal (cs : List Char) :
    fill (flatten ((scan cs).map normal))
      ((placeholdersFrom 0 0 (scan cs)).map Placeholder.text) = cs := by
  conv_rhs => rw [← flatten_scan cs]
  exact fillFrom_lexemes (fun e he => by rwa [scan_flatten_normal]) 0 0

/-! ### Where placeholders are written -/

section Written

variable {cs : List Char} {i k : Nat} {l : Lexeme}

/-- A placeholder is a lexeme, written as the lexeme is. -/
theorem exists_located_of_mem {offset rank : Nat} {ls : List Lexeme} {p : Placeholder}
    (h : p ∈ placeholdersFrom offset rank ls) : ∃ i l, (i, l) ∈ located offset ls ∧
      l.isPlaceholder = true ∧ p.position = i ∧ p.text.toList = l.source := by
  rw [placeholdersFrom_eq] at h
  obtain ⟨⟨⟨i, name⟩, r⟩, ht, rfl⟩ := List.mem_map.mp h
  obtain ⟨l, hl, hname⟩ := mem_tokens_iff.mp (List.fst_mem_of_mem_zipIdx ht)
  refine ⟨i, l, hl, ?_⟩
  cases name with
  | none =>
    obtain rfl := token?_eq_none_iff.mp hname
    exact ⟨rfl, rfl, by simp [Placeholder.ofToken, Placeholder.text, Lexeme.source]⟩
  | some name =>
    obtain rfl := token?_eq_some_iff.mp hname
    exact ⟨rfl, rfl, by simp [Placeholder.ofToken, Placeholder.text, Lexeme.source]⟩

theorem apostrophe_not_mem_source (h : (i, l) ∈ located 0 (scan cs))
    (hl : l.isPlaceholder = true) : '\'' ∉ l.source := by
  cases l with
  | positional => decide
  | named name =>
    obtain ⟨-, rfl⟩ := describes_of_mem_located h
    intro hm
    rcases List.mem_cons.mp hm with hc | hc
    · cases hc
    · exact Bool.eq_false_iff.mp Identifier.not_isWord_apostrophe (isWord_of_mem_wordAt hc)
  | _ => cases hl

/-- A placeholder lies outside literals as a whole. -/
theorem unquoted_of_isPlaceholder (h : (i, l) ∈ located 0 (scan cs))
    (hl : l.isPlaceholder = true) (hi : i ≤ k) (hk : k < i + l.width) :
    Unquoted cs k ∧ cs[k]? ≠ some '\'' := by
  have hno := apostrophe_not_mem_source h hl
  have hsource := take_drop_flatten h
  rw [flatten_scan] at hsource
  obtain ⟨n, rfl⟩ := Nat.exists_eq_add_of_le hi
  have hn : n < l.width := by omega
  have hstart : Unquoted cs i := by
    have hd := describes_of_mem_located h
    cases l with
    | positional => exact hd.2
    | named name => exact hd.1.unquoted
    | _ => cases hl
  constructor
  · have hpart : (cs.drop i).take n = l.source.take n := by
      rw [← hsource, List.take_take, Nat.min_eq_left (Nat.le_of_lt hn)]
    have hzero : (l.source.take n).count '\'' = 0 :=
      List.count_eq_zero.mpr fun hm => hno (List.mem_of_mem_take hm)
    rw [Unquoted, List.take_add, List.count_append, hpart, hzero]
    exact hstart
  · intro hc
    rw [← List.getElem?_drop, ← List.getElem?_take_of_lt hn, hsource] at hc
    exact hno (List.mem_of_getElem? hc)

end Written

variable {cs : List Char} {p : Placeholder}

/-- The offsets of a placeholder are those of its lexeme. -/
theorem exists_span_eq (h : p ∈ placeholdersFrom 0 0 (scan cs)) : ∃ i l,
    (i, l) ∈ located 0 (scan cs) ∧ l.isPlaceholder = true ∧ p.text.toList = l.source ∧
      p.span = ⟨i, i + l.width⟩ := by
  obtain ⟨i, l, hm, hl, hpos, htext⟩ := exists_located_of_mem h
  refine ⟨i, l, hm, hl, htext, ?_⟩
  rw [Placeholder.span, hpos, ← length_source, ← htext, String.length_toList]

theorem text_span (h : p ∈ placeholdersFrom 0 0 (scan cs)) : p.span.chars cs = p.text.toList := by
  obtain ⟨i, l, hm, -, htext, hspan⟩ := exists_span_eq h
  have hsource := take_drop_flatten hm
  rw [flatten_scan] at hsource
  have hend := end_le_of_mem_located hm
  rw [flatten_scan, Nat.zero_add] at hend
  rw [hspan, Span.chars, Slice.ofList_natCast hend, hsource, htext]

theorem disjoint_literal (h : p ∈ placeholdersFrom 0 0 (scan cs)) {s : Span}
    (hs : s ∈ Literal.spans cs) : p.span.Disjoint s := by
  obtain ⟨i, l, hm, hl, -, hspan⟩ := exists_span_eq h
  intro j hj
  rw [Bool.eq_false_iff]
  intro hin
  obtain ⟨k, rfl⟩ := Literal.exists_natCast_of_contains hs hin
  rw [hspan] at hj
  have hk : i ≤ k ∧ k < i + l.width := Literal.contains_natCast.mp hj
  obtain ⟨hu, hc⟩ := unquoted_of_isPlaceholder hm hl hk.1 hk.2
  rcases (Literal.exists_mem_spans_iff.mp ⟨s, hs, hin⟩).2 with ha | hq
  · exact hc ha
  · exact hq hu

theorem pairwise_disjoint (cs : List Char) :
    (placeholdersFrom 0 0 (scan cs)).Pairwise fun p q => p.span.Disjoint q.span := by
  apply (exact_scan cs).sorted.imp_of_mem
  intro p q hp hq hlt
  obtain ⟨i, l, hl, -, -, hspan⟩ := exists_span_eq hp
  obtain ⟨j, m, hm, -, -, hspan'⟩ := exists_span_eq hq
  have hij : (i : Int) < j := by
    have hi : p.position = i := congrArg Span.start hspan
    have hj : q.position = j := congrArg Span.start hspan'
    rwa [hi, hj] at hlt
  rw [hspan, hspan']
  apply Span.disjoint_of_le
  show ((i : Int) + l.width) ≤ j
  by_contra hover
  have hw := width_pos m
  have := located_unique (i := j) hl hm (by omega) (by omega) (Nat.le_refl j) (by omega)
  cases this
  omega

/-! ### Parsing -/

/-- A template whose normalized text can be turned back into the source. -/
structure Lossless (sql : String) (t : Template) : Prop where
  count : (marks t.normalized.toList).length = t.count
  fill : fill t.normalized.toList (t.placeholders.map Placeholder.text) = sql.toList
  written : ∀ p ∈ t.placeholders, p.span.text sql = p.text
  apart : t.placeholders.Pairwise fun p q => p.span.Disjoint q.span
  outside : ∀ p ∈ t.placeholders, ∀ s ∈ spans sql.toList, p.span.Disjoint s

theorem lossless_ofLexemes (sql : String) : Lossless sql (ofLexemes sql (scan sql.toList)) where
  count := by
    rw [ofLexemes, String.toList_ofList]
    exact length_marks_normal sql.toList
  fill := by
    rw [ofLexemes, String.toList_ofList]
    exact fill_normal sql.toList
  written p hp := by
    rw [Span.text, text_span hp, String.ofList_toList]
  apart := pairwise_disjoint sql.toList
  outside p hp s hs := disjoint_literal hp hs

/-- The texts of placeholders are determined by their names. -/
theorem map_text_eq {ps qs : List Placeholder} (h : ps.map (·.name) = qs.map (·.name)) :
    ps.map Placeholder.text = qs.map Placeholder.text := by
  induction ps generalizing qs with
  | nil =>
    obtain rfl : qs = [] := List.map_eq_nil_iff.mp h.symm
    rfl
  | cons p ps ih =>
    cases qs with
    | nil => cases h
    | cons q qs =>
      obtain ⟨hname, hrest⟩ := List.cons.inj h
      replace hname : p.name = q.name := hname
      have htext : p.text = q.text := by rw [Placeholder.text, hname, Placeholder.text]
      rw [List.map_cons, List.map_cons, htext, ih hrest]

/-- Under any rules a text that is read can be told from its normalized text and
the names of its placeholders, and no other template has the same two. -/
theorem parse_lossless {rules : Rules} {sql : String} {parsed : Parsed}
    (h : parse rules sql = .ok parsed) : Lossless sql parsed.template ∧
      ∀ (rules' : Rules) (sql' : String) (parsed' : Parsed), parse rules' sql' = .ok parsed' →
        parsed'.template.normalized = parsed.template.normalized →
        parsed'.template.placeholders.map (·.name) = parsed.template.placeholders.map (·.name) →
        parsed'.template = parsed.template ∧
          parsed'.template.same parsed.template = true := by
  rw [template_of_parse h]
  refine ⟨lossless_ofLexemes sql, fun rules' sql' parsed' h' hnormal hnames => ?_⟩
  rw [template_of_parse h'] at hnormal hnames ⊢
  have hsource := (lossless_ofLexemes sql').fill
  rw [hnormal, map_text_eq hnames, (lossless_ofLexemes sql).fill] at hsource
  obtain rfl := String.toList_inj.mp hsource
  exact ⟨rfl, by simp [same]⟩

/-- Strict rules with a limit and no rules at all read one text, in which a quoted
name is kept and a cast follows a placeholder. -/
theorem parse_lossless_quoted_cast : ∃ parsed parsed',
    parse ⟨true, some 12⟩ "':a' ? :b::c" = .ok parsed ∧ parse {} "':a' ? :b::c" = .ok parsed' ∧
      parsed.template.normalized = "':a' ? ?::c" ∧ Lossless "':a' ? :b::c" parsed.template ∧
      parsed'.template = parsed.template := by
  have h : parse ⟨true, some 12⟩ "':a' ? :b::c" = .ok _ := rfl
  obtain ⟨hl, hu⟩ := parse_lossless h
  exact ⟨_, _, h, rfl, rfl, hl, (hu {} _ _ rfl rfl rfl).1⟩

end Template

end QueryBinding
