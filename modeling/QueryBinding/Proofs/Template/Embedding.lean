import QueryBinding.Proofs.Lexeme.Joining
import QueryBinding.Proofs.Template.Colons
import QueryBinding.Proofs.Template.Lossless

/-! Literals inside a text. What a literal holds has no influence on the placeholders
around it nor on whether the text can be read: another content moves what stands behind
the literal by the difference of the lengths and changes nothing else. This is so even
where the literal runs together with others or follows a colon or a name. -/

namespace QueryBinding

namespace Placeholder

/-- The placeholder somewhere else. -/
def move (f : ℤ → ℤ) (p : Placeholder) : Placeholder := { p with position := f p.position }

/-- The placeholder behind `count` others and `length` characters. -/
def behind (count length : ℕ) (p : Placeholder) : Placeholder :=
  { p with index := p.index + count, position := p.position + length }

end Placeholder

namespace Template

open Lexeme

/-- Where an offset goes when `n` characters from `start` on give way to `m` others. -/
def moved (start n m : ℕ) (i : ℤ) : ℤ := if i < start then i else i + m - n

theorem moved_of_lt {start n m : ℕ} {i : ℤ} (h : i < start) : moved start n m i = i := if_pos h

theorem moved_add {start n : ℕ} (m : ℕ) {i : ℤ} (h : 0 ≤ i) :
    moved start n m (i + (start + n : ℕ)) = i + (start + m : ℕ) := by
  rw [moved, if_neg (by omega)]
  omega

/-! ### Lists of lexemes -/

section Lists

variable (offset rank : ℕ)

theorem placeholdersFrom_append (ls ms : List Lexeme) : placeholdersFrom offset rank (ls ++ ms) =
    placeholdersFrom offset rank ls ++ placeholdersFrom (offset + (flatten ls).length)
      (rank + (placeholdersFrom offset rank ls).length) ms := by
  induction ls generalizing offset rank with
  | nil => rfl
  | cons l ls ih =>
    rw [length_flatten_cons, ← Nat.add_assoc]
    cases l with
    | positional =>
      rw [List.cons_append, placeholdersFrom, placeholdersFrom, ih, List.length_cons,
        Nat.add_assoc rank 1, Nat.add_comm 1]
      rfl
    | named name =>
      rw [List.cons_append, placeholdersFrom, placeholdersFrom, ih, List.length_cons,
        Nat.add_assoc rank 1, Nat.add_comm 1]
      rfl
    | _ => exact ih _ _

theorem placeholdersFrom_behind (count length : ℕ) (ls : List Lexeme) :
    placeholdersFrom (offset + length) (rank + count) ls =
      (placeholdersFrom offset rank ls).map (Placeholder.behind count length) := by
  induction ls generalizing offset rank with
  | nil => rfl
  | cons l ls ih => cases l <;>
      simp [placeholdersFrom, Placeholder.behind, Nat.add_right_comm _ length,
        Nat.add_right_comm _ count, ih]

theorem placeholdersFrom_add (n : ℕ) (ls : List Lexeme) : placeholdersFrom (offset + n) rank ls =
    (placeholdersFrom offset rank ls).map (Placeholder.move (· + n)) := by
  have hmove : Placeholder.behind 0 n = Placeholder.move (· + n) := by
    funext p
    simp [Placeholder.behind, Placeholder.move]
  rw [← hmove, ← placeholdersFrom_behind, Nat.add_zero]

theorem placeholdersFrom_quoted (cs : List Char) :
    placeholdersFrom offset rank (cs.map quoted) = [] := by
  induction cs generalizing offset with
  | nil => rfl
  | cons c cs ih => exact ih _

theorem colonsFrom_append (ls ms : List Lexeme) : colonsFrom offset (ls ++ ms) =
    colonsFrom offset ls ++ colonsFrom (offset + (flatten ls).length) ms := by
  induction ls generalizing offset with
  | nil => rfl
  | cons l ls ih =>
    rw [length_flatten_cons, ← Nat.add_assoc]
    cases l with
    | colon => exact congrArg (offset :: ·) (ih _)
    | _ => exact ih _

theorem colonsFrom_add (n : ℕ) (ls : List Lexeme) :
    colonsFrom (offset + n) ls = (colonsFrom offset ls).map (· + n) := by
  induction ls generalizing offset with
  | nil => rfl
  | cons l ls ih => cases l <;> simp [colonsFrom, Nat.add_right_comm _ n, ih]

theorem colonsFrom_quoted (cs : List Char) : colonsFrom offset (cs.map quoted) = [] := by
  induction cs generalizing offset with
  | nil => rfl
  | cons c cs ih => exact ih _

variable {offset rank}

theorem position_lt {ls : List Lexeme} {p : Placeholder} (h : p ∈ placeholdersFrom offset rank ls) :
    p.position < (offset + (flatten ls).length : ℕ) := by
  obtain ⟨i, l, hm, -, hp, -⟩ := exists_located_of_mem h
  have := end_le_of_mem_located hm
  have := width_pos l
  omega

theorem colon_lt {ls : List Lexeme} {i : ℕ} (h : i ∈ colonsFrom offset ls) :
    i < offset + (flatten ls).length := by
  have := end_le_of_mem_located (mem_colonsFrom_iff.mp h)
  have := width_pos colon
  omega

end Lists

/-! ### The lexemes around a literal -/

section Around

variable {before : List Char} (h : before.count '\'' % 2 = 0) (content after : List Char)
include h

theorem placeholdersFrom_embedded : placeholdersFrom 0 0
    (scan (before ++ (Literal.quote content ++ after))) = placeholdersFrom 0 0 (scan before) ++
      (placeholdersFrom 0 (placeholdersFrom 0 0 (scan before)).length (scan after)).map
        (Placeholder.move (· + (before.length + (Literal.quote content).length : ℕ))) := by
  rw [scan_embedded h, placeholdersFrom_append, placeholdersFrom_append, placeholdersFrom_quoted,
    flatten_scan, flatten_map_quoted, ← placeholdersFrom_add]
  simp only [Nat.zero_add, List.nil_append, List.length_nil, Nat.add_zero]

theorem colonsFrom_embedded :
    colonsFrom 0 (scan (before ++ (Literal.quote content ++ after))) = colonsFrom 0 (scan before) ++
      (colonsFrom 0 (scan after)).map (· + (before.length + (Literal.quote content).length)) := by
  rw [scan_embedded h, colonsFrom_append, colonsFrom_append, colonsFrom_quoted, flatten_scan,
    flatten_map_quoted, ← colonsFrom_add]
  simp only [Nat.zero_add, List.nil_append]

theorem flatten_normal_embedded :
    flatten ((scan (before ++ (Literal.quote content ++ after))).map normal) =
      flatten ((scan before).map normal) ++
        (Literal.quote content ++ flatten ((scan after).map normal)) := by
  have hquoted : ((Literal.quote content).map quoted).map normal =
      (Literal.quote content).map quoted := List.map_map
  rw [scan_embedded h, List.map_append, List.map_append, flatten_append, flatten_append, hquoted,
    flatten_map_quoted]

/-- Another content moves the placeholders behind the literal. -/
theorem placeholders_moved (content' : List Char) :
    placeholdersFrom 0 0 (scan (before ++ (Literal.quote content' ++ after))) =
      (placeholdersFrom 0 0 (scan (before ++ (Literal.quote content ++ after)))).map
        (Placeholder.move (moved before.length (Literal.quote content).length
          (Literal.quote content').length)) := by
  rw [placeholdersFrom_embedded h content', placeholdersFrom_embedded h content, List.map_append,
    List.map_map]
  congr 1
  · rw [List.map_congr_left (g := id), List.map_id]
    intro p hp
    have hlt := position_lt hp
    rw [flatten_scan, Nat.zero_add] at hlt
    rw [Placeholder.move, moved_of_lt hlt, id]
  · apply List.map_congr_left
    intro p hp
    obtain ⟨i, l, -, -, hi, -⟩ := exists_located_of_mem hp
    have h0 : 0 ≤ p.position := hi ▸ Int.natCast_nonneg i
    simp only [Function.comp_apply, Placeholder.move, moved_add _ h0]

theorem colons_moved (content' : List Char) :
    (colonsFrom 0 (scan (before ++ (Literal.quote content' ++ after)))).map Nat.cast =
      (colonsFrom 0 (scan (before ++ (Literal.quote content ++ after)))).map fun i : ℕ =>
        moved before.length (Literal.quote content).length (Literal.quote content').length i := by
  rw [colonsFrom_embedded h content', colonsFrom_embedded h content, List.map_append,
    List.map_append, List.map_map, List.map_map]
  congr 1
  · apply List.map_congr_left
    intro i hi
    have hlt := colon_lt hi
    rw [flatten_scan, Nat.zero_add] at hlt
    rw [moved_of_lt (Int.ofNat_lt.mpr hlt)]
  · apply List.map_congr_left
    intro i _
    simp only [Function.comp_apply, Int.natCast_add i, moved_add _ (Int.natCast_nonneg i)]

end Around

/-! ### Parsing -/

/-- A literal with its delimiters. -/
def literal (content : String) : String := String.ofList (Literal.quote content.toList)

/-- A text with a literal in it. -/
def embed (before content after : String) : String := before ++ (literal content ++ after)

theorem toList_embed (before content after : String) : (embed before content after).toList =
    before.toList ++ (Literal.quote content.toList ++ after.toList) := by
  simp [embed, literal]

theorem normalized_embed {before : String} (h : before.toList.count '\'' % 2 = 0)
    (content after : String) :
    (ofLexemes (embed before content after) (scan (embed before content after).toList)).normalized =
      String.ofList (flatten ((scan before.toList).map normal)) ++
        (literal content ++ String.ofList (flatten ((scan after.toList).map normal))) := by
  rw [ofLexemes, toList_embed, flatten_normal_embedded h, String.ofList_append,
    String.ofList_append]
  rfl

/-- Where an offset goes when another content is put between the delimiters. -/
def follow (before content content' : String) : ℤ → ℤ :=
  moved before.length (literal content).length (literal content').length

section Contents

variable {before : String} (h : before.toList.count '\'' % 2 = 0) (after v w : String)
include h

theorem placeholders_embed :
    placeholdersFrom 0 0 (scan (embed before w after).toList) =
      (placeholdersFrom 0 0 (scan (embed before v after).toList)).map
        (Placeholder.move (follow before v w)) := by
  rw [toList_embed, toList_embed, placeholders_moved h v.toList, follow, literal, literal,
    String.length_ofList, String.length_ofList, String.length_toList]

theorem colons_embed :
    (colonsFrom 0 (scan (embed before w after).toList)).map Nat.cast =
      (colonsFrom 0 (scan (embed before v after).toList)).map
        fun i : ℕ => follow before v w i := by
  rw [toList_embed, toList_embed, colons_moved h v.toList, follow, literal, literal,
    String.length_ofList, String.length_ofList, String.length_toList]

end Contents

/-- Two texts that differ in what a literal holds can both be read or both not. Their
placeholders and their bare colons differ in their positions only, which behind the
literal move with its end. -/
theorem parse_embed {before : String} (h : before.toList.count '\'' % 2 = 0) (after : String) :
    ∃ head tail : String, ∀ (strict : Bool) (v w : String),
      (∃ i j : ℕ,
        parse ⟨strict, none⟩ (embed before v after) = .error (.malformed i (embed before v after)) ∧
        parse ⟨strict, none⟩ (embed before w after) = .error (.malformed j (embed before w after)) ∧
        j = follow before v w i) ∨
      ∃ a b : Parsed, parse ⟨strict, none⟩ (embed before v after) = .ok a ∧
        parse ⟨strict, none⟩ (embed before w after) = .ok b ∧
        b.template.placeholders =
          a.template.placeholders.map (Placeholder.move (follow before v w)) ∧
        b.colons.map Nat.cast = a.colons.map (fun i : ℕ => follow before v w i) ∧
        a.template.normalized = head ++ (literal v ++ tail) ∧
        b.template.normalized = head ++ (literal w ++ tail) := by
  refine ⟨String.ofList (flatten ((scan before.toList).map normal)),
    String.ofList (flatten ((scan after.toList).map normal)), fun strict v w => ?_⟩
  have hplaceholders := placeholders_embed h after v w
  have hcolons := colons_embed h after v w
  have hv := normalized_embed h v after
  have hw := normalized_embed h w after
  cases strict with
  | false =>
    exact Or.inr ⟨_, _, parse_lenient rfl, parse_lenient rfl, hplaceholders, hcolons, hv, hw⟩
  | true =>
    cases hc : colonsFrom 0 (scan (embed before v after).toList) with
    | nil =>
      rw [hc, List.map_nil, List.map_eq_nil_iff] at hcolons
      exact Or.inr ⟨_, _, parse_strict_ok rfl hc, parse_strict_ok rfl hcolons, hplaceholders, rfl,
        hv, hw⟩
    | cons i is =>
      rw [hc, List.map_cons, List.map_eq_cons_iff] at hcolons
      obtain ⟨j, js, hc', hj, -⟩ := hcolons
      exact Or.inl ⟨i, j, parse_strict_error rfl hc, parse_strict_error rfl hc', hj⟩

/-- Between two literals with which it runs together a literal can hold anything. -/
theorem parse_embed_merged : ":a 'x'".toList.count '\'' % 2 = 0 ∧ ∃ a b : Parsed,
    parse ⟨true, none⟩ ":a 'x''? :c ''''y' :b" = .ok a ∧
    parse ⟨true, none⟩ ":a 'x''''y' :b" = .ok b ∧
    a.template.normalized = "? 'x''? :c ''''y' ?" ∧
    b.template.placeholders =
      a.template.placeholders.map (Placeholder.move (follow ":a 'x'" "? :c '" "")) := by
  have h : ":a 'x'".toList.count '\'' % 2 = 0 := rfl
  obtain ⟨head, tail, hall⟩ := parse_embed h "'y' :b"
  rcases hall true "? :c '" "" with ⟨i, j, hi, -⟩ | ⟨a, b, ha, hb, hp, -⟩
  · cases (show Except.ok _ = Except.error _ from hi)
  · refine ⟨h, a, b, ha, hb, ?_, hp⟩
    cases ha
    rfl

end Template

end QueryBinding
