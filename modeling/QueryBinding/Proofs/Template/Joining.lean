import QueryBinding.Proofs.Literal.Joining
import QueryBinding.Proofs.Template.Embedding
import QueryBinding.Proofs.Template.Names

/-! Joined texts. A text that leaves no literal open can be put before another one, with a
separator between them, and is read as if either stood alone: what the second one holds
is only counted on and stands further behind. Strict rules refuse the whole if they
refuse a part, and report the first bare colon of the two. -/

namespace QueryBinding

/-- A character that stands for itself outside literals and ends a name. -/
structure Separator (c : Char) : Prop where
  apostrophe : c ≠ '\''
  question : c ≠ '?'
  colon : c ≠ ':'
  word : Identifier.isWord c = false

namespace Template

/-- The template of two texts with a separator between them. -/
def join (t : Template) (c : Char) (u : Template) : Template where
  source := t.source.push c ++ u.source
  normalized := t.normalized.push c ++ u.normalized
  placeholders := t.placeholders ++
    u.placeholders.map (Placeholder.behind t.count (t.source.length + 1))
  literals := t.literals ++ u.literals.map (Span.shift (t.source.length + 1))

end Template

def Parsed.join (x : Parsed) (c : Char) (y : Parsed) : Parsed where
  template := x.template.join c y.template
  colons := x.colons ++ y.colons.map (· + (x.template.source.length + 1))

namespace Template

open Lexeme

/-! ### Names -/

/-- The names of the first text come first, then those that only the second one has. -/
theorem names_join (t : Template) (c : Char) (u : Template) :
    (t.join c u).names = t.names ++ u.names.filter fun name => name ∉ t.names := by
  have hnames : (t.join c u).placeholders.filterMap (·.name) =
      t.placeholders.filterMap (·.name) ++ u.placeholders.filterMap (·.name) := by
    rw [join, List.filterMap_append, List.filterMap_map]
    rfl
  have hmem (ns : List String) :
      (fun name => !ns.elem name) = fun name => decide (name ∉ ns.eraseDups) := by
    funext name
    simp
  rw [names, hnames, List.eraseDups_append, List.removeAll, eraseDups_filter, hmem]
  rfl

/-! ### Lexemes of joined texts -/

section Texts

variable {c : Char} (hc : Separator c) {a : List Char} (ha : a.count '\'' % 2 = 0)
include hc ha

theorem scan_append_cons (b : List Char) : scan (a ++ c :: b) = scan a ++ char c :: scan b := by
  have hbreak : Breaks (c :: b).head? := by
    rintro d ⟨⟩
    exact ⟨hc.colon, hc.word⟩
  have hchar : scan (c :: b) = char c :: scan b := by
    simp [scan, scanFrom, step, start, hc.apostrophe, hc.question, hc.colon]
  rw [scan_append ha hbreak, hchar]

theorem placeholdersFrom_append_cons (b : List Char) :
    placeholdersFrom 0 0 (scan (a ++ c :: b)) = placeholdersFrom 0 0 (scan a) ++
      (placeholdersFrom 0 0 (scan b)).map
        (Placeholder.behind (placeholdersFrom 0 0 (scan a)).length (a.length + 1)) := by
  rw [scan_append_cons hc ha, placeholdersFrom_append, flatten_scan, ← placeholdersFrom_behind,
    ← Nat.add_assoc]
  rfl

theorem colonsFrom_append_cons (b : List Char) : colonsFrom 0 (scan (a ++ c :: b)) =
    colonsFrom 0 (scan a) ++ (colonsFrom 0 (scan b)).map (· + (a.length + 1)) := by
  rw [scan_append_cons hc ha, colonsFrom_append, flatten_scan, ← colonsFrom_add]
  simp [colonsFrom, width]

theorem flatten_normal_append_cons (b : List Char) :
    flatten ((scan (a ++ c :: b)).map normal) =
      flatten ((scan a).map normal) ++ c :: flatten ((scan b).map normal) := by
  rw [scan_append_cons hc ha, List.map_append, flatten_append]
  rfl

end Texts

/-! ### Parsing -/

variable {a : String} {c : Char}

theorem toList_join (a : String) (c : Char) (b : String) :
    (a.push c ++ b).toList = a.toList ++ c :: b.toList := by
  simp

theorem ofLexemes_join (ha : a.toList.count '\'' % 2 = 0) (hc : Separator c) (b : String) :
    ofLexemes (a.push c ++ b) (scan (a.push c ++ b).toList) =
      (ofLexemes a (scan a.toList)).join c (ofLexemes b (scan b.toList)) := by
  have hnormal : String.ofList (flatten ((scan a.toList).map normal) ++
      c :: flatten ((scan b.toList).map normal)) =
        (String.ofList (flatten ((scan a.toList).map normal))).push c ++
          String.ofList (flatten ((scan b.toList).map normal)) :=
    String.toList_inj.mp (by simp)
  rw [ofLexemes, toList_join, placeholdersFrom_append_cons hc ha, flatten_normal_append_cons hc ha,
    Literal.spans_append_cons ha hc.apostrophe, String.length_toList, hnormal]
  rfl

/-- Reading two texts with a separator between them comes to the same as reading either:
lenient rules join the templates, and strict rules do so too unless they refuse the first
text, or else the second one. -/
theorem parse_join (ha : a.toList.count '\'' % 2 = 0) (hc : Separator c) (b : String) :
    (∃ x y, parse ⟨false, none⟩ a = .ok x ∧ parse ⟨false, none⟩ b = .ok y ∧
      parse ⟨false, none⟩ (a.push c ++ b) = .ok (x.join c y) ∧
      (x.join c y).template.names = x.template.names ++
        y.template.names.filter fun name => name ∉ x.template.names) ∧
    ((∃ x y, parse ⟨true, none⟩ a = .ok x ∧ parse ⟨true, none⟩ b = .ok y ∧
        parse ⟨true, none⟩ (a.push c ++ b) = .ok (x.join c y)) ∨
      (∃ i, parse ⟨true, none⟩ a = .error (.malformed i a) ∧
        parse ⟨true, none⟩ (a.push c ++ b) = .error (.malformed i (a.push c ++ b))) ∨
      ∃ x j, parse ⟨true, none⟩ a = .ok x ∧ parse ⟨true, none⟩ b = .error (.malformed j b) ∧
        parse ⟨true, none⟩ (a.push c ++ b) =
          .error (.malformed (a.length + 1 + j) (a.push c ++ b))) := by
  have hcolons : colonsFrom 0 (scan (a.push c ++ b).toList) = colonsFrom 0 (scan a.toList) ++
      (colonsFrom 0 (scan b.toList)).map (· + (a.length + 1)) := by
    rw [toList_join, colonsFrom_append_cons hc ha, String.length_toList]
  have htemplate := ofLexemes_join ha hc b
  constructor
  · refine ⟨_, _, parse_lenient rfl, parse_lenient rfl, ?_, names_join _ c _⟩
    rw [parse_lenient rfl, hcolons, htemplate]
    rfl
  · cases hx : colonsFrom 0 (scan a.toList) with
    | cons i is =>
      rw [hx] at hcolons
      exact Or.inr (Or.inl ⟨i, parse_strict_error rfl hx, parse_strict_error rfl hcolons⟩)
    | nil =>
      cases hy : colonsFrom 0 (scan b.toList) with
      | cons j js =>
        rw [hx, hy, List.nil_append, List.map_cons, Nat.add_comm j] at hcolons
        exact Or.inr (Or.inr ⟨_, j, parse_strict_ok rfl hx, parse_strict_error rfl hy,
          parse_strict_error rfl hcolons⟩)
      | nil =>
        rw [hx, hy] at hcolons
        refine Or.inl ⟨_, _, parse_strict_ok rfl hx, parse_strict_ok rfl hy, ?_⟩
        rw [parse_strict_ok rfl hcolons, htemplate]
        rfl

/-- A bare colon at the end of the first text does not pair with one in the second. -/
theorem parse_join_colons : "x = :a::b :".toList.count '\'' % 2 = 0 ∧ Separator ' ' ∧
    ∃ x y z, parse {} "x = :a::b :" = .ok x ∧ parse {} ":a 'c' ?:" = .ok y ∧
      parse {} "x = :a::b : :a 'c' ?:" = .ok z ∧ z = x.join ' ' y ∧ z.template.names = ["a"] ∧
      parse ⟨true, none⟩ "x = :a::b : :a 'c' ?:" =
        .error (.malformed 10 "x = :a::b : :a 'c' ?:") := by
  have ha : "x = :a::b :".toList.count '\'' % 2 = 0 := rfl
  have hc : Separator ' ' := ⟨by decide, by decide, by decide, by decide⟩
  obtain ⟨⟨x, y, hx, hy, hz, hnames⟩, hstrict⟩ := parse_join ha hc ":a 'c' ?:"
  refine ⟨ha, hc, x, y, _, hx, hy, hz, rfl, ?_, ?_⟩
  · cases hx
    cases hy
    exact hnames.trans rfl
  · obtain ⟨x, -, hx, -⟩ | ⟨i, hi, hjoin⟩ | ⟨x, -, hx, -⟩ := hstrict
    · cases (show Except.error _ = Except.ok _ from hx)
    · cases hi
      exact hjoin
    · cases (show Except.error _ = Except.ok _ from hx)

end Template

end QueryBinding
