import QueryBinding.Proofs.Literal.Runs
import QueryBinding.Proofs.Template.Colons
import QueryBinding.Proofs.Template.Lossless

/-! The normal form of a text. A text that can be read can be read again once it is
normalized, by the same rules, and does not change any more. Every placeholder is then
positional and stands where its token was rewritten, which is further in front by the
names that are gone, and the literals have the same texts. Only a text without names is
its own normal form. -/

namespace QueryBinding

namespace Placeholder

/-- The characters by which a placeholder is shorter in the normal form. -/
def nameLength (p : Placeholder) : ℕ := (p.name.getD "").length

/-- The placeholder in the normal form, where the names before it take up `gone`
characters less. -/
def settled (gone : ℕ) (p : Placeholder) : Placeholder :=
  ⟨.positional, none, p.index, p.position - gone⟩

end Placeholder

namespace Template

open Lexeme Placeholder

/-! ### Normalized lexemes -/

/-- The characters that the names of placeholders take up. -/
def namesLength : List Placeholder → ℕ
  | [] => 0
  | p :: ps => p.nameLength + namesLength ps

@[simp] theorem namesLength_nil : namesLength [] = 0 := rfl

@[simp] theorem namesLength_cons (p : Placeholder) (ps : List Placeholder) :
    namesLength (p :: ps) = p.nameLength + namesLength ps := rfl

theorem nameLength_le {p : Placeholder} {ps : List Placeholder} (h : p ∈ ps) :
    p.nameLength ≤ namesLength ps := by
  induction h with
  | head ps => exact Nat.le_add_right _ _
  | tail q _ ih => exact ih.trans (Nat.le_add_left _ _)

/-- Placeholders in the normal form, where earlier names take up `gone` characters less. -/
def settle : ℕ → List Placeholder → List Placeholder
  | _, [] => []
  | gone, p :: ps => p.settled gone :: settle (gone + p.nameLength) ps

theorem getElem?_settle (gone i : ℕ) (ps : List Placeholder) :
    (settle gone ps)[i]? = ps[i]?.map (settled (gone + namesLength (ps.take i))) := by
  induction ps generalizing gone i with
  | nil => rfl
  | cons p ps ih =>
    cases i with
    | zero => rfl
    | succ i => simp [settle, ih, Nat.add_assoc]

theorem length_settle (gone : ℕ) (ps : List Placeholder) : (settle gone ps).length = ps.length := by
  induction ps generalizing gone with
  | nil => rfl
  | cons p ps ih => simp [settle, ih]

section Lists

variable (offset rank : ℕ) (ls : List Lexeme)

theorem placeholdersFrom_normal (gone : ℕ) : placeholdersFrom offset rank (ls.map normal) =
    settle gone (placeholdersFrom (offset + gone) rank ls) := by
  induction ls generalizing offset rank gone with
  | nil => rfl
  | cons l ls ih =>
    cases l with
    | positional =>
      simp [normal, placeholdersFrom, settle, settled, nameLength, ih _ _ gone,
        Nat.add_right_comm _ 1 gone]
    | named name =>
      have hbehind : offset + 1 + (gone + name.length) = offset + gone + (name.length + 1) := by
        omega
      simp [normal, placeholdersFrom, settle, settled, nameLength, ih _ _ (gone + name.length),
        hbehind]
    | _ => simp [normal, placeholdersFrom, width, ih _ _ gone, Nat.add_right_comm _ _ gone]

theorem length_flatten_normal :
    (flatten (ls.map normal)).length + namesLength (placeholdersFrom offset rank ls) =
      (flatten ls).length := by
  induction ls generalizing offset rank with
  | nil => rfl
  | cons l ls ih =>
    rw [List.map_cons, length_flatten_cons, length_flatten_cons]
    cases l with
    | positional =>
      have := ih (offset + 1) (rank + 1)
      simp [normal, placeholdersFrom, width, nameLength]
      omega
    | named name =>
      have := ih (offset + (name.length + 1)) (rank + 1)
      simp [normal, placeholdersFrom, width, nameLength]
      omega
    | _ =>
      simp only [normal, placeholdersFrom]
      rw [← ih, Nat.add_assoc]

/-- Normalized lexemes have as many bare colons. -/
theorem length_colonsFrom_normal (offset' : ℕ) :
    (colonsFrom offset' (ls.map normal)).length = (colonsFrom offset ls).length := by
  induction ls generalizing offset offset' with
  | nil => rfl
  | cons l ls ih =>
    cases l with
    | colon => exact congrArg (· + 1) (ih _ _)
    | _ => exact ih _ _

end Lists

/-! ### Texts without names -/

theorem nameLength_pos {cs : List Char} {p : Placeholder} (h : p ∈ placeholdersFrom 0 0 (scan cs))
    (hname : p.name.isSome = true) : 0 < p.nameLength := by
  obtain ⟨name, hname⟩ := Option.isSome_iff_exists.mp hname
  obtain ⟨i, hi⟩ : ∃ i : ℕ, p.position = i := by
    obtain ⟨i, -, -, -, hi, -⟩ := exists_located_of_mem h
    exact ⟨i, hi⟩
  obtain ⟨hn, hword⟩ := ((exact_scan cs).named i name).mp ⟨p, h, hi, hname⟩
  obtain ⟨c, hc, hs⟩ := hn.opens
  have hdrop : cs.drop (i + 1) = c :: cs.drop (i + 2) := by
    obtain ⟨hlt, hget⟩ := List.getElem?_eq_some_iff.mp hc
    rw [List.drop_eq_getElem_cons hlt, hget]
  rw [Token.wordAt, hdrop, List.takeWhile_cons_of_pos (Identifier.isWord_of_isStart hs)] at hword
  rw [nameLength, hname, Option.getD_some, ← String.length_toList, hword]
  exact Nat.succ_pos _

theorem map_normal_of_not_hasNamed {offset rank : ℕ} {ls : List Lexeme}
    (h : (placeholdersFrom offset rank ls).any (·.name.isSome) = false) : ls.map normal = ls := by
  induction ls generalizing offset rank with
  | nil => rfl
  | cons l ls ih =>
    rw [List.map_cons]
    cases l with
    | named name => simp [placeholdersFrom] at h
    | positional =>
      rw [placeholdersFrom, List.any_cons, Bool.or_eq_false_iff] at h
      exact congrArg (_ :: ·) (ih h.2)
    | _ => exact congrArg (_ :: ·) (ih h)

variable {sql : String}

theorem length_normalized (sql : String) :
    (ofLexemes sql (scan sql.toList)).normalized.length +
      namesLength (ofLexemes sql (scan sql.toList)).placeholders = sql.length := by
  have h := length_flatten_normal 0 0 (scan sql.toList)
  rwa [flatten_scan, String.length_toList, ← String.length_ofList] at h

/-- A text is its own normal form if it has no names. -/
theorem normalized_eq_iff (sql : String) : (ofLexemes sql (scan sql.toList)).normalized = sql ↔
    (ofLexemes sql (scan sql.toList)).hasNamed = false := by
  constructor
  · intro heq
    have hlen := length_normalized sql
    rw [heq] at hlen
    rw [hasNamed, List.any_eq_false]
    intro p hp hname
    have hpos := nameLength_pos hp hname
    have hle := nameLength_le hp
    omega
  · intro h
    rw [ofLexemes, map_normal_of_not_hasNamed h, flatten_scan, String.ofList_toList]

/-! ### Reading again -/

/-- The second template is that of the normal form of the first one. -/
structure NormalForm (t u : Template) : Prop where
  source : u.source = t.normalized
  normalized : u.normalized = t.normalized
  count : u.count = t.count
  /-- Every placeholder is positional and stands where its token was rewritten. -/
  placeholder : ∀ (i : ℕ) (p : Placeholder), t.placeholders[i]? = some p → u.placeholders[i]? =
    some (⟨.positional, none, i, p.position - namesLength (t.placeholders.take i)⟩ : Placeholder)
  literals : u.literals.map (·.text u.source) = t.literals.map (·.text t.source)

theorem scan_normalized (sql : String) :
    scan (ofLexemes sql (scan sql.toList)).normalized.toList = (scan sql.toList).map normal := by
  rw [ofLexemes, String.toList_ofList, scan_flatten_normal]

theorem texts_ofLexemes (sql : String) (ls : List Lexeme) :
    (ofLexemes sql ls).literals.map (·.text (ofLexemes sql ls).source) =
      (runsFrom [] (scan sql.toList)).map String.ofList := by
  rw [← Literal.map_chars_spans, List.map_map]
  rfl

theorem normalForm_ofLexemes (sql : String) :
    NormalForm (ofLexemes sql (scan sql.toList))
      (ofLexemes (ofLexemes sql (scan sql.toList)).normalized ((scan sql.toList).map normal)) where
  source := rfl
  normalized := by
    have hidem : normal ∘ normal = normal := by
      funext l
      cases l <;> rfl
    simp only [ofLexemes, List.map_map, hidem]
  count := by
    rw [count, ofLexemes, placeholdersFrom_normal 0 0 _ 0, length_settle]
    rfl
  placeholder i p hp := by
    have hindex : p.index = i := by
      obtain ⟨hi, rfl⟩ := List.getElem?_eq_some_iff.mp hp
      exact (exact_scan sql.toList).index i hi
    have hsettle := getElem?_settle 0 i (placeholdersFrom 0 0 (scan sql.toList))
    rw [ofLexemes] at hp
    rw [hp, ← placeholdersFrom_normal 0 0 _ 0] at hsettle
    rw [ofLexemes, hsettle, Nat.zero_add, Option.map_some, settled, hindex]
    rfl
  literals := by
    rw [texts_ofLexemes, texts_ofLexemes, scan_normalized, runsFrom_map_normal]

/-- What can be read can be read again once it is normalized, by the same rules, and then
stays as it is. The normal form is shorter by the names, and differs from the text if
there are any. -/
theorem parse_normalized {rules : Rules} {parsed : Parsed} (h : parse rules sql = .ok parsed) :
    (∃ again, parse rules parsed.template.normalized = .ok again ∧
      NormalForm parsed.template again.template) ∧
    (parsed.template.normalized = sql ↔ parsed.template.hasNamed = false) ∧
    parsed.template.normalized.length + namesLength parsed.template.placeholders = sql.length := by
  obtain ⟨hshort, hstrict, rfl⟩ := parse_eq_ok_iff.mp h
  have hlen := length_normalized sql
  refine ⟨⟨_, parse_eq_ok_iff.mpr ⟨?_, ?_, rfl⟩, ?_⟩, normalized_eq_iff sql, hlen⟩
  · rw [Rules.tooLong_eq_none_iff] at hshort ⊢
    intro limit hlimit
    have hshorter : (ofLexemes sql (scan sql.toList)).normalized.length ≤ sql.length := by omega
    exact Int.le_trans (Int.ofNat_le.mpr hshorter) (hshort limit hlimit)
  · intro hs
    have hcolons := length_colonsFrom_normal 0 (scan sql.toList) 0
    rw [hstrict hs] at hcolons
    rw [scan_normalized]
    exact List.length_eq_zero_iff.mp hcolons
  · rw [scan_normalized]
    exact normalForm_ofLexemes sql

/-- Behind a cast, beside a quoted name and at the limit. -/
theorem parse_normalized_quoted : ∃ parsed again,
    parse ⟨true, some 20⟩ "::a:bc?':d''' :e:f::" = .ok parsed ∧
    parse ⟨true, some 20⟩ "::a??':d''' ??::" = .ok again ∧
    NormalForm parsed.template again.template := by
  have h : parse ⟨true, some 20⟩ "::a:bc?':d''' :e:f::" = .ok _ := rfl
  obtain ⟨⟨again, hagain, hnormal⟩, -⟩ := parse_normalized h
  exact ⟨_, again, h, hagain, hnormal⟩

end Template

end QueryBinding
