import QueryBinding.Proofs.Template.Lossless
import QueryBinding.Proofs.Text.Quoted
import QueryBinding.Template.Shown

/-! Placeholders and templates as they are shown. Every part can be told from what follows it,
so that nothing in a name passes for the end of it, and what is shown determines what was shown.
The source of a template is not shown, but a template that was parsed has the source that the
shown parts determine. -/

namespace QueryBinding

variable {x y : List Char}

/-- The two kinds differ in the letter that follows the name of the class. -/
theorem Kind.shown_append_inj {k k' : Kind} (h : k.shown ++ x = k'.shown ++ y) :
    k = k' ∧ x = y := by
  have hletter : ∀ (k : Kind) z,
      (k.shown ++ z)[17]? = some (if k = .named then 'N' else 'P') := by
    intro k z
    cases k <;> exact List.getElem?_append_left (by decide)
  have heq := congrArg (·[17]?) h
  simp only [hletter] at heq
  obtain rfl : k = k' := by
    revert heq
    cases k <;> cases k' <;> decide
  exact ⟨rfl, List.append_cancel_left h⟩

namespace Placeholder

theorem shownName_append_inj {name name' : Option String}
    (h : shownName name ++ x = shownName name' ++ y) : name = name' ∧ x = y := by
  have hnone : ∀ (name : String) z w, "None".toList ++ z ≠ Quoted.encode name.toList ++ w := by
    intro name z w heq
    have hhead : 'N' = Quoted.mark name.toList := (List.cons.inj heq).1
    obtain hmark | hmark := Quoted.mark_cases name.toList
    · exact absurd (hhead.trans hmark) (by decide)
    · exact absurd (hhead.trans hmark) (by decide)
  cases name with
  | none =>
    cases name' with
    | none => exact ⟨rfl, List.append_cancel_left h⟩
    | some name' => exact absurd h (hnone _ _ _)
  | some name =>
    cases name' with
    | none => exact absurd h.symm (hnone _ _ _)
    | some name' =>
      obtain ⟨hname, hrest⟩ := Quoted.encode_append_inj h
      exact ⟨congrArg some (String.toList_inj.mp hname), hrest⟩

theorem shown_append (p : Placeholder) (z : List Char) : p.shown ++ z =
    "Placeholder(kind=".toList ++ (p.kind.shown ++ (", name=".toList ++ (shownName p.name ++
      (", occurrence_index=".toList ++ (Numeral.ofInt p.index ++ (", position=".toList ++
        (Numeral.ofInt p.position ++ ')' :: z))))))) := by
  have hassoc : ∀ a k b n c i d o : List Char, a ++ k ++ b ++ n ++ c ++ i ++ d ++ o ++ [')'] ++ z =
      a ++ (k ++ (b ++ (n ++ (c ++ (i ++ (d ++ (o ++ ')' :: z))))))) := by
    intro a k b n c i d o
    simp
  exact hassoc _ _ _ _ _ _ _ _

/-- A placeholder can be told from what follows it. -/
theorem shown_append_inj {p q : Placeholder} (h : p.shown ++ x = q.shown ++ y) :
    p = q ∧ x = y := by
  have hcomma : ∀ z, ∀ c ∈ (", position=".toList ++ z).head?, c.isDigit = false := by
    rintro z _ ⟨⟩
    decide
  have hclose : ∀ z, ∀ c ∈ (')' :: z).head?, c.isDigit = false := by
    rintro z _ ⟨⟩
    decide
  rw [shown_append, shown_append] at h
  obtain ⟨hkind, h⟩ := Kind.shown_append_inj (List.append_cancel_left h)
  obtain ⟨hname, h⟩ := shownName_append_inj (List.append_cancel_left h)
  obtain ⟨hindex, h⟩ := Numeral.ofInt_append_inj (hcomma _) (hcomma _) (List.append_cancel_left h)
  obtain ⟨hposition, h⟩ := Numeral.ofInt_append_inj (hclose _) (hclose _)
    (List.append_cancel_left h)
  obtain ⟨-, hrest⟩ := List.cons.inj h
  refine ⟨?_, hrest⟩
  calc p = ⟨p.kind, p.name, p.index, p.position⟩ := rfl
    _ = ⟨q.kind, q.name, q.index, q.position⟩ := by rw [hkind, hname, hindex, hposition]

theorem shown_ne_close (p : Placeholder) : p.shown ++ x ≠ ')' :: y := by
  intro h
  rw [shown_append] at h
  have hhead : 'P' = ')' := (List.cons.inj h).1
  exact absurd hhead (by decide)

/-- Placeholders with a comma and a space before each, up to the closing parenthesis. -/
theorem series_append_inj {ps qs : List Placeholder}
    (h : (ps.map shown).flatMap (fun s => ',' :: ' ' :: s) ++ ')' :: x =
      (qs.map shown).flatMap (fun s => ',' :: ' ' :: s) ++ ')' :: y) : ps = qs ∧ x = y := by
  induction ps generalizing qs with
  | nil =>
    cases qs with
    | nil => exact ⟨rfl, (List.cons.inj h).2⟩
    | cons q qs => exact absurd (List.cons.inj h).1 (by decide)
  | cons p ps ih =>
    cases qs with
    | nil => exact absurd (List.cons.inj h).1 (by decide)
    | cons q qs =>
      rw [List.map_cons, List.map_cons, List.flatMap_cons, List.flatMap_cons, List.append_assoc,
        List.append_assoc] at h
      obtain ⟨rfl, hrest⟩ := shown_append_inj (List.cons.inj (List.cons.inj h).2).2
      obtain ⟨rfl, rfl⟩ := ih hrest
      exact ⟨rfl, rfl⟩

/-- What follows the first item of a tuple. -/
def shownRest : List Placeholder → List Char
  | [] => [',', ')']
  | p :: ps => ((p :: ps).map shown).flatMap (fun s => ',' :: ' ' :: s) ++ [')']

theorem shownRest_append_inj {ps qs : List Placeholder}
    (h : shownRest ps ++ x = shownRest qs ++ y) : ps = qs ∧ x = y := by
  -- a single item has a comma right before the closing parenthesis, another one a space behind it
  have hsecond : ∀ p ps z w, shownRest (p :: ps) ++ z ≠ ',' :: ')' :: w := by
    intro p ps z w heq
    exact absurd (List.cons.inj (List.cons.inj heq).2).1 (by decide)
  cases ps with
  | nil =>
    cases qs with
    | nil => exact ⟨rfl, List.append_cancel_left h⟩
    | cons q qs => exact absurd h.symm (hsecond _ _ _ _)
  | cons p ps =>
    cases qs with
    | nil => exact absurd h (hsecond _ _ _ _)
    | cons q qs =>
      rw [shownRest, shownRest, List.append_assoc, List.append_assoc] at h
      exact series_append_inj h

theorem shownTuple_cons_append (p : Placeholder) (ps : List Placeholder) (z : List Char) :
    shownTuple ((p :: ps).map shown) ++ z = '(' :: (p.shown ++ (shownRest ps ++ z)) := by
  cases ps with
  | nil => simp [shownTuple, shownRest]
  | cons q ps => simp [shownTuple, shownRest]

/-- A sequence of placeholders can be told from what follows it. -/
theorem shownTuple_append_inj {ps qs : List Placeholder}
    (h : shownTuple (ps.map shown) ++ x = shownTuple (qs.map shown) ++ y) : ps = qs ∧ x = y := by
  cases ps with
  | nil =>
    cases qs with
    | nil => exact ⟨rfl, List.append_cancel_left h⟩
    | cons q qs =>
      rw [shownTuple_cons_append] at h
      exact absurd (List.cons.inj h).2.symm q.shown_ne_close
  | cons p ps =>
    cases qs with
    | nil =>
      rw [shownTuple_cons_append] at h
      exact absurd (List.cons.inj h).2 p.shown_ne_close
    | cons q qs =>
      rw [shownTuple_cons_append, shownTuple_cons_append] at h
      obtain ⟨rfl, hrest⟩ := shown_append_inj (List.cons.inj h).2
      obtain ⟨rfl, rfl⟩ := shownRest_append_inj hrest
      exact ⟨rfl, rfl⟩

theorem shown_eq_iff {p q : Placeholder} : p.shown = q.shown ↔ p = q := by
  constructor
  · intro h
    exact (shown_append_inj (congrArg (· ++ []) h)).1
  · exact congrArg shown

/-- No name is not a name that is shown alike, nor does a name end where its text says so. -/
example : shown ⟨.named, none, 0, 0⟩ ≠ shown ⟨.named, some "None", 0, 0⟩ ∧
    shown ⟨.named, some "a', occurrence_index=0", 1, 0⟩ ≠ shown ⟨.named, some "a", 0, 1⟩ := by
  decide +kernel

end Placeholder

namespace Template

variable {s t : Template}

theorem shown_eq (t : Template) : t.shown = "ParsedTemplate(normalized_sql=".toList ++
    (Quoted.encode t.normalized.toList ++ (", placeholders=".toList ++
      (shownTuple (t.placeholders.map Placeholder.shown) ++ [')']))) := by
  have hassoc : ∀ a n b p z : List Char, a ++ n ++ b ++ p ++ z = a ++ (n ++ (b ++ (p ++ z))) := by
    intro a n b p z
    simp
  exact hassoc _ _ _ _ _

theorem shown_eq_iff :
    s.shown = t.shown ↔ s.normalized = t.normalized ∧ s.placeholders = t.placeholders := by
  rw [shown_eq, shown_eq]
  constructor
  · intro h
    obtain ⟨hnormal, h⟩ := Quoted.encode_append_inj (List.append_cancel_left h)
    obtain ⟨hplaceholders, -⟩ := Placeholder.shownTuple_append_inj (List.append_cancel_left h)
    exact ⟨String.toList_inj.mp hnormal, hplaceholders⟩
  · rintro ⟨hnormal, hplaceholders⟩
    rw [hnormal, hplaceholders]

theorem same_eq_true_iff : s.same t = true ↔
    s.source = t.source ∧ s.normalized = t.normalized ∧ s.placeholders = t.placeholders := by
  simp [same, and_assoc]

/-- The normalized text and the placeholders determine the source. -/
theorem source_eq_of_parse {rules rules' : Rules} {sql sql' : String} {p p' : Parsed}
    (h : parse rules sql = .ok p) (h' : parse rules' sql' = .ok p')
    (hnormal : p.template.normalized = p'.template.normalized)
    (hplaceholders : p.template.placeholders = p'.template.placeholders) :
    p.template.source = p'.template.source := by
  rw [template_of_parse h, template_of_parse h'] at *
  have hfill := (lossless_ofLexemes sql).fill
  rw [hnormal, hplaceholders, (lossless_ofLexemes sql').fill] at hfill
  exact (String.toList_inj.mp hfill).symm

theorem same_iff_shown {rules rules' : Rules} {sql sql' : String} {p p' : Parsed}
    (h : parse rules sql = .ok p) (h' : parse rules' sql' = .ok p') :
    p.template.same p'.template = true ↔ p.template.shown = p'.template.shown := by
  rw [shown_eq_iff, same_eq_true_iff]
  constructor
  · rintro ⟨-, hnormal, hplaceholders⟩
    exact ⟨hnormal, hplaceholders⟩
  · rintro ⟨hnormal, hplaceholders⟩
    exact ⟨source_eq_of_parse h h' hnormal hplaceholders, hnormal, hplaceholders⟩

end Template

/-- What is shown tells what it is, with parts that were parsed or put together by hand. -/
structure ShownIdentifies : Prop where
  placeholder : ∀ p q : Placeholder, p.shown = q.shown ↔ p = q
  template : ∀ s t : Template, s.shown = t.shown ↔
    s.normalized = t.normalized ∧ s.placeholders = t.placeholders
  /-- Templates that were parsed, each under rules of its own, agree in their source as well. -/
  parsed : ∀ (rules rules' : Rules) (sql sql' : String) (p p' : Parsed),
    Template.parse rules sql = .ok p → Template.parse rules' sql' = .ok p' →
      (p.template.shown = p'.template.shown ↔ p.template.same p'.template = true)

theorem shown_identifies : ShownIdentifies where
  placeholder _ _ := Placeholder.shown_eq_iff
  template _ _ := Template.shown_eq_iff
  parsed _ _ _ _ _ _ h h' := (Template.same_iff_shown h h').symm

end QueryBinding
