import QueryBinding.Literal
import QueryBinding.Proofs.Lexeme.Location

/-! Joining texts. Where a text ends outside literals and no lexeme goes on with the
first character of the next one, the lexemes of both are those of the one and then those
of the other. A literal with its delimiters always joins in this way, whatever it holds
and whatever stands next to it, and each of its characters is a lexeme of its own. -/

namespace QueryBinding.Lexeme

/-- No lexeme goes on with what follows. -/
def Breaks (next : Option Char) : Prop :=
  ∀ c, next = some c → c ≠ ':' ∧ Identifier.isWord c = false

theorem endsBefore_of_breaks {next : Option Char} (h : Breaks next) (l : Lexeme) :
    l.EndsBefore next := by
  cases l with
  | named name => exact fun c hc => (h c hc).2
  | colon =>
    intro c hc
    obtain ⟨hne, hw⟩ := h c hc
    refine ⟨hne, ?_⟩
    by_contra hs
    rw [Bool.not_eq_false] at hs
    rw [Identifier.isWord_of_isStart hs] at hw
    cases hw
  | _ => trivial

/-- A lexeme is never empty. -/
theorem head?_flatten_cons (l : Lexeme) (ls : List Lexeme) :
    (flatten (l :: ls)).head? = l.source.head? := by cases l <;> rfl

/-- Proper lists join at a break. -/
theorem proper_append_of_breaks {inside : Bool} {ls ms : List Lexeme} (h : Proper inside ls)
    (hm : Proper (turns inside ls) ms) (hb : Breaks (flatten ms).head?) :
    Proper inside (ls ++ ms) := by
  induction ls generalizing inside with
  | nil => exact hm
  | cons l ls ih =>
    obtain ⟨hf, he, hp⟩ := h
    refine ⟨hf, ?_, ih hp hm⟩
    cases ls with
    | nil => exact endsBefore_of_breaks hb l
    | cons l' ls =>
      rw [head?_flatten_cons] at he
      rw [List.append_eq, List.cons_append, head?_flatten_cons]
      exact he

/-- An even number of apostrophes leaves no literal open. -/
theorem turns_scan {cs : List Char} (h : cs.count '\'' % 2 = 0) :
    turns false (scan cs) = false := by
  have hp := proper_scan cs
  rw [← List.append_nil (scan cs)] at hp
  rw [turns_eq_parity hp, flatten_scan, h]
  rfl

theorem scan_append {a b : List Char} (ha : a.count '\'' % 2 = 0) (hb : Breaks b.head?) :
    scan (a ++ b) = scan a ++ scan b := by
  have hp : Proper false (scan a ++ scan b) := by
    apply proper_append_of_breaks (proper_scan a)
    · rw [turns_scan ha]
      exact proper_scan b
    · rwa [flatten_scan]
  rw [← scan_flatten hp, flatten_append, flatten_scan, flatten_scan]

/-! ### Embedded literals -/

theorem flatten_map_quoted (cs : List Char) : flatten (cs.map quoted) = cs := by
  induction cs with
  | nil => rfl
  | cons c cs ih => rw [List.map_cons, flatten_cons, ih]; rfl

/-- The content of a literal is proper inside it: two apostrophes leave it and open it
again. -/
theorem proper_double (content : List Char) {ls : List Lexeme} (h : Proper true ls) :
    Proper true ((Literal.double content).map quoted ++ ls) := by
  induction content with
  | nil => exact h
  | cons c content ih =>
    rw [Literal.double, List.flatMap_cons]
    split_ifs with hc
    · exact ⟨Or.inl rfl, trivial, Or.inr rfl, trivial, ih⟩
    · refine ⟨Or.inl rfl, trivial, ?_⟩
      rw [turn, if_neg hc]
      exact ih

theorem proper_quote (content : List Char) {ls : List Lexeme} (h : Proper false ls) :
    Proper false ((Literal.quote content).map quoted ++ ls) := by
  have hclose : Proper true ([quoted '\''] ++ ls) := ⟨Or.inl rfl, trivial, h⟩
  have hopen : (Literal.quote content).map quoted ++ ls =
      quoted '\'' :: ((Literal.double content).map quoted ++ ([quoted '\''] ++ ls)) := by
    simp [Literal.quote]
  rw [hopen]
  exact ⟨Or.inr rfl, trivial, proper_double content hclose⟩

/-- What stands before a literal and behind it is scanned as if it stood alone. -/
theorem scan_embedded {before : List Char} (h : before.count '\'' % 2 = 0)
    (content after : List Char) : scan (before ++ (Literal.quote content ++ after)) =
      scan before ++ ((Literal.quote content).map quoted ++ scan after) := by
  have hp := proper_quote content (proper_scan after)
  have hscan := scan_flatten hp
  rw [flatten_append, flatten_map_quoted, flatten_scan] at hscan
  rw [scan_append h, hscan]
  rintro c ⟨⟩
  exact ⟨by decide, Identifier.not_isWord_apostrophe⟩

end QueryBinding.Lexeme
