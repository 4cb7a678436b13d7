import Mathlib.Tactic.Common
import QueryBinding.Lexeme

/-! The grammar of lexeme lists. A list is proper when each lexeme fits where it
stands, inside or outside a literal, and the character behind it does not belong
to it. The scan of a text is proper and is the only proper list that spells the
text. Making every placeholder positional keeps a list proper, so the scan of a
normalized text is the normalized scan. -/

namespace QueryBinding

/-- A text that is an identifier as a whole. -/
def Identifier.IsName : List Char → Prop
  | [] => False
  | c :: cs => isStart c = true ∧ ∀ d ∈ cs, isWord d = true

namespace Lexeme

/-- Whether what follows a lexeme stands inside a literal. -/
def turn (inside : Bool) : Lexeme → Bool
  | quoted c => if c = '\'' then !inside else inside
  | _ => inside

def Fits (inside : Bool) : Lexeme → Prop
  | char c => inside = false ∧ c ≠ '\'' ∧ c ≠ '?' ∧ c ≠ ':'
  | quoted c => inside = true ∨ c = '\''
  | named name => inside = false ∧ Identifier.IsName name
  | _ => inside = false

/-- Whether a lexeme is over where a certain character, or no more, follows. -/
def EndsBefore (next : Option Char) : Lexeme → Prop
  | named _ => ∀ c, next = some c → Identifier.isWord c = false
  | colon => ∀ c, next = some c → c ≠ ':' ∧ Identifier.isStart c = false
  | _ => True

def Proper (inside : Bool) : List Lexeme → Prop
  | [] => True
  | l :: ls => l.Fits inside ∧ l.EndsBefore (flatten ls).head? ∧ Proper (l.turn inside) ls

theorem isWord_of_isName {name : List Char} (h : Identifier.IsName name) :
    ∀ c ∈ name, Identifier.isWord c = true := by
  cases name with
  | nil => exact h.elim
  | cons d ds =>
    intro c hc
    rcases List.mem_cons.mp hc with rfl | hc
    · exact Identifier.isWord_of_isStart h.1
    · exact h.2 c hc

theorem isName_append {name : List Char} {c : Char} (h : Identifier.IsName name)
    (hc : Identifier.isWord c = true) : Identifier.IsName (name ++ [c]) := by
  cases name with
  | nil => exact h.elim
  | cons d ds =>
    refine ⟨h.1, fun e he => ?_⟩
    rcases List.mem_append.mp he with he | he
    · exact h.2 e he
    · rw [List.mem_singleton.mp he]; exact hc

/-! ### The scan is proper -/

/-- Whether a mode stands inside a literal. -/
def Mode.isInside : Mode → Bool
  | .inside => true
  | _ => false

/-- The characters of a name in the making are a name. -/
def Mode.Sound : Mode → Prop
  | .name cs => Identifier.IsName cs.reverse
  | _ => True

theorem flatten_start_append (c : Char) (cs : List Char) :
    flatten ((start c).1 ++ scanFrom (start c).2 cs) = c :: cs := by
  rw [flatten_append, flatten_scanFrom, ← List.append_assoc, flatten_start]
  rfl

theorem sound_start (c : Char) : (start c).2.Sound := by
  unfold start
  split_ifs <;> trivial

theorem sound_step {m : Mode} (h : m.Sound) (c : Char) : (step m c).2.Sound := by
  cases m with
  | outside => exact sound_start c
  | inside => simp only [step]; split_ifs <;> trivial
  | afterColon =>
    simp only [step]
    split_ifs with hc hs
    · trivial
    · exact ⟨hs, by simp⟩
    · exact sound_start c
  | name cs =>
    simp only [step]
    split_ifs with hw
    · simpa [Mode.Sound] using isName_append h hw
    · exact sound_start c

/-- What a character opens is proper before what is proper. -/
theorem proper_start_append {c : Char} {ls : List Lexeme} (h : Proper (start c).2.isInside ls) :
    Proper false ((start c).1 ++ ls) := by
  unfold start at h ⊢
  split_ifs at h ⊢ with h1 h2 h3
  · subst h1; exact ⟨Or.inr rfl, trivial, h⟩
  · exact ⟨rfl, trivial, h⟩
  · exact h
  · exact ⟨⟨rfl, h1, h2, h3⟩, trivial, h⟩

theorem proper_close {m : Mode} (h : m.Sound) : Proper m.isInside (close m) := by
  cases m with
  | outside => trivial
  | inside => trivial
  | afterColon => exact ⟨rfl, by simp [EndsBefore], trivial⟩
  | name cs => exact ⟨⟨rfl, h⟩, by simp [EndsBefore], trivial⟩

theorem proper_scanFrom {m : Mode} (h : m.Sound) (cs : List Char) :
    Proper m.isInside (scanFrom m cs) := by
  induction cs generalizing m with
  | nil => exact proper_close h
  | cons c cs ih =>
    have ih := ih (sound_step h c)
    cases m with
    | outside => exact proper_start_append ih
    | inside =>
      refine ⟨Or.inl rfl, trivial, ?_⟩
      by_cases hc : c = '\'' <;> simpa [step, turn, hc, Mode.isInside] using ih
    | afterColon =>
      simp only [scanFrom, step] at ih ⊢
      split_ifs at ih ⊢ with hc hs
      · exact ⟨rfl, trivial, ih⟩
      · exact ih
      · refine ⟨rfl, ?_, proper_start_append ih⟩
        rw [List.append_eq, flatten_start_append]
        rintro d ⟨⟩
        exact ⟨hc, by simpa using hs⟩
    | name ds =>
      simp only [scanFrom, step] at ih ⊢
      split_ifs at ih ⊢ with hw
      · exact ih
      · refine ⟨⟨rfl, h⟩, ?_, proper_start_append ih⟩
        rw [List.append_eq, flatten_start_append]
        rintro d ⟨⟩
        simpa using hw

theorem proper_scan (cs : List Char) : Proper false (scan cs) :=
  proper_scanFrom (m := .outside) trivial cs

/-! ### A proper list is the scan of its text -/

/-- A name takes in all word characters that come. -/
theorem scanFrom_name_append {name : List Char} (h : ∀ c ∈ name, Identifier.isWord c = true)
    (cs rest : List Char) :
    scanFrom (.name cs) (name ++ rest) = scanFrom (.name (name.reverse ++ cs)) rest := by
  induction name generalizing cs with
  | nil => rfl
  | cons c name ih =>
    have hc := h c (by simp)
    rw [List.cons_append, scanFrom, step, if_pos hc, List.nil_append,
      ih (fun d hd => h d (by simp [hd]))]
    simp

theorem scanFrom_name_end {cs rest : List Char}
    (h : ∀ c, rest.head? = some c → Identifier.isWord c = false) :
    scanFrom (.name cs) rest = named cs.reverse :: scanFrom .outside rest := by
  cases rest with
  | nil => rfl
  | cons c rest =>
    have hc := h c rfl
    rw [scanFrom, step, if_neg (by simp [hc])]
    rfl

/-- A name is read up to the first character that is none of its own. -/
theorem scanFrom_named {name rest : List Char} (h : Identifier.IsName name)
    (hr : ∀ c, rest.head? = some c → Identifier.isWord c = false) :
    scanFrom .outside (':' :: name ++ rest) = named name :: scanFrom .outside rest := by
  cases name with
  | nil => exact h.elim
  | cons c name =>
    have hc : c ≠ ':' := by
      rintro rfl
      exact Bool.eq_false_iff.mp Identifier.not_isWord_colon (Identifier.isWord_of_isStart h.1)
    have hcolon : scanFrom .outside (':' :: (c :: name) ++ rest) =
        scanFrom (.name [c]) (name ++ rest) := by
      simp [scanFrom, step, start, hc, h.1]
    rw [hcolon, scanFrom_name_append h.2, scanFrom_name_end hr]
    simp

theorem scanFrom_colon {rest : List Char}
    (h : ∀ c, rest.head? = some c → c ≠ ':' ∧ Identifier.isStart c = false) :
    scanFrom .outside (':' :: rest) = colon :: scanFrom .outside rest := by
  cases rest with
  | nil => rfl
  | cons c rest =>
    obtain ⟨hc, hs⟩ := h c rfl
    simp [scanFrom, step, start, hc, hs]

theorem scanFrom_flatten {inside : Bool} {ls : List Lexeme} (h : Proper inside ls) :
    scanFrom (if inside then .inside else .outside) (flatten ls) = ls := by
  induction ls generalizing inside with
  | nil => cases inside <;> rfl
  | cons l ls ih =>
    obtain ⟨hf, he, hp⟩ := h
    have ih := ih hp
    cases l with
    | char c =>
      obtain ⟨rfl, h1, h2, h3⟩ := hf
      simpa [scanFrom, step, start, source, h1, h2, h3, turn] using ih
    | quoted c =>
      cases inside with
      | true => by_cases hc : c = '\'' <;> simpa [scanFrom, step, source, turn, hc] using ih
      | false =>
        obtain rfl : c = '\'' := by simpa [Fits] using hf
        simpa [scanFrom, step, start, source, turn] using ih
    | positional => cases hf; simpa [scanFrom, step, start, source, turn] using ih
    | named name =>
      obtain ⟨rfl, hn⟩ := hf
      rw [flatten_cons]
      exact (scanFrom_named hn he).trans (congrArg _ ih)
    | cast => cases hf; simpa [scanFrom, step, start, source, turn] using ih
    | colon =>
      cases hf
      rw [flatten_cons]
      exact (scanFrom_colon he).trans (congrArg _ ih)

theorem scan_flatten {ls : List Lexeme} (h : Proper false ls) : scan (flatten ls) = ls :=
  scanFrom_flatten h

/-! ### Normalized lists -/

theorem normal_turn (inside : Bool) (l : Lexeme) : l.normal.turn inside = l.turn inside := by
  cases l <;> rfl

theorem fits_normal {inside : Bool} {l : Lexeme} (h : l.Fits inside) : l.normal.Fits inside := by
  cases l with
  | named name => exact h.1
  | _ => exact h

/-- The first character is kept unless it opens a name. -/
theorem head?_flatten_normal (ls : List Lexeme) :
    (flatten (ls.map normal)).head? = (flatten ls).head? ∨
      (flatten (ls.map normal)).head? = some '?' := by
  cases ls with
  | nil => exact Or.inl rfl
  | cons l ls => cases l <;> simp [normal, source]

theorem endsBefore_normal {l : Lexeme} {ls : List Lexeme} (h : l.EndsBefore (flatten ls).head?) :
    l.normal.EndsBefore (flatten (ls.map normal)).head? := by
  cases l with
  | colon =>
    intro c hc
    rcases head?_flatten_normal ls with he | he
    · exact h c (he.symm.trans hc)
    · obtain rfl : '?' = c := Option.some.inj (he.symm.trans hc)
      exact ⟨by decide, by decide⟩
  | _ => trivial

theorem proper_normal {inside : Bool} {ls : List Lexeme} (h : Proper inside ls) :
    Proper inside (ls.map normal) := by
  induction ls generalizing inside with
  | nil => trivial
  | cons l ls ih =>
    obtain ⟨hf, he, hp⟩ := h
    refine ⟨fits_normal hf, endsBefore_normal he, ?_⟩
    rw [normal_turn]
    exact ih hp

/-- Scanning a normalized text gives the normalized lexemes of the text. -/
theorem scan_flatten_normal (cs : List Char) :
    scan (flatten ((scan cs).map normal)) = (scan cs).map normal :=
  scan_flatten (proper_normal (proper_scan cs))

end Lexeme

end QueryBinding
