import QueryBinding.Text.Identifier

/-! The lexemes of a statement. Outside literals a question mark is a
positional placeholder, a colon before an identifier a named one, two colons
are a cast, and any other colon stands for itself. A name reaches as far as
word characters go. Every other character is a lexeme of its own, marked when
it belongs to a literal. -/

namespace QueryBinding

inductive Lexeme where
  | char (c : Char)
  /-- A character of a literal, its delimiters included. -/
  | quoted (c : Char)
  | positional
  | named (name : List Char)
  | cast
  | colon
  deriving DecidableEq, Repr

namespace Lexeme

/-- A lexeme as it is written. -/
def source : Lexeme → List Char
  | char c => [c]
  | quoted c => [c]
  | positional => ['?']
  | named name => ':' :: name
  | cast => [':', ':']
  | colon => [':']

/-- A lexeme with a named placeholder made positional. -/
def normal : Lexeme → Lexeme
  | named _ => positional
  | l => l

/-- The length of `source`. -/
def width : Lexeme → Nat
  | named name => name.length + 1
  | cast => 2
  | _ => 1

theorem length_source (l : Lexeme) : l.source.length = l.width := by
  cases l <;> simp [source, width]

/-- The text that lexemes spell. -/
def flatten (ls : List Lexeme) : List Char := ls.flatMap source

/-! ### Scanning -/

/-- What has been read of the lexeme at hand: nothing outside or inside a
literal, one colon, or a colon and the characters of a name, the last first. -/
inductive Mode where
  | outside
  | inside
  | afterColon
  | name (reversed : List Char)
  deriving DecidableEq, Repr

/-- A character at the start of a lexeme. -/
def start (c : Char) : List Lexeme × Mode :=
  if c = '\'' then ([quoted c], .inside)
  else if c = '?' then ([positional], .outside)
  else if c = ':' then ([], .afterColon)
  else ([char c], .outside)

def step : Mode → Char → List Lexeme × Mode
  | .outside, c => start c
  | .inside, c => ([quoted c], if c = '\'' then .outside else .inside)
  | .afterColon, c =>
    if c = ':' then ([cast], .outside)
    else if Identifier.isStart c then ([], .name [c])
    else (colon :: (start c).1, (start c).2)
  | .name cs, c =>
    if Identifier.isWord c then ([], .name (c :: cs))
    else (named cs.reverse :: (start c).1, (start c).2)

/-- What is left when the text ends. -/
def close : Mode → List Lexeme
  | .outside => []
  | .inside => []
  | .afterColon => [colon]
  | .name cs => [named cs.reverse]

def scanFrom : Mode → List Char → List Lexeme
  | m, [] => close m
  | m, c :: cs => (step m c).1 ++ scanFrom (step m c).2 cs

def scan (cs : List Char) : List Lexeme := scanFrom .outside cs

/-- What has been read and not yet made a lexeme. -/
def Mode.pending : Mode → List Char
  | .outside => []
  | .inside => []
  | .afterColon => [':']
  | .name cs => ':' :: cs.reverse

@[simp] theorem flatten_nil : flatten [] = [] := rfl

@[simp] theorem flatten_cons (l : Lexeme) (ls : List Lexeme) :
    flatten (l :: ls) = l.source ++ flatten ls := by simp [flatten]

@[simp] theorem flatten_append (ls ms : List Lexeme) :
    flatten (ls ++ ms) = flatten ls ++ flatten ms := by simp [flatten]

theorem flatten_start (c : Char) : flatten (start c).1 ++ (start c).2.pending = [c] := by
  unfold start; split <;> (try split) <;> (try split) <;> simp_all [source, Mode.pending]

theorem flatten_step (m : Mode) (c : Char) :
    flatten (step m c).1 ++ (step m c).2.pending = m.pending ++ [c] := by
  have hs := flatten_start c
  cases m with
  | outside => simpa [step, Mode.pending] using hs
  | inside => simp only [step]; split <;> simp [source, Mode.pending]
  | afterColon =>
    simp only [step]
    by_cases hc : c = ':'
    · simp [hc, source, Mode.pending]
    · by_cases hi : Identifier.isStart c = true
      · simp [hc, hi, Mode.pending]
      · rw [if_neg hc, if_neg hi, flatten_cons, List.append_assoc, hs]
        rfl
  | name cs =>
    simp only [step]
    by_cases hw : Identifier.isWord c = true
    · simp [hw, Mode.pending]
    · rw [if_neg hw, flatten_cons, List.append_assoc, hs]
      rfl

theorem flatten_close (m : Mode) : flatten (close m) = m.pending := by
  cases m <;> simp [close, source, Mode.pending]

theorem flatten_scanFrom (m : Mode) (cs : List Char) :
    flatten (scanFrom m cs) = m.pending ++ cs := by
  induction cs generalizing m with
  | nil => simp [scanFrom, flatten_close]
  | cons c cs ih =>
    rw [scanFrom, flatten_append, ih, ← List.append_assoc, flatten_step]
    simp

/-- No character is lost or moved. -/
theorem flatten_scan (cs : List Char) : flatten (scan cs) = cs := by
  simp [scan, flatten_scanFrom, Mode.pending]

end Lexeme

end QueryBinding
