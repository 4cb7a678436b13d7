import QueryBinding.Text.Slice

/-! Literals quoted with apostrophes. A doubled apostrophe inside a literal
stands for one apostrophe, and a literal that is not closed runs to the end
of the text. Two literals never touch, since the apostrophes between them
would be doubled. -/

namespace QueryBinding

/-- The offsets from `start` up to, and not including, `stop`. -/
structure Span where
  start : Int
  stop : Int
  deriving DecidableEq, Repr

namespace Span

def contains (s : Span) (offset : Int) : Bool := s.start ≤ offset && offset < s.stop

def chars (s : Span) (source : List Char) : List Char := Slice.ofList source s.start s.stop

def text (s : Span) (source : String) : String := String.ofList (s.chars source.toList)

def shift (n : Nat) (s : Span) : Span := ⟨s.start + n, s.stop + n⟩

end Span

namespace Literal

/-- Where a scan stands: in no literal, in the one that began at `start`, or
behind an apostrophe that closes it unless another one follows. -/
inductive Mode where
  | gap
  | inside (start : Nat)
  | closing (start : Nat)
  deriving DecidableEq, Repr

def spansFrom : Mode → Nat → List Char → List Span
  | .gap, _, [] => []
  | .inside start, i, [] => [⟨start, i⟩]
  | .closing start, i, [] => [⟨start, i⟩]
  | .gap, i, c :: cs =>
    if c = '\'' then spansFrom (.inside i) (i + 1) cs else spansFrom .gap (i + 1) cs
  | .inside start, i, c :: cs =>
    if c = '\'' then spansFrom (.closing start) (i + 1) cs else spansFrom (.inside start) (i + 1) cs
  | .closing start, i, c :: cs =>
    if c = '\'' then spansFrom (.inside start) (i + 1) cs
    else ⟨start, i⟩ :: spansFrom .gap (i + 1) cs

/-- The literals of a text with their delimiters, from left to right. -/
def spans (cs : List Char) : List Span := spansFrom .gap 0 cs

def double (content : List Char) : List Char :=
  content.flatMap fun c => if c = '\'' then ['\'', '\''] else [c]

/-- The literal with a given content. -/
def quote (content : List Char) : List Char := '\'' :: double content ++ ['\'']

end Literal

end QueryBinding
