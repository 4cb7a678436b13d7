import QueryBinding.Lexeme
import QueryBinding.Literal

/-! Statement templates: the text of a statement whose placeholders are all
written as question marks, with a description of each placeholder. Templates
can also be put together by hand, so nothing ties the parts to each other. -/

namespace QueryBinding

inductive Kind where
  | positional
  | named
  deriving DecidableEq, Repr

namespace Kind

def label : Kind → String
  | positional => "positional"
  | named => "named"

def ofLabel? (s : String) : Option Kind :=
  if s = "positional" then some positional else if s = "named" then some named else none

end Kind

/-- One placeholder: its rank among all placeholders and the offset of its
first character in the source. -/
structure Placeholder where
  kind : Kind
  name : Option String
  index : Int
  position : Int
  deriving DecidableEq, Repr

namespace Placeholder

def isNamed (p : Placeholder) : Bool := p.kind == .named

/-- The placeholder as it is written. -/
def text (p : Placeholder) : String :=
  match p.name with
  | none => "?"
  | some name => ":" ++ name

end Placeholder

structure Template where
  source : String
  normalized : String
  placeholders : List Placeholder
  literals : List Span
  deriving Repr

namespace Template

/-- Equality of templates. The literals are left out, since the source
determines them. -/
def same (a b : Template) : Bool :=
  a.source == b.source && a.normalized == b.normalized && a.placeholders == b.placeholders

def count (t : Template) : Nat := t.placeholders.length

def positionalCount (t : Template) : Nat := t.placeholders.countP fun p => p.name.isNone

def hasNamed (t : Template) : Bool := t.placeholders.any fun p => p.name.isSome

/-- Every name once, in order of first appearance. -/
def names (t : Template) : List String := (t.placeholders.filterMap (·.name)).eraseDups

def occurrences (t : Template) (name : String) : List Placeholder :=
  t.placeholders.filter fun p => p.name == some name

/-! ### Templates of lexemes -/

/-- The placeholders among lexemes that start at `offset`, of which the first
has rank `rank`. -/
def placeholdersFrom (offset rank : Nat) : List Lexeme → List Placeholder
  | [] => []
  | .positional :: ls =>
    ⟨.positional, none, rank, offset⟩ :: placeholdersFrom (offset + 1) (rank + 1) ls
  | .named name :: ls =>
    ⟨.named, some (String.ofList name), rank, offset⟩ ::
      placeholdersFrom (offset + (name.length + 1)) (rank + 1) ls
  | l :: ls => placeholdersFrom (offset + l.width) rank ls

def ofLexemes (source : String) (ls : List Lexeme) : Template where
  source := source
  normalized := String.ofList (Lexeme.flatten (ls.map Lexeme.normal))
  placeholders := placeholdersFrom 0 0 ls
  literals := Literal.spans source.toList

end Template

end QueryBinding
