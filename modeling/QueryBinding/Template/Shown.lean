import QueryBinding.Template
import QueryBinding.Text.Quoted

/-! How placeholders and templates are shown. -/

namespace QueryBinding

/-- Items between parentheses; a comma marks a single item. -/
def shownTuple : List (List Char) → List Char
  | [] => ['(', ')']
  | [x] => '(' :: x ++ [',', ')']
  | x :: xs => '(' :: x ++ xs.flatMap (fun y => ',' :: ' ' :: y) ++ [')']

namespace Kind

def shown : Kind → List Char
  | positional => "<PlaceholderKind.POSITIONAL: 'positional'>".toList
  | named => "<PlaceholderKind.NAMED: 'named'>".toList

end Kind

namespace Placeholder

def shownName : Option String → List Char
  | none => "None".toList
  | some name => Quoted.encode name.toList

def shown (p : Placeholder) : List Char :=
  "Placeholder(kind=".toList ++ p.kind.shown ++ ", name=".toList ++ shownName p.name ++
    ", occurrence_index=".toList ++ Numeral.ofInt p.index ++
    ", position=".toList ++ Numeral.ofInt p.position ++ [')']

end Placeholder

namespace Template

/-- The source is not shown. -/
def shown (t : Template) : List Char :=
  "ParsedTemplate(normalized_sql=".toList ++ Quoted.encode t.normalized.toList ++
    ", placeholders=".toList ++ shownTuple (t.placeholders.map Placeholder.shown) ++ [')']

end Template

namespace Span

def shown (s : Span) : List Char :=
  "LiteralSpan(start=".toList ++ Numeral.ofInt s.start ++ ", end=".toList ++
    Numeral.ofInt s.stop ++ [')']

end Span

end QueryBinding
