/-! Line ends. A carriage return, alone or before a line feed, is read as one
line feed. -/

namespace QueryBinding

namespace Newline

def fold : List Char → List Char
  | [] => []
  | '\r' :: '\n' :: cs => '\n' :: fold cs
  | '\r' :: cs => '\n' :: fold cs
  | c :: cs => c :: fold cs

end Newline

end QueryBinding
