import QueryBinding.Error
import QueryBinding.Template.Shown

/-! Exceptions in log records: the class and, unless it is empty, the text. -/

namespace QueryBinding

namespace Exception

def line (label text : String) : String := if text = "" then label else label ++ ": " ++ text

def ofFault (f : Fault) : String := line ("sqlbinder.exceptions." ++ f.cls.label) f.text

/-- The text of an exception that only has arguments. -/
def argumentText : List Value → String
  | [] => ""
  | [v] => v.display
  | vs => String.ofList (shownTuple (vs.map Value.shown))

/-! ### Exceptions of the system -/

/-- The class that goes with the error number. -/
def systemLabel (number : Value) : String :=
  SystemFault.label (number.number?.getD 0)

/-- The files of a failure. No second file goes without a first. -/
def shownFiles (file other : Value) : String :=
  match file, other with
  | .null, _ => ""
  | f, .null => ": " ++ String.ofList f.shown
  | f, g => ": " ++ String.ofList f.shown ++ " -> " ++ String.ofList g.shown

/-- Two to five arguments are the error number, its meaning, a file, a number
that is not used and another file. When the system would have had to wait, a
number instead of the file counts what was written before; it fits into 64 bits
and is not shown. -/
def ofSystem (args : List Value) : Except Error String :=
  match args with
  | [n, s] => described n s .null .null
  | [n, s, file] => described n s file .null
  | [n, s, file, _] => described n s file .null
  | [n, s, file, _, other] => described n s file other
  | vs => .ok (line "OSError" (argumentText vs))
where
  described (n s file other : Value) : Except Error String :=
    let label := systemLabel n
    let base := "[Errno " ++ n.display ++ "] " ++ s.display
    match file.number? with
    | some written =>
      if label ≠ "BlockingIOError" then .ok (line label (base ++ shownFiles file other))
      else if written < -Int.pow 2 63 ∨ Int.pow 2 63 ≤ written then .error .wideCount
      else .ok (line label base)
    | none => .ok (line label (base ++ shownFiles file other))

end Exception

end QueryBinding
