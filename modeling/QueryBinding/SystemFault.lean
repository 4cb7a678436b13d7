import QueryBinding.Text.Numeral
import QueryBinding.Text.Quoted

/-! Failures that the system reports by a number, in words, and with the path
that was in the way if there is one. -/

namespace QueryBinding

structure SystemFault where
  number : Int
  words : String
  path : Option String
  deriving DecidableEq, Repr

namespace SystemFault

/-- The class of failures that a number belongs to. -/
def label : Int → String
  | 1 => "PermissionError"
  | 2 => "FileNotFoundError"
  | 3 => "ProcessLookupError"
  | 4 => "InterruptedError"
  | 10 => "ChildProcessError"
  | 11 => "BlockingIOError"
  | 13 => "PermissionError"
  | 17 => "FileExistsError"
  | 20 => "NotADirectoryError"
  | 21 => "IsADirectoryError"
  | 32 => "BrokenPipeError"
  | 103 => "ConnectionAbortedError"
  | 104 => "ConnectionResetError"
  | 108 => "BrokenPipeError"
  | 110 => "TimeoutError"
  | 111 => "ConnectionRefusedError"
  | 114 => "BlockingIOError"
  | 115 => "BlockingIOError"
  | _ => "OSError"

def text (f : SystemFault) : String :=
  let base := "[Errno " ++ Numeral.text f.number ++ "] " ++ f.words
  match f.path with
  | none => base
  | some path => base ++ ": " ++ Quoted.text path

end SystemFault

end QueryBinding
