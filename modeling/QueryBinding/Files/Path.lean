/-! Paths as text. Components are separated by slashes; empty ones and single
dots say nothing. -/

namespace QueryBinding

namespace Path

/-- The components that say something. -/
def components (path : String) : List String :=
  (path.splitOn "/").filter fun c => c ≠ "" && c ≠ "."

/-- The leading slashes that are kept: two if there are exactly two, one if
there are more. -/
def root (path : String) : String :=
  match path.toList with
  | '/' :: '/' :: '/' :: _ => "/"
  | '/' :: '/' :: _ => "//"
  | '/' :: _ => "/"
  | _ => ""

def isAbsolute (path : String) : Bool := root path != ""

/-- The normal form; a path without components is a dot. -/
def normal (path : String) : String :=
  let text := root path ++ "/".intercalate (components path)
  if text = "" then "." else text

/-- Adds a component to those before it, the last one first. Two dots take away
the component before them; at the top they stay, or say nothing if the path is
absolute. -/
def enter (absolute : Bool) (up : List String) (c : String) : List String :=
  if c = ".." then
    match up with
    | [] => if absolute then [] else [c]
    | d :: above => if d = ".." then c :: up else above
  else c :: up

/-- The components after every two dots have been taken as the way back, with
no look at what the path leads through. -/
def reduced (path : String) : List String :=
  ((components path).foldl (enter (isAbsolute path)) []).reverse

/-- The normal form without ways back. -/
def direct (path : String) : String :=
  let text := root path ++ "/".intercalate (reduced path)
  if text = "" then "." else text

/-- A name holds at most 255 bytes. -/
def isLongName (name : String) : Bool := 255 < name.utf8ByteSize

/-- A path holds less than 4096 bytes. -/
def isLong (path : String) : Bool := 4096 ≤ path.utf8ByteSize

/-- The last component. -/
def base (path : String) : String := (path.splitOn "/").getLastD ""

/-- A name without its last extension. A dot that only dots precede opens no
extension. -/
def stem (name : String) : String :=
  let cs := name.toList
  let ext := (cs.reverse.takeWhile (· ≠ '.')).length + 1
  let front := cs.take (cs.length - ext)
  if ext ≤ cs.length && front.any (· ≠ '.') then String.ofList front else name

end Path

end QueryBinding
