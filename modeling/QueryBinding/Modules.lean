import QueryBinding.Entries
import QueryBinding.Files

/-! Modules by their dotted names. A module is looked for in the directory of
the one above it. Once found it is remembered: what happens to its files later
does not change what it is. -/

namespace QueryBinding

inductive Module where
  | package (dir : Place)
  | plain
  deriving DecidableEq, Repr

/-- Why a dotted name leads nowhere: the first name on the way that does not
exist, and the one above it if that is no package. -/
structure Missing where
  name : String
  plain : Option String

/-- The modules found so far. -/
abbrev Modules := Entries Module

namespace Modules

/-- What lies in a directory under a name. A directory is a package. A file of
the same name hides it unless the directory is marked as a package. -/
def child? (fs : Files) (dir : Place) (name : String) : Option Module :=
  let sub := dir ++ [name]
  if fs.isDir sub && fs.isFile (sub ++ ["__init__.py"]) then some (.package sub)
  else if fs.isFile (dir ++ [name ++ ".py"]) then some .plain
  else if name ≠ "" && fs.isDir sub then some (.package sub)
  else none

/-- Follows the names from a package called `done` in a directory. -/
def follow (fs : Files) (known : Modules) (dir : Place) (done : String) :
    List String → Except Missing Module × Modules
  | [] => (.ok (.package dir), known)
  | name :: names =>
    let full := if done = "" then name else done ++ "." ++ name
    match (Entries.get? full known).or (child? fs dir name) with
    | none => (.error ⟨full, none⟩, known)
    | some m =>
      let known := Entries.put full m known
      match m, names with
      | m, [] => (.ok m, known)
      | .plain, next :: _ => (.error ⟨full ++ "." ++ next, some full⟩, known)
      | .package sub, names => follow fs known sub full names

/-- Looks a module up, and remembers it with those above it. -/
def find (fs : Files) (known : Modules) (name : String) : Except Missing Module × Modules :=
  follow fs known [] "" (name.splitOn ".")

end Modules

end QueryBinding
