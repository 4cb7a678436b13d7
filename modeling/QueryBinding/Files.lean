import QueryBinding.Files.Path
import QueryBinding.SystemFault

/-! A directory tree with the bytes of its files. Paths are relative to its
root, or go down from the root of all. The directories above the tree are empty
but for the way to the tree, and nothing can be put there. A file keeps its
serial number when it is written again, and loses its place, not the number,
when it is unlinked. -/

namespace QueryBinding

/-- A place in the tree, from the root down. -/
abbrev Place := List String

/-- What a path leads to: a place in the tree, or a directory above it, which
has a place from the root of all down. -/
inductive Spot where
  | inside (p : Place)
  | above (p : Place)
  deriving DecidableEq, Repr

structure StoredFile where
  place : Place
  serial : Nat
  bytes : List UInt8

/-- What can be in the way of a path. -/
inductive Obstacle where
  | absent
  | taken
  | notDirectory
  | directory
  | tooLong
  /-- A NUL in the path, which then names nothing. -/
  | unnameable
  deriving DecidableEq, Repr

/-- The report about a path, if the system makes one. -/
def Obstacle.fault? (o : Obstacle) (path : String) : Option SystemFault :=
  match o with
  | absent => some ⟨2, "No such file or directory", some path⟩
  | taken => some ⟨17, "File exists", some path⟩
  | notDirectory => some ⟨20, "Not a directory", some path⟩
  | directory => some ⟨21, "Is a directory", some path⟩
  | tooLong => some ⟨36, "File name too long", some path⟩
  | unnameable => none

structure Files where
  /-- The place of the tree, from the root of all down. -/
  home : Place := ["tmp", "work"]
  dirs : List Place := []
  contents : List StoredFile := []
  /-- The next serial number. -/
  next : Nat := 0

namespace Files

def isDir (fs : Files) (p : Place) : Bool := p.isEmpty || fs.dirs.contains p

def file? (fs : Files) (p : Place) : Option StoredFile := fs.contents.find? fun f => f.place = p

def isFile (fs : Files) (p : Place) : Bool := (fs.file? p).isSome

/-- The directory at a place on the way to the tree. -/
def onTheWay (fs : Files) (p : Place) : Spot := if p = fs.home then .inside [] else .above p

/-- Follows components. Only directories can be entered, and two dots lead back
up. A name that is too long is noticed where it is looked for. -/
def walk (fs : Files) : Spot → List String → Except Obstacle Spot
  | here, [] => .ok here
  | .above p, c :: cs =>
    if c = ".." then walk fs (fs.onTheWay p.dropLast) cs
    else if (p ++ [c]).isPrefixOf fs.home then walk fs (fs.onTheWay (p ++ [c])) cs
    else .error (if Path.isLongName c then .tooLong else .absent)
  | .inside p, c :: cs =>
    if fs.isFile p then .error .notDirectory
    else if !fs.isDir p then .error .absent
    else if c = ".." then
      walk fs (if p.isEmpty then fs.onTheWay fs.home.dropLast else .inside p.dropLast) cs
    else if Path.isLongName c then .error .tooLong
    else walk fs (.inside (p ++ [c])) cs

/-- Where the components of a path are followed from. -/
def start (fs : Files) (path : String) : Spot :=
  if Path.isAbsolute path then fs.onTheWay [] else .inside []

/-- What a path leads to. Nothing has to exist at the last place. -/
def locate (fs : Files) (path : String) : Except Obstacle Spot :=
  if path.contains '\x00' then .error .unnameable
  else if Path.isLong path then .error .tooLong
  else fs.walk (fs.start path) (Path.components path)

/-- The path from the root of all to what a path leads to from a directory. -/
def absolute (fs : Files) (dir : Place) (path : String) : String :=
  if Path.isAbsolute path then Path.normal path
  else "/" ++ "/".intercalate (fs.home ++ dir ++ Path.components path)

/-- The file at a path. -/
def open? (fs : Files) (path : String) : Except Obstacle StoredFile :=
  match fs.locate path with
  | .error o => .error o
  | .ok (.above _) => .error .directory
  | .ok (.inside p) => match fs.file? p with
    | some f => .ok f
    | none => .error (if fs.isDir p then .directory else .absent)

/-- Writes the bytes of a place, into the file that is there or into a new one. -/
def put (fs : Files) (p : Place) (bytes : List UInt8) : Files :=
  if fs.isFile p then
    { fs with contents := fs.contents.map fun f => if f.place = p then { f with bytes } else f }
  else { fs with contents := fs.contents ++ [⟨p, fs.next, bytes⟩], next := fs.next + 1 }

/-- Enters the directories that components name and makes those that are
missing. The report is about the whole way as long as nothing had to be made,
and from then on about the way up to the component that cannot be entered, which
is the one before the given number of components. -/
def makeDirs (fs : Files) (made : Bool) : Spot → List String → Files × Option (Obstacle × Nat)
  | _, [] => (fs, none)
  | .above p, c :: cs =>
    if c = ".." then makeDirs fs made (fs.onTheWay p.dropLast) cs
    else if (p ++ [c]).isPrefixOf fs.home then makeDirs fs made (fs.onTheWay (p ++ [c])) cs
    else (fs, some (if Path.isLongName c then .tooLong else .absent, 0))
  | .inside p, c :: cs =>
    let sub := p ++ [c]
    if c = ".." then
      makeDirs fs made (if p.isEmpty then fs.onTheWay fs.home.dropLast else .inside p.dropLast) cs
    else if Path.isLongName c then (fs, some (.tooLong, if made then cs.length else 0))
    else if fs.isDir sub then makeDirs fs made (.inside sub) cs
    else if fs.isFile sub then
      (fs, some (if made || cs.isEmpty then (.taken, cs.length) else (.notDirectory, 0)))
    else makeDirs { fs with dirs := fs.dirs ++ [sub] } true (.inside sub) cs

/-- Makes the directory of a path in normal form; tells what is in the way of
which path. -/
def makeParent (fs : Files) (path : String) : Files × Option (Obstacle × String) :=
  let above := (Path.components path).dropLast
  let place := Path.root path ++ "/".intercalate above
  if place.contains '\x00' then (fs, some (.unnameable, place))
  else if Path.isLong place then (fs, some (.tooLong, place))
  else
    match fs.makeDirs false (fs.start path) above with
    | (fs, none) => (fs, none)
    | (fs, some (o, rest)) =>
      (fs, some (o, Path.root path ++ "/".intercalate (above.take (above.length - rest))))

/-- Writes a file, with the directories it lies in; tells what is in the way of
which path. -/
def write (fs : Files) (path : String) (bytes : List UInt8) :
    Files × Option (Obstacle × String) :=
  match fs.makeParent path with
  | (fs, some obstacle) => (fs, some obstacle)
  | (fs, none) => match fs.locate path with
    | .error o => (fs, some (o, path))
    | .ok (.above _) => (fs, some (.directory, path))
    | .ok (.inside p) =>
      if fs.isDir p then (fs, some (.directory, path)) else (fs.put p bytes, none)

/-- Adds to the end of a file, unless it has been unlinked. -/
def append (fs : Files) (serial : Nat) (bytes : List UInt8) : Files :=
  { fs with contents := fs.contents.map fun f =>
      if f.serial = serial then { f with bytes := f.bytes ++ bytes } else f }

def unlink (fs : Files) (path : String) : Except Obstacle Files :=
  match fs.open? path with
  | .error o => .error o
  | .ok f => .ok { fs with contents := fs.contents.filter fun g => g.serial ≠ f.serial }

/-- Opens a file to add to it, and makes it if need be. -/
def openToAppend (fs : Files) (path : String) : Except Obstacle (Nat × Files) :=
  match fs.locate path with
  | .error o => .error o
  | .ok (.above _) => .error .directory
  | .ok (.inside p) => match fs.file? p with
    | some f => .ok (f.serial, fs)
    | none =>
      if fs.isDir p then .error .directory
      else if fs.isFile p.dropLast then .error .notDirectory
      else if !fs.isDir p.dropLast then .error .absent
      else .ok (fs.next, fs.put p [])

end Files

end QueryBinding
