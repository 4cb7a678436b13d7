import QueryBinding.Text.Newline
import QueryBinding.Workspace.Caches

/-! Statements kept in files and in the resources of packages. Line ends are
folded after decoding. Resource texts are remembered, at most as many as the
store holds, and failures are not; modules are remembered once found. -/

namespace QueryBinding.Action

/-- The text that bytes spell in a named encoding. -/
def decodeText (codecs : Codec.Further) (medium : Medium) (place encoding : String)
    (bytes : List UInt8) : Except Error String :=
  match Codec.find? codecs encoding with
  | none =>
    .error (if encoding.contains '\x00' then .illegalEncoding else .unknownEncoding encoding)
  | some .textless => .error (.textlessEncoding encoding)
  | some (.text decode) => match decode bytes with
    | .ok cs => .ok (String.ofList (Newline.fold cs))
    | .error (.undecodable f) => .error (.undecodable medium place f)
    | .error .missingMark => .error .missingMark
    | .error (.unplaced reason) => .error (.unplaced reason)

def loadNotice (medium : Medium) (function place : String) (length : Nat) : Record where
  logger := "sqlbinder.loader"
  level := Level.debug
  message := "Loaded " ++ medium.label ++ " " ++ place ++ " (" ++ toString length ++ " characters)"
  site := ⟨"loader", some function, match medium with | .file => 39 | .resource => 79⟩

/-- Whatever else is in the way of the file, there is no file; only a path that
is too long is reported as such. -/
def loadFile (path encoding : String) : Action String := do
  let place := Path.normal path
  let w ← get
  match w.files.open? place with
  | .error .tooLong => throw (.ofObstacle .tooLong place)
  | .error _ => throw (.notFound place)
  | .ok file =>
    let text ← lift (decodeText w.codecs .file place encoding file.bytes)
    emit (loadNotice .file "load_sql_text" place text.length)
    return text

/-! ### Modules -/

def findModule (name : String) : Action (Except Missing Module) := do
  if name = "" then throw .emptyPackage
  if name.startsWith "." then throw (.relativeModule name)
  let w ← get
  let (found, modules) := Modules.find w.files w.modules name
  set { w with modules }
  return found

/-- Fails if a dotted name leads to no module. -/
def importModule (name : String) : Action Unit := do
  match ← findModule name with
  | .ok _ => return
  | .error m => throw (.noModule m.name m.plain)

/-! ### Resources -/

/-- The text of a resource in the directory of its package. -/
def readResource (w : Workspace) (dir : Place) (key : ResourceKey) : Except Error String :=
  let place := key.package ++ ":" ++ key.resource
  let path := w.files.absolute dir key.resource
  match w.files.open? path with
  | .error .tooLong => .error (.ofObstacle .tooLong path)
  | .error _ => .error (.notFound place)
  | .ok file => decodeText w.codecs .resource place key.encoding file.bytes

def loadResource (key : ResourceKey) : Action String := do
  let w ← get
  match w.resources.find? key with
  | some text =>
    set { w with resources := w.resources.touch key }
    return text
  | none =>
    let place := key.package ++ ":" ++ key.resource
    match ← findModule key.package with
    | .error _ => throw (.notFound place)
    | .ok .plain => throw (.notPackage key.package)
    | .ok (.package dir) =>
      let text ← lift (readResource w dir key)
      emit (loadNotice .resource "_load_resource" place text.length)
      modify fun w => { w with resources := w.resources.insert key text }
      return text

/-! ### Statements -/

def defaultEncoding : String := "utf-8"

def statementOfFile (path : String) (cache : Option Nat) : Action (Tagged Template) := do
  statement (← loadFile path defaultEncoding) cache

def statementOfResource (package resource : String) (cache : Option Nat) :
    Action (Tagged Template) := do
  statement (← loadResource ⟨package, resource, defaultEncoding⟩) cache

/-! ### The files themselves -/

def writeFile (path : String) (bytes : List UInt8) : Action Unit := do
  let (files, obstacle) := (← get).files.write (Path.normal path) bytes
  modify fun w => { w with files }
  match obstacle with
  | some (o, place) => throw (.ofObstacle o place)
  | none => return

def unlinkFile (path : String) : Action Unit := do
  let place := Path.normal path
  match (← get).files.unlink place with
  | .error o => throw (.ofObstacle o place)
  | .ok files => modify fun w => { w with files }

/-- The bytes of a file as they are now. -/
def fileBytes (path : String) : Action (List UInt8) := do
  let place := Path.normal path
  match (← get).files.open? place with
  | .error o => throw (.ofObstacle o place)
  | .ok file => return file.bytes

end QueryBinding.Action
