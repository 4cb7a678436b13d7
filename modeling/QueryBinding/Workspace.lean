import QueryBinding.Cache
import QueryBinding.Config.Environment
import QueryBinding.Log.Hub
import QueryBinding.Modules

/-! The state that outlives a call: the configuration in force, the caches, the
environment, the files, the modules found, the remembered resources and the
logging. Objects whose identity matters carry a serial number. -/

namespace QueryBinding

/-- The cache that statements share, with the configuration it was built from. -/
structure SharedCache where
  cache : Nat
  config : Nat
  deriving DecidableEq, Repr

structure ResourceKey where
  package : String
  resource : String
  encoding : String
  deriving DecidableEq, Repr

structure Workspace where
  /-- The next serial number. -/
  next : Nat := 0
  config : Option (Tagged Config) := none
  shared : Option SharedCache := none
  caches : List (Nat × TemplateCache) := []
  environment : Entries String := []
  files : Files := {}
  /-- The encodings besides those that are written out. -/
  codecs : Codec.Further := fun _ => none
  modules : Modules := []
  resources : Lru ResourceKey String := Lru.empty 256 (by decide)
  hub : Hub := {}
  /-- The time in milliseconds from the start of 1970. -/
  clock : Int := 0
  /-- What the capturing handlers have kept, each record with its handler. -/
  captured : List (Nat × Record) := []
  /-- What the console handlers have written. -/
  console : List String := []

/-- A step that may fail; what it changed before it failed stays changed. -/
abbrev Action := ExceptT Error (StateM Workspace)

namespace Workspace

def send (r : Record) (w : Workspace) (h : Handler) : Workspace :=
  let stamp := (Moment.ofMilliseconds w.clock).text ""
  match h.sink with
  | .capture => { w with captured := w.captured ++ [(h.serial, r)] }
  | .console layout => { w with console := w.console ++ [layout.line r stamp] }
  | .file serial layout =>
    let line := (layout.line r stamp).toList ++ ['\n']
    { w with files := w.files.append serial (Encoding.Utf8.encode line) }

def deliver (w : Workspace) (r : Record) : Workspace :=
  (w.hub.targets r.logger r.level).foldl (send r) w

end Workspace

namespace Action

/-- A serial number that was not given before. -/
def fresh : Action Nat := modifyGet fun w => (w.next, { w with next := w.next + 1 })

def emit (r : Record) : Action Unit := modify fun w => w.deliver r

def lift {α : Type} : Except Error α → Action α
  | .ok a => pure a
  | .error e => throw e

end Action

end QueryBinding
