import QueryBinding.Workspace

/-! Setting up the logging, and logging with fields. -/

namespace QueryBinding.Action

def layoutOf (format : String) : Layout := if format = "structured" then .structured else .simple

def configuredNotice (level format : String) (handlers : Nat) : Record where
  logger := Hub.rootName
  level := Level.info
  message := "sqlbinder logging configured"
  site := ⟨"logging", some "configure_logging", 119⟩
  fields := some [
    ("level", .text level),
    ("format_style", .text format),
    ("handlers_count", .int handlers)]

/-- Opens a file to be written at its end, which makes it if need be. The path
is taken from the root of all and made direct first, so that it may lead back from
what does not exist. -/
def openLog (path : String) : Action Nat := do
  let files := (← get).files
  let place := Path.direct (files.absolute [] path)
  match files.openToAppend place with
  | .error o => throw (.ofObstacle o place)
  | .ok (serial, files) =>
    modify fun w => { w with files }
    return serial

/-- A handler that writes to the named file; no name and the empty name stand
for none. -/
def fileHandlers : Option String → Action (List Handler)
  | none => return []
  | some "" => return []
  | some path => do
    let file ← openLog path
    return [⟨← fresh, .file file .structured⟩]

/-- Sends the library's records to the console, to a file if one is named, and
to further handlers. Files are always structured. -/
def configureLogging (level format : String) (file : Option String) (extra : List Handler) :
    Action Unit := do
  let threshold ← lift (Level.ofLabel level)
  let console : Handler := ⟨← fresh, .console (layoutOf format)⟩
  modify fun w => { w with
    hub := { w.hub.configure threshold [console] with propagate := w.hub.propagate } }
  let logs ← fileHandlers file
  modify fun w => { w with hub := w.hub.configure threshold (console :: logs ++ extra) }
  emit (configuredNotice level format (← get).hub.handlers.length)

/-- Logs a message as it stands, with fields of the caller. -/
def log (logger : String) (level : Int) (message : String) (fields : Entries Value) : Action Unit :=
  emit {
    logger := logger
    level := level
    message := message
    site := { unit := "(unknown file)", function := none }
    fields := some fields }

end QueryBinding.Action
