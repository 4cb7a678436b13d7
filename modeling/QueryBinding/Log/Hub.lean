import QueryBinding.Error
import QueryBinding.Log.Record
import QueryBinding.Text.Uppercase

/-! Where log records go. Loggers form a hierarchy by their dotted names, and
for those of the library everything is decided at its top: the level that a
record must reach and the handlers that get it. A level of zero stands for the
level above the library. Other loggers hang below the one above all. It is
assumed that the hierarchy is the documented one, in which every dot of a name
ends the name of a logger further up, also a dot next to another one. What no
handler gets is lost here; a note of it on the error stream is no part of the
state. -/

namespace QueryBinding

namespace Level

/-- The level of a name in any letter case. -/
def ofLabel (label : String) : Except Error Int :=
  match Uppercase.ofString label with
  | "NOTSET" => .ok 0
  | "DEBUG" => .ok debug
  | "INFO" => .ok info
  | "WARNING" => .ok warning
  | "WARN" => .ok warning
  | "ERROR" => .ok error
  | "CRITICAL" => .ok critical
  | "FATAL" => .ok critical
  | "BASIC_FORMAT" => .error .levelPattern
  | "_STYLES" => .error .levelTable
  | upper => .error (.unknownLevel upper)

end Level

/-- What a handler does with a record: write a line of it, or keep it. -/
inductive Sink where
  | console (layout : Layout)
  | file (serial : Nat) (layout : Layout)
  | capture
  deriving DecidableEq, Repr

structure Handler where
  serial : Nat
  sink : Sink
  deriving DecidableEq, Repr

structure Hub where
  level : Int := 0
  handlers : List Handler := []
  /-- Whether records go on to the handlers above the library. -/
  propagate : Bool := true
  above : List Handler := []

namespace Hub

/-- The top of the hierarchy. -/
def rootName : String := "sqlbinder"

/-- The name of the logger for a caller. -/
def loggerName : Option String → String
  | none => rootName
  | some name => if rootName.toList.isPrefixOf name.toList then name else rootName ++ "." ++ name

/-- Whether a logger is one of the library's. -/
def covers (logger : String) : Bool :=
  logger = rootName || (rootName ++ ".").toList.isPrefixOf logger.toList

def threshold (hub : Hub) : Int := if hub.level = 0 then Level.warning else hub.level

/-- The handlers that get a record of a logger and a level. -/
def targets (hub : Hub) (logger : String) (level : Int) : List Handler :=
  if covers logger then
    if hub.threshold ≤ level then
      hub.handlers ++ (if hub.propagate then hub.above else [])
    else []
  else if Level.warning ≤ level then hub.above
  else []

/-- A handler that is present is not added again. -/
def addHandler (hub : Hub) (h : Handler) : Hub :=
  if hub.handlers.contains h then hub else { hub with handlers := hub.handlers ++ [h] }

/-- Replaces the level and all handlers. -/
def configure (hub : Hub) (level : Int) (handlers : List Handler) : Hub :=
  handlers.foldl addHandler { hub with level := level, handlers := [], propagate := false }

end Hub

end QueryBinding
