import QueryBinding.Log.Time
import QueryBinding.Value.Json
import QueryBinding.Entries

/-! Log records and their two forms as a line of text. The structured form is
one JSON object: the record's own fields, then the fields of its caller, which
replace those of the same name where they stand, then the exception, which
replaces a field of that name. -/

namespace QueryBinding

namespace Level

def debug : Int := 10
def info : Int := 20
def warning : Int := 30
def error : Int := 40
def critical : Int := 50

def label (level : Int) : String :=
  if level = 0 then "NOTSET"
  else if level = debug then "DEBUG"
  else if level = info then "INFO"
  else if level = warning then "WARNING"
  else if level = error then "ERROR"
  else if level = critical then "CRITICAL"
  else "Level " ++ Numeral.text level

end Level

/-- Where a record was made. The line is the one on which the call begins, or
zero where there is none. -/
structure Site where
  unit : String
  function : Option String
  line : Int := 0
  deriving DecidableEq, Repr

structure Record where
  logger : String
  level : Int
  message : String
  site : Site
  fields : Option (Entries Value) := none
  exception : Option String := none

namespace Record

/-- The fields of the structured form, in order. -/
def entries (r : Record) (stamp : String) : Entries Value :=
  let own : Entries Value := [
    ("timestamp", .text stamp),
    ("level", .text (Level.label r.level)),
    ("logger", .text r.logger),
    ("message", .text r.message),
    ("module", .text r.site.unit),
    ("function", (r.site.function.map Value.text).getD .null),
    ("line", .int r.site.line)]
  let all := own.merge (r.fields.getD [])
  match r.exception with
  | some text => all.put "exception" (.text text)
  | none => all

def structured (r : Record) (stamp : String) : String := Json.text (.object (r.entries stamp))

def simple (r : Record) (stamp : String) : String :=
  stamp ++ " - " ++ r.logger ++ " - " ++ Level.label r.level ++ " - " ++ r.message

end Record

inductive Layout where
  | structured
  | simple
  deriving DecidableEq, Repr

def Layout.line (layout : Layout) (r : Record) (stamp : String) : String :=
  match layout with
  | structured => r.structured stamp
  | simple => r.simple stamp

end QueryBinding
