import QueryBinding.Entries
import QueryBinding.Text.Blank
import QueryBinding.Value

/-! Reports of what went wrong, as a caller sees them: a class, a detail,
further arguments and the facts of the case. The detail is the first argument
unless it is given. -/

namespace QueryBinding

inductive FaultClass where
  | library
  | configuration
  | parsing
  | loading
  | notFound
  | parameter
  | malformed
  | arity
  | unbound
  deriving DecidableEq, Repr

namespace FaultClass

def all : List FaultClass :=
  [library, configuration, parsing, loading, notFound, parameter, malformed, arity, unbound]

def label : FaultClass → String
  | library => "SQLBinderError"
  | configuration => "ImproperConfigurationError"
  | parsing => "SQLParsingError"
  | loading => "SQLLoadingError"
  | notFound => "SQLFileNotFoundError"
  | parameter => "ParameterError"
  | malformed => "MalformedPlaceholderError"
  | arity => "ArityMismatchError"
  | unbound => "UnboundPlaceholderError"

def ofLabel? (s : String) : Option FaultClass := all.find? fun c => c.label = s

/-- The class with those it belongs to, the widest last. -/
def lineage : FaultClass → List FaultClass
  | library => [library]
  | configuration => [configuration, library]
  | parsing => [parsing, library]
  | loading => [loading, library]
  | notFound => [notFound, loading, library]
  | parameter => [parameter, library]
  | malformed => [malformed, parameter, library]
  | arity => [arity, parameter, library]
  | unbound => [unbound, parameter, library]

end FaultClass

structure Fault where
  cls : FaultClass
  args : List String
  detail : String
  /-- The facts of the case beside the detail. -/
  facts : Entries Value

namespace Fault

/-- Arguments that hold nothing are dropped. -/
def make (cls : FaultClass) (args : List Value) (detail : String) (facts : Entries Value) : Fault :=
  let texts := (args.filter Value.isTruthy).map Value.display
  if detail ≠ "" then ⟨cls, texts, detail, facts⟩
  else match texts with
    | [] => ⟨cls, [], "", facts⟩
    | first :: rest => ⟨cls, rest, first, facts⟩

def text (f : Fault) : String := Blank.trim (" ".intercalate (f.args ++ [f.detail]))

def shown (f : Fault) : String :=
  if f.detail = "" then f.cls.label else f.cls.label ++ " - " ++ f.detail

/-! ### Classes with their own wording -/

/-- A report that quotes the statement, if there is one. -/
def ofParameter (cls : FaultClass) (message : String) (sql : Value) (facts : Entries Value) :
    Fault :=
  let detail := if sql.isTruthy then message ++ "\nSQL: " ++ sql.display else message
  make cls [] detail (("sql", sql) :: facts)

/-- A report of `cls` with a message of its own or the usual one. -/
def ofMessage (cls : FaultClass) (usual : String) : Value → Fault
  | .null => make cls [.text usual] "" []
  | message => make cls [message] "" []

def parsing (message : Value) : Fault := ofMessage .parsing "Issues parsing SQL template." message

def loading (message : Value) : Fault :=
  ofMessage .loading "Issues loading referenced SQL file." message

def notFound (path : Value) : Fault :=
  make .notFound [.text ("SQL file not found: " ++ path.display)] "" [("path", path)]

def malformed (position sql : Value) : Fault :=
  ofParameter .malformed
    ("Malformed named placeholder at offset " ++ position.display ++
      ": ':' must be followed by an identifier")
    sql [("position", position)]

def arity (expected actual sql message : Value) : Fault :=
  let text := match message with
    | .null => "SQL expects " ++ expected.display ++ " positional parameters but " ++
        actual.display ++ " were provided"
    | m => m.display
  ofParameter .arity text sql [("expected", expected), ("actual", actual)]

def unbound (name index sql : Value) : Fault :=
  ofParameter .unbound
    ("No value bound for placeholder ':" ++ name.display ++ "' (occurrence " ++ index.display ++
      ")")
    sql [("name", name), ("occurrence_index", index)]

/-- The report of a class from its arguments in order, with a detail or a
message given beside them; nothing if the class does not take them. -/
def build? (cls : FaultClass) (args : List Value) (detail message : Value) : Option Fault :=
  match cls, args with
  | .library, _ | .configuration, _ =>
    some (make cls args (if detail.isTruthy then detail.display else "") [])
  | .parsing, [] => some (parsing message)
  | .parsing, [m] => some (parsing m)
  | .loading, [] => some (loading message)
  | .loading, [m] => some (loading m)
  | .notFound, [path] => some (notFound path)
  | .parameter, [] => some (ofParameter .parameter message.display .null [])
  | .parameter, [m] => some (ofParameter .parameter m.display .null [])
  | .parameter, [m, sql] => some (ofParameter .parameter m.display sql [])
  | .malformed, [position] => some (malformed position .null)
  | .malformed, [position, sql] => some (malformed position sql)
  | .arity, [expected, actual] => some (arity expected actual .null message)
  | .arity, [expected, actual, sql] => some (arity expected actual sql message)
  | .arity, [expected, actual, sql, m] => some (arity expected actual sql m)
  | .unbound, [name, index] => some (unbound name index .null)
  | .unbound, [name, index, sql] => some (unbound name index sql)
  | _, _ => none

end Fault

end QueryBinding
