import QueryBinding.Encoding.Codec
import QueryBinding.Fault
import QueryBinding.Files
import QueryBinding.Log.Message
import QueryBinding.Log.Time

/-! The causes of failure. Those that are the library's own turn into reports;
the others come from the world around it, such as an unknown encoding. -/

namespace QueryBinding

/-- What an encoded text was read from. -/
inductive Medium where
  | file
  | resource
  deriving DecidableEq, Repr

def Medium.label : Medium → String
  | file => "SQL file"
  | resource => "SQL resource"

inductive Error where
  /-- A statement of `length` characters where `limit` are allowed. -/
  | tooLong (length : Nat) (limit : Int)
  | malformed (position : Nat) (sql : String)
  /-- A count of values that is neither the number of placeholders nor that of
  the positional ones. -/
  | wrongCount (total positional count : Nat) (sql : String)
  /-- No values for the positional placeholder of rank `index`. -/
  | noValues (positional : Nat) (index : Int) (sql : String)
  | unbound (name : String) (index : Int) (sql : String)
  | cacheSize (size : Int)
  | configuration (flaws : List String)
  | notFound (place : String)
  | undecodable (medium : Medium) (place : String) (failure : Encoding.Failure)
  | missingMark
  /-- A hand-made rank that points outside the bound values. -/
  | outOfRange
  | unknownKind (given : Value)
  /-- A failure of a decoder that is not about certain bytes. -/
  | unplaced (reason : String)
  | unknownEncoding (name : String)
  /-- An encoding of bytes as bytes. -/
  | textlessEncoding (name : String)
  /-- A NUL in the name of an encoding. -/
  | illegalEncoding
  | emptyPackage
  /-- A name that begins with a dot where there is nothing to start from. -/
  | relativeModule (name : String)
  | notPackage (name : String)
  /-- A module that does not exist; `plain` when what lies above it is no
  package. -/
  | noModule (name : String) (plain : Option String)
  /-- A NUL in a path or an environment variable. -/
  | embeddedNull
  /-- An equals sign in the name of an environment variable. -/
  | illegalVariable
  | system (fault : SystemFault)
  /-- A count of what was written that does not fit into 64 bits. -/
  | wideCount
  | clock (fault : ClockFault)
  | message (fault : MessageError)
  | unknownLevel (label : String)
  /-- Two names that stand for something else than a level. -/
  | levelPattern
  | levelTable

namespace Error

/-- What is in the way of a path. -/
def ofObstacle (o : Obstacle) (path : String) : Error :=
  match o.fault? path with
  | some fault => system fault
  | none => embeddedNull

/-- The report of a failure of the library's own. -/
def fault? : Error → Option Fault
  | tooLong length limit => some <| Fault.parsing <| .text <|
      "SQL template length " ++ toString length ++ " exceeds maximum of " ++
        Numeral.text limit ++ " characters"
  | malformed position sql => some (Fault.malformed (.int position) (.text sql))
  | wrongCount total positional count sql =>
    let message : Value :=
      if positional = total then .null
      else .text ("SQL expects " ++ toString total ++ " parameters (" ++ toString positional ++
        " for '?' placeholders alone) but " ++ toString count ++ " were provided")
    some (Fault.arity (.int total) (.int count) (.text sql) message)
  | noValues positional index sql =>
    some (Fault.arity (.int positional) (.int 0) (.text sql) (.text
      ("No positional parameters bound for '?' placeholder at occurrence " ++ Numeral.text index)))
  | unbound name index sql => some (Fault.unbound (.text name) (.int index) (.text sql))
  | cacheSize size => some <| Fault.make .configuration
      [.text ("max_size must be positive, got " ++ Numeral.text size)] "" []
  | configuration flaws => some <| Fault.make .configuration
      [.text ("Invalid configuration: " ++ "; ".intercalate flaws)] "" []
  | notFound place => some (Fault.notFound (.text place))
  | undecodable medium place failure => some <| Fault.loading <| .text <|
      "Failed to read " ++ medium.label ++ " " ++ place ++ ": " ++ failure.text
  | _ => none

/-- The characters that fit into a number of bytes, and a mark for one that does
so only in part. -/
def clip : Nat → List Char → List Char
  | _, [] => []
  | 0, _ => []
  | room, c :: cs =>
    if c.utf8Size ≤ room then c :: clip (room - c.utf8Size) cs else ['\uFFFD']

/-- The words of a failure. -/
def text (e : Error) : String :=
  match e with
  | missingMark => "UTF-16 stream does not start with BOM"
  | outOfRange => "tuple index out of range"
  | unknownKind given => String.ofList given.shown ++ " is not a valid PlaceholderKind"
  | unplaced reason => reason
  | unknownEncoding name => "unknown encoding: " ++ name
  | textlessEncoding name =>
    "'" ++ String.ofList (clip 400 name.toList) ++
      "' is not a text encoding; use codecs.open() to handle arbitrary codecs"
  | illegalEncoding => "embedded null character"
  | emptyPackage => "Empty module name"
  | relativeModule name =>
    "the 'package' argument is required to perform a relative import for " ++ Quoted.text name
  | notPackage name => Quoted.text name ++ " is not a package"
  | noModule name none => "No module named " ++ Quoted.text name
  | noModule name (some plain) =>
    "No module named " ++ Quoted.text name ++ "; " ++ Quoted.text plain ++ " is not a package"
  | embeddedNull => "embedded null byte"
  | illegalVariable => "illegal environment variable name"
  | system fault => fault.text
  | wideCount => "cannot fit 'int' into an index-sized integer"
  | clock fault => fault.text
  | message fault => fault.text
  | unknownLevel label => "module 'logging' has no attribute '" ++ label ++ "'"
  | levelPattern => "Unknown level: '%(levelname)s:%(name)s:%(message)s'"
  | levelTable =>
    "Level not an integer or a valid string: " ++
      "\x7b'%': (<class 'logging.PercentStyle'>, '%(levelname)s:%(name)s:%(message)s'), " ++
      "'\x7b': (<class 'logging.StrFormatStyle'>, " ++
      "'\x7blevelname\x7d:\x7bname\x7d:\x7bmessage\x7d'), " ++
      "'$': (<class 'logging.StringTemplateStyle'>, " ++
      "'$\x7blevelname\x7d:$\x7bname\x7d:$\x7bmessage\x7d')\x7d"
  | e => (e.fault?.map Fault.text).getD ""

end Error

end QueryBinding
