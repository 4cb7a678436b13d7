import QueryBinding.Text.Quoted

/-! Dynamic values: what a caller hands over as an argument of an error or as
a field of a log record. -/

namespace QueryBinding

inductive Value where
  | null
  | bool (b : Bool)
  | int (n : Int)
  | text (s : String)
  | list (items : List Value)
  | object (fields : List (String × Value))
  deriving Inhabited, Repr

namespace Value

/-- Null, false, zero and everything empty count as no value. -/
def isTruthy : Value → Bool
  | null => false
  | bool b => b
  | int n => n != 0
  | text s => s != ""
  | list items => !items.isEmpty
  | object fields => !fields.isEmpty

/-! ### Shown values -/

mutual

/-- A value as it is shown inside a list. -/
def shown : Value → List Char
  | null => "None".toList
  | bool true => "True".toList
  | bool false => "False".toList
  | int n => Numeral.ofInt n
  | text s => Quoted.encode s.toList
  | list items => '[' :: shownItems items ++ [']']
  | object fields => '{' :: shownFields fields ++ ['}']

def shownItems : List Value → List Char
  | [] => []
  | [v] => shown v
  | v :: vs => shown v ++ ',' :: ' ' :: shownItems vs

def shownFields : List (String × Value) → List Char
  | [] => []
  | [(k, v)] => Quoted.encode k.toList ++ ':' :: ' ' :: shown v
  | (k, v) :: fs => Quoted.encode k.toList ++ ':' :: ' ' :: shown v ++ ',' :: ' ' :: shownFields fs

end

/-- The text of a value: texts as they are, all else as shown. -/
def display : Value → String
  | text s => s
  | v => String.ofList v.shown

end Value

end QueryBinding
