import QueryBinding.Value

/-! Values as compact JSON text. Only the double quote, the backslash and the
characters below U+0020 are escaped, and object fields keep their order. The
writer stands for one that is no part of the library: that it writes values in
this way is what is assumed of it. -/

namespace QueryBinding

namespace Json

def escape (c : Char) : List Char :=
  if c = '"' ∨ c = '\\' then ['\\', c]
  else if c = '\n' then ['\\', 'n']
  else if c = '\r' then ['\\', 'r']
  else if c = '\t' then ['\\', 't']
  else if c = '\x08' then ['\\', 'b']
  else if c = '\x0c' then ['\\', 'f']
  else if c.toNat < 0x20 then '\\' :: 'u' :: Numeral.hex 4 c.toNat
  else [c]

def quote (cs : List Char) : List Char := '"' :: cs.flatMap escape ++ ['"']

mutual

def encode : Value → List Char
  | .null => ['n', 'u', 'l', 'l']
  | .bool true => ['t', 'r', 'u', 'e']
  | .bool false => ['f', 'a', 'l', 's', 'e']
  | .int n => Numeral.ofInt n
  | .text s => quote s.toList
  | .list vs => '[' :: encodeItems vs ++ [']']
  | .object fs => '{' :: encodeFields fs ++ ['}']

def encodeItems : List Value → List Char
  | [] => []
  | [v] => encode v
  | v :: vs => encode v ++ ',' :: encodeItems vs

def encodeFields : List (String × Value) → List Char
  | [] => []
  | [(k, v)] => quote k.toList ++ ':' :: encode v
  | (k, v) :: fs => quote k.toList ++ ':' :: encode v ++ ',' :: encodeFields fs

end

def text (v : Value) : String := String.ofList (encode v)

end Json

end QueryBinding
