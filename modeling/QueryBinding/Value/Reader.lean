import QueryBinding.Entries
import QueryBinding.Value.Json

/-! Reading JSON text. Numbers are integers; of two fields of one name the
later value counts, at the earlier place. Every step consumes a character,
so the length of the text bounds the depth of the recursion. -/

namespace QueryBinding

namespace Json

def isSpace (c : Char) : Bool := c == ' ' || c == '\t' || c == '\n' || c == '\r'

def skip (cs : List Char) : List Char := cs.dropWhile isSpace

/-! ### Texts -/

def hexValue? (c : Char) : Option Nat :=
  if c.isDigit then some (c.toNat - 48)
  else if 'a' ≤ c ∧ c ≤ 'f' then some (c.toNat - 87)
  else if 'A' ≤ c ∧ c ≤ 'F' then some (c.toNat - 55)
  else none

def hex4? (a b c d : Char) : Option Nat := do
  let a ← hexValue? a
  let b ← hexValue? b
  let c ← hexValue? c
  let d ← hexValue? d
  return ((a * 16 + b) * 16 + c) * 16 + d

/-- What a backslash before `c` stands for, other than `u`. -/
def unescape? (c : Char) : Option Nat :=
  match c with
  | '"' => some 0x22
  | '\\' => some 0x5C
  | '/' => some 0x2F
  | 'b' => some 0x08
  | 'f' => some 0x0C
  | 'n' => some 0x0A
  | 'r' => some 0x0D
  | 't' => some 0x09
  | _ => none

/-- The code units up to the closing quote, and what follows it. -/
def units? : List Char → Option (List Nat × List Char)
  | [] => none
  | '"' :: cs => some ([], cs)
  | '\\' :: 'u' :: a :: b :: c :: d :: cs => do
    let n ← hex4? a b c d
    let (ns, rest) ← units? cs
    return (n :: ns, rest)
  | '\\' :: e :: cs => do
    let n ← unescape? e
    let (ns, rest) ← units? cs
    return (n :: ns, rest)
  | c :: cs =>
    if c.toNat < 0x20 then none
    else (units? cs).map fun (ns, rest) => (c.toNat :: ns, rest)

/-- Joins surrogate pairs; a surrogate on its own becomes U+FFFD. -/
def joinUnits : List Nat → List Char
  | [] => []
  | [n] => [if 0xD800 ≤ n ∧ n ≤ 0xDFFF then '\uFFFD' else Char.ofNat n]
  | hi :: lo :: ns =>
    if 0xD800 ≤ hi ∧ hi ≤ 0xDBFF ∧ 0xDC00 ≤ lo ∧ lo ≤ 0xDFFF then
      Char.ofNat (0x10000 + (hi - 0xD800) * 0x400 + (lo - 0xDC00)) :: joinUnits ns
    else
      (if 0xD800 ≤ hi ∧ hi ≤ 0xDFFF then '\uFFFD' else Char.ofNat hi) :: joinUnits (lo :: ns)

def readText? (cs : List Char) : Option (String × List Char) :=
  (units? cs).map fun (ns, rest) => (String.ofList (joinUnits ns), rest)

/-! ### Numbers -/

/-- Decimal digits without leading zeros, and what follows them. -/
def readNat? (cs : List Char) : Option (Nat × List Char) :=
  match cs.takeWhile Char.isDigit with
  | [] => none
  | '0' :: _ :: _ => none
  | ds => some (Nat.ofDigitChars 10 ds 0, cs.dropWhile Char.isDigit)

def readInt? : List Char → Option (Int × List Char)
  | '-' :: cs => (readNat? cs).map fun (n, rest) => (-(n : Int), rest)
  | cs => (readNat? cs).map fun (n, rest) => ((n : Int), rest)

/-! ### Values -/

mutual

def readValue? : Nat → List Char → Option (Value × List Char)
  | 0, _ => none
  | depth + 1, cs =>
    match skip cs with
    | 'n' :: 'u' :: 'l' :: 'l' :: rest => some (.null, rest)
    | 't' :: 'r' :: 'u' :: 'e' :: rest => some (.bool true, rest)
    | 'f' :: 'a' :: 'l' :: 's' :: 'e' :: rest => some (.bool false, rest)
    | '"' :: rest => (readText? rest).map fun (s, rest) => (.text s, rest)
    | '[' :: rest =>
      match skip rest with
      | ']' :: rest => some (.list [], rest)
      | rest => (readItems? depth rest).map fun (vs, rest) => (.list vs, rest)
    | '{' :: rest =>
      match skip rest with
      | '}' :: rest => some (.object [], rest)
      | rest => (readFields? depth rest).map fun (fs, rest) => (.object (Entries.ofPairs fs), rest)
    | rest => (readInt? rest).map fun (n, rest) => (.int n, rest)

/-- One item or more, up to the closing bracket. -/
def readItems? : Nat → List Char → Option (List Value × List Char)
  | 0, _ => none
  | depth + 1, cs => do
    let (v, rest) ← readValue? depth cs
    match skip rest with
    | ',' :: rest => (readItems? depth rest).map fun (vs, rest) => (v :: vs, rest)
    | ']' :: rest => some ([v], rest)
    | _ => none

/-- One field or more, up to the closing brace. -/
def readFields? : Nat → List Char → Option (List (String × Value) × List Char)
  | 0, _ => none
  | depth + 1, cs =>
    match skip cs with
    | '"' :: rest => do
      let (k, rest) ← readText? rest
      match skip rest with
      | ':' :: rest => do
        let (v, rest) ← readValue? depth rest
        match skip rest with
        | ',' :: rest => (readFields? depth rest).map fun (fs, rest) => ((k, v) :: fs, rest)
        | '}' :: rest => some ([(k, v)], rest)
        | _ => none
      | _ => none
    | _ => none

end

/-- The value that a text spells, blanks around it allowed. -/
def read? (cs : List Char) : Option Value :=
  match readValue? (cs.length + 1) cs with
  | some (v, rest) => if (skip rest).isEmpty then some v else none
  | none => none

end Json

end QueryBinding
