import QueryBinding.Nearest
import QueryBinding.Value

/-! How an argument is written into a message: as a text, an integer, a number
with a fraction or an exponent, or a character, and filled up to a width. -/

namespace QueryBinding

/-- Why a message and its arguments do not fit together. -/
inductive MessageError where
  | tooFewArguments
  | tooManyArguments
  /-- A key where the arguments are no object. -/
  | noObject
  | missingKey (key : String)
  | incompleteKey
  | incomplete
  /-- A starred width or precision that is no integer. -/
  | starred
  | starredWidth
  | starredPrecision
  | wideWidth
  | widePrecision
  /-- A precision that no integer can be written with. -/
  | longPrecision
  | notNumber (c : Char) (kind : String)
  | notInteger (c : Char) (kind : String)
  | notReal (kind : String)
  /-- An integer with too many decimal digits. -/
  | longNumber
  /-- An integer that no double is near to. -/
  | hugeNumber
  | notCharacter
  | noCodePoint
  /-- Half of a surrogate pair. It is no character, which is noticed only when
  the whole message is encoded. -/
  | surrogate
  | unsupported (c : Char) (index : Nat)
  deriving DecidableEq, Repr

namespace MessageError

def text : MessageError → String
  | tooFewArguments => "not enough arguments for format string"
  | tooManyArguments => "not all arguments converted during string formatting"
  | noObject => "format requires a mapping"
  | missingKey key => Quoted.text key
  | incompleteKey => "incomplete format key"
  | incomplete => "incomplete format"
  | starred => "* wants int"
  | starredWidth => "Python int too large to convert to C ssize_t"
  | starredPrecision => "Python int too large to convert to C int"
  | wideWidth => "width too big"
  | widePrecision => "precision too big"
  | longPrecision => "precision too large"
  | notNumber c kind =>
    "%" ++ String.ofList [c] ++ " format: a real number is required, not " ++ kind
  | notInteger c kind =>
    "%" ++ String.ofList [c] ++ " format: an integer is required, not " ++ kind
  | notReal kind => "must be real number, not " ++ kind
  | longNumber => "Exceeds the limit (" ++ toString Numeral.maxDigits ++
      " digits) for integer string conversion; use sys.set_int_max_str_digits() to increase the limit"
  | hugeNumber => "int too large to convert to float"
  | notCharacter => "%c requires int or char"
  | noCodePoint => "%c arg not in range(0x110000)"
  | surrogate => "surrogates not allowed"
  | unsupported c index =>
    let shown := if 0x1F ≤ c.toNat && c.toNat ≤ 0x7E then c else '?'
    "unsupported format character '" ++ String.ofList [shown] ++
      "' (0x" ++ String.ofList (Nat.toDigits 16 c.toNat) ++ ") at index " ++ toString index

end MessageError

namespace Value

def kindLabel : Value → String
  | null => "NoneType"
  | bool _ => "bool"
  | int _ => "int"
  | text _ => "str"
  | list _ => "list"
  | object _ => "dict"

/-- The number that a value counts as. -/
def number? : Value → Option Int
  | int n => some n
  | bool b => some (if b then 1 else 0)
  | _ => none

mutual

/-- Whether an integer with too many digits would have to be written. -/
def hasLongNumber : Value → Bool
  | int n => Numeral.maxDigits < (Numeral.ofNat n.natAbs).length
  | list items => anyLongNumber items
  | object fields => anyLongField fields
  | _ => false

def anyLongNumber : List Value → Bool
  | [] => false
  | v :: vs => hasLongNumber v || anyLongNumber vs

def anyLongField : List (String × Value) → Bool
  | [] => false
  | (_, v) :: fs => hasLongNumber v || anyLongField fs

end

end Value

/-- How one argument is to be written. -/
structure Directive where
  left : Bool := false
  plus : Bool := false
  blank : Bool := false
  alternate : Bool := false
  zeros : Bool := false
  width : Nat := 0
  precision : Option Nat := none
  deriving DecidableEq, Repr

namespace Directive

variable (d : Directive)

/-! ### Numbers -/

/-- The sign of a number. -/
def sign (n : Int) : List Char :=
  if n < 0 then ['-'] else if d.plus then ['+'] else if d.blank then [' '] else []

/-- Fills a number up to the width: with blanks in front of its sign or behind
it, or with zeros in front of its digits. -/
def fitNumber (sign mark digits : List Char) : List Char :=
  let room := d.width - (sign.length + mark.length + digits.length)
  if d.left then sign ++ mark ++ digits ++ List.replicate room ' '
  else if d.zeros then sign ++ mark ++ List.replicate room '0' ++ digits
  else List.replicate room ' ' ++ sign ++ mark ++ digits

/-- An integer in the given digits, of which there are to be as many as the
precision says. -/
def integer (mark digits : List Char) (n : Int) : List Char :=
  let digits := List.replicate (d.precision.getD 0 - digits.length) '0' ++ digits
  d.fitNumber (d.sign n) mark digits

def based (base : Nat) (c : Char) (n : Int) : List Char :=
  let digits := Nat.toDigits base n.natAbs
  d.integer (if d.alternate then ['0', c] else [])
    (if c = 'X' then digits.map Char.toUpper else digits) n

/-- The longest precision of an integer. -/
def maxPrecision : Nat := Nat.pow 2 31 - 4

def convertInteger (c : Char) (v : Value) : Except MessageError (List Char) :=
  match v.number? with
  | none => .error (if c ∈ ['o', 'x', 'X'] then .notInteger c v.kindLabel
      else .notNumber c v.kindLabel)
  | some n =>
    if maxPrecision < d.precision.getD 0 then .error .longPrecision
    else if c = 'o' then .ok (d.based 8 c n)
    else if c = 'x' ∨ c = 'X' then .ok (d.based 16 c n)
    else if (Value.int n).hasLongNumber then .error .longNumber
    else .ok (d.integer [] (Numeral.ofNat n.natAbs) n)

/-! ### Fractions and exponents -/

/-- The given count of digits of a number, the last one rounded, and the power
of ten of the first one. -/
def significant (count m : Nat) : List Char × Nat :=
  let digits := Numeral.ofNat m
  if digits.length ≤ count then
    (digits ++ List.replicate (count - digits.length) '0', digits.length - 1)
  else
    -- rounding nines up gives a digit more, a zero
    let rounded := Numeral.ofNat (Nearest.div m (Nat.pow 10 (digits.length - count)))
    (rounded.take count, digits.length - 1 + (rounded.length - count))

/-- Decimals behind their point, which an alternate form has even without any. -/
def point (decimals : List Char) : List Char :=
  if decimals.isEmpty && !d.alternate then [] else '.' :: decimals

def exponent (e : Char) (power : Nat) : List Char := e :: '+' :: Numeral.padded 2 power

/-- Decimals without trailing zeros, which an alternate form keeps. -/
def trimmed (decimals : List Char) : List Char :=
  if d.alternate then decimals else (decimals.reverse.dropWhile (· = '0')).reverse

def fixed (m : Nat) : List Char :=
  Numeral.ofNat m ++ d.point (List.replicate (d.precision.getD 6) '0')

def scientific (e : Char) (m : Nat) : List Char :=
  let (digits, power) := significant (d.precision.getD 6 + 1) m
  digits.take 1 ++ d.point (digits.drop 1) ++ exponent e power

/-- The shorter one of both forms. -/
def general (e : Char) (m : Nat) : List Char :=
  let count := max 1 (d.precision.getD 6)
  let (digits, power) := significant count m
  if power < count then
    digits.take (power + 1) ++ d.point (d.trimmed (digits.drop (power + 1)))
  else digits.take 1 ++ d.point (d.trimmed (digits.drop 1)) ++ exponent e power

/-- Integers are taken as the doubles nearest to them. -/
def convertReal (c : Char) (v : Value) : Except MessageError (List Char) :=
  match v.number? with
  | none => .error (.notReal v.kindLabel)
  | some n =>
    let m := (Nearest.double n).natAbs
    if Nat.pow 2 1024 ≤ m then .error .hugeNumber
    else
      .ok <| d.fitNumber (d.sign n) [] <|
        if c = 'e' ∨ c = 'E' then d.scientific c m
        else if c = 'g' then d.general 'e' m
        else if c = 'G' then d.general 'E' m
        else d.fixed m

/-! ### Texts -/

/-- Fills a text up to the width with blanks. -/
def fit (cs : List Char) : List Char :=
  let room := d.width - cs.length
  if d.left then cs ++ List.replicate room ' ' else List.replicate room ' ' ++ cs

/-- There is no text for half of a surrogate pair. -/
def convertCharacter (v : Value) : Except MessageError (Option (List Char)) :=
  match v, v.number? with
  | .text s, _ => match s.toList with
    | [c] => .ok (some (d.fit [c]))
    | _ => .error .notCharacter
  | _, none => .error .notCharacter
  | _, some n =>
    if n < 0 ∨ 0x110000 ≤ n then .error .noCodePoint
    else if 0xD800 ≤ n ∧ n < 0xE000 then .ok none
    else .ok (some (d.fit [Char.ofNat n.toNat]))

/-- A text with every character beyond ASCII escaped. -/
def plain (cs : List Char) : List Char :=
  cs.flatMap fun c => if c.toNat < 0x80 then [c] else Quoted.escapeCode c

/-- The text of a value, or what is shown of it, as much as the precision
allows. -/
def convertText (c : Char) (v : Value) : Except MessageError (List Char) :=
  if v.hasLongNumber then .error .longNumber
  else
    let cs := if c = 's' then v.display.toList
      else if c = 'r' then v.shown
      else plain v.shown
    .ok (d.fit (cs.take (d.precision.getD cs.length)))

/-- Writes an argument by the character that ends a directive. -/
def convert (index : Nat) (c : Char) (v : Value) : Except MessageError (Option (List Char)) :=
  if c ∈ ['s', 'r', 'a'] then (d.convertText c v).map some
  else if c ∈ ['d', 'i', 'u', 'o', 'x', 'X'] then (d.convertInteger c v).map some
  else if c ∈ ['e', 'E', 'f', 'F', 'g', 'G'] then (d.convertReal c v).map some
  else if c = 'c' then d.convertCharacter v
  else .error (.unsupported c index)

end Directive

end QueryBinding
