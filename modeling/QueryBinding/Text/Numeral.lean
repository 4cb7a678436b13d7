import QueryBinding.Text.Blank
import QueryBinding.Text.Digit

/-! Integers as text. They are written in decimal without leading zeros, and
read from any decimal digits: white space around the numeral is dropped, a
sign may stand in front, and one underscore may stand between two digits. -/

namespace QueryBinding

namespace Numeral

def ofNat (n : Nat) : List Char := Nat.toDigits 10 n

def ofInt : Int → List Char
  | .ofNat n => ofNat n
  | .negSucc n => '-' :: ofNat (n + 1)

def text (n : Int) : String := String.ofList (ofInt n)

/-- A number below `10 ^ width`, filled up with zeros from the left. -/
def padded (width n : Nat) : List Char :=
  let ds := ofNat n
  List.replicate (width - ds.length) '0' ++ ds

/-- The last `width` hexadecimal digits of a number, in small letters. -/
def hex : Nat → Nat → List Char
  | 0, _ => []
  | width + 1, n => hex width (n / 16) ++ [Nat.digitChar (n % 16)]

/-! ### Reading -/

/-- Numerals with more digits than this are refused. -/
def maxDigits : Nat := 4300

/-- The digits of a sequence in which single underscores may separate two of
them. -/
def digits? : List Char → Option (List Nat)
  | [] => none
  | [c] => (Digit.value? c).map ([·])
  | c :: '_' :: cs => (Digit.value? c).bind fun d => (digits? cs).map (d :: ·)
  | c :: cs => (Digit.value? c).bind fun d => (digits? cs).map (d :: ·)

def ofDigits (ds : List Nat) : Nat := ds.foldl (fun n d => 10 * n + d) 0

def magnitude? (cs : List Char) : Option Nat :=
  (digits? cs).bind fun ds => if ds.length ≤ maxDigits then some (ofDigits ds) else none

def read? (cs : List Char) : Option Int :=
  match Blank.strip Blank.isSpace cs with
  | '-' :: ds => (magnitude? ds).map fun n => -(n : Int)
  | '+' :: ds => (magnitude? ds).map fun n => (n : Int)
  | ds => (magnitude? ds).map fun n => (n : Int)

end Numeral

end QueryBinding
