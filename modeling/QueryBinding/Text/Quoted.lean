import QueryBinding.Text.Numeral
import QueryBinding.Text.Printable

/-! Texts shown between quotes. Apostrophes are used unless the text has an
apostrophe and no double quote. The backslash, the quote in use and all that
is not printable are escaped, a code point with two, four or eight
hexadecimal digits, the fewest that hold it. -/

namespace QueryBinding

namespace Quoted

def mark (cs : List Char) : Char :=
  if cs.contains '\'' && !cs.contains '"' then '"' else '\''

def escapeCode (c : Char) : List Char :=
  let n := c.toNat
  if n < 0x100 then '\\' :: 'x' :: Numeral.hex 2 n
  else if n < 0x10000 then '\\' :: 'u' :: Numeral.hex 4 n
  else '\\' :: 'U' :: Numeral.hex 8 n

def escape (quote c : Char) : List Char :=
  if c = quote ∨ c = '\\' then ['\\', c]
  else if c = '\n' then ['\\', 'n']
  else if c = '\r' then ['\\', 'r']
  else if c = '\t' then ['\\', 't']
  else if Printable.isPrintable c then [c]
  else escapeCode c

def encode (cs : List Char) : List Char :=
  mark cs :: cs.flatMap (escape (mark cs)) ++ [mark cs]

def text (s : String) : String := String.ofList (encode s.toList)

end Quoted

end QueryBinding
