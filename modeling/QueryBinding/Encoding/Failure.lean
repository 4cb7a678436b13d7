import QueryBinding.Text.Numeral

/-! Why bytes are no text in an encoding: the bad bytes, where they stand and
what is wrong with them. -/

namespace QueryBinding

namespace Encoding

inductive Flaw where
  | invalidStart
  | invalidContinuation
  | unexpectedEnd
  | notAscii
  | truncated
  | illegalEncoding
  | illegalSurrogate
  /-- A flaw that an encoding names in its own words. -/
  | other (reason : String)
  deriving DecidableEq, Repr

def Flaw.text : Flaw → String
  | invalidStart => "invalid start byte"
  | invalidContinuation => "invalid continuation byte"
  | unexpectedEnd => "unexpected end of data"
  | notAscii => "ordinal not in range(128)"
  | truncated => "truncated data"
  | illegalEncoding => "illegal encoding"
  | illegalSurrogate => "illegal UTF-16 surrogate"
  | other reason => reason

/-- The `count` bytes from `position` on, of which `first` is the first. -/
structure Failure where
  codec : String
  position : Nat
  count : Nat
  first : UInt8
  flaw : Flaw
  deriving DecidableEq, Repr

def Failure.place (f : Failure) : String :=
  if f.count = 1 then
    "byte 0x" ++ String.ofList (Numeral.hex 2 f.first.toNat) ++ " in position " ++
      toString f.position
  else
    "bytes in position " ++ toString f.position ++ "-" ++ toString (f.position + f.count - 1)

def Failure.text (f : Failure) : String :=
  "'" ++ f.codec ++ "' codec can't decode " ++ f.place ++ ": " ++ f.flaw.text

end Encoding

end QueryBinding
