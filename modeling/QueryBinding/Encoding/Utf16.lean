import QueryBinding.Encoding.Failure

/-! UTF-16 in either byte order. -/

namespace QueryBinding

namespace Encoding.Utf16

inductive ByteOrder where
  | little
  | big
  deriving DecidableEq, Repr

def ByteOrder.codec : ByteOrder → String
  | little => "utf-16-le"
  | big => "utf-16-be"

def ByteOrder.unit : ByteOrder → UInt8 → UInt8 → Nat
  | little, a, b => b.toNat * 256 + a.toNat
  | big, a, b => a.toNat * 256 + b.toNat

def isHigh (n : Nat) : Bool := 0xD800 ≤ n && n ≤ 0xDBFF

def isLow (n : Nat) : Bool := 0xDC00 ≤ n && n ≤ 0xDFFF

def pair (high low : Nat) : Char := Char.ofNat (0x10000 + (high - 0xD800) * 0x400 + (low - 0xDC00))

def decodeFrom (order : ByteOrder) : Nat → List UInt8 → Except Failure (List Char)
  | _, [] => .ok []
  | i, [a] => .error ⟨order.codec, i, 1, a, .truncated⟩
  | i, [a, b] =>
    let n := order.unit a b
    if isLow n then .error ⟨order.codec, i, 2, a, .illegalEncoding⟩
    else if isHigh n then .error ⟨order.codec, i, 2, a, .unexpectedEnd⟩
    else .ok [Char.ofNat n]
  | i, [a, b, c] =>
    let n := order.unit a b
    if isLow n then .error ⟨order.codec, i, 2, a, .illegalEncoding⟩
    else if isHigh n then .error ⟨order.codec, i, 3, a, .unexpectedEnd⟩
    else .error ⟨order.codec, i + 2, 1, c, .truncated⟩
  | i, a :: b :: c :: d :: rest =>
    let n := order.unit a b
    if isLow n then .error ⟨order.codec, i, 2, a, .illegalEncoding⟩
    else if isHigh n then
      if isLow (order.unit c d) then
        (decodeFrom order (i + 4) rest).map (pair n (order.unit c d) :: ·)
      else .error ⟨order.codec, i, 2, a, .illegalSurrogate⟩
    else (decodeFrom order (i + 2) (c :: d :: rest)).map (Char.ofNat n :: ·)

end Encoding.Utf16

end QueryBinding
