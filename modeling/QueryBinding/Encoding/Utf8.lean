import QueryBinding.Encoding.Failure

/-! UTF-8. The decoder takes one byte at a time. Between two bytes of a
character it remembers the value so far and the range of the next byte, which
is narrower than a continuation byte after E0, ED, F0 and F4, so that no
character has two forms and surrogates have none. A bad sequence is reported
from its first byte up to the byte that breaks it. -/

namespace QueryBinding

namespace Encoding.Utf8

/-- The rest of a character: its value so far, the range of its next byte and
the number of continuation bytes after that one. -/
structure Rest where
  value : Nat
  low : Nat
  high : Nat
  more : Nat
  deriving DecidableEq, Repr

/-- What a byte that opens a longer character calls for. -/
def lead? (b : UInt8) : Option Rest :=
  let n := b.toNat
  if n < 0xC2 then none
  else if n < 0xE0 then some ⟨n - 0xC0, 0x80, 0xBF, 0⟩
  else if n = 0xE0 then some ⟨0, 0xA0, 0xBF, 1⟩
  else if n = 0xED then some ⟨0xD, 0x80, 0x9F, 1⟩
  else if n < 0xF0 then some ⟨n - 0xE0, 0x80, 0xBF, 1⟩
  else if n = 0xF0 then some ⟨0, 0x90, 0xBF, 2⟩
  else if n < 0xF4 then some ⟨n - 0xF0, 0x80, 0xBF, 2⟩
  else if n = 0xF4 then some ⟨4, 0x80, 0x8F, 2⟩
  else none

def Rest.take (r : Rest) (b : UInt8) : Nat := r.value * 64 + (b.toNat - 0x80)

inductive State where
  | ready
  /-- Inside the character that `lead` opened at `start`. -/
  | within (start : Nat) (lead : UInt8) (rest : Rest)

def failure (start stop : Nat) (lead : UInt8) (flaw : Flaw) : Failure :=
  ⟨"utf-8", start, stop - start, lead, flaw⟩

def decodeFrom : State → Nat → List UInt8 → Except Failure (List Char)
  | .ready, _, [] => .ok []
  | .within start lead _, i, [] => .error (failure start i lead .unexpectedEnd)
  | .ready, i, b :: bs =>
    if b < 0x80 then (decodeFrom .ready (i + 1) bs).map (Char.ofNat b.toNat :: ·)
    else match lead? b with
      | some rest => decodeFrom (.within i b rest) (i + 1) bs
      | none => .error (failure i (i + 1) b .invalidStart)
  | .within start lead rest, i, b :: bs =>
    if rest.low ≤ b.toNat ∧ b.toNat ≤ rest.high then
      match rest.more with
      | 0 => (decodeFrom .ready (i + 1) bs).map (Char.ofNat (rest.take b) :: ·)
      | more + 1 => decodeFrom (.within start lead ⟨rest.take b, 0x80, 0xBF, more⟩) (i + 1) bs
    else .error (failure start i lead .invalidContinuation)

def decode (bytes : List UInt8) : Except Failure (List Char) := decodeFrom .ready 0 bytes

def encode (cs : List Char) : List UInt8 := cs.flatMap String.utf8EncodeChar

/-! ### Byte order mark -/

def mark : List UInt8 := [0xEF, 0xBB, 0xBF]

/-- A leading mark is dropped, and positions count from behind it. Nothing but
the beginning of a mark is an empty text. -/
def decodeMarked (bytes : List UInt8) : Except Failure (List Char) :=
  if bytes.length < 3 ∧ bytes.isPrefixOf mark then .ok []
  else match bytes with
    | 0xEF :: 0xBB :: 0xBF :: rest => decode rest
    | _ => decode bytes

end Encoding.Utf8

end QueryBinding
