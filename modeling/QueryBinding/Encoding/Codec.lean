import QueryBinding.Encoding.Utf16
import QueryBinding.Encoding.Utf8

/-! Encodings by name. Some encodings are written out here, with all of their
names. What other names stand for is left open: any function may be given that
tells it. -/

namespace QueryBinding

inductive Codec where
  | utf8
  /-- UTF-8 whose leading byte order mark is no part of the text. -/
  | utf8Marked
  | ascii
  | latin1
  /-- UTF-16 whose byte order is told by its byte order mark. -/
  | utf16
  | utf16Of (order : Encoding.Utf16.ByteOrder)
  deriving DecidableEq, Repr

namespace Codec

open Encoding

/-! ### Decoding -/

/-- Why bytes are no text. -/
inductive DecodeError where
  | undecodable (failure : Failure)
  /-- A text in UTF-16 of which no byte order is known. -/
  | missingMark
  /-- A failure that is not about certain bytes. -/
  | unplaced (reason : String)
  deriving DecidableEq, Repr

/-- The text that bytes spell, if they spell one. -/
abbrev Decoder := List UInt8 → Except DecodeError (List Char)

def decodeAscii : Nat → List UInt8 → Except Failure (List Char)
  | _, [] => .ok []
  | i, b :: bs =>
    if b < 0x80 then (decodeAscii (i + 1) bs).map (Char.ofNat b.toNat :: ·)
    else .error ⟨"ascii", i, 1, b, .notAscii⟩

def decode (codec : Codec) : Decoder := fun bytes =>
  match codec with
  | utf8 => (Utf8.decode bytes).mapError .undecodable
  | utf8Marked => (Utf8.decodeMarked bytes).mapError .undecodable
  | ascii => (decodeAscii 0 bytes).mapError .undecodable
  | latin1 => .ok (bytes.map fun b => Char.ofNat b.toNat)
  | utf16Of order => (Utf16.decodeFrom order 0 bytes).mapError .undecodable
  | utf16 => match bytes with
    | 0xFF :: 0xFE :: rest => (Utf16.decodeFrom .little 2 rest).mapError .undecodable
    | 0xFE :: 0xFF :: rest => (Utf16.decodeFrom .big 2 rest).mapError .undecodable
    | [] => .ok []
    | _ => match Utf16.decodeFrom .little 0 bytes with
      | .ok _ => .error .missingMark
      | .error f => .error (.undecodable f)

/-! ### Names -/

/-- The small letters, digits and dots of a name, with one underscore for
whatever stands between two of them. The flags tell whether one of them has been
met, and whether something else has been met since. -/
def foldName (met passed : Bool) : List Char → List Char
  | [] => []
  | c :: cs =>
    if c.isAlphanum || c == '.' then
      (if met && passed then ['_', c.toLower] else [c.toLower]) ++ foldName true false cs
    else foldName met true cs

/-- The form in which a name is looked up. -/
def key (name : String) : String := String.ofList (foldName false false name.toList)

def names : List (String × Codec) :=
  [("utf_8", utf8), ("utf_8_sig", utf8Marked), ("ascii", ascii), ("latin_1", latin1),
    ("utf_16", utf16), ("utf_16_le", utf16Of .little), ("utf_16_be", utf16Of .big)]

def aliases : List (String × Codec) :=
  (["cp65001", "u8", "utf", "utf8", "utf8_ucs2", "utf8_ucs4"].map (·, utf8)) ++
  (["646", "ansi_x3.4_1968", "ansi_x3.4_1986", "ansi_x3_4_1968", "cp367", "csascii", "ibm367",
    "iso646_us", "iso_646.irv_1991", "iso_ir_6", "us", "us_ascii"].map (·, ascii)) ++
  (["8859", "cp819", "csisolatin1", "ibm819", "iso8859", "iso8859_1", "iso_8859_1",
    "iso_8859_1_1987", "iso_ir_100", "l1", "latin", "latin1"].map (·, latin1)) ++
  (["u16", "utf16"].map (·, utf16)) ++
  (["unicodelittleunmarked", "utf_16le"].map (·, utf16Of .little)) ++
  (["unicodebigunmarked", "utf_16be"].map (·, utf16Of .big))

/-- The encoding of a name. Dots count as underscores where the name is not
known otherwise. -/
def ofName? (name : String) : Option Codec :=
  let key := key name
  let plain := key.map fun c => if c = '.' then '_' else c
  (aliases.lookup key).or ((aliases.lookup plain).or (names.lookup key))

/-- What the name of an encoding stands for. -/
inductive Meaning where
  | text (decode : Decoder)
  /-- Bytes that are encoded as other bytes. -/
  | textless

/-- What names stand for that are none of the above. -/
abbrev Further := String → Option Meaning

/-- What a name stands for. There is no name with a NUL in it. -/
def find? (further : Further) (name : String) : Option Meaning :=
  if '\x00' ∈ name.toList then none
  else match ofName? name with
    | some codec => some (.text codec.decode)
    | none => further name

/-- The names of an encoding that is written out stand for nothing else. -/
theorem find?_of_ofName? {name : String} {codec : Codec} (h : ofName? name = some codec)
    (hnull : '\x00' ∉ name.toList) (further : Further) :
    find? further name = some (.text codec.decode) := by
  rw [find?, if_neg hnull, h]

end Codec

end QueryBinding
