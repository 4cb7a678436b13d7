import QueryBinding.Entries
import QueryBinding.Log.Conversion

/-! Messages with arguments. A directive, which begins with a percent sign,
stands for an argument: the next one or, if there is one object only, the value
of a key of it. Behind the key there may be flags, a width, a precision, both of
which a star takes from the arguments, and the size of a number, which says
nothing. Two percent signs stand for one. Every argument has to be used, and a
message without arguments is taken as it stands. -/

namespace QueryBinding

namespace Message

/-- The arguments that are left. If they come from an object, that one or the
value of its last key is the only one. -/
structure Supply where
  fields : Option (Entries Value)
  left : List Value

namespace Supply

def next (s : Supply) : Except MessageError (Value × Supply) :=
  match s.left with
  | [] => .error .tooFewArguments
  | v :: vs => .ok (v, { s with left := vs })

def lookUp (s : Supply) (key : String) : Except MessageError Supply :=
  match s.fields with
  | none => .error .noObject
  | some fields => match fields.get? key with
    | none => .error (.missingKey key)
    | some v => .ok { s with left := [v] }

/-- An integer for a star. -/
def nextInteger (s : Supply) : Except MessageError (Int × Supply) :=
  match s.next with
  | .error e => .error e
  | .ok (v, s) => match v.number? with
    | none => .error .starred
    | some n => .ok (n, s)

/-- Whether no argument has to be used any more. An object need not be. -/
def isSpent (s : Supply) : Bool := s.fields.isSome || s.left.isEmpty

end Supply

/-- How far a directive has been read. -/
inductive Stage where
  | opened
  /-- Inside the bracket and that many further ones; the key so far, the last
  character first. -/
  | key (depth : Nat) (name : List Char)
  | flags (d : Directive)
  | width (d : Directive)
  | starredWidth (d : Directive)
  | point (d : Directive)
  | precision (d : Directive)
  | starredPrecision (d : Directive)
  | size (d : Directive)

/-- What comes of one more character. -/
inductive Step where
  | more (stage : Stage) (s : Supply)
  | done (text : Option (List Char)) (s : Supply)

section Read

variable (index : Nat) (s : Supply) (c : Char)

def digit? : Option Nat := if c.isDigit then some (c.toNat - '0'.toNat) else none

/-- The character that ends a directive. -/
def readEnd (d : Directive) : Except MessageError Step :=
  match s.next with
  | .error e => .error e
  | .ok (v, s) => (d.convert index c v).map (.done · s)

def readSize (d : Directive) : Except MessageError Step :=
  if c ∈ ['h', 'l', 'L'] then .ok (.more (.size d) s) else readEnd index s c d

def readPrecision (d : Directive) : Except MessageError Step :=
  match digit? c with
  | none => readSize index s c d
  | some n =>
    let p := 10 * d.precision.getD 0 + n
    if Nat.pow 2 31 ≤ p then .error .widePrecision
    else .ok (.more (.precision { d with precision := some p }) s)

/-- What comes right behind the point. A precision below zero counts as zero. -/
def readFirstOfPrecision (d : Directive) : Except MessageError Step :=
  if c = '*' then
    match s.nextInteger with
    | .error e => .error e
    | .ok (n, s) =>
      if Int.pow 2 31 ≤ n ∨ n < -Int.pow 2 31 then .error .starredPrecision
      else .ok (.more (.starredPrecision { d with precision := some n.toNat }) s)
  else readPrecision index s c d

def readPoint (d : Directive) : Except MessageError Step :=
  if c = '.' then .ok (.more (.point { d with precision := some 0 }) s) else readSize index s c d

def readWidth (d : Directive) : Except MessageError Step :=
  match digit? c with
  | none => readPoint index s c d
  | some n =>
    let w := 10 * d.width + n
    if Nat.pow 2 63 ≤ w then .error .wideWidth
    else .ok (.more (.width { d with width := w }) s)

/-- What comes right behind the flags. A width below zero asks for blanks
behind the argument. -/
def readFirstOfWidth (d : Directive) : Except MessageError Step :=
  if c = '*' then
    match s.nextInteger with
    | .error e => .error e
    | .ok (n, s) =>
      if Int.pow 2 63 ≤ n ∨ n < -Int.pow 2 63 then .error .starredWidth
      else .ok (.more (.starredWidth { d with width := n.natAbs, left := d.left || n < 0 }) s)
  else readWidth index s c d

def readFlag (d : Directive) : Except MessageError Step :=
  match c with
  | '-' => .ok (.more (.flags { d with left := true }) s)
  | '+' => .ok (.more (.flags { d with plus := true }) s)
  | ' ' => .ok (.more (.flags { d with blank := true }) s)
  | '#' => .ok (.more (.flags { d with alternate := true }) s)
  | '0' => .ok (.more (.flags { d with zeros := true }) s)
  | _ => readFirstOfWidth index s c d

/-- A key ends with the bracket that closes the first one. -/
def readKey (depth : Nat) (name : List Char) : Except MessageError Step :=
  match c, depth with
  | ')', 0 => (s.lookUp (String.ofList name.reverse)).map (.more (.flags {}))
  | ')', depth + 1 => .ok (.more (.key depth (c :: name)) s)
  | '(', depth => .ok (.more (.key (depth + 1) (c :: name)) s)
  | _, depth => .ok (.more (.key depth (c :: name)) s)

def readOpened : Except MessageError Step :=
  match c with
  | '%' => .ok (.done (some ['%']) s)
  | '(' => if s.fields.isNone then .error .noObject else .ok (.more (.key 0 []) s)
  | _ => readFlag index s c {}

def read : Stage → Except MessageError Step
  | .opened => readOpened index s c
  | .key depth name => readKey s c depth name
  | .flags d => readFlag index s c d
  | .width d => readWidth index s c d
  | .starredWidth d => readPoint index s c d
  | .point d => readFirstOfPrecision index s c d
  | .precision d => readPrecision index s c d
  | .starredPrecision d => readSize index s c d
  | .size d => readEnd index s c d

end Read

/-- A text and what follows it. -/
def join (text : Option (List Char)) (rest : Except MessageError (List Char)) :
    Except MessageError (List Char) :=
  match rest, text with
  | .error e, _ => .error e
  | .ok _, none => .error .surrogate
  | .ok cs, some text => .ok (text ++ cs)

/-- Fills in a pattern whose first character has offset `i`, inside a directive
or not. -/
def fillFrom : Option Stage → Nat → Supply → List Char → Except MessageError (List Char)
  | none, _, s, [] => if s.isSpent then .ok [] else .error .tooManyArguments
  | some (.key _ _), _, _, [] => .error .incompleteKey
  | some _, _, _, [] => .error .incomplete
  | none, i, s, c :: cs =>
    if c = '%' then fillFrom (some .opened) (i + 1) s cs
    else (fillFrom none (i + 1) s cs).map (c :: ·)
  | some stage, i, s, c :: cs =>
    match read i s c stage with
    | .error e => .error e
    | .ok (.more stage s) => fillFrom (some stage) (i + 1) s cs
    | .ok (.done text s) => join text (fillFrom none (i + 1) s cs)

/-- Only an object with fields is looked into. -/
def supply : List Value → Supply
  | [.object (f :: fs)] => ⟨some (f :: fs), [.object (f :: fs)]⟩
  | args => ⟨none, args⟩

def fill (pattern : String) (args : List Value) : Except MessageError String :=
  match args with
  | [] => .ok pattern
  | args => (fillFrom none 0 (supply args) pattern.toList).map String.ofList

end Message

end QueryBinding
