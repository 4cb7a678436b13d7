import QueryBinding.Error
import QueryBinding.Template

/-! Reading a statement template. A limit on the length is checked before
anything else. A colon that belongs to no placeholder and no cast is an error
under strict rules and an ordinary character otherwise; its offset is
reported in either case. -/

namespace QueryBinding

structure Rules where
  strict : Bool := false
  limit : Option Int := none
  deriving DecidableEq, Repr

def Rules.tooLong (rules : Rules) (length : Nat) : Option Int :=
  rules.limit.filter fun limit => limit < (length : Int)

/-- A template with the offsets of the colons that were taken literally. -/
structure Parsed where
  template : Template
  colons : List Nat

namespace Template

/-- The offsets of the colons that stand for themselves. -/
def colonsFrom (offset : Nat) : List Lexeme → List Nat
  | [] => []
  | .colon :: ls => offset :: colonsFrom (offset + 1) ls
  | l :: ls => colonsFrom (offset + l.width) ls

def parse (rules : Rules) (sql : String) : Except Error Parsed :=
  match rules.tooLong sql.length with
  | some limit => .error (.tooLong sql.length limit)
  | none =>
    let ls := Lexeme.scan sql.toList
    match rules.strict, colonsFrom 0 ls with
    | true, position :: _ => .error (.malformed position sql)
    | _, colons => .ok ⟨ofLexemes sql ls, colons⟩

end Template

end QueryBinding
