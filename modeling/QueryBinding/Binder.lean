import QueryBinding.Entries
import QueryBinding.Error
import QueryBinding.Template.Shown

/-! Binding values to the placeholders of a template. Values come by name or
as a sequence, and a sequence has one of two layouts: one value for every
placeholder, by rank, or one for every positional placeholder, in order.
Under the first layout the latest binding wins: the sequence supersedes the
names bound before it, and a name bound after it supersedes the value of its
rank. Under the second the named placeholders take their values by name. -/

namespace QueryBinding

/-- Where a binder got its template: from a caller, or from a statement that
it had parsed. -/
inductive Origin where
  | template
  | statement
  deriving DecidableEq, Repr

def Origin.label : Origin → String
  | template => "TemplateBinder"
  | statement => "PlainSql"

inductive Progress where
  | unbound
  | partly
  | resolved
  deriving DecidableEq, Repr

def Progress.label : Progress → String
  | unbound => "unbound"
  | partly => "partially_bound"
  | resolved => "resolved"

structure Binder (α : Type) where
  origin : Origin
  template : Template
  named : Entries α
  positional : Option (List α)
  /-- Names whose values the present sequence supersedes. -/
  superseded : List String

namespace Binder

variable {α : Type}

def empty (origin : Origin) (template : Template) : Binder α := ⟨origin, template, [], none, []⟩

/-! ### Binding -/

def bindNamed (b : Binder α) (name : String) (value : α) : Binder α :=
  { b with named := b.named.put name value, superseded := b.superseded.filter (· ≠ name) }

/-- Binds several names at once. -/
def bindEntries (b : Binder α) (entries : Entries α) : Binder α :=
  { b with
    named := b.named.merge entries
    superseded := b.superseded.filter fun name => !entries.has name }

/-- Binds the entries of a map and then those given beside it. -/
def bindAll (b : Binder α) (map : Option (Entries α)) (beside : Entries α) : Binder α :=
  (b.bindEntries (map.getD [])).bindEntries beside

def bindPositional (b : Binder α) (values : List α) : Except Error (Binder α) :=
  let count := values.length
  let total := b.template.count
  let positional := b.template.positionalCount
  if count ≠ total ∧ count ≠ positional then
    .error (.wrongCount total positional count b.template.source)
  else .ok { b with
    positional := some values
    superseded := if count = total then b.named.names else [] }

/-! ### Resolving -/

/-- The sequence, if it has a value for every placeholder. -/
def aligned? (b : Binder α) : Option (List α) :=
  b.positional.filter fun values => values.length = b.template.count

/-- The value of rank `index`; a negative rank counts from the end. -/
def at? (values : List α) (index : Int) : Option α :=
  if 0 ≤ index then values[index.toNat]?
  else if 0 ≤ values.length + index then values[(values.length + index).toNat]?
  else none

def ranked (values : List α) (index : Int) : Except Error α :=
  match at? values index with
  | some v => .ok v
  | none => .error .outOfRange

/-- The value bound by name that is in force. -/
def current? (b : Binder α) (name : String) : Option α :=
  if b.superseded.contains name then none else b.named.get? name

/-- The value of one placeholder; `slot` positional ones lie before it. -/
def valueFor (b : Binder α) (slot : Nat) (p : Placeholder) : Except Error α :=
  match p.name with
  | some name =>
    match b.current? name with
    | some v => .ok v
    | none => match b.aligned? with
      | some values => ranked values p.index
      | none => .error (.unbound name p.index b.template.source)
  | none =>
    match b.positional with
    | none => .error (.noValues b.template.positionalCount p.index b.template.source)
    | some values => ranked values (if b.aligned?.isSome then p.index else slot)

def valuesFrom (b : Binder α) (slot : Nat) : List Placeholder → Except Error (List α)
  | [] => .ok []
  | p :: ps =>
    match b.valueFor slot p with
    | .error e => .error e
    | .ok v => (valuesFrom b (if p.name.isNone then slot + 1 else slot) ps).map (v :: ·)

/-- One value for every placeholder. A sequence that supersedes every name is
the answer as it stands. -/
def resolve (b : Binder α) : Except Error (List α) :=
  match b.aligned? with
  | some values =>
    if b.named.names.all b.superseded.contains then .ok values
    else b.valuesFrom 0 b.template.placeholders
  | none => b.valuesFrom 0 b.template.placeholders

/-! ### Progress -/

/-- A placeholder for which nothing is bound. -/
def isOpen (b : Binder α) (p : Placeholder) : Bool :=
  match p.name with
  | some name => !b.named.has name
  | none => b.positional.isNone

/-- The first placeholder without a value. -/
def firstOpen? (b : Binder α) : Option Placeholder :=
  if b.aligned?.isSome then none else b.template.placeholders.find? b.isOpen

def isResolvable (b : Binder α) : Bool := b.firstOpen?.isNone

/-- Names that have no value, in order of first appearance. -/
def unboundNames (b : Binder α) : List String :=
  if b.aligned?.isSome then [] else b.template.names.filter fun name => !b.named.has name

def progress (b : Binder α) : Progress :=
  if b.named.isEmpty && b.positional.isNone then
    if b.template.placeholders.isEmpty then .resolved else .unbound
  else if b.isResolvable then .resolved else .partly

def shown (b : Binder α) : List Char :=
  b.origin.label.toList ++ "(sql=".toList ++ Quoted.encode b.template.normalized.toList ++
    ", state=".toList ++ Quoted.encode b.progress.label.toList ++ [')']

end Binder

end QueryBinding
