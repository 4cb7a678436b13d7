import Mathlib.Data.List.Forall2
import Mathlib.Tactic.Common
import QueryBinding.Binder

/-! What binders were told. A history lists the values that were bound to names
and the sequences that were accepted, in the order of the calls. The values of the
placeholders are told from it alone: the last sequence and what was bound after
it if there is a value for every placeholder, and otherwise the last sequence and
the last value of each name. -/

namespace QueryBinding

variable {α : Type}

/-- One thing that a binder was told. -/
inductive Event (α : Type) where
  | named (name : String) (value : α)
  | sequence (values : List α)

namespace Event

def value? (name : String) : Event α → Option α
  | named n value => if n = name then some value else none
  | sequence _ => none

def sequence? : Event α → Option (List α)
  | named _ _ => none
  | sequence values => some values

end Event

/-- Everything that a binder was told, the oldest first. -/
abbrev History (α : Type) := List (Event α)

namespace History

def tell (h : History α) (e : Event α) : History α := h ++ [e]

def ofEntries (entries : Entries α) : History α := entries.map fun e => .named e.1 e.2

/-- The last value bound to a name. -/
def value? (h : History α) (name : String) : Option α := h.reverse.findSome? (Event.value? name)

/-- The last sequence. -/
def last? (h : History α) : Option (List α) := h.reverse.findSome? Event.sequence?

/-- What was bound after the last sequence. -/
def since (h : History α) : History α := (h.reverse.takeWhile (·.sequence?.isNone)).reverse

/-- The last sequence, if it has a value for every placeholder. -/
def aligned? (t : Template) (h : History α) : Option (List α) :=
  h.last?.filter fun values => values.length = t.count

/-- How many positional placeholders lie before the one of rank `i`. -/
def slot (t : Template) (i : Nat) : Nat := (t.placeholders.take i).countP fun p => p.name.isNone

/-- The value of the placeholder of rank `i`, which may have a name. -/
def valueAt? (t : Template) (h : History α) (i : Nat) (name : Option String) : Option α :=
  match h.aligned? t with
  | some values => (name.bind h.since.value?).or values[i]?
  | none =>
    match name with
    | some name => h.value? name
    | none => h.last?.bind fun values => values[slot t i]?

/-- The failure of a placeholder without a value. -/
def missing (t : Template) (i : Nat) : Option String → Error
  | some name => .unbound name i t.source
  | none => .noValues t.positionalCount i t.source

def outcomeAt (t : Template) (h : History α) (p : Placeholder × Nat) : Except Error α :=
  match h.valueAt? t p.2 p.1.name with
  | some v => .ok v
  | none => .error (missing t p.2 p.1.name)

/-- A value for every placeholder, or the failure of the first that has none. -/
def resolve (t : Template) (h : History α) : Except Error (List α) :=
  t.placeholders.zipIdx.mapM (h.outcomeAt t)

/-! ### The two layouts -/

section Layout

variable {t : Template} {h : History α} {values : List α}

theorem aligned?_eq_some_iff :
    h.aligned? t = some values ↔ h.last? = some values ∧ values.length = t.count := by
  simp [aligned?, Option.filter_eq_some_iff]

theorem aligned?_eq_none_iff :
    h.aligned? t = none ↔ ∀ values, h.last? = some values → values.length ≠ t.count := by
  simp [aligned?, Option.filter_eq_none_iff]

theorem valueAt?_aligned (ha : h.aligned? t = some values) (i : Nat) (name : Option String) :
    h.valueAt? t i name = (name.bind h.since.value?).or values[i]? := by
  simp only [valueAt?, ha]

theorem valueAt?_named (ha : h.aligned? t = none) (i : Nat) (name : String) :
    h.valueAt? t i (some name) = h.value? name := by
  simp only [valueAt?, ha]

theorem valueAt?_positional (ha : h.aligned? t = none) (i : Nat) :
    h.valueAt? t i none = h.last?.bind fun values => values[slot t i]? := by
  simp only [valueAt?, ha]

theorem mapM_eq_ok {β γ ε : Type} {f : β → Except ε γ} {xs : List β} {ys : List γ}
    (h : List.Forall₂ (fun x y => f x = .ok y) xs ys) : xs.mapM f = .ok ys := by
  induction h with
  | nil => rfl
  | cons hx _ ih =>
    rw [List.mapM_cons, hx, ih]
    rfl

/-- With a value for every placeholder a history resolves. -/
theorem resolve_aligned (ha : h.aligned? t = some values) : ∃ vs, h.resolve t = .ok vs ∧
    vs.length = t.count ∧ ∀ (i : Nat) (p : Placeholder), t.placeholders[i]? = some p →
      vs[i]? = (p.name.bind h.since.value?).or values[i]? := by
  have hlength := (aligned?_eq_some_iff.mp ha).2
  rw [Template.count] at hlength
  refine ⟨List.zipWith (fun p v => (p.name.bind h.since.value?).getD v) t.placeholders values,
    ?_, by simp [hlength, Template.count], fun i p hp => ?_⟩
  · apply mapM_eq_ok
    rw [List.forall₂_iff_get]
    refine ⟨by simp [hlength], fun i hi hv => ?_⟩
    have hv' : i < values.length := by
      rw [List.length_zipWith] at hv
      omega
    simp only [List.get_eq_getElem, List.getElem_zipIdx, List.getElem_zipWith, outcomeAt,
      valueAt?_aligned ha, Nat.zero_add, List.getElem?_eq_getElem hv']
    cases t.placeholders[i].name.bind h.since.value? <;> rfl
  · have hi : i < values.length := hlength ▸ (List.getElem?_eq_some_iff.mp hp).1
    rw [List.getElem?_zipWith, hp, List.getElem?_eq_getElem hi]
    show some ((p.name.bind h.since.value?).getD values[i]) = _
    cases p.name.bind h.since.value? <;> rfl

end Layout

/-! ### One event more -/

variable (h : History α) (name : String)

theorem last?_named (value : α) : (h.tell (.named name value)).last? = h.last? := by
  simp [tell, last?, List.findSome?_cons, Event.sequence?]

theorem last?_sequence (values : List α) : (h.tell (.sequence values)).last? = some values := by
  simp [tell, last?, List.findSome?_cons, Event.sequence?]

theorem value?_named (n : String) (value : α) :
    (h.tell (.named n value)).value? name = if n = name then some value else h.value? name := by
  by_cases hn : n = name <;> simp [tell, value?, Event.value?, hn]

theorem value?_sequence (values : List α) :
    (h.tell (.sequence values)).value? name = h.value? name := by
  simp [tell, value?, List.findSome?_cons, Event.value?]

theorem since_named (value : α) :
    (h.tell (.named name value)).since = h.since.tell (.named name value) := by
  simp [tell, since, Event.sequence?]

theorem since_sequence (values : List α) : (h.tell (.sequence values)).since = [] := by
  simp [tell, since, Event.sequence?]

theorem aligned?_named (t : Template) (value : α) :
    (h.tell (.named name value)).aligned? t = h.aligned? t := by
  rw [aligned?, last?_named, aligned?]

theorem aligned?_sequence (t : Template) (values : List α) :
    (h.tell (.sequence values)).aligned? t =
      if values.length = t.count then some values else none := by
  rw [aligned?, last?_sequence, Option.filter_some]
  simp

/-- A value bound after the last sequence is the last of its name. -/
theorem value?_of_since {v : α} (hv : h.since.value? name = some v) : h.value? name = some v := by
  rw [value?, since, List.reverse_reverse] at hv
  rw [value?, ← List.takeWhile_append_dropWhile (p := (·.sequence?.isNone)) (l := h.reverse),
    List.findSome?_append, hv]
  rfl

end History

/-! ### Sessions -/

/-- A call on the binders of one template, which are known by their numbers. -/
inductive Call (α : Type) where
  | create (origin : Origin)
  | copy (b : Nat)
  | set (b : Nat) (name : String) (value : α)
  | all (b : Nat) (map : Option (Entries α)) (beside : Entries α)
  | positional (b : Nat) (values : List α)

namespace Call

/-- The binder that a call changes. -/
def target? : Call α → Option Nat
  | create _ => none
  | copy _ => none
  | set b _ _ => some b
  | all b _ _ => some b
  | positional b _ => some b

def step (t : Template) (bs : List (Binder α)) : Call α → Except Error (List (Binder α))
  | create origin => .ok (bs ++ [Binder.empty origin t])
  | copy b => .ok (bs ++ bs[b]?.toList)
  | set b name value => .ok (bs.modify b (·.bindNamed name value))
  | all b map beside => .ok (bs.modify b (·.bindAll map beside))
  | positional b values =>
    match bs[b]? with
    | none => .ok bs
    | some binder => (binder.bindPositional values).map (bs.set b)

/-- A refused call changes nothing. -/
def next (t : Template) (bs : List (Binder α)) (c : Call α) : List (Binder α) :=
  match c.step t bs with
  | .ok bs' => bs'
  | .error _ => bs

/-- The binders after a series of calls, in the order in which they were made. -/
def run (t : Template) (calls : List (Call α)) : List (Binder α) := calls.foldl (next t) []

/-- What a call adds to the histories. A sequence is told only if its length is
one of the two that a template allows. -/
def record (t : Template) (hs : List (History α)) : Call α → List (History α)
  | create _ => hs ++ [[]]
  | copy b => hs ++ hs[b]?.toList
  | set b name value => hs.modify b (·.tell (.named name value))
  | all b map beside =>
    hs.modify b (· ++ History.ofEntries (map.getD []) ++ History.ofEntries beside)
  | positional b values =>
    if values.length = t.count ∨ values.length = t.positionalCount then
      hs.modify b (·.tell (.sequence values))
    else hs

def histories (t : Template) (calls : List (Call α)) : List (History α) :=
  calls.foldl (record t) []

end Call

end QueryBinding
