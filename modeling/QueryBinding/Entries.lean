/-! Maps from names to values that keep the order in which the names arrived.
Storing under a name that is present keeps its place. -/

namespace QueryBinding

/-- Names with their values, oldest first. -/
abbrev Entries (α : Type) := List (String × α)

namespace Entries

variable {α : Type}

def put (name : String) (value : α) : Entries α → Entries α
  | [] => [(name, value)]
  | (k, v) :: es => if k = name then (k, value) :: es else (k, v) :: put name value es

def get? (name : String) : Entries α → Option α
  | [] => none
  | (k, v) :: es => if k = name then some v else get? name es

def has (name : String) (es : Entries α) : Bool := (get? name es).isSome

def erase (name : String) (es : Entries α) : Entries α := es.filter fun e => e.1 ≠ name

def names (es : Entries α) : List String := es.map Prod.fst

/-- Stores further entries one after the other. -/
def merge (es new : Entries α) : Entries α := new.foldl (fun acc e => acc.put e.1 e.2) es

/-- Later pairs replace earlier ones of the same name. -/
def ofPairs (pairs : List (String × α)) : Entries α := merge [] pairs

@[simp] theorem get?_put_self (name : String) (value : α) (es : Entries α) :
    (es.put name value).get? name = some value := by
  induction es with
  | nil => simp [put, get?]
  | cons e es ih =>
    by_cases h : e.1 = name
    · simp [put, get?, h]
    · simp [put, get?, h, ih]

theorem get?_put_of_ne {name other : String} (h : other ≠ name) (value : α) (es : Entries α) :
    (es.put name value).get? other = es.get? other := by
  induction es with
  | nil => simp [put, get?, h.symm]
  | cons e es ih =>
    by_cases hk : e.1 = name
    · simp [put, get?, hk, h.symm]
    · simp [put, get?, hk, ih]

end Entries

end QueryBinding
