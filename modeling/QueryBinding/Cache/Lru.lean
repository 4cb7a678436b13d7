/-! Stores of bounded size that give up the entry unused for longest. The
entries stand in the order of their last use, so the first is the next to
go. -/

namespace QueryBinding

structure Lru (κ α : Type) where
  capacity : Nat
  capacity_pos : 0 < capacity
  entries : List (κ × α)

namespace Lru

variable {κ α : Type} [DecidableEq κ]

def empty (capacity : Nat) (h : 0 < capacity) : Lru κ α := ⟨capacity, h, []⟩

def size (l : Lru κ α) : Nat := l.entries.length

def find? (l : Lru κ α) (key : κ) : Option α := l.entries.lookup key

def has (l : Lru κ α) (key : κ) : Bool := (l.find? key).isSome

/-- Makes an entry the last used one. -/
def touch (l : Lru κ α) (key : κ) : Lru κ α :=
  match l.find? key with
  | some value => { l with entries := l.entries.filter (fun e => e.1 ≠ key) ++ [(key, value)] }
  | none => l

def isFull (l : Lru κ α) : Bool := l.capacity ≤ l.size

/-- Adds an entry that is not present, after making room. -/
def insert (l : Lru κ α) (key : κ) (value : α) : Lru κ α :=
  { l with entries := (if l.isFull then l.entries.tail else l.entries) ++ [(key, value)] }

def clear (l : Lru κ α) : Lru κ α := { l with entries := [] }

theorem find?_insert_self (l : Lru κ α) {key : κ} (value : α) (h : l.find? key = none) :
    (l.insert key value).find? key = some value := by
  have hn : ∀ es : List (κ × α), es.lookup key = none →
      (es ++ [(key, value)]).lookup key = some value := by
    intro es hes
    induction es with
    | nil => simp
    | cons e es ih =>
      obtain ⟨k, v⟩ := e
      rw [List.cons_append, List.lookup_cons] at *
      split at hes
      · cases hes
      · exact ih hes
  have ht : l.entries.tail.lookup key = none := by
    have : l.entries.lookup key = none := h
    cases hl : l.entries with
    | nil => rfl
    | cons e es =>
      obtain ⟨k, v⟩ := e
      rw [hl, List.lookup_cons] at this
      split at this
      · cases this
      · exact this
  unfold insert find?
  split
  · exact hn _ ht
  · exact hn _ h

end Lru

end QueryBinding
