import QueryBinding.Entries
import QueryBinding.Proofs.EraseDups

/-! Names and values of maps in which entries have been stored. A name that is present keeps its
place when something is stored under it, a new one comes behind all others, and the last entry of
a name counts. -/

namespace QueryBinding

namespace Entries

variable {α : Type}

theorem get?_put (name other : String) (value : α) (es : Entries α) :
    (es.put name value).get? other = if name = other then some value else es.get? other := by
  by_cases h : name = other
  · rw [if_pos h, h, get?_put_self]
  · rw [if_neg h, get?_put_of_ne (Ne.symm h)]

theorem mem_names_iff {name : String} {es : Entries α} :
    name ∈ es.names ↔ (es.get? name).isSome = true := by
  induction es with
  | nil => simp [names, get?]
  | cons e es ih =>
    rw [names, List.map_cons, List.mem_cons, ← names, ih, get?]
    by_cases h : e.1 = name
    · simp [h]
    · simp [h, Ne.symm h]

theorem names_cons (e : String × α) (es : Entries α) : names (e :: es) = e.1 :: names es := rfl

theorem names_append (es more : Entries α) : names (es ++ more) = names es ++ names more :=
  List.map_append

theorem has_put (es : Entries α) (name other : String) (value : α) :
    (es.put name value).has other = (decide (name = other) || es.has other) := by
  rw [has, get?_put, has]
  by_cases h : name = other <;> simp [h]

/-- A name that is present keeps its place, and a new one comes behind all others. -/
theorem names_put (es : Entries α) (name : String) (value : α) :
    (es.put name value).names = if es.has name then es.names else es.names ++ [name] := by
  induction es with
  | nil => rfl
  | cons e es ih =>
    obtain ⟨k, v⟩ := e
    by_cases hk : k = name
    · simp [put, names, has, get?, hk]
    · have hhas : has name ((k, v) :: es) = has name es := by simp [has, get?, hk]
      rw [put, if_neg hk, hhas, names_cons, ih, names_cons]
      split_ifs <;> rfl

/-- The new names come in the order in which each is there for the first time. -/
theorem names_merge (es new : Entries α) : (es.merge new).names =
    es.names ++ (new.names.filter fun name => !es.has name).eraseDups := by
  induction new generalizing es with
  | nil => exact (List.append_nil _).symm
  | cons e new ih =>
    obtain ⟨name, value⟩ := e
    have hfilter : ((names new).filter fun other => !(es.put name value).has other) =
        ((names new).filter fun other => !es.has other).filter fun other => !other == name := by
      rw [List.filter_filter]
      refine List.filter_congr fun other _ => ?_
      rw [has_put, Bool.not_or, Bool.beq_comm]
      rfl
    show ((es.put name value).merge new).names = _
    rw [ih, hfilter, names_put, names_cons, List.filter_cons]
    cases hhas : es.has name with
    | false => simp [List.eraseDups_cons]
    | true =>
      -- the entries that are filtered out have the name of one that is present
      have hsame : (((names new).filter fun other => !es.has other).filter
          fun other => !other == name) = (names new).filter fun other => !es.has other := by
        refine List.filter_eq_self.mpr fun other hother => ?_
        have habsent := (List.mem_filter.mp hother).2
        rw [Bool.not_eq_true', beq_eq_false_iff_ne]
        rintro rfl
        simp [hhas] at habsent
      rw [hsame]
      rfl

theorem get?_append (es more : Entries α) (name : String) :
    get? name (es ++ more) = (get? name es).or (get? name more) := by
  induction es with
  | nil => rfl
  | cons e es ih =>
    rw [List.cons_append, get?, get?, ih]
    split_ifs <;> rfl

/-- The last entry of a name counts. -/
theorem get?_merge (es new : Entries α) (name : String) :
    (es.merge new).get? name = (get? name new.reverse).or (es.get? name) := by
  induction new generalizing es with
  | nil => rfl
  | cons e new ih =>
    show ((es.put e.1 e.2).merge new).get? name = _
    rw [ih, List.reverse_cons, get?_append, Option.or_assoc, get?_put]
    congr 1
    by_cases h : e.1 = name <;> simp [get?, h]

theorem get?_eq_none_iff {es : Entries α} {name : String} : es.get? name = none ↔
    name ∉ es.names := by
  rw [mem_names_iff, Option.not_isSome_iff_eq_none]

theorem get?_reverse {es : Entries α} (h : es.names.Nodup) (name : String) :
    get? name es.reverse = es.get? name := by
  induction es with
  | nil => rfl
  | cons e es ih =>
    obtain ⟨hnot, hnodup⟩ := List.nodup_cons.mp h
    rw [List.reverse_cons, get?_append, ih hnodup, get?]
    by_cases hname : e.1 = name
    · rw [get?_eq_none_iff.mpr (hname ▸ hnot)]
      simp [get?, hname]
    · simp [get?, hname]

/-! ### No name twice -/

theorem names_merge_of_nodup (es : Entries α) {new : Entries α} (h : new.names.Nodup) :
    (es.merge new).names = es.names ++ new.names.filter fun name => !es.has name := by
  rw [names_merge, eraseDups_of_nodup (h.filter _)]

theorem get?_merge_of_nodup (es : Entries α) {new : Entries α} (h : new.names.Nodup)
    (name : String) : (es.merge new).get? name = (new.get? name).or (es.get? name) := by
  rw [get?_merge, get?_reverse h]

theorem has_eq_false_iff {es : Entries α} {name : String} : es.has name = false ↔
    name ∉ es.names := by
  rw [mem_names_iff, has, Bool.not_eq_true]

theorem nodup_names_put {es : Entries α} (h : es.names.Nodup) (name : String) (value : α) :
    (es.put name value).names.Nodup := by
  rw [names_put]
  split_ifs with hhas
  · exact h
  · rw [Bool.not_eq_true, has_eq_false_iff] at hhas
    exact List.Nodup.append h (List.nodup_singleton name) (List.disjoint_singleton.mpr hhas)

theorem nodup_names_merge {es : Entries α} (h : es.names.Nodup) (new : Entries α) :
    (es.merge new).names.Nodup := by
  induction new generalizing es with
  | nil => exact h
  | cons e new ih => exact ih (nodup_names_put h e.1 e.2)

end Entries

end QueryBinding
