import Mathlib.Data.List.DropRight
import Mathlib.Data.List.Nodup
import Mathlib.Tactic.Common
import QueryBinding.Cache.Lru

/-! A bounded store beside the list of all keys in the order of their last use. The
store holds the last keys of that list, as many as it has room for: use of a key that is
held and the arrival of one that is not both put the key behind all others, and nothing
else has to be known of the keys that are gone. While a key is held, its value does not
change. -/

namespace QueryBinding

namespace Lru

/-! ### The last keys of a list -/

section Keys

variable {κ : Type} {n : ℕ} {before window : List κ}

theorem rtake_append (hw : window.length ≤ n) (h : before = [] ∨ window.length = n) :
    (before ++ window).rtake n = window := by
  rw [List.rtake, List.length_append]
  rcases h with rfl | rfl
  · rw [List.length_nil, Nat.zero_add, Nat.sub_eq_zero_of_le hw]
    rfl
  · rw [Nat.add_sub_cancel, List.drop_left]

/-- A window that is not full is the whole list. -/
theorem exists_append_rtake (keys : List κ) (n : ℕ) : ∃ before,
    keys = before ++ keys.rtake n ∧ (before = [] ∨ (keys.rtake n).length = n) := by
  refine ⟨keys.rdrop n, (List.take_append_drop _ keys).symm, ?_⟩
  rcases Nat.le_total keys.length n with h | h
  · exact Or.inl (by rw [List.rdrop, Nat.sub_eq_zero_of_le h, List.take_zero])
  · exact Or.inr (by rw [List.rtake, List.length_drop]; omega)

theorem length_rtake (keys : List κ) (n : ℕ) : (keys.rtake n).length = min n keys.length := by
  rw [List.rtake, List.length_drop]
  omega

variable [DecidableEq κ]

/-- The keys in the order of their last use after one more use. -/
def used (keys : List κ) (key : κ) : List κ := keys.erase key ++ [key]

theorem nodup_used {keys : List κ} (h : keys.Nodup) (key : κ) : (used keys key).Nodup := by
  rw [used, List.nodup_append]
  refine ⟨h.erase key, List.nodup_singleton key, fun a ha b hb => ?_⟩
  rw [List.mem_singleton.mp hb]
  exact (h.mem_erase_iff.mp ha).1

/-- Use of a key in the window moves it to the end. -/
theorem rtake_used_of_mem {keys : List κ} (hn : keys.Nodup) {key : κ} (h : key ∈ keys.rtake n) :
    (used keys key).rtake n = (keys.rtake n).erase key ++ [key] := by
  obtain ⟨before, heq, hfull⟩ := exists_append_rtake keys n
  have hlen := length_rtake keys n
  have hpos := List.length_pos_of_mem h
  obtain ⟨m, rfl⟩ : ∃ m, n = m + 1 := ⟨n - 1, by omega⟩
  generalize keys.rtake (m + 1) = window at *
  subst heq
  -- no key is listed twice, so the one that goes is the one in the window
  have hbefore : key ∉ before := fun hb => (List.disjoint_of_nodup_append hn) hb h
  have hshort := List.length_erase_of_mem h
  rw [used, List.rtake_concat_succ, List.erase_append_right _ hbefore, rtake_append]
  · omega
  · exact hfull.imp_right fun hf => by omega

/-- Use of another key moves the window on if it is full. -/
theorem rtake_used_of_not_mem {keys : List κ} (hpos : 0 < n) {key : κ}
    (h : key ∉ keys.rtake n) : (used keys key).rtake n =
      (if n ≤ (keys.rtake n).length then (keys.rtake n).tail else keys.rtake n) ++ [key] := by
  obtain ⟨before, heq, hfull⟩ := exists_append_rtake keys n
  have hlen := length_rtake keys n
  obtain ⟨m, rfl⟩ : ∃ m, n = m + 1 := ⟨n - 1, by omega⟩
  generalize keys.rtake (m + 1) = window at *
  subst heq
  -- an earlier use of the key lies before the window, which does not see it go
  have herase : (before ++ window).erase key = before.erase key ++ window := by
    by_cases hb : key ∈ before
    · exact List.erase_append_left _ hb
    · rw [List.erase_append_right _ hb, List.erase_of_not_mem h, List.erase_of_not_mem hb]
  rw [used, List.rtake_concat_succ, herase]
  split_ifs with hle
  · cases window with
    | nil => cases hle
    | cons first rest =>
      rw [List.length_cons] at hle hlen
      have hrest : rest.length = m := by omega
      rw [List.append_cons _ first, List.tail_cons, rtake_append hrest.le (Or.inr hrest)]
  · obtain rfl := hfull.resolve_right (by omega)
    exact congrArg (· ++ [key]) (rtake_append (by omega) (Or.inl rfl))

end Keys

/-! ### Entries of a store -/

section Entries

variable {κ α : Type} {l : Lru κ α} {key : κ} {value : α}

theorem mem_of_mem_insert {e : κ × α} (h : e ∈ (l.insert key value).entries) :
    e ∈ l.entries ∨ e = (key, value) := by
  rcases List.mem_append.mp h with h | h
  · split_ifs at h
    · exact Or.inl (List.mem_of_mem_tail h)
    · exact Or.inl h
  · exact Or.inr (List.mem_singleton.mp h)

/-- The keys, the next one to go first. -/
def keys (l : Lru κ α) : List κ := l.entries.map Prod.fst

theorem length_keys (l : Lru κ α) : l.keys.length = l.size := List.length_map _

theorem isFull_iff (l : Lru κ α) : l.isFull = true ↔ l.capacity ≤ l.size := decide_eq_true_iff

/-- The keys that stay when room is made for one more. -/
def kept (l : Lru κ α) : List κ := if l.isFull then l.keys.tail else l.keys

theorem kept_sublist (l : Lru κ α) : l.kept.Sublist l.keys := by
  unfold kept
  split_ifs
  · exact List.tail_sublist _
  · exact List.Sublist.refl _

theorem keys_insert (l : Lru κ α) (key : κ) (value : α) :
    (l.insert key value).keys = l.kept ++ [key] := by
  rw [keys, insert, List.map_append, kept, keys, ← List.map_tail]
  split_ifs <;> rfl

theorem nodup_insert (hn : l.keys.Nodup) (hk : key ∉ l.keys) (value : α) :
    (l.insert key value).keys.Nodup := by
  rw [keys_insert, ← List.concat_eq_append]
  exact (hn.sublist l.kept_sublist).concat fun h => hk (l.kept_sublist.subset h)

theorem size_insert (l : Lru κ α) (key : κ) (value : α) :
    (l.insert key value).size = if l.isFull then l.size else l.size + 1 := by
  have hpos := l.capacity_pos
  rw [← length_keys, keys_insert, List.length_append, List.length_singleton, kept]
  split_ifs with h
  · rw [isFull_iff] at h
    rw [List.length_tail, length_keys]
    omega
  · rw [length_keys]

variable [DecidableEq κ]

theorem mem_of_find? (h : l.find? key = some value) : (key, value) ∈ l.entries := by
  obtain ⟨before, after, heq, -⟩ := List.lookup_eq_some_iff.mp h
  rw [heq]
  exact List.mem_append_right _ List.mem_cons_self

theorem find?_eq_none_iff : l.find? key = none ↔ key ∉ l.keys := by
  simp only [find?, List.lookup_eq_none_iff, keys, List.mem_map, bne_iff_ne, not_exists, not_and]
  exact forall₂_congr fun e _ => ne_comm

theorem find?_isSome_iff : (l.find? key).isSome = true ↔ key ∈ l.keys := by
  rw [← not_iff_not, ← find?_eq_none_iff, Option.not_isSome_iff_eq_none]

/-- Keys that occur once have one value. -/
theorem find?_eq_some_of_mem (hn : l.keys.Nodup) (h : (key, value) ∈ l.entries) :
    l.find? key = some value := by
  obtain ⟨v, hv⟩ := Option.isSome_iff_exists.mp
    (find?_isSome_iff.mpr (List.mem_map_of_mem (f := Prod.fst) h))
  rw [hv, (Prod.mk.inj (List.inj_on_of_nodup_map hn (mem_of_find? hv) h rfl)).2]

/-- A key that is held before and behind has the value that it had, if no other was
brought in for it. -/
theorem find?_eq_of_subset {l' : Lru κ α} (hn : l.keys.Nodup) (hk : key ∈ l'.keys)
    (h : ∀ v, (key, v) ∈ l'.entries → (key, v) ∈ l.entries) : l'.find? key = l.find? key := by
  obtain ⟨v, hv⟩ := Option.isSome_iff_exists.mp (find?_isSome_iff.mpr hk)
  rw [hv, find?_eq_some_of_mem hn (h v (mem_of_find? hv))]

theorem touch_of_find? (h : l.find? key = some value) : l.touch key =
    { l with entries := l.entries.filter (fun e => e.1 ≠ key) ++ [(key, value)] } := by
  rw [touch, h]

/-- Use of an entry brings in no other. -/
theorem mem_of_mem_touch {e : κ × α} (h : e ∈ (l.touch key).entries) : e ∈ l.entries := by
  unfold touch at h
  cases hf : l.find? key with
  | none =>
    rw [hf] at h
    exact h
  | some value =>
    rw [hf] at h
    rcases List.mem_append.mp h with h | h
    · exact (List.mem_filter.mp h).1
    · rw [List.mem_singleton.mp h]
      exact mem_of_find? hf

theorem keys_touch (hn : l.keys.Nodup) (h : l.find? key = some value) :
    (l.touch key).keys = l.keys.erase key ++ [key] := by
  rw [touch_of_find? h, hn.erase_eq_filter, keys, keys, List.map_append, List.filter_map]
  have hsame : ∀ e ∈ l.entries, decide (e.1 ≠ key) = ((· != key) ∘ Prod.fst) e := by
    intro e _
    by_cases he : e.1 = key <;> simp [he]
  rw [List.filter_congr hsame]
  rfl

theorem capacity_touch (l : Lru κ α) (key : κ) : (l.touch key).capacity = l.capacity := by
  unfold touch
  cases l.find? key <;> rfl

theorem nodup_touch (hn : l.keys.Nodup) (h : l.find? key = some value) :
    (l.touch key).keys.Nodup := by
  rw [keys_touch hn h]
  exact nodup_used hn key

theorem size_touch (hn : l.keys.Nodup) (h : l.find? key = some value) :
    (l.touch key).size = l.size := by
  have hk : key ∈ l.keys := find?_isSome_iff.mp (by rw [h]; rfl)
  rw [← length_keys, keys_touch hn h, List.length_append, List.length_singleton,
    List.length_erase_add_one hk, length_keys]

end Entries

/-! ### The window of a store -/

variable {κ α : Type} {l : Lru κ α} {keys : List κ} {key : κ}

/-- The store holds the last of the keys that were used, none of which is listed twice. -/
structure Follows (l : Lru κ α) (used : List κ) : Prop where
  keys_eq : l.keys = used.rtake l.capacity
  nodup : used.Nodup

namespace Follows

theorem keys_nodup (h : l.Follows keys) : l.keys.Nodup := by
  rw [h.keys_eq]
  exact h.nodup.sublist (List.drop_sublist _ _)

theorem clear (l : Lru κ α) : l.clear.Follows [] := ⟨(List.rtake_nil _).symm, List.nodup_nil⟩

variable [DecidableEq κ]

theorem touch (h : l.Follows keys) {value : α} (hf : l.find? key = some value) :
    (l.touch key).Follows (used keys key) := by
  have hmem : key ∈ keys.rtake l.capacity := by
    rw [← h.keys_eq, ← find?_isSome_iff, hf]
    rfl
  refine ⟨?_, nodup_used h.nodup key⟩
  rw [keys_touch h.keys_nodup hf, capacity_touch, rtake_used_of_mem h.nodup hmem, h.keys_eq]

theorem insert (h : l.Follows keys) (hf : l.find? key = none) (value : α) :
    (l.insert key value).Follows (used keys key) := by
  have hmem : key ∉ keys.rtake l.capacity := by
    rw [← h.keys_eq]
    exact find?_eq_none_iff.mp hf
  have hfull : l.isFull = true ↔ l.capacity ≤ (keys.rtake l.capacity).length := by
    rw [isFull_iff, ← h.keys_eq, length_keys]
  refine ⟨?_, nodup_used h.nodup key⟩
  rw [keys_insert, kept, Lru.insert, rtake_used_of_not_mem l.capacity_pos hmem, h.keys_eq,
    if_congr hfull rfl rfl]

end Follows

end Lru

end QueryBinding
