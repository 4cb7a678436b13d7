import Mathlib.Data.List.Forall2
import QueryBinding.Proofs.Cache.Recency

/-! Two caches that differ in size and are used alike. What the smaller one holds is
scattered over the order of the larger one and need not be its end: a `get` moves an entry
that only the larger one still has. The order of the entries that both have is the same,
though, and the smaller cache lacks entries of the larger one only while it is full. -/

namespace QueryBinding

/-! ### Stores -/

namespace Lru

variable {κ α : Type} {l l' : Lru κ α} {key : κ} {value value' : α}

/-- The keys of a store stand in the same order in one with no less room. Keys are missing
only from a store that is full. -/
structure Within (l l' : Lru κ α) : Prop where
  keys_sublist : l.keys.Sublist l'.keys
  size_eq : l.size = min l.capacity l'.size
  capacity_le : l.capacity ≤ l'.capacity
  nodup : l'.keys.Nodup

namespace Within

theorem keys_nodup (h : l.Within l') : l.keys.Nodup := h.nodup.sublist h.keys_sublist

theorem isFull_of_isFull (h : l.Within l') (hl : l'.isFull = true) : l.isFull = true := by
  have hsize := h.size_eq
  have hcapacity := h.capacity_le
  rw [isFull_iff] at *
  omega

/-- A store that lacks a key of the larger one has given it up. -/
theorem isFull_of_not_mem (h : l.Within l') (hk : key ∉ l.keys) (hk' : key ∈ l'.keys) :
    l.isFull = true := by
  by_contra hl
  have hsize := h.size_eq
  rw [isFull_iff] at hl
  -- with room left the stores are of one size and nothing is missing
  have heq : l.keys = l'.keys :=
    h.keys_sublist.eq_of_length (by rw [length_keys, length_keys]; omega)
  exact hk (heq ▸ hk')

theorem kept_sublist_kept (h : l.Within l') : l.kept.Sublist l'.kept := by
  cases hl' : l'.isFull with
  | true =>
    rw [kept, kept, if_pos hl', if_pos (h.isFull_of_isFull hl')]
    exact h.keys_sublist.tail
  | false =>
    have hkept : l'.kept = l'.keys := by rw [kept, hl']; rfl
    rw [hkept]
    exact l.kept_sublist.trans h.keys_sublist

theorem clear (h : l.Within l') : l.clear.Within l'.clear where
  keys_sublist := List.Sublist.refl _
  size_eq := (Nat.min_zero _).symm
  capacity_le := h.capacity_le
  nodup := List.nodup_nil

/-- A key that is new to both stores. -/
theorem insert (h : l.Within l') (hk : key ∉ l'.keys) :
    (l.insert key value).Within (l'.insert key value') where
  keys_sublist := by
    rw [keys_insert, keys_insert]
    exact h.kept_sublist_kept.append_right [key]
  size_eq := by
    have hsize := h.size_eq
    have hfull := h.isFull_of_isFull
    rw [isFull_iff, isFull_iff] at hfull
    change _ = min l.capacity _
    simp only [size_insert, isFull_iff]
    split_ifs <;> omega
  capacity_le := h.capacity_le
  nodup := nodup_insert h.nodup hk value'

variable [DecidableEq κ]

/-- A key that both stores hold. -/
theorem touch (h : l.Within l') (hf : l.find? key = some value)
    (hf' : l'.find? key = some value') : (l.touch key).Within (l'.touch key) where
  keys_sublist := by
    rw [keys_touch h.keys_nodup hf, keys_touch h.nodup hf']
    exact (h.keys_sublist.erase key).append_right [key]
  size_eq := by
    rw [size_touch h.keys_nodup hf, size_touch h.nodup hf', capacity_touch]
    exact h.size_eq
  capacity_le := by
    rw [capacity_touch, capacity_touch]
    exact h.capacity_le
  nodup := nodup_touch h.nodup hf'

section Missing

variable (hk : key ∉ l.keys) (hf' : l'.find? key = some value')
include hk

/-- What is in the smaller store comes before the key that it lacks once that is used. -/
theorem keys_sublist_erase (h : l.Within l') : l.keys.Sublist (l'.keys.erase key) := by
  rw [← List.erase_of_not_mem hk]
  exact h.keys_sublist.erase key

include hf'

/-- A key that only the larger store still holds and only this one moves. -/
theorem touch_right (h : l.Within l') : l.Within (l'.touch key) where
  keys_sublist := by
    rw [keys_touch h.nodup hf']
    exact List.sublist_append_of_sublist_left (h.keys_sublist_erase hk)
  size_eq := by
    rw [size_touch h.nodup hf']
    exact h.size_eq
  capacity_le := by
    rw [capacity_touch]
    exact h.capacity_le
  nodup := nodup_touch h.nodup hf'

/-- A key that only the larger store still holds and that comes back to the smaller one,
which gives up another for it. -/
theorem insert_touch (h : l.Within l') : (l.insert key value).Within (l'.touch key) where
  keys_sublist := by
    rw [keys_insert, keys_touch h.nodup hf']
    exact (l.kept_sublist.trans (h.keys_sublist_erase hk)).append_right [key]
  size_eq := by
    have hfull := h.isFull_of_not_mem hk (find?_isSome_iff.mp (by rw [hf']; rfl))
    rw [size_touch h.nodup hf', size_insert, if_pos hfull]
    exact h.size_eq
  capacity_le := by
    rw [capacity_touch]
    exact h.capacity_le
  nodup := nodup_touch h.nodup hf'

end Missing

end Within

end Lru

/-! ### Counters -/

namespace Stats

variable {s s' : Stats}

/-- The same number of operations, of which no fewer failed, and no fewer evictions. -/
structure Behind (s s' : Stats) : Prop where
  hits_le : s.hits ≤ s'.hits
  misses_le : s'.misses ≤ s.misses
  evictions_le : s'.evictions ≤ s.evictions
  operations_eq : s.operations = s'.operations

namespace Behind

theorem refl (s : Stats) : s.Behind s := ⟨le_rfl, le_rfl, le_rfl, rfl⟩

theorem record (h : s.Behind s') (e : Event) : (s.record e).Behind (s'.record e) := by
  obtain ⟨hh, hm, he, ho⟩ := h
  cases e <;> constructor <;> simp [Stats.record, hit, miss, evict] <;> omega

theorem miss_hit (h : s.Behind s') : (s.record .miss).Behind (s'.record .hit) where
  hits_le := h.hits_le.trans (Nat.le_succ _)
  misses_le := h.misses_le.trans (Nat.le_succ _)
  evictions_le := h.evictions_le
  operations_eq := congrArg (· + 1) h.operations_eq

theorem evict_left (h : s.Behind s') : (s.record .evict).Behind s' :=
  ⟨h.hits_le, h.misses_le, h.evictions_le.trans (Nat.le_succ _), h.operations_eq⟩

end Behind

end Stats

/-! ### Caches -/

namespace TemplateCache

/-- The same use. The serial numbers for new templates may differ. -/
inductive Use.Alike : Use → Use → Prop
  | get (sql : String) : Use.Alike (.get sql) (.get sql)
  | fetch (sql : String) (serial serial' : ℕ) : Use.Alike (.fetch sql serial) (.fetch sql serial')
  | has (sql : String) : Use.Alike (.has sql) (.has sql)
  | size : Use.Alike .size .size
  | clear : Use.Alike .clear .clear

section Counting

variable {c : TemplateCache}

theorem stats_record (h : c.counted = true) (e : Stats.Event) :
    (c.record e).stats = c.stats.record e := by
  rw [record, if_pos h]

theorem stats_hit (h : c.counted = true) (sql : String) :
    (c.hit sql).stats = c.stats.record .hit :=
  stats_record (c := { c with store := c.store.touch sql }) h .hit

theorem stats_insert (h : c.counted = true) (sql : String) (t : Tagged Template) :
    (c.insert sql t).stats = if c.store.isFull then c.stats.record .evict else c.stats := by
  unfold insert
  split_ifs
  · exact stats_record h .evict
  · rfl

end Counting

/-- A cache and one with no less room that was used alike. Both count. -/
structure Within (c d : TemplateCache) : Prop where
  rules_eq : c.rules = d.rules
  counted : c.counted = true
  counted_right : d.counted = true
  sound : d.Sound
  store : c.store.Within d.store
  stats : c.stats.Behind d.stats

namespace Within

variable {c d : TemplateCache}

theorem find?_left (h : c.Within d) {sql : String} (hd : d.store.find? sql = none) :
    c.store.find? sql = none := by
  rw [Lru.find?_eq_none_iff] at *
  exact fun hc => hd (h.store.keys_sublist.subset hc)

theorem miss (h : c.Within d) : (c.record .miss).Within (d.record .miss) where
  rules_eq := by rw [rules_record, rules_record, h.rules_eq]
  counted := (later_record c .miss).counted.trans h.counted
  counted_right := (later_record d .miss).counted.trans h.counted_right
  sound := h.sound.record .miss
  store := by
    rw [store_record, store_record]
    exact h.store
  stats := by
    rw [stats_record h.counted, stats_record h.counted_right]
    exact h.stats.record .miss

/-- A text that comes into both caches. When the larger one evicts, the smaller one does. -/
theorem insert (h : c.Within d) {sql : String} (hd : d.store.find? sql = none)
    (t t' : Tagged Template) :
    (c.insert sql t).store.Within (d.insert sql t').store ∧
      (c.insert sql t).stats.Behind (d.insert sql t').stats := by
  rw [store_insert, store_insert, stats_insert h.counted, stats_insert h.counted_right]
  refine ⟨h.store.insert (Lru.find?_eq_none_iff.mp hd), ?_⟩
  have hfull := h.store.isFull_of_isFull
  split_ifs with hc hd
  · exact h.stats.record .evict
  · exact h.stats.evict_left
  · exact absurd (hfull ‹_›) hc
  · exact h.stats

/-- A text that comes back to the smaller cache and is found in the larger one. -/
theorem insert_hit (h : c.Within d) {sql : String} {t' : Tagged Template}
    (hc : c.store.find? sql = none) (hd : d.store.find? sql = some t') (t : Tagged Template) :
    ((c.record .miss).insert sql t).store.Within (d.hit sql).store ∧
      ((c.record .miss).insert sql t).stats.Behind (d.hit sql).stats := by
  rw [store_insert, store_record, store_hit, stats_insert h.miss.counted,
    stats_record h.counted, stats_hit h.counted_right]
  refine ⟨h.store.insert_touch (Lru.find?_eq_none_iff.mp hc) hd, ?_⟩
  split_ifs
  · exact h.stats.miss_hit.evict_left
  · exact h.stats.miss_hit

theorem hit (h : c.Within d) {sql : String} {t t' : Tagged Template}
    (hc : c.store.find? sql = some t) (hd : d.store.find? sql = some t') :
    (c.hit sql).store.Within (d.hit sql).store ∧ (c.hit sql).stats.Behind (d.hit sql).stats := by
  rw [store_hit, store_hit, stats_hit h.counted, stats_hit h.counted_right]
  exact ⟨h.store.touch hc hd, h.stats.record .hit⟩

theorem get (h : c.Within d) (sql : String) :
    (c.get sql).2.store.Within (d.get sql).2.store ∧
      (c.get sql).2.stats.Behind (d.get sql).2.stats := by
  cases hd : d.store.find? sql with
  | none =>
    rw [get_of_absent hd, get_of_absent (h.find?_left hd)]
    exact ⟨h.miss.store, h.miss.stats⟩
  | some t' =>
    rw [get_of_find? hd]
    cases hc : c.store.find? sql with
    | none =>
      rw [get_of_absent hc, store_record, store_hit, stats_record h.counted,
        stats_hit h.counted_right]
      exact ⟨h.store.touch_right (Lru.find?_eq_none_iff.mp hc) hd, h.stats.miss_hit⟩
    | some t =>
      rw [get_of_find? hc]
      exact h.hit hc hd

/-- What can not be read is held by neither cache. -/
theorem fetch (h : c.Within d) (sql : String) (serial serial' : ℕ) :
    (c.fetch sql serial).2.store.Within (d.fetch sql serial').2.store ∧
      (c.fetch sql serial).2.stats.Behind (d.fetch sql serial').2.stats := by
  cases hd : d.store.find? sql with
  | none =>
    have hc := h.find?_left hd
    cases hp : Template.parse c.rules sql with
    | error e =>
      rw [fetch_of_error hc hp, fetch_of_error hd (h.rules_eq ▸ hp)]
      exact ⟨h.miss.store, h.miss.stats⟩
    | ok parsed =>
      rw [fetch_of_ok hc hp, fetch_of_ok hd (h.rules_eq ▸ hp)]
      exact h.miss.insert (by rwa [store_record]) _ _
  | some t' =>
    rw [fetch_of_find? hd]
    cases hc : c.store.find? sql with
    | none =>
      -- what the larger cache holds was read before by the same rules
      obtain ⟨parsed, hp, -⟩ := h.sound.exists_parse hd
      rw [fetch_of_ok hc (h.rules_eq ▸ hp)]
      exact h.insert_hit hc hd _
    | some t =>
      rw [fetch_of_find? hc]
      exact h.hit hc hd

theorem store_and_stats (h : c.Within d) {u v : Use} (hu : u.Alike v) :
    (c.after u).store.Within (d.after v).store ∧ (c.after u).stats.Behind (d.after v).stats := by
  cases hu with
  | get sql => exact h.get sql
  | fetch sql serial serial' => exact h.fetch sql serial serial'
  | has sql => exact ⟨h.store, h.stats⟩
  | size => exact ⟨h.store, h.stats⟩
  | clear => exact ⟨h.store.clear, Stats.Behind.refl {}⟩

theorem after (h : c.Within d) {u v : Use} (hu : u.Alike v) : (c.after u).Within (d.after v) where
  rules_eq := by rw [(later_after c u).rules, (later_after d v).rules, h.rules_eq]
  counted := (later_after c u).counted.trans h.counted
  counted_right := (later_after d v).counted.trans h.counted_right
  sound := h.sound.after v
  store := (h.store_and_stats hu).1
  stats := (h.store_and_stats hu).2

theorem run (h : c.Within d) {uses uses' : List Use} (hu : List.Forall₂ Use.Alike uses uses') :
    (c.run uses).Within (d.run uses') := by
  induction hu generalizing c d with
  | nil => exact h
  | cons hu _ ih => exact ih (h.after hu)

theorem of_create {m n : ℤ} (hmn : m ≤ n) {rules : Rules}
    (hc : create m rules true = .ok c) (hd : create n rules true = .ok d) : c.Within d := by
  have hsound := (rules_of_create hd).2
  unfold create at hc hd
  split_ifs at hc hd
  cases hc
  cases hd
  exact ⟨rfl, rfl, rfl, hsound,
    ⟨List.Sublist.refl _, (Nat.min_zero _).symm, Int.toNat_le_toNat hmn, List.nodup_nil⟩,
    Stats.Behind.refl {}⟩

end Within

/-! ### Hits -/

/-- The use is counted as a hit. -/
def Hits (c : TemplateCache) (u : Use) : Prop := (c.after u).stats.hits = c.stats.hits + 1

/-- The text that a use looks for and refreshes. -/
def Use.sought : Use → Option String
  | .get sql => some sql
  | .fetch sql _ => some sql
  | .has _ => none
  | .size => none
  | .clear => none

theorem Use.Alike.sought_eq {u v : Use} (h : u.Alike v) : u.sought = v.sought := by
  cases h <;> rfl

section

variable {c : TemplateCache} (h : c.counted = true)
include h

theorem hits_get (sql : String) : c.Hits (.get sql) ↔ sql ∈ c.store.keys := by
  rw [Hits, after, ← Lru.find?_isSome_iff]
  cases hf : c.store.find? sql with
  | some t =>
    rw [get_of_find? hf, stats_hit h]
    exact iff_of_true rfl rfl
  | none =>
    rw [get_of_absent hf, stats_record h]
    exact iff_of_false (Nat.succ_ne_self _).symm Bool.false_ne_true

theorem hits_insert (sql : String) (t : Tagged Template) :
    (c.insert sql t).stats.hits = c.stats.hits := by
  rw [stats_insert h]
  split_ifs <;> rfl

theorem hits_fetch (sql : String) (serial : ℕ) :
    c.Hits (.fetch sql serial) ↔ sql ∈ c.store.keys := by
  rw [Hits, after, ← Lru.find?_isSome_iff]
  obtain ⟨t, hf, heq⟩ | ⟨e, hf, -, heq⟩ | ⟨parsed, hf, -, heq⟩ := fetch_cases c sql serial
  · rw [heq, hf, stats_hit h]
    exact iff_of_true rfl rfl
  · rw [heq, hf, stats_record h]
    exact iff_of_false (Nat.succ_ne_self _).symm Bool.false_ne_true
  · rw [heq, hf, hits_insert ((later_record c .miss).counted.trans h), stats_record h]
    exact iff_of_false (Nat.succ_ne_self _).symm Bool.false_ne_true

/-- A use is a hit if it looks for a text that is held. -/
theorem hits_iff (u : Use) : c.Hits u ↔ ∃ sql ∈ u.sought, sql ∈ c.store.keys := by
  cases u with
  | get sql => simp [Use.sought, hits_get h]
  | fetch sql serial => simp [Use.sought, hits_fetch h]
  | has sql => simp [Use.sought, Hits, after]
  | size => simp [Use.sought, Hits, after]
  | clear => simp [Use.sought, Hits, after, clear]

end

/-! ### Comparison -/

/-- A cache with room for `m` texts against one that does better. -/
structure Outdone (m : ℕ) (c d : TemplateCache) : Prop where
  keys_sublist : c.store.keys.Sublist d.store.keys
  size_eq : c.size = min m d.size
  has_of_has : ∀ sql, c.has sql = true → d.has sql = true
  hits_of_hits : ∀ u v, u.Alike v → c.Hits u → d.Hits v
  hits_le : c.stats.hits ≤ d.stats.hits
  misses_le : d.stats.misses ≤ c.stats.misses
  evictions_le : d.stats.evictions ≤ c.stats.evictions
  operations_eq : c.stats.operations = d.stats.operations

theorem Within.outdone {c d : TemplateCache} (h : c.Within d) : Outdone c.capacity c d where
  keys_sublist := h.store.keys_sublist
  size_eq := h.store.size_eq
  has_of_has sql hc := by
    rw [has, Lru.has, Lru.find?_isSome_iff] at *
    exact h.store.keys_sublist.subset hc
  hits_of_hits u v hu hc := by
    obtain ⟨sql, hsql, hkeys⟩ := (hits_iff h.counted u).mp hc
    exact (hits_iff h.counted_right v).mpr
      ⟨sql, hu.sought_eq ▸ hsql, h.store.keys_sublist.subset hkeys⟩
  hits_le := h.stats.hits_le
  misses_le := h.stats.misses_le
  evictions_le := h.stats.evictions_le
  operations_eq := h.stats.operations_eq

/-- Of two caches that are used alike, the one with more room never does worse, be it by
`get`, which brings nothing in, or by a fetch of what can not be read. -/
theorem larger_no_worse {m n : ℤ} (hm : 0 < m) (hmn : m ≤ n) (rules : Rules) :
    ∃ c d, create m rules true = .ok c ∧ create n rules true = .ok d ∧
      ∀ uses uses', List.Forall₂ Use.Alike uses uses' →
        Outdone m.toNat (c.run uses) (d.run uses') := by
  obtain ⟨c, hc⟩ := exists_create hm rules true
  obtain ⟨d, hd⟩ := exists_create (Int.lt_of_lt_of_le hm hmn) rules true
  refine ⟨c, d, hc, hd, fun uses uses' hu => ?_⟩
  have hcapacity : (c.run uses).capacity = m.toNat :=
    ((Tracks.of_create hc).run uses).capacity_eq
  rw [← hcapacity]
  exact ((Within.of_create hmn hc hd).run hu).outdone

/-- The text that only the larger cache finds again goes behind the one that both have. -/
theorem larger_no_worse_refreshed : (0 : ℤ) < 1 ∧ (1 : ℤ) ≤ 2 ∧ ∃ c d,
    create 1 ⟨true, none⟩ true = .ok c ∧ create 2 ⟨true, none⟩ true = .ok d ∧
      (c.run [.fetch "a" 0, .fetch "b" 1, .get "a", .fetch ":" 2]).store.keys = ["b"] ∧
      (d.run [.fetch "a" 3, .fetch "b" 4, .get "a", .fetch ":" 5]).store.keys = ["b", "a"] ∧
      Outdone 1 (c.run [.fetch "a" 0, .fetch "b" 1, .get "a", .fetch ":" 2])
        (d.run [.fetch "a" 3, .fetch "b" 4, .get "a", .fetch ":" 5]) := by
  obtain ⟨c, d, hc, hd, hrun⟩ := @larger_no_worse 1 2 (by decide) (by decide) ⟨true, none⟩
  refine ⟨by decide, by decide, c, d, hc, hd, ?_, ?_, hrun _ _ ?_⟩
  · cases hc
    rfl
  · cases hd
    rfl
  · exact .cons (.fetch _ _ _) (.cons (.fetch _ _ _) (.cons (.get _) (.cons (.fetch _ _ _) .nil)))

end TemplateCache

end QueryBinding
