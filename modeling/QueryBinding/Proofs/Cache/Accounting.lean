import QueryBinding.Proofs.Cache.Capacity

/-! The counters of a cache. Since it was new or last cleared, every look for a text was a
hit or a miss, and every text that came in is still held or was evicted, which happens
only to a full cache. A fetch that fails leaves nothing but a miss. A cache that does not
count does all else in the same way. -/

namespace QueryBinding

namespace TemplateCache

/-! ### Visits -/

/-- A use and the state that it meets. -/
structure Visit where
  met : TemplateCache
  use : Use

namespace Visit

/-- A text is looked for. -/
def looks (v : Visit) : Bool := v.use.sought.isSome

/-- A text is looked for and is held. -/
def finds (v : Visit) : Bool := v.use.sought.any v.met.has

def misses (v : Visit) : Bool := v.use.sought.any fun sql => !v.met.has sql

/-- A text is fetched that is not held and can be read. -/
def brings : Visit → Bool
  | ⟨c, .fetch sql _⟩ => !c.has sql && (Template.parse c.rules sql).isOk
  | _ => false

def clears : Visit → Bool
  | ⟨_, .clear⟩ => true
  | _ => false

/-- The template that comes back. -/
def answer : Visit → Option (Tagged Template)
  | ⟨c, .get sql⟩ => (c.get sql).1
  | ⟨c, .fetch sql serial⟩ => (c.fetch sql serial).1.toOption.map (·.template)
  | _ => none

end Visit

def visits (c : TemplateCache) : List Use → List Visit
  | [] => []
  | u :: us => ⟨c, u⟩ :: (c.after u).visits us

/-- The visits behind the last one that clears. -/
def sinceClear (vs : List Visit) : List Visit :=
  (vs.reverse.takeWhile fun v => !v.clears).reverse

theorem visits_append (c : TemplateCache) (uses : List Use) (u : Use) :
    c.visits (uses ++ [u]) = c.visits uses ++ [⟨c.run uses, u⟩] := by
  induction uses generalizing c with
  | nil => rfl
  | cons u' uses ih => exact congrArg (_ :: ·) (ih (c.after u'))

theorem sinceClear_append (vs : List Visit) (v : Visit) :
    sinceClear (vs ++ [v]) = if v.clears then [] else sinceClear vs ++ [v] := by
  cases hv : v.clears <;> simp [sinceClear, hv]

namespace Visit

variable {c : TemplateCache} {u : Use} {sql : String}

theorem looks_of_sought (hu : u.sought = some sql) : looks ⟨c, u⟩ = true := by
  rw [looks, hu]
  rfl

theorem finds_of_sought (hu : u.sought = some sql) : finds ⟨c, u⟩ = c.has sql := by
  rw [finds, hu]
  rfl

theorem misses_of_sought (hu : u.sought = some sql) : misses ⟨c, u⟩ = !c.has sql := by
  rw [misses, hu]
  rfl

/-- Nothing comes in for a text that is held. -/
theorem brings_of_has (hu : u.sought = some sql) (h : c.has sql = true) :
    brings ⟨c, u⟩ = false := by
  cases u with
  | fetch sql' serial =>
    cases hu
    simp [brings, h]
  | _ => rfl

/-- What comes in was missed. -/
theorem misses_of_brings {v : Visit} (h : v.brings = true) : v.misses = true := by
  obtain ⟨c, u⟩ := v
  cases u with
  | fetch sql serial =>
    rw [brings, Bool.and_eq_true] at h
    exact h.1
  | _ => cases h

/-- A look is a hit or a miss. -/
theorem countP_finds_add_misses (vs : List Visit) :
    vs.countP finds + vs.countP misses = vs.countP looks := by
  induction vs with
  | nil => rfl
  | cons v vs ih =>
    rw [List.countP_cons, List.countP_cons, List.countP_cons, ← ih]
    cases hu : v.use.sought with
    | none => simp [looks, finds, misses, hu]
    | some sql =>
      rw [looks_of_sought hu, finds_of_sought hu, misses_of_sought hu]
      cases v.met.has sql with
      | false => exact Nat.add_assoc _ _ 1
      | true => exact Nat.add_right_comm _ 1 _

end Visit

theorem has_of_find? {c : TemplateCache} {sql : String} {t : Tagged Template}
    (h : c.store.find? sql = some t) : c.has sql = true := by
  rw [has, Lru.has, h]
  rfl

theorem has_of_absent {c : TemplateCache} {sql : String} (h : c.store.find? sql = none) :
    c.has sql = false := by
  rw [has, Lru.has, h]
  rfl

/-- A text is found when the answer is a template that was held for it. -/
theorem Visit.finds_iff (v : Visit) : v.finds = true ↔ ∃ sql t, v.use.sought = some sql ∧
    v.answer = some t ∧ (sql, t) ∈ v.met.store.entries := by
  obtain ⟨c, u⟩ := v
  have hlook : ∀ sql, u.sought = some sql → ((Visit.mk c u).finds = true ↔
      ∃ t, (Visit.mk c u).answer = some t ∧ (sql, t) ∈ c.store.entries) := by
    intro sql hu
    rw [finds_of_sought hu]
    cases hf : c.store.find? sql with
    | some t =>
      have hanswer : (Visit.mk c u).answer = some t := by
        cases u with
        | get sql' =>
          cases hu
          rw [answer, get_of_find? hf]
        | fetch sql' serial =>
          cases hu
          rw [answer, fetch_of_find? hf]
          rfl
        | _ => cases hu
      exact iff_of_true (has_of_find? hf) ⟨t, hanswer, Lru.mem_of_find? hf⟩
    | none =>
      refine iff_of_false (by rw [has_of_absent hf]; decide) ?_
      rintro ⟨t, -, ht⟩
      exact Lru.find?_eq_none_iff.mp hf (List.mem_map_of_mem (f := Prod.fst) ht)
  cases hu : u.sought with
  | none => simp [finds, hu]
  | some sql =>
    rw [hlook sql hu]
    simp

/-! ### Accounts -/

/-- Counters that tell of the visits, evictions apart. -/
structure Tallied (vs : List Visit) (s : Stats) : Prop where
  hits_eq : s.hits = vs.countP Visit.finds
  misses_eq : s.misses = vs.countP Visit.misses
  operations_eq : s.operations = vs.countP Visit.looks

namespace Tallied

variable {vs : List Visit} {s : Stats} {c : TemplateCache} {u : Use} {sql : String}

theorem hit (h : Tallied vs s) (hu : u.sought = some sql) (hc : c.has sql = true) :
    Tallied (vs ++ [⟨c, u⟩]) s.hit := by
  constructor <;> simp only [List.countP_append, List.countP_singleton, hc,
    Visit.finds_of_sought hu, Visit.misses_of_sought hu, Visit.looks_of_sought hu]
  · exact congrArg (· + 1) h.hits_eq
  · exact h.misses_eq
  · exact congrArg (· + 1) h.operations_eq

theorem miss (h : Tallied vs s) (hu : u.sought = some sql) (hc : c.has sql = false) :
    Tallied (vs ++ [⟨c, u⟩]) s.miss := by
  constructor <;> simp only [List.countP_append, List.countP_singleton, hc,
    Visit.finds_of_sought hu, Visit.misses_of_sought hu, Visit.looks_of_sought hu]
  · exact h.hits_eq
  · exact congrArg (· + 1) h.misses_eq
  · exact congrArg (· + 1) h.operations_eq

theorem evict (h : Tallied vs s) : Tallied vs s.evict :=
  ⟨h.hits_eq, h.misses_eq, h.operations_eq⟩

/-- A use that looks for nothing. -/
theorem idle (h : Tallied vs s) (hu : u.sought = none) : Tallied (vs ++ [⟨c, u⟩]) s := by
  constructor <;> simp only [List.countP_append, List.countP_singleton, Visit.finds,
    Visit.misses, Visit.looks, hu]
  · exact h.hits_eq
  · exact h.misses_eq
  · exact h.operations_eq

end Tallied

/-- A cache with room for `n` texts whose counters tell of the visits. -/
structure Accounts (n : ℕ) (vs : List Visit) (c : TemplateCache) : Prop
    extends Tallied vs c.stats where
  /-- What came in is still held or was evicted. -/
  brought_eq : c.stats.evictions + c.size = vs.countP Visit.brings
  full : 0 < c.stats.evictions → c.size = n

theorem counted_of_create {c : TemplateCache} {size : ℤ} {rules : Rules} {counted : Bool}
    (h : create size rules counted = .ok c) : c.counted = counted := by
  unfold create at h
  split_ifs at h
  cases h
  rfl

theorem later_run (c : TemplateCache) (uses : List Use) : c.Later (c.run uses) := by
  induction uses generalizing c with
  | nil => exact .refl c
  | cons u uses ih => exact (later_after c u).trans (ih (c.after u))

theorem run_append (c : TemplateCache) (uses : List Use) (u : Use) :
    c.run (uses ++ [u]) = (c.run uses).after u := by
  rw [run, List.foldl_append]
  rfl

theorem size_record (c : TemplateCache) (e : Stats.Event) : (c.record e).size = c.size := by
  rw [size, store_record, size]

theorem size_hit {c : TemplateCache} {sql : String} {t : Tagged Template}
    (hn : c.store.keys.Nodup) (hf : c.store.find? sql = some t) : (c.hit sql).size = c.size := by
  rw [size, store_hit, Lru.size_touch hn hf, size]

theorem size_insert (c : TemplateCache) (sql : String) (t : Tagged Template) :
    (c.insert sql t).size = if c.store.isFull then c.size else c.size + 1 := by
  rw [size, store_insert, Lru.size_insert, size]

theorem Tracks.size_le {rules : Rules} {n : ℕ} {texts : List String} {c : TemplateCache}
    (h : Tracks rules n texts c) : c.size ≤ n := by
  rw [size, ← Lru.length_keys, h.keys_eq, Lru.length_rtake]
  exact Nat.min_le_left _ _

namespace Accounts

variable {rules : Rules} {n : ℕ} {texts : List String} {vs : List Visit} {c : TemplateCache}
  {u : Use} {sql : String}

theorem new {size : ℤ} (h : create size rules true = .ok c) (n : ℕ) : Accounts n [] c := by
  unfold create at h
  split_ifs at h
  cases h
  exact ⟨⟨rfl, rfl, rfl⟩, rfl, fun h => absurd h (Nat.lt_irrefl 0)⟩

theorem clear (n : ℕ) (c : TemplateCache) : Accounts n [] c.clear :=
  ⟨⟨rfl, rfl, rfl⟩, rfl, fun h => absurd h (Nat.lt_irrefl 0)⟩

/-- A use that looks for nothing and brings nothing in. -/
theorem idle (h : Accounts n vs c) (hu : u.sought = none) : Accounts n (vs ++ [⟨c, u⟩]) c where
  toTallied := h.toTallied.idle hu
  brought_eq := by
    have hb : Visit.brings ⟨c, u⟩ = false := by
      cases u with
      | fetch sql serial => cases hu
      | _ => rfl
    rw [List.countP_append, List.countP_singleton, hb]
    exact h.brought_eq
  full := h.full

section Looks

variable (h : Accounts n vs c) (hc : c.counted = true) (hu : u.sought = some sql)
include h hc hu

/-- The text that is looked for is held. -/
theorem found (hn : c.store.keys.Nodup) {t : Tagged Template}
    (hf : c.store.find? sql = some t) : Accounts n (vs ++ [⟨c, u⟩]) (c.hit sql) where
  toTallied := by
    rw [stats_hit hc]
    exact h.toTallied.hit hu (has_of_find? hf)
  brought_eq := by
    rw [List.countP_append, List.countP_singleton, Visit.brings_of_has hu (has_of_find? hf),
      size_hit hn hf, stats_hit hc]
    exact h.brought_eq
  full := by
    rw [size_hit hn hf, stats_hit hc]
    exact h.full

/-- The text is not held, and nothing comes in for it. -/
theorem missed (hf : c.store.find? sql = none) (hb : Visit.brings ⟨c, u⟩ = false) :
    Accounts n (vs ++ [⟨c, u⟩]) (c.record .miss) where
  toTallied := by
    rw [stats_record hc]
    exact h.toTallied.miss hu (has_of_absent hf)
  brought_eq := by
    rw [List.countP_append, List.countP_singleton, hb, size_record, stats_record hc]
    exact h.brought_eq
  full := by
    rw [size_record, stats_record hc]
    exact h.full

/-- The text is not held and comes in. A full cache evicts another for it, and one that is
not full has never evicted. -/
theorem brought (ht : Tracks rules n texts c) (hf : c.store.find? sql = none)
    (hb : Visit.brings ⟨c, u⟩ = true) (t : Tagged Template) :
    Accounts n (vs ++ [⟨c, u⟩]) ((c.record .miss).insert sql t) := by
  have htallied := h.toTallied.miss hu (has_of_absent hf)
  have hbrings : List.countP Visit.brings (vs ++ [⟨c, u⟩]) =
      c.stats.evictions + c.size + 1 := by
    rw [List.countP_append, List.countP_singleton, if_pos hb, h.brought_eq]
  have hstats : ((c.record .miss).insert sql t).stats =
      if c.store.isFull then c.stats.miss.evict else c.stats.miss := by
    rw [stats_insert ((later_record c .miss).counted.trans hc), store_record, stats_record hc]
    rfl
  have hsize : ((c.record .miss).insert sql t).size =
      if c.store.isFull then c.size else c.size + 1 := by
    rw [size_insert, store_record, size_record]
  have hfull : c.store.isFull = true ↔ n ≤ c.size := by
    rw [Lru.isFull_iff, ht.capacity_eq, size]
  by_cases hl : c.store.isFull = true
  · rw [if_pos hl] at hstats hsize
    refine ⟨by rw [hstats]; exact htallied.evict, ?_, fun _ => ?_⟩
    · rw [hstats, hsize, hbrings]
      exact Nat.add_right_comm _ 1 _
    · rw [hsize]
      exact Nat.le_antisymm ht.size_le (hfull.mp hl)
  · rw [if_neg hl] at hstats hsize
    refine ⟨by rw [hstats]; exact htallied, ?_, fun he => ?_⟩
    · rw [hstats, hsize, hbrings]
      rfl
    · rw [hstats] at he
      exact absurd (hfull.mpr (h.full he).ge) hl

end Looks

/-- What a use does to the accounts. -/
theorem after (h : Accounts n (sinceClear vs) c) (hc : c.counted = true)
    (ht : Tracks rules n texts c) (u : Use) :
    Accounts n (sinceClear (vs ++ [⟨c, u⟩])) (c.after u) := by
  rw [sinceClear_append]
  cases u with
  | get sql =>
    show Accounts n (sinceClear vs ++ [⟨c, .get sql⟩]) (c.get sql).2
    cases hf : c.store.find? sql with
    | some t =>
      rw [get_of_find? hf]
      exact h.found hc rfl ht.follows.keys_nodup hf
    | none =>
      rw [get_of_absent hf]
      exact h.missed hc rfl hf rfl
  | fetch sql serial =>
    show Accounts n (sinceClear vs ++ [⟨c, .fetch sql serial⟩]) (c.fetch sql serial).2
    obtain ⟨t, hf, heq⟩ | ⟨e, hf, hp, heq⟩ | ⟨parsed, hf, hp, heq⟩ := fetch_cases c sql serial
    · rw [heq]
      exact h.found hc rfl ht.follows.keys_nodup hf
    · rw [heq]
      exact h.missed hc rfl hf (by rw [Visit.brings, hp]; exact Bool.and_false _)
    · rw [heq]
      exact h.brought hc rfl ht hf (by rw [Visit.brings, hp, has_of_absent hf]; rfl) _
  | has sql => exact h.idle rfl
  | size => exact h.idle rfl
  | clear => exact clear n c

theorem run {size : ℤ} (h : create size rules true = .ok c) (uses : List Use) :
    Accounts size.toNat (sinceClear (c.visits uses)) (c.run uses) := by
  induction uses using List.reverseRecOn with
  | nil => exact new h _
  | append_singleton uses u ih =>
    have hcounted := (later_run c uses).counted.trans (counted_of_create h)
    rw [visits_append, run_append]
    exact ih.after hcounted ((Tracks.of_create h).run uses) u

end Accounts

/-! ### Caches that do not count -/

/-- The cache without its counters. -/
def silent (c : TemplateCache) : TemplateCache := { c with counted := false, stats := {} }

theorem silent_congr {c d : TemplateCache} (hrules : c.rules = d.rules)
    (hstore : c.store = d.store) : c.silent = d.silent := by
  rw [silent, hrules, hstore]
  rfl

section Silent

variable (c : TemplateCache) (sql : String)

theorem silent_record (e : Stats.Event) : (c.record e).silent = c.silent :=
  silent_congr (rules_record c e) (store_record c e)

theorem silent_hit : c.silent.hit sql = (c.hit sql).silent := by
  rw [hit, hit, silent_record]
  rfl

theorem silent_insert (t : Tagged Template) : c.silent.insert sql t = (c.insert sql t).silent := by
  have hright : (c.insert sql t).silent = silent { c with store := c.store.insert sql t } :=
    silent_congr (rules_insert c sql t) (store_insert c sql t)
  rw [hright, insert]
  split_ifs <;> rfl

theorem silent_get : c.silent.get sql = ((c.get sql).1, (c.get sql).2.silent) := by
  cases hf : c.store.find? sql with
  | some t =>
    rw [get_of_find? hf, get_of_find? (c := c.silent) hf, silent_hit]
  | none =>
    rw [get_of_absent hf, get_of_absent (c := c.silent) hf, silent_record]
    rfl

theorem silent_fetch (serial : ℕ) :
    c.silent.fetch sql serial = ((c.fetch sql serial).1, (c.fetch sql serial).2.silent) := by
  obtain ⟨t, hf, heq⟩ | ⟨e, hf, hp, heq⟩ | ⟨parsed, hf, hp, heq⟩ := fetch_cases c sql serial
  · rw [heq, fetch_of_find? (c := c.silent) hf, silent_hit]
  · rw [heq, fetch_of_error (c := c.silent) hf hp, silent_record]
    rfl
  · rw [heq, fetch_of_ok (c := c.silent) hf hp, ← silent_insert, silent_record]
    rfl

theorem silent_after (u : Use) : c.silent.after u = (c.after u).silent := by
  cases u with
  | get sql => exact congrArg Prod.snd (silent_get c sql)
  | fetch sql serial => exact congrArg Prod.snd (silent_fetch c sql serial)
  | _ => rfl

theorem silent_run (uses : List Use) : c.silent.run uses = (c.run uses).silent := by
  induction uses generalizing c with
  | nil => rfl
  | cons u uses ih =>
    rw [run, List.foldl_cons, silent_after]
    exact ih (c.after u)

end Silent

/-! ### The balance -/

/-- The counters of a cache with room for `n` texts add up to what the visits were. -/
structure Balanced (n : ℕ) (vs : List Visit) (c : TemplateCache) : Prop
    extends Accounts n vs c where
  hits_add_misses : c.stats.hits + c.stats.misses = c.stats.operations
  /-- A hit comes back with a template that was held. -/
  finds_iff : ∀ v ∈ vs, v.finds = true ↔ ∃ sql t, v.use.sought = some sql ∧
    v.answer = some t ∧ (sql, t) ∈ v.met.store.entries
  evictions_le : c.stats.evictions ≤ c.stats.misses
  fetch_ok : ∀ sql serial f, (c.fetch sql serial).1 = .ok f →
    1 ≤ (c.fetch sql serial).2.size ∧ (c.fetch sql serial).2.size ≤ n
  fetch_error : ∀ sql serial e, (c.fetch sql serial).1 = .error e →
    (c.fetch sql serial).2 = { c with stats := c.stats.miss }
  has_eq : ∀ sql, c.after (.has sql) = c
  size_eq : c.after .size = c

/-- The second cache does as the first one does and counts nothing. -/
structure Uncounted (c d : TemplateCache) : Prop where
  stats_eq : d.stats = {}
  store_eq : d.store = c.store
  get_eq : ∀ sql, (d.get sql).1 = (c.get sql).1
  fetch_eq : ∀ sql serial, (d.fetch sql serial).1 = (c.fetch sql serial).1
  has_eq : ∀ sql, d.has sql = c.has sql
  size_eq : d.size = c.size

theorem uncounted_silent (c : TemplateCache) : Uncounted c c.silent where
  stats_eq := rfl
  store_eq := rfl
  get_eq sql := by rw [silent_get]
  fetch_eq sql serial := by rw [silent_fetch]
  has_eq _ := rfl
  size_eq := rfl

/-- A fetch that succeeds leaves its text in the cache. -/
theorem size_pos_of_fetch {c : TemplateCache} {sql : String} {serial : ℕ} {f : Fetched}
    (hn : c.store.keys.Nodup) (h : (c.fetch sql serial).1 = .ok f) :
    0 < (c.fetch sql serial).2.size := by
  obtain ⟨t, hf, heq⟩ | ⟨e, -, -, heq⟩ | ⟨parsed, hf, -, heq⟩ := fetch_cases c sql serial
  · rw [heq, size_hit hn hf]
    exact List.length_pos_of_mem (Lru.mem_of_find? hf)
  · rw [heq] at h
    cases h
  · rw [heq, size, store_insert, ← Lru.length_keys, Lru.keys_insert, List.length_append]
    exact Nat.succ_pos _

theorem Accounts.balanced {rules : Rules} {n : ℕ} {texts : List String} {vs : List Visit}
    {c : TemplateCache} (h : Accounts n vs c) (hc : c.counted = true)
    (ht : Tracks rules n texts c) : Balanced n vs c where
  toAccounts := h
  hits_add_misses := by
    rw [h.hits_eq, h.misses_eq, h.operations_eq, Visit.countP_finds_add_misses]
  finds_iff v _ := v.finds_iff
  evictions_le := by
    have hle : vs.countP Visit.brings ≤ vs.countP Visit.misses :=
      List.countP_mono_left fun v _ => Visit.misses_of_brings
    rw [← h.brought_eq, ← h.misses_eq] at hle
    exact (Nat.le_add_right _ _).trans hle
  fetch_ok sql serial f hf :=
    ⟨size_pos_of_fetch ht.follows.keys_nodup hf, (ht.after (.fetch sql serial)).size_le⟩
  fetch_error sql serial e he := by
    obtain ⟨t, -, heq⟩ | ⟨e, -, -, heq⟩ | ⟨parsed, -, -, heq⟩ := fetch_cases c sql serial
    · rw [heq] at he
      cases he
    · rw [heq, record, if_pos hc]
      rfl
    · rw [heq] at he
      cases he
  has_eq _ := rfl
  size_eq := rfl

theorem silent_of_create {size : ℤ} {rules : Rules} {c d : TemplateCache}
    (hc : create size rules true = .ok c) (hd : create size rules false = .ok d) :
    d = c.silent := by
  unfold create at hc hd
  split_ifs at hc hd
  cases hc
  cases hd
  rfl

/-- After any uses the counters of a cache add up to what these were since the last clear,
and without counters the cache does the same. -/
theorem counters_add_up {size : ℤ} (hsize : 0 < size) (rules : Rules) :
    ∃ c d, create size rules true = .ok c ∧ create size rules false = .ok d ∧
      ∀ uses, Balanced size.toNat (sinceClear (c.visits uses)) (c.run uses) ∧
        Uncounted (c.run uses) (d.run uses) := by
  obtain ⟨c, hc⟩ := exists_create hsize rules true
  obtain ⟨d, hd⟩ := exists_create hsize rules false
  refine ⟨c, d, hc, hd, fun uses => ⟨?_, ?_⟩⟩
  · have hcounted := (later_run c uses).counted.trans (counted_of_create hc)
    exact (Accounts.run hc uses).balanced hcounted ((Tracks.of_create hc).run uses)
  · rw [silent_of_create hc hd, silent_run]
    exact uncounted_silent (c.run uses)

/-- One text comes in again after it was evicted, and one that can not be read is missed
twice. What was before the clear does not count. -/
theorem counters_add_up_evicted : (0 : ℤ) < 1 ∧ ∃ c d, create 1 ⟨true, none⟩ true = .ok c ∧
    create 1 ⟨true, none⟩ false = .ok d ∧
    (c.run [.fetch "a" 0, .clear, .fetch "a" 1, .fetch ":" 2, .fetch "b" 3, .get "b",
      .get ":", .fetch "a" 4]).stats = ⟨1, 5, 2, 6⟩ ∧
    Balanced 1 (sinceClear (c.visits [.fetch "a" 0, .clear, .fetch "a" 1, .fetch ":" 2,
        .fetch "b" 3, .get "b", .get ":", .fetch "a" 4]))
      (c.run [.fetch "a" 0, .clear, .fetch "a" 1, .fetch ":" 2, .fetch "b" 3, .get "b",
        .get ":", .fetch "a" 4]) ∧
    (d.run [.fetch "a" 0, .clear, .fetch "a" 1, .fetch ":" 2, .fetch "b" 3, .get "b",
      .get ":", .fetch "a" 4]).stats = {} := by
  obtain ⟨c, d, hc, hd, hrun⟩ := @counters_add_up 1 (by decide) ⟨true, none⟩
  refine ⟨by decide, c, d, hc, hd, ?_, (hrun _).1, (hrun _).2.stats_eq⟩
  cases hc
  rfl

end TemplateCache

end QueryBinding
