import QueryBinding.Cache
import QueryBinding.Config
import QueryBinding.Proofs.Cache.Window

/-! What caches hold. Every operation keeps the rules of a cache, and an entry is
always what its statement is parsed to by these rules. So a fetched template can
not be told from a parsed one. -/

namespace QueryBinding

namespace TemplateCache

/-- Every cached template is the parse of its statement by the rules of the cache. -/
def Sound (c : TemplateCache) : Prop := ∀ e ∈ c.store.entries, ∃ parsed,
  Template.parse c.rules e.1 = .ok parsed ∧ parsed.template = e.2.value

variable {c : TemplateCache} {sql : String}

/-! ### What a use does -/

section Uses

variable {t : Tagged Template}

theorem get_of_find? (h : c.store.find? sql = some t) : c.get sql = (some t, c.hit sql) := by
  rw [get, h]

theorem get_of_absent (h : c.store.find? sql = none) : c.get sql = (none, c.record .miss) := by
  rw [get, h]

theorem fetch_of_find? (h : c.store.find? sql = some t) (serial : Nat) :
    c.fetch sql serial = (.ok ⟨t, []⟩, c.hit sql) := by
  rw [fetch, h]

theorem fetch_of_ok (h : c.store.find? sql = none) {parsed : Parsed}
    (hp : Template.parse c.rules sql = .ok parsed) (serial : Nat) :
    c.fetch sql serial = (.ok ⟨⟨serial, parsed.template⟩, parsed.colons⟩,
      (c.record .miss).insert sql ⟨serial, parsed.template⟩) := by
  simp only [fetch, h, hp]

theorem fetch_of_error (h : c.store.find? sql = none) {e : Error}
    (hp : Template.parse c.rules sql = .error e) (serial : Nat) :
    c.fetch sql serial = (.error e, c.record .miss) := by
  simp only [fetch, h, hp]

/-- A fetch finds its text, fails to read it or brings it in. -/
theorem fetch_cases (c : TemplateCache) (sql : String) (serial : Nat) :
    (∃ t, c.store.find? sql = some t ∧ c.fetch sql serial = (.ok ⟨t, []⟩, c.hit sql)) ∨
    (∃ e, c.store.find? sql = none ∧ Template.parse c.rules sql = .error e ∧
      c.fetch sql serial = (.error e, c.record .miss)) ∨
    ∃ parsed, c.store.find? sql = none ∧ Template.parse c.rules sql = .ok parsed ∧
      c.fetch sql serial = (.ok ⟨⟨serial, parsed.template⟩, parsed.colons⟩,
        (c.record .miss).insert sql ⟨serial, parsed.template⟩) := by
  cases hf : c.store.find? sql with
  | some t => exact Or.inl ⟨t, rfl, fetch_of_find? hf serial⟩
  | none =>
    right
    cases hp : Template.parse c.rules sql with
    | error e => exact Or.inl ⟨e, rfl, rfl, fetch_of_error hf hp serial⟩
    | ok parsed => exact Or.inr ⟨parsed, rfl, rfl, fetch_of_ok hf hp serial⟩

end Uses

/-! ### Settings -/

@[simp] theorem store_record (c : TemplateCache) (e : Stats.Event) :
    (c.record e).store = c.store := by
  unfold record
  split_ifs <;> rfl

theorem store_hit (c : TemplateCache) (sql : String) :
    (c.hit sql).store = c.store.touch sql := store_record _ _

theorem store_insert (c : TemplateCache) (sql : String) (t : Tagged Template) :
    (c.insert sql t).store = c.store.insert sql t := by
  unfold insert
  split_ifs
  · exact congrArg (·.insert sql t) (store_record c .evict)
  · rfl

/-- A cache at a later time. It is what it was made to be. -/
structure Later (c c' : TemplateCache) : Prop where
  rules : c'.rules = c.rules
  capacity : c'.capacity = c.capacity
  counted : c'.counted = c.counted

theorem Later.refl (c : TemplateCache) : c.Later c := ⟨rfl, rfl, rfl⟩

theorem Later.trans {c' c'' : TemplateCache} (h : c.Later c') (h' : c'.Later c'') :
    c.Later c'' :=
  ⟨h'.rules.trans h.rules, h'.capacity.trans h.capacity, h'.counted.trans h.counted⟩

theorem later_record (c : TemplateCache) (e : Stats.Event) : c.Later (c.record e) := by
  unfold record
  split_ifs <;> exact ⟨rfl, rfl, rfl⟩

theorem later_hit (c : TemplateCache) (sql : String) : c.Later (c.hit sql) := by
  have htouch : c.Later { c with store := c.store.touch sql } :=
    ⟨rfl, Lru.capacity_touch _ _, rfl⟩
  exact htouch.trans (later_record _ .hit)

theorem later_insert (c : TemplateCache) (sql : String) (t : Tagged Template) :
    c.Later (c.insert sql t) := by
  unfold insert
  split_ifs
  · exact (later_record c .evict).trans ⟨rfl, rfl, rfl⟩
  · exact ⟨rfl, rfl, rfl⟩

theorem later_get (c : TemplateCache) (sql : String) : c.Later (c.get sql).2 := by
  cases hf : c.store.find? sql with
  | some t =>
    rw [get_of_find? hf]
    exact later_hit c sql
  | none =>
    rw [get_of_absent hf]
    exact later_record c .miss

theorem later_fetch (c : TemplateCache) (sql : String) (serial : Nat) :
    c.Later (c.fetch sql serial).2 := by
  obtain ⟨t, -, heq⟩ | ⟨e, -, -, heq⟩ | ⟨parsed, -, -, heq⟩ := fetch_cases c sql serial
  · rw [heq]
    exact later_hit c sql
  · rw [heq]
    exact later_record c .miss
  · rw [heq]
    exact (later_record c .miss).trans (later_insert _ sql _)

theorem later_clear (c : TemplateCache) : c.Later c.clear := ⟨rfl, rfl, rfl⟩

@[simp] theorem rules_record (c : TemplateCache) (e : Stats.Event) :
    (c.record e).rules = c.rules := (later_record c e).rules

@[simp] theorem rules_insert (c : TemplateCache) (sql : String) (t : Tagged Template) :
    (c.insert sql t).rules = c.rules := (later_insert c sql t).rules

theorem exists_create {size : Int} (h : 0 < size) (rules : Rules) (counted : Bool) :
    ∃ c, create size rules counted = .ok c := by
  rw [create, dif_pos h]
  exact ⟨_, rfl⟩

theorem rules_of_create {size : Int} {rules : Rules} {counted : Bool}
    (h : create size rules counted = .ok c) : c.rules = rules ∧ c.Sound := by
  unfold create at h
  split_ifs at h
  cases h
  exact ⟨rfl, fun e he => absurd he List.not_mem_nil⟩

/-- The cache has the settings of the configuration. -/
structure Fits (c : TemplateCache) (s : Config) : Prop where
  rules : c.rules = s.parser.rules
  capacity : (c.capacity : Int) = s.cache.maxSize
  counted : c.counted = s.cache.counted

theorem Fits.later {c' : TemplateCache} {s : Config} (h : c.Fits s) (hl : c.Later c') : c'.Fits s :=
  ⟨hl.rules.trans h.rules, hl.capacity ▸ h.capacity, hl.counted.trans h.counted⟩

theorem fits_of_create {s : Config}
    (h : create s.cache.maxSize s.parser.rules s.cache.counted = .ok c) : c.Fits s := by
  unfold create at h
  split_ifs at h with hpos
  cases h
  exact ⟨rfl, Int.toNat_of_nonneg (Int.le_of_lt hpos), rfl⟩

/-! ### Soundness -/

/-- A text that is held can be read. -/
theorem Sound.exists_parse (hc : c.Sound) {t : Tagged Template}
    (h : c.store.find? sql = some t) :
    ∃ parsed, Template.parse c.rules sql = .ok parsed ∧ parsed.template = t.value :=
  hc (sql, t) (Lru.mem_of_find? h)

theorem Sound.hit (hc : c.Sound) : (c.hit sql).Sound := by
  intro e he
  rw [store_hit] at he
  rw [TemplateCache.hit, rules_record]
  exact hc e (Lru.mem_of_mem_touch he)

theorem Sound.record (hc : c.Sound) (e : Stats.Event) : (c.record e).Sound := by
  rw [Sound, store_record, rules_record]
  exact hc

theorem Sound.get (hc : c.Sound) (sql : String) : (c.get sql).2.Sound := by
  unfold TemplateCache.get
  cases c.store.find? sql with
  | some t => exact hc.hit
  | none => exact hc.record .miss

theorem Sound.insert (hc : c.Sound) {parsed : Parsed} {t : Tagged Template}
    (hp : Template.parse c.rules sql = .ok parsed) (ht : parsed.template = t.value) :
    (c.insert sql t).Sound := by
  intro e he
  rw [store_insert] at he
  rw [rules_insert]
  rcases Lru.mem_of_mem_insert he with he | rfl
  · exact hc e he
  · exact ⟨parsed, hp, ht⟩

theorem Sound.fetch (hc : c.Sound) (sql : String) (serial : Nat) :
    (c.fetch sql serial).2.Sound := by
  obtain ⟨t, -, heq⟩ | ⟨e, -, -, heq⟩ | ⟨parsed, -, hp, heq⟩ := fetch_cases c sql serial
  · rw [heq]
    exact hc.hit
  · rw [heq]
    exact hc.record .miss
  · rw [← rules_record c .miss] at hp
    rw [heq]
    exact (hc.record .miss).insert hp rfl

theorem Sound.clear (c : TemplateCache) : c.clear.Sound := fun _ he => absurd he List.not_mem_nil

/-- A sound cache answers as the parser does. -/
theorem Sound.fetch_eq (hc : c.Sound) (sql : String) (serial : Nat) :
    (c.fetch sql serial).1.map (·.template.value) =
      (Template.parse c.rules sql).map Parsed.template := by
  obtain ⟨t, hf, heq⟩ | ⟨e, -, hp, heq⟩ | ⟨parsed, -, hp, heq⟩ := fetch_cases c sql serial
  · obtain ⟨parsed, hp, ht⟩ := hc.exists_parse hf
    rw [heq, hp]
    exact congrArg Except.ok ht.symm
  · rw [heq, hp]
    rfl
  · rw [heq, hp]
    rfl

end TemplateCache

end QueryBinding
