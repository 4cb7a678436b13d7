import Mathlib.Data.List.Infix
import QueryBinding.Proofs.Cache.Contents

/-! Runs of a cache. The texts that were used with success, in the order of their last
use, tell all about a cache but its counters: it holds the last of them, as many as it
has room for, and answers for these with what it made when they came in. -/

namespace QueryBinding

namespace TemplateCache

/-- A use of a cache. A fetch brings the serial number for a template that it makes. -/
inductive Use where
  | get (sql : String)
  | fetch (sql : String) (serial : ℕ)
  | has (sql : String)
  | size
  | clear

/-- The state that a use leaves. -/
def after (c : TemplateCache) : Use → TemplateCache
  | .get sql => (c.get sql).2
  | .fetch sql serial => (c.fetch sql serial).2
  | .has _ => c
  | .size => c
  | .clear => c.clear

def run (c : TemplateCache) (uses : List Use) : TemplateCache := uses.foldl after c

/-- The texts by their last successful use, after one more use of a cache with room for
`n` of them. Only a text that was fetched before can be found. -/
def recent (rules : Rules) (n : ℕ) (texts : List String) : Use → List String
  | .get sql => if sql ∈ texts.rtake n then Lru.used texts sql else texts
  | .fetch sql _ => if (Template.parse rules sql).isOk then Lru.used texts sql else texts
  | .has _ => texts
  | .size => texts
  | .clear => []

/-- The texts by their last successful use since the cache was new or last cleared. -/
def history (rules : Rules) (n : ℕ) (uses : List Use) : List String :=
  uses.foldl (recent rules n) []

theorem later_after (c : TemplateCache) (u : Use) : c.Later (c.after u) := by
  cases u with
  | get sql => exact later_get c sql
  | fetch sql serial => exact later_fetch c sql serial
  | has sql => exact .refl c
  | size => exact .refl c
  | clear => exact later_clear c

theorem Sound.after {c : TemplateCache} (hc : c.Sound) (u : Use) : (c.after u).Sound := by
  cases u with
  | get sql => exact hc.get sql
  | fetch sql serial => exact hc.fetch sql serial
  | has sql => exact hc
  | size => exact hc
  | clear => exact Sound.clear c

/-! ### The invariant of a run -/

/-- A cache with room for `n` texts that holds the last of the given ones. -/
structure Tracks (rules : Rules) (n : ℕ) (texts : List String) (c : TemplateCache) : Prop where
  rules_eq : c.rules = rules
  capacity_eq : c.store.capacity = n
  follows : c.store.Follows texts
  sound : c.Sound

namespace Tracks

variable {rules : Rules} {n : ℕ} {texts : List String} {c : TemplateCache} {sql : String}

theorem of_create {size : ℤ} {counted : Bool} (h : create size rules counted = .ok c) :
    Tracks rules size.toNat [] c := by
  obtain ⟨hrules, hsound⟩ := rules_of_create h
  unfold create at h
  split_ifs at h
  cases h
  exact ⟨hrules, rfl, ⟨(List.rtake_nil _).symm, List.nodup_nil⟩, hsound⟩

theorem keys_eq (h : Tracks rules n texts c) : c.store.keys = texts.rtake n := by
  rw [h.follows.keys_eq, h.capacity_eq]

theorem find?_isSome_iff (h : Tracks rules n texts c) :
    (c.store.find? sql).isSome = true ↔ sql ∈ texts.rtake n := by
  rw [Lru.find?_isSome_iff, h.keys_eq]

theorem find?_eq_none_iff (h : Tracks rules n texts c) :
    c.store.find? sql = none ↔ sql ∉ texts.rtake n := by
  rw [Lru.find?_eq_none_iff, h.keys_eq]

theorem record (h : Tracks rules n texts c) (e : Stats.Event) :
    Tracks rules n texts (c.record e) where
  rules_eq := (rules_record c e).trans h.rules_eq
  capacity_eq := by rw [store_record, h.capacity_eq]
  follows := by
    rw [store_record]
    exact h.follows
  sound := h.sound.record e

theorem hit (h : Tracks rules n texts c) {t : Tagged Template} (hf : c.store.find? sql = some t) :
    Tracks rules n (Lru.used texts sql) (c.hit sql) where
  rules_eq := (rules_record _ _).trans h.rules_eq
  capacity_eq := by
    rw [store_hit, Lru.capacity_touch]
    exact h.capacity_eq
  follows := by
    rw [store_hit]
    exact h.follows.touch hf
  sound := h.sound.hit

theorem insert (h : Tracks rules n texts c) (hf : c.store.find? sql = none) {parsed : Parsed}
    (hp : Template.parse rules sql = .ok parsed) (serial : ℕ) :
    Tracks rules n (Lru.used texts sql) (c.insert sql ⟨serial, parsed.template⟩) where
  rules_eq := (rules_insert c sql _).trans h.rules_eq
  capacity_eq := by
    rw [store_insert]
    exact h.capacity_eq
  follows := by
    rw [store_insert]
    exact h.follows.insert hf _
  sound := h.sound.insert (h.rules_eq ▸ hp) rfl

theorem clear (h : Tracks rules n texts c) : Tracks rules n [] c.clear where
  rules_eq := h.rules_eq
  capacity_eq := h.capacity_eq
  follows := Lru.Follows.clear c.store
  sound := Sound.clear c

/-- What a fetch does to the texts, whether its own is held or not. -/
theorem fetch (h : Tracks rules n texts c) (sql : String) (serial : ℕ) :
    Tracks rules n (recent rules n texts (.fetch sql serial)) (c.fetch sql serial).2 := by
  rw [recent]
  obtain ⟨t, hf, heq⟩ | ⟨e, -, hp, heq⟩ | ⟨parsed, hf, hp, heq⟩ := fetch_cases c sql serial
  · obtain ⟨parsed, hp, -⟩ := h.sound.exists_parse hf
    rw [h.rules_eq] at hp
    rw [hp, heq]
    exact h.hit hf
  · rw [h.rules_eq] at hp
    rw [hp, heq]
    exact h.record .miss
  · rw [h.rules_eq] at hp
    rw [hp, heq]
    exact (h.record .miss).insert (by rwa [store_record]) hp serial

theorem get (h : Tracks rules n texts c) (sql : String) :
    Tracks rules n (recent rules n texts (.get sql)) (c.get sql).2 := by
  rw [recent]
  cases hf : c.store.find? sql with
  | some t =>
    rw [get_of_find? hf, if_pos (h.find?_isSome_iff.mp (by rw [hf]; rfl))]
    exact h.hit hf
  | none =>
    rw [get_of_absent hf, if_neg (h.find?_eq_none_iff.mp hf)]
    exact h.record .miss

theorem after (h : Tracks rules n texts c) (u : Use) :
    Tracks rules n (recent rules n texts u) (c.after u) := by
  cases u with
  | get sql => exact h.get sql
  | fetch sql serial => exact h.fetch sql serial
  | has sql => exact h
  | size => exact h
  | clear => exact h.clear

theorem run (h : Tracks rules n texts c) (uses : List Use) :
    Tracks rules n (uses.foldl (recent rules n) texts) (c.run uses) := by
  induction uses generalizing texts c with
  | nil => exact h
  | cons u uses ih => exact ih (h.after u)

end Tracks

/-! ### One object for a text -/

section Objects

variable {rules : Rules} {n : ℕ} {texts : List String} {c : TemplateCache} {sql : String}

/-- What a use brings in is for a text that was not held. -/
theorem mem_of_mem_after (u : Use) {e : String × Tagged Template}
    (h : e ∈ (c.after u).store.entries) : e ∈ c.store.entries ∨ e.1 ∉ c.store.keys := by
  cases u with
  | has sql => exact Or.inl h
  | size => exact Or.inl h
  | clear => exact absurd h List.not_mem_nil
  | get sql =>
    rw [after] at h
    cases hf : c.store.find? sql with
    | some t =>
      rw [get_of_find? hf, store_hit] at h
      exact Or.inl (Lru.mem_of_mem_touch h)
    | none =>
      rw [get_of_absent hf, store_record] at h
      exact Or.inl h
  | fetch sql serial =>
    rw [after] at h
    obtain ⟨t, -, heq⟩ | ⟨e, -, -, heq⟩ | ⟨parsed, hf, -, heq⟩ := fetch_cases c sql serial
    · rw [heq, store_hit] at h
      exact Or.inl (Lru.mem_of_mem_touch h)
    · rw [heq, store_record] at h
      exact Or.inl h
    · rw [heq, store_insert, store_record] at h
      rcases Lru.mem_of_mem_insert h with h | rfl
      · exact Or.inl h
      · exact Or.inr (Lru.find?_eq_none_iff.mp hf)

theorem Tracks.find?_after (h : Tracks rules n texts c) (u : Use) (hk : sql ∈ texts.rtake n)
    (hk' : sql ∈ (recent rules n texts u).rtake n) :
    (c.after u).store.find? sql = c.store.find? sql := by
  rw [← (h.after u).keys_eq] at hk'
  rw [← h.keys_eq] at hk
  exact Lru.find?_eq_of_subset h.follows.keys_nodup hk' fun t ht =>
    (mem_of_mem_after u ht).resolve_right fun hno => hno hk

/-- A text that is in the window at the start is in it after every one of the uses. -/
def Stays (rules : Rules) (n : ℕ) (texts : List String) (sql : String) (uses : List Use) : Prop :=
  ∀ part, part <+: uses → sql ∈ (part.foldl (recent rules n) texts).rtake n

theorem Tracks.find?_run (h : Tracks rules n texts c) {uses : List Use}
    (hs : Stays rules n texts sql uses) : (c.run uses).store.find? sql = c.store.find? sql := by
  induction uses generalizing texts c with
  | nil => rfl
  | cons u uses ih =>
    have hk := hs [] List.nil_prefix
    have hk' := hs [u] (List.cons_prefix_cons.mpr ⟨rfl, List.nil_prefix⟩)
    have hrest : Stays rules n (recent rules n texts u) sql uses := fun part hp =>
      hs (u :: part) (List.cons_prefix_cons.mpr ⟨rfl, hp⟩)
    exact (ih (h.after u) hrest).trans (h.find?_after u hk hk')

/-- The cache answers for a text with one object. No rules matter to it, so that the text
is not parsed again. -/
structure Keeps (c : TemplateCache) (sql : String) (t : Tagged Template) : Prop where
  get_eq : c.get sql = (some t, c.hit sql)
  fetch_eq : ∀ rules serial, ({ c with rules := rules } : TemplateCache).fetch sql serial =
    (.ok ⟨t, []⟩, ({ c with rules := rules } : TemplateCache).hit sql)

theorem keeps_of_find? {t : Tagged Template} (h : c.store.find? sql = some t) : c.Keeps sql t :=
  ⟨get_of_find? h, fun _ => fetch_of_find? h⟩

/-- A text that comes in is answered for with the object made then, for as long as it
stays in the window. -/
theorem Tracks.keeps (h : Tracks rules n texts c) (ha : sql ∉ texts.rtake n) {parsed : Parsed}
    (hp : Template.parse rules sql = .ok parsed) {serial : ℕ} {uses : List Use}
    (hs : Stays rules n (recent rules n texts (.fetch sql serial)) sql uses) :
    ((c.after (.fetch sql serial)).run uses).Keeps sql ⟨serial, parsed.template⟩ := by
  have hf := h.find?_eq_none_iff.mpr ha
  apply keeps_of_find?
  rw [(h.after _).find?_run hs, TemplateCache.after, fetch_of_ok hf (h.rules_eq ▸ hp),
    store_insert, store_record]
  exact Lru.find?_insert_self _ _ hf

end Objects

/-! ### Answers -/

/-- A cache with room for `n` texts answers as told by the texts in the order of their
last successful use. -/
structure Answers (rules : Rules) (n : ℕ) (texts : List String) (c : TemplateCache) : Prop where
  nodup : texts.Nodup
  keys_eq : c.store.keys = texts.rtake n
  size_eq : c.size = (texts.rtake n).length
  has_iff : ∀ sql, c.has sql = true ↔ sql ∈ texts.rtake n
  get_iff : ∀ sql, (c.get sql).1.isSome = true ↔ sql ∈ texts.rtake n
  get_value : ∀ sql t, (c.get sql).1 = some t →
    (Template.parse rules sql).map Parsed.template = .ok t.value
  /-- A fetch fails as parsing does and gives an equal template otherwise. -/
  fetch_value : ∀ sql serial, (c.fetch sql serial).1.map (·.template.value) =
    (Template.parse rules sql).map Parsed.template
  fetch_error : ∀ sql serial e, (c.fetch sql serial).1 = .error e →
    (c.fetch sql serial).2.store = c.store
  /-- A text that is not held is parsed, to an object of its own. -/
  fetch_absent : ∀ sql serial, sql ∉ texts.rtake n → (c.fetch sql serial).1 =
    (Template.parse rules sql).map fun parsed => ⟨⟨serial, parsed.template⟩, parsed.colons⟩

theorem Tracks.answers {rules : Rules} {n : ℕ} {texts : List String} {c : TemplateCache}
    (h : Tracks rules n texts c) : Answers rules n texts c where
  nodup := h.follows.nodup
  keys_eq := h.keys_eq
  size_eq := by rw [← h.keys_eq, Lru.length_keys, size]
  has_iff sql := h.find?_isSome_iff
  get_iff sql := by
    rw [← h.find?_isSome_iff]
    cases hf : c.store.find? sql with
    | some t => rw [get_of_find? hf]
    | none => rw [get_of_absent hf]
  get_value sql t ht := by
    cases hf : c.store.find? sql with
    | some t' =>
      obtain ⟨parsed, hp, hvalue⟩ := h.sound.exists_parse hf
      rw [get_of_find? hf] at ht
      rw [← h.rules_eq, hp, ← Option.some.inj ht, ← hvalue]
      rfl
    | none =>
      rw [get_of_absent hf] at ht
      cases ht
  fetch_value sql serial := by rw [h.sound.fetch_eq, h.rules_eq]
  fetch_error sql serial e he := by
    obtain ⟨t, -, heq⟩ | ⟨e, -, -, heq⟩ | ⟨parsed, -, -, heq⟩ := fetch_cases c sql serial
    · rw [heq] at he
      cases he
    · rw [heq, store_record]
    · rw [heq] at he
      cases he
  fetch_absent sql serial ha := by
    have hf := h.find?_eq_none_iff.mpr ha
    rw [← h.rules_eq]
    obtain ⟨t, hf', -⟩ | ⟨e, -, hp, heq⟩ | ⟨parsed, -, hp, heq⟩ := fetch_cases c sql serial
    · rw [hf] at hf'
      cases hf'
    · rw [heq, hp]
      rfl
    · rw [heq, hp]
      rfl

/-- After any uses a cache holds the texts that were used last and answers as these tell,
and from the fetch that brings a text in until it is lost there is one object for it. -/
theorem least_recently_used {size : ℤ} (hsize : 0 < size) (rules : Rules) (counted : Bool) :
    ∃ c, create size rules counted = .ok c ∧
      (∀ uses, Answers rules size.toNat (history rules size.toNat uses) (c.run uses)) ∧
      ∀ before sql serial parsed uses,
        sql ∉ (history rules size.toNat before).rtake size.toNat →
        Template.parse rules sql = .ok parsed →
        Stays rules size.toNat (history rules size.toNat (before ++ [.fetch sql serial])) sql uses →
        (c.run (before ++ .fetch sql serial :: uses)).Keeps sql ⟨serial, parsed.template⟩ := by
  obtain ⟨c, hc⟩ := exists_create hsize rules counted
  have hrun := fun uses => (Tracks.of_create hc).run uses
  refine ⟨c, hc, fun uses => (hrun uses).answers, fun before sql serial parsed uses ha hp hs => ?_⟩
  rw [history, List.foldl_append] at hs
  rw [run, List.foldl_append]
  exact (hrun before).keeps ha hp hs

/-- A text that can not be read leaves the order as it is, and one that is found again is
not the one to go. -/
theorem least_recently_used_two : (0 : ℤ) < 2 ∧ ∃ c parsed,
    create 2 ⟨true, none⟩ true = .ok c ∧ Template.parse ⟨true, none⟩ "a" = .ok parsed ∧
      (c.run [.fetch "a" 0, .fetch "b" 1, .get "a", .fetch ":" 2, .fetch "c" 3]).store.keys =
        ["a", "c"] ∧
      (c.run [.fetch "a" 0, .fetch "b" 1, .get "a", .fetch ":" 2, .fetch "c" 3]).Keeps "a"
        ⟨0, parsed.template⟩ := by
  have hp : Template.parse ⟨true, none⟩ "a" = .ok _ := rfl
  obtain ⟨c, hc, hanswers, hkeeps⟩ := @least_recently_used 2 (by decide) ⟨true, none⟩ true
  refine ⟨by decide, c, _, hc, hp, (hanswers _).keys_eq.trans rfl, ?_⟩
  have hstays : ∀ part ∈ List.inits [.fetch "b" 1, .get "a", .fetch ":" 2, .fetch "c" 3],
      "a" ∈ (part.foldl (recent ⟨true, none⟩ 2) ["a"]).rtake 2 := by decide
  exact hkeeps [] "a" 0 _ _ List.not_mem_nil hp fun part hpart =>
    hstays part ((List.mem_inits _ _).mpr hpart)

end TemplateCache

end QueryBinding
