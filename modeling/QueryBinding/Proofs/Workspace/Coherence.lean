import QueryBinding.Proofs.Cache.Contents
import QueryBinding.Proofs.Workspace.Actions

/-! Coherence of the caches with the configuration. A serial number stands for one
configuration for good, the shared cache has the settings of the configuration it
was built from, and every cache is sound. Each action keeps this, and so a statement
is parsed by the rules in force whether or not there is a cache between. -/

namespace QueryBinding

/-- What configuration each serial number stands for. -/
abbrev Registry := Nat → Config

/-- A configuration object as it was registered. -/
structure Known (v : Registry) (w : Workspace) (c : Tagged Config) : Prop where
  lt : c.serial < w.next
  value : v c.serial = c.value

structure Coherent (v : Registry) (w : Workspace) : Prop where
  known : ∀ c, w.config = some c → Known v w c
  flawless : ∀ c, w.config = some c → c.value.flaws = []
  stale : ∀ s, w.shared = some s → s.config < w.next
  shared : ∀ s, w.shared = some s → ∃ cache, w.caches.lookup s.cache = some cache ∧
    cache.Fits (v s.config)
  fresh : ∀ e ∈ w.caches, e.1 < w.next
  sound : ∀ e ∈ w.caches, e.2.Sound

/-- A coherent workspace behind another one, with all its objects. -/
structure Follows (v : Registry) (w : Workspace) (v' : Registry) (w' : Workspace) : Prop where
  coherent : Coherent v' w'
  registry : ∀ i, i < w.next → v' i = v i
  next : w.next ≤ w'.next
  caches : ∀ k cache, w.caches.lookup k = some cache →
    ∃ cache', w'.caches.lookup k = some cache' ∧ cache.Later cache'

/-- The configuration is in force, and the shared cache has its settings. -/
structure Workspace.Serves (w : Workspace) (k : Nat) (c : Tagged Config) : Prop where
  config : w.config = some c
  shared : w.shared = some ⟨k, c.serial⟩
  fits : ∃ cache, w.caches.lookup k = some cache ∧ cache.Fits c.value

variable {v v' v'' : Registry} {w w' w'' : Workspace} {c : Tagged Config}

theorem Known.of_follows (h : Known v w c) (hf : Follows v w v' w') : Known v' w' c :=
  ⟨Nat.lt_of_lt_of_le h.lt hf.next, (hf.registry _ h.lt).trans h.value⟩

theorem Follows.trans (h : Follows v w v' w') (h' : Follows v' w' v'' w'') :
    Follows v w v'' w'' where
  coherent := h'.coherent
  registry i hi := (h'.registry i (Nat.lt_of_lt_of_le hi h.next)).trans (h.registry i hi)
  next := Nat.le_trans h.next h'.next
  caches k cache hk := by
    obtain ⟨cache', hk', hl⟩ := h.caches k cache hk
    obtain ⟨cache'', hk'', hl'⟩ := h'.caches k cache' hk'
    exact ⟨cache'', hk'', hl.trans hl'⟩

theorem Follows.rules (h : Follows v w v' w') (k : Nat) (cache : TemplateCache)
    (hk : w.caches.lookup k = some cache) :
    ∃ cache', w'.caches.lookup k = some cache' ∧ cache'.rules = cache.rules := by
  obtain ⟨cache', hk', hl⟩ := h.caches k cache hk
  exact ⟨cache', hk', hl.rules⟩

namespace Coherent

/-! ### Steps that keep coherence -/

theorem agrees (h : Coherent v w) (ha : w.Agrees w') : Follows v w v w' where
  coherent := {
    known := fun c hc => by
      rw [ha.config] at hc
      exact ⟨Nat.lt_of_lt_of_le (h.known c hc).lt ha.next, (h.known c hc).value⟩
    flawless := fun c hc => h.flawless c (ha.config ▸ hc)
    stale := fun s hs => Nat.lt_of_lt_of_le (h.stale s (ha.shared ▸ hs)) ha.next
    shared := fun s hs => by
      rw [ha.shared] at hs
      rw [ha.caches]
      exact h.shared s hs
    fresh := fun e he => Nat.lt_of_lt_of_le (h.fresh e (ha.caches ▸ he)) ha.next
    sound := fun e he => h.sound e (ha.caches ▸ he) }
  registry _ _ := rfl
  next := ha.next
  caches k cache hk := ⟨cache, ha.caches ▸ hk, .refl cache⟩

theorem refl (h : Coherent v w) : Follows v w v w := h.agrees (Workspace.Agrees.refl w)

/-- A new object gets the next serial number. -/
theorem register (h : Coherent v w) (c : Config) :
    Follows v w (Function.update v w.next c) w.advance := by
  have hold : ∀ i, i < w.next → Function.update v w.next c i = v i := fun i hi =>
    Function.update_of_ne (Nat.ne_of_lt hi) c v
  have ha := h.agrees (Workspace.agrees_advance w)
  refine ⟨?_, hold, ha.next, ha.caches⟩
  constructor
  · exact fun c hc =>
      ⟨(ha.coherent.known c hc).lt, (hold _ (h.known c hc).lt).trans (h.known c hc).value⟩
  · exact ha.coherent.flawless
  · exact ha.coherent.stale
  · intro s hs
    rw [hold _ (h.stale s hs)]
    exact h.shared s hs
  · exact ha.coherent.fresh
  · exact ha.coherent.sound

theorem known_register (v : Registry) (w : Workspace) (c : Config) :
    Known (Function.update v w.next c) w.advance ⟨w.next, c⟩ :=
  ⟨Nat.lt_succ_self _, Function.update_self _ _ _⟩

/-- Any known configuration without flaws may come into force. -/
theorem force (h : Coherent v w) (hc : Known v w c) (hflaws : c.value.flaws = []) :
    Follows v w v { w with config := some c } where
  coherent := {
    known := by
      rintro _ ⟨⟩
      exact ⟨hc.lt, hc.value⟩
    flawless := by
      rintro _ ⟨⟩
      exact hflaws
    stale := h.stale
    shared := h.shared
    fresh := h.fresh
    sound := h.sound }
  registry _ _ := rfl
  next := Nat.le_refl _
  caches _ cache hk := ⟨cache, hk, .refl cache⟩

theorem sound_of_lookup (h : Coherent v w) {k : Nat} {cache : TemplateCache}
    (hk : w.caches.lookup k = some cache) : cache.Sound := by
  obtain ⟨before, after, heq, -⟩ := List.lookup_eq_some_iff.mp hk
  exact h.sound (k, cache) (heq ▸ List.mem_append_right _ List.mem_cons_self)

/-- A cache may be used as long as it stays sound and keeps its settings. -/
theorem put (h : Coherent v w) {k : Nat} {cache cache' : TemplateCache}
    (hk : w.caches.lookup k = some cache) (hl : cache.Later cache') (hs : cache'.Sound) :
    Follows v w v (w.putCache k cache') := by
  have hlater : ∀ j d, w.caches.lookup j = some d → ∃ d',
      (w.putCache k cache').caches.lookup j = some d' ∧ d.Later d' := by
    intro j d hj
    rw [Workspace.lookup_putCache, hj]
    split_ifs with hjk
    · subst hjk
      obtain rfl : d = cache := Option.some.inj (hj.symm.trans hk)
      exact ⟨cache', rfl, hl⟩
    · exact ⟨d, rfl, .refl d⟩
  refine ⟨?_, fun _ _ => rfl, Nat.le_refl _, hlater⟩
  constructor
  · exact fun c hc => ⟨(h.known c hc).lt, (h.known c hc).value⟩
  · exact h.flawless
  · exact h.stale
  · intro s hs
    obtain ⟨d, hd, hfits⟩ := h.shared s hs
    obtain ⟨d', hd', hl'⟩ := hlater _ d hd
    exact ⟨d', hd', hfits.later hl'⟩
  · intro e he
    rcases Workspace.mem_putCache he with he | ⟨-, d, hd⟩
    · exact h.fresh e he
    · exact h.fresh (e.1, d) hd
  · intro e he
    rcases Workspace.mem_putCache he with he | ⟨heq, -⟩
    · exact h.sound e he
    · rwa [heq]

theorem lookup_next (h : Coherent v w) : w.caches.lookup w.next = none := by
  rw [List.lookup_eq_none_iff]
  intro e he
  have := h.fresh e he
  simp only [bne_iff_ne, ne_eq]
  omega

theorem lookup_addCache (h : Coherent v w) (cache : TemplateCache) :
    (w.addCache cache).caches.lookup w.next = some cache := by
  rw [Workspace.addCache, List.lookup_append, h.lookup_next, Option.none_or, List.lookup_cons_self]

theorem add (h : Coherent v w) {cache : TemplateCache} (hs : cache.Sound) :
    Follows v w v (w.addCache cache) := by
  have hkeep : ∀ j d, w.caches.lookup j = some d → (w.addCache cache).caches.lookup j = some d := by
    intro j d hj
    rw [Workspace.addCache, List.lookup_append, hj, Option.some_or]
  refine ⟨?_, fun _ _ => rfl, Nat.le_succ _, fun j d hj => ⟨d, hkeep j d hj, .refl d⟩⟩
  constructor
  · exact fun c hc => ⟨Nat.lt_succ_of_lt (h.known c hc).lt, (h.known c hc).value⟩
  · exact h.flawless
  · exact fun s hs => Nat.lt_succ_of_lt (h.stale s hs)
  · intro s hs
    obtain ⟨d, hd, hdr⟩ := h.shared s hs
    exact ⟨d, hkeep _ d hd, hdr⟩
  · intro e he
    rcases List.mem_append.mp he with he | he
    · exact Nat.lt_succ_of_lt (h.fresh e he)
    · rw [List.mem_singleton.mp he]
      exact Nat.lt_succ_self _
  · intro e he
    rcases List.mem_append.mp he with he | he
    · exact h.sound e he
    · rw [List.mem_singleton.mp he]
      exact hs

/-- A cache with the settings of a known configuration may be shared. -/
theorem share (h : Coherent v w) (hc : Known v w c) {k : Nat} {cache : TemplateCache}
    (hk : w.caches.lookup k = some cache) (hfits : cache.Fits c.value) :
    Follows v w v { w with shared := some ⟨k, c.serial⟩ } where
  coherent := {
    known := fun c hc => ⟨(h.known c hc).lt, (h.known c hc).value⟩
    flawless := h.flawless
    stale := by
      rintro _ ⟨⟩
      exact hc.lt
    shared := by
      rintro _ ⟨⟩
      exact ⟨cache, hk, by rwa [hc.value]⟩
    fresh := h.fresh
    sound := h.sound }
  registry _ _ := rfl
  next := Nat.le_refl _
  caches _ cache hk := ⟨cache, hk, .refl cache⟩

/-! ### Actions -/

open QueryBinding.Action

theorem currentConfig (h : Coherent v w) : ∃ c v' w', Action.currentConfig.on w = (.ok c, w') ∧
    Follows v w v' w' ∧ w'.config = some c ∧ c.value = w.inForce := by
  cases hc : w.config with
  | some c =>
    exact ⟨c, v, w, on_currentConfig_some hc, h.refl, hc, (Workspace.inForce_of_config hc).symm⟩
  | none =>
    have hreg := h.register {}
    refine ⟨_, _, _, on_currentConfig_none hc,
      hreg.trans (hreg.coherent.force (known_register v w {}) rfl), rfl, ?_⟩
    rw [Workspace.inForce, hc]
    rfl

theorem installConfig (h : Coherent v w) (hc : Known v w c) : ∃ r w',
    (Action.installConfig c).on w = (r, w') ∧ Follows v w v w' ∧
      w'.inForce = if c.value.flaws = [] then c.value else w.inForce := by
  by_cases hflaws : c.value.flaws = []
  · have hf := h.force hc hflaws
    have ha := Workspace.agrees_deliver { w with config := some c } (updateNotice c.value)
    refine ⟨_, _, on_installConfig_accepted hflaws, hf.trans (hf.coherent.agrees ha), ?_⟩
    rw [ha.inForce, if_pos hflaws]
    rfl
  · exact ⟨_, w, on_installConfig_refused hflaws, h.refl, by rw [if_neg hflaws]⟩

theorem newConfig (h : Coherent v w) (c : Config) : ∃ t v' w',
    (Action.newConfig c).on w = (.ok t, w') ∧ Follows v w v' w' ∧ w'.inForce = w.inForce ∧
      Known v' w' t ∧ t.value = c :=
  ⟨_, _, _, on_newConfig c w, h.register c, rfl, known_register v w c, rfl⟩

theorem newCache (h : Coherent v w) (size : Int) (rules : Rules) (counted : Bool) : ∃ r w',
    (Action.newCache size rules counted).on w = (r, w') ∧ Follows v w v w' ∧
      w'.inForce = w.inForce := by
  cases hc : TemplateCache.create size rules counted with
  | error e => exact ⟨_, w, on_newCache_error hc, h.refl, rfl⟩
  | ok cache => exact ⟨_, _, on_newCache_ok hc, h.add (TemplateCache.rules_of_create hc).2, rfl⟩

/-- The shared cache is built for the configuration in force, and this succeeds. -/
theorem buildShared (h : Coherent v w) (hc : w.config = some c) : ∃ w',
    (Action.buildShared c).on w = (.ok w.next, w') ∧ Follows v w v w' ∧ w'.Serves w.next c := by
  have hsize := ((Config.flaws_eq_nil_iff c.value).mp (h.flawless c hc)).2
  obtain ⟨cache, hcreate⟩ :=
    TemplateCache.exists_create hsize c.value.parser.rules c.value.cache.counted
  have hfits := TemplateCache.fits_of_create hcreate
  have hadd := h.add (TemplateCache.rules_of_create hcreate).2
  have hlookup := h.lookup_addCache cache
  have hshare := hadd.coherent.share ((h.known c hc).of_follows hadd) hlookup hfits
  obtain ⟨w', hon, hagrees⟩ := on_buildShared (w := w) hcreate
  refine ⟨w', hon, (hadd.trans hshare).trans (hshare.coherent.agrees hagrees), ?_⟩
  exact ⟨hagrees.config.trans hc, hagrees.shared, cache, hagrees.caches ▸ hlookup, hfits⟩

theorem lt_next_of_shared (h : Coherent v w) {s : SharedCache} (hs : w.shared = some s) :
    s.cache < w.next := by
  obtain ⟨cache, hlookup, -⟩ := h.shared s hs
  obtain ⟨before, after, heq, -⟩ := List.lookup_eq_some_iff.mp hlookup
  exact h.fresh (s.cache, cache) (heq ▸ List.mem_append_right _ List.mem_cons_self)

/-- The shared cache has the settings in force. It is the former one if and only if the
configuration object is. -/
theorem sharedCache (h : Coherent v w) : ∃ k c v' w', Action.sharedCache.on w = (.ok k, w') ∧
    Follows v w v' w' ∧ w'.Serves k c ∧ c.value = w.inForce ∧
      (Action.currentConfig.on w).1 = .ok c ∧
        ∀ s, w.shared = some s → (k = s.cache ↔ c.serial = s.config) := by
  obtain ⟨c, v', w', hon, hf, hc, hvalue⟩ := h.currentConfig
  have hcurrent : (Action.currentConfig.on w).1 = .ok c := by rw [hon]
  have hshared : w'.shared = w.shared := by rw [← shared_currentConfig w, hon]
  by_cases hsame : ∃ s, w'.shared = some s ∧ s.config = c.serial
  · -- the object is the same, and so are the settings
    obtain ⟨s, hs, hserial⟩ := hsame
    obtain ⟨cache, hlookup, hfits⟩ := hf.coherent.shared s hs
    rw [hserial, (hf.coherent.known c hc).value] at hfits
    have hserves : w'.Serves s.cache c := ⟨hc, by rw [hs, ← hserial], cache, hlookup, hfits⟩
    refine ⟨s.cache, c, v', w', on_sharedCache_kept hon hs hserial, hf, hserves, hvalue,
      hcurrent, ?_⟩
    intro t ht
    obtain rfl : s = t := Option.some.inj (hs.symm.trans (hshared.trans ht))
    exact iff_of_true rfl hserial.symm
  · -- a new cache has a serial number of its own
    obtain ⟨w'', hb, hfb, hserves⟩ := hf.coherent.buildShared hc
    refine ⟨w'.next, c, v', w'', ?_, hf.trans hfb, hserves, hvalue, hcurrent, ?_⟩
    · rw [on_sharedCache_built hon fun s hs hserial => hsame ⟨s, hs, hserial⟩, hb]
    · intro s hs
      rw [← hshared] at hs
      refine iff_of_false ?_ fun hserial => hsame ⟨s, hs, hserial.symm⟩
      exact (Nat.ne_of_lt (hf.coherent.lt_next_of_shared hs)).symm

/-- A cache answers as its own rules say, and no other cache is touched. -/
theorem fetch (h : Coherent v w) (k : Nat) (sql : String) : ∃ r w',
    (Action.fetch k sql).on w = (r, w') ∧ Follows v w v w' ∧ w'.config = w.config ∧
      w'.shared = w.shared ∧ (∀ j, j ≠ k → w'.caches.lookup j = w.caches.lookup j) ∧
        ∀ cache, w.caches.lookup k = some cache →
          r.map Tagged.value = (Template.parse cache.rules sql).map Parsed.template := by
  cases hk : w.caches.lookup k with
  | none =>
    obtain ⟨r, w', hon, ha, -⟩ := on_fetch_none hk sql
    refine ⟨r, w', hon, h.agrees ha, ha.config, ha.shared, fun j _ => by rw [ha.caches], ?_⟩
    nofun
  | some cache =>
    have hs := h.sound_of_lookup hk
    have hput := h.put hk (cache.later_fetch sql w.next) (hs.fetch sql w.next)
    obtain ⟨r, w', hon, ha, hr⟩ := on_fetch_some hk sql
    refine ⟨r, w', hon, hput.trans (hput.coherent.agrees ha), ha.config, ha.shared, ?_, ?_⟩
    · intro j hj
      rw [ha.caches, Workspace.lookup_putCache, if_neg hj]
    · rintro _ ⟨⟩
      rw [hr, hs.fetch_eq]

theorem getCached (h : Coherent v w) (k : Nat) (sql : String) : ∃ r w',
    (Action.getCached k sql).on w = (r, w') ∧ Follows v w v w' ∧ w'.inForce = w.inForce := by
  cases hk : w.caches.lookup k with
  | none => exact ⟨_, w, on_getCached_none hk sql, h.refl, rfl⟩
  | some cache => exact ⟨_, _, on_getCached_some hk sql,
      h.put hk (cache.later_get sql) ((h.sound_of_lookup hk).get sql), rfl⟩

theorem clearCache (h : Coherent v w) (k : Nat) : ∃ r w',
    (Action.clearCache k).on w = (r, w') ∧ Follows v w v w' ∧ w'.inForce = w.inForce := by
  cases hk : w.caches.lookup k with
  | none => exact ⟨_, w, on_clearCache_none hk, h.refl, rfl⟩
  | some cache => exact ⟨_, _, on_clearCache_some hk,
      h.put hk cache.later_clear (TemplateCache.Sound.clear cache), rfl⟩

theorem clearShared (h : Coherent v w) : ∃ r w',
    Action.clearShared.on w = (r, w') ∧ Follows v w v w' ∧ w'.inForce = w.inForce := by
  cases hs : w.shared with
  | none => exact ⟨_, w, on_clearShared_none hs, h.refl, rfl⟩
  | some s =>
    rw [on_clearShared_some hs]
    exact h.clearCache s.cache

/-- A statement without a cache of its own is parsed by the rules in force. -/
theorem statement (h : Coherent v w) (sql : String) : ∃ r v' w',
    (Action.statement sql none).on w = (r, w') ∧ Follows v w v' w' ∧ w'.inForce = w.inForce ∧
      r.map Tagged.value =
        (Template.parse w.inForce.parser.rules sql).map Parsed.template := by
  obtain ⟨c, v₁, w₁, hon, hf, hc, hvalue⟩ := h.currentConfig
  have hforce : w₁.inForce = w.inForce := (Workspace.inForce_of_config hc).trans hvalue
  by_cases henabled : c.value.cache.enabled = true
  · obtain ⟨k, c', v₂, w₂, hshared, hf₂, hserves, hvalue', -⟩ := hf.coherent.sharedCache
    obtain ⟨cache, hlookup, hfits⟩ := hserves.fits
    have hforce₂ := (Workspace.inForce_of_config hserves.config).trans hvalue'
    obtain ⟨r, w₃, hfetch, hf₃, hconfig, -, -, hr⟩ := hf₂.coherent.fetch k sql
    refine ⟨r, v₂, w₃, ?_, (hf.trans hf₂).trans hf₃,
      (Workspace.inForce_congr hconfig).trans (hforce₂.trans hforce), ?_⟩
    · rw [Action.statement, on_bind_ok hon, if_pos henabled, on_bind_ok hshared]
      exact hfetch
    · rw [hr cache hlookup, hfits.rules, hvalue', hforce]
  · obtain ⟨r, w₂, hparse, ha, hr⟩ := on_parse c.value.parser.rules sql w₁
    refine ⟨r, v₁, w₂, ?_, hf.trans (hf.coherent.agrees ha), ha.inForce.trans hforce, ?_⟩
    · rw [Action.statement, on_bind_ok hon, if_neg henabled]
      exact hparse
    · rw [hr, hvalue]

end Coherent

end QueryBinding
