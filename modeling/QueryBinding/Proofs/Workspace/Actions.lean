import Mathlib.Tactic.Common
import QueryBinding.Workspace.Caches

/-! What actions do to a workspace, told as equations between its states before
and behind. Writing to the logs touches neither the configuration nor the caches. -/

namespace QueryBinding

/-- One serial number more is used up. -/
def Workspace.advance (w : Workspace) : Workspace := { w with next := w.next + 1 }

/-- A new cache. -/
def Workspace.addCache (w : Workspace) (c : TemplateCache) : Workspace :=
  { w.advance with caches := w.caches ++ [(w.next, c)] }

namespace Action

variable {α β : Type}

/-- The outcome of an action and the workspace that it leaves. -/
def on (a : Action α) (w : Workspace) : Except Error α × Workspace := (ExceptT.run a).run w

variable {a : Action α} {w w' : Workspace}

theorem on_get (w : Workspace) : (get : Action Workspace).on w = (.ok w, w) := rfl

theorem on_modify (f : Workspace → Workspace) (w : Workspace) :
    (modify f : Action Unit).on w = (.ok (), f w) := rfl

theorem on_lift (r : Except Error α) (w : Workspace) : (lift r).on w = (r, w) := by
  cases r <;> rfl

theorem on_fresh (w : Workspace) : fresh.on w = (.ok w.next, w.advance) := rfl

theorem on_emit (r : Record) (w : Workspace) : (emit r).on w = (.ok (), w.deliver r) := rfl

theorem on_bind_ok {x : α} (h : a.on w = (.ok x, w')) (f : α → Action β) :
    (a >>= f).on w = (f x).on w' := by
  have ha : (ExceptT.run a).run w = (.ok x, w') := h
  rw [on, ExceptT.run_bind, StateT.run_bind, ha]
  rfl

theorem on_bind_error {e : Error} (h : a.on w = (.error e, w')) (f : α → Action β) :
    (a >>= f).on w = (.error e, w') := by
  have ha : (ExceptT.run a).run w = (.error e, w') := h
  rw [on, ExceptT.run_bind, StateT.run_bind, ha]
  rfl

/-- What comes next is done where the first action left off, if it succeeded. -/
theorem on_bind (a : Action α) (f : α → Action β) (w : Workspace) : (a >>= f).on w =
    match a.on w with
    | (.ok x, w') => (f x).on w'
    | (.error e, w') => (.error e, w') := by
  cases hon : a.on w with
  | mk r w' =>
    cases r with
    | error e => exact on_bind_error hon f
    | ok x => exact on_bind_ok hon f

end Action

namespace Workspace

/-- The configuration in force, which is the default before any other. -/
def inForce (w : Workspace) : Config := (w.config.map Tagged.value).getD {}

theorem inForce_of_config {w : Workspace} {c : Tagged Config} (h : w.config = some c) :
    w.inForce = c.value := by
  rw [inForce, h]
  rfl

theorem inForce_congr {w w' : Workspace} (h : w'.config = w.config) : w'.inForce = w.inForce := by
  rw [inForce, h, inForce]

/-- Workspaces with the same configuration and the same caches. Serial numbers may
have been used up. -/
structure Agrees (w w' : Workspace) : Prop where
  config : w'.config = w.config
  shared : w'.shared = w.shared
  caches : w'.caches = w.caches
  next : w.next ≤ w'.next

namespace Agrees

variable {w w' w'' : Workspace}

theorem refl (w : Workspace) : w.Agrees w := ⟨rfl, rfl, rfl, Nat.le_refl _⟩

theorem trans (h : w.Agrees w') (h' : w'.Agrees w'') : w.Agrees w'' :=
  ⟨h'.config.trans h.config, h'.shared.trans h.shared, h'.caches.trans h.caches,
    Nat.le_trans h.next h'.next⟩

theorem inForce (h : w.Agrees w') : w'.inForce = w.inForce := inForce_congr h.config

end Agrees

/-- Another state of the cache with a serial number. -/
def putCache (w : Workspace) (serial : Nat) (c : TemplateCache) : Workspace :=
  { w with caches := w.caches.map fun e => if e.1 = serial then (serial, c) else e }

section PutCache

variable {w : Workspace} {serial : Nat} {c : TemplateCache}

theorem lookup_putCache (w : Workspace) (serial j : Nat) (c : TemplateCache) :
    (w.putCache serial c).caches.lookup j =
      if j = serial then (w.caches.lookup j).map fun _ => c else w.caches.lookup j := by
  rw [putCache]
  induction w.caches with
  | nil => simp
  | cons e es ih =>
    obtain ⟨i, d⟩ := e
    rw [List.map_cons, List.lookup_cons]
    by_cases hj : j = serial
    · subst hj
      by_cases hi : i = j
      · simp [hi]
      · have hne : (j == i) = false := by simpa using Ne.symm hi
        simp [hi, hne, List.lookup_cons, ih]
    · by_cases hi : i = serial
      · have hne : (j == serial) = false := by simpa using hj
        simp [hi, hj, hne, List.lookup_cons, ih]
      · simp [hi, hj, List.lookup_cons, ih]

theorem mem_putCache {e : Nat × TemplateCache} (h : e ∈ (w.putCache serial c).caches) :
    e ∈ w.caches ∨ e.2 = c ∧ ∃ d, (e.1, d) ∈ w.caches := by
  obtain ⟨d, hd, he⟩ := List.mem_map.mp h
  split_ifs at he with hs
  · subst he
    subst hs
    exact Or.inr ⟨rfl, d.2, hd⟩
  · exact Or.inl (he ▸ hd)

end PutCache

theorem agrees_send (r : Record) (w : Workspace) (h : Handler) : w.Agrees (w.send r h) := by
  unfold send
  cases h.sink <;> exact ⟨rfl, rfl, rfl, Nat.le_refl _⟩

theorem agrees_deliver (w : Workspace) (r : Record) : w.Agrees (w.deliver r) := by
  rw [deliver]
  induction w.hub.targets r.logger r.level generalizing w with
  | nil => exact Agrees.refl w
  | cons h hs ih => exact (agrees_send r w h).trans (ih (w.send r h))

/-- Records delivered one after the other. -/
def deliverAll (w : Workspace) (rs : List Record) : Workspace := rs.foldl deliver w

theorem agrees_deliverAll (w : Workspace) (rs : List Record) : w.Agrees (w.deliverAll rs) := by
  induction rs generalizing w with
  | nil => exact Agrees.refl w
  | cons r rs ih => exact (agrees_deliver w r).trans (ih (w.deliver r))

theorem agrees_advance (w : Workspace) : w.Agrees w.advance := ⟨rfl, rfl, rfl, Nat.le_succ _⟩

end Workspace

namespace Action

variable {w w' : Workspace}

/-- Records are delivered in the order in which they arise. -/
theorem on_forM_emit (f : β → Record) (xs : List β) (w : Workspace) :
    (xs.forM fun x => emit (f x) : Action Unit).on w = (.ok (), w.deliverAll (xs.map f)) := by
  induction xs generalizing w with
  | nil => rfl
  | cons x xs ih =>
    rw [List.forM_eq_forM, List.forM_cons, on_bind_ok (on_emit _ w)]
    exact ih (w.deliver (f x))

theorem on_reportColons (colons : List Nat) (w : Workspace) :
    (reportColons colons).on w = (.ok (), w.deliverAll (colons.map colonNotice)) :=
  on_forM_emit colonNotice colons w

theorem on_parse_error {rules : Rules} {sql : String} {e : Error}
    (h : Template.parse rules sql = .error e) (w : Workspace) :
    (parse rules sql).on w = (.error e, w) := by
  rw [parse, h]
  rfl

/-- The colons that were taken literally are noted before the template is handed over. -/
theorem on_parse_ok {rules : Rules} {sql : String} {parsed : Parsed}
    (h : Template.parse rules sql = .ok parsed) (w : Workspace) :
    (parse rules sql).on w =
      (.ok ⟨(w.deliverAll (parsed.colons.map colonNotice)).next, parsed.template⟩,
        (w.deliverAll (parsed.colons.map colonNotice)).advance) := by
  rw [parse, on_bind_ok (by rw [h]; rfl), on_bind_ok (on_reportColons _ w)]
  rfl

/-- Parsing gives what the parser gives, as an object of its own. -/
theorem on_parse (rules : Rules) (sql : String) (w : Workspace) :
    ∃ r w', (parse rules sql).on w = (r, w') ∧ w.Agrees w' ∧
      r.map Tagged.value = (Template.parse rules sql).map Parsed.template := by
  cases hp : Template.parse rules sql with
  | error e => exact ⟨.error e, w, on_parse_error hp w, Workspace.Agrees.refl w, rfl⟩
  | ok parsed =>
    exact ⟨_, _, on_parse_ok hp w, (w.agrees_deliverAll _).trans (Workspace.agrees_advance _), rfl⟩

/-! ### Configurations -/

theorem on_newConfig (c : Config) (w : Workspace) :
    (newConfig c).on w = (.ok ⟨w.next, c⟩, w.advance) := rfl

theorem on_currentConfig_some {c : Tagged Config} (h : w.config = some c) :
    currentConfig.on w = (.ok c, w) := by
  rw [currentConfig, on_bind_ok (on_get w), h]
  rfl

theorem on_currentConfig_none (h : w.config = none) : currentConfig.on w =
    (.ok ⟨w.next, {}⟩, { w.advance with config := some ⟨w.next, {}⟩ }) := by
  rw [currentConfig, on_bind_ok (on_get w), h]
  rfl

theorem shared_currentConfig (w : Workspace) : (currentConfig.on w).2.shared = w.shared := by
  cases h : w.config with
  | some c => rw [on_currentConfig_some h]
  | none => rw [on_currentConfig_none h]; rfl

theorem on_installConfig_refused {c : Tagged Config} (h : c.value.flaws ≠ []) :
    (installConfig c).on w = (.error (.configuration c.value.flaws), w) := by
  rw [installConfig, if_pos h]
  rfl

theorem on_installConfig_accepted {c : Tagged Config} (h : c.value.flaws = []) :
    (installConfig c).on w =
      (.ok (), Workspace.deliver { w with config := some c } (updateNotice c.value)) := by
  rw [installConfig, if_neg (not_not_intro h)]
  rfl

/-! ### Caches -/

theorem on_newCache_ok {size : Int} {rules : Rules} {counted : Bool} {c : TemplateCache}
    (h : TemplateCache.create size rules counted = .ok c) :
    (newCache size rules counted).on w = (.ok w.next, w.addCache c) := by
  rw [newCache, h]
  rfl

theorem on_newCache_error {size : Int} {rules : Rules} {counted : Bool} {e : Error}
    (h : TemplateCache.create size rules counted = .error e) :
    (newCache size rules counted).on w = (.error e, w) := by
  rw [newCache, h]
  rfl

theorem on_onCache_none {serial : Nat} {f : TemplateCache → β × TemplateCache}
    (h : w.caches.lookup serial = none) : (onCache serial f).on w = (.ok none, w) := by
  have hcache : (cache? serial).on w = (.ok none, w) := by
    rw [cache?, on_bind_ok (on_get w), h]
    rfl
  rw [onCache, on_bind_ok hcache]
  rfl

theorem on_onCache_some {serial : Nat} {f : TemplateCache → β × TemplateCache} {c : TemplateCache}
    (h : w.caches.lookup serial = some c) :
    (onCache serial f).on w = (.ok (some (f c).1), w.putCache serial (f c).2) := by
  have hcache : (cache? serial).on w = (.ok (some c), w) := by
    rw [cache?, on_bind_ok (on_get w), h]
    rfl
  rw [onCache, on_bind_ok hcache]
  rfl

/-- Fetching answers as the cache does and puts the cache into its next state. -/
theorem on_fetch_some {serial : Nat} {c : TemplateCache} (h : w.caches.lookup serial = some c)
    (sql : String) : ∃ r w', (fetch serial sql).on w = (r, w') ∧
      (w.putCache serial (c.fetch sql w.next).2).Agrees w' ∧
      r.map Tagged.value = (c.fetch sql w.next).1.map (·.template.value) := by
  have hcache : (onCache serial fun c => c.fetch sql w.next).on w.advance =
      (.ok (some (c.fetch sql w.next).1), w.advance.putCache serial (c.fetch sql w.next).2) :=
    on_onCache_some h
  have hnext : (w.putCache serial (c.fetch sql w.next).2).Agrees
      (w.advance.putCache serial (c.fetch sql w.next).2) := Workspace.agrees_advance _
  rw [fetch, on_bind_ok (on_fresh w), on_bind_ok hcache]
  cases (c.fetch sql w.next).1 with
  | error e => exact ⟨.error e, _, on_bind_error (on_lift _ _) _, hnext, rfl⟩
  | ok fetched =>
    refine ⟨.ok fetched.template, _, ?_,
      hnext.trans (Workspace.agrees_deliverAll _ (fetched.colons.map colonNotice)), rfl⟩
    simp only
    rw [on_bind_ok (on_lift _ _), on_bind_ok (on_reportColons fetched.colons _)]
    rfl

theorem on_fetch_none {serial : Nat} (h : w.caches.lookup serial = none) (sql : String) :
    ∃ r w', (fetch serial sql).on w = (r, w') ∧ w.Agrees w' ∧
      r.map Tagged.value = (Template.parse {} sql).map Parsed.template := by
  have hcache : (onCache serial fun c => c.fetch sql w.next).on w.advance =
      (.ok none, w.advance) := on_onCache_none h
  obtain ⟨r, w', hon, hagrees, hr⟩ := on_parse {} sql w.advance
  refine ⟨r, w', ?_, (Workspace.agrees_advance w).trans hagrees, hr⟩
  rw [fetch, on_bind_ok (on_fresh w), on_bind_ok hcache]
  exact hon

theorem on_getCached_some {serial : Nat} {c : TemplateCache} (h : w.caches.lookup serial = some c)
    (sql : String) :
    (getCached serial sql).on w = (.ok (c.get sql).1, w.putCache serial (c.get sql).2) := by
  rw [getCached, on_bind_ok (on_onCache_some h)]
  rfl

theorem on_getCached_none {serial : Nat} (h : w.caches.lookup serial = none) (sql : String) :
    (getCached serial sql).on w = (.ok none, w) := by
  rw [getCached, on_bind_ok (on_onCache_none h)]
  rfl

theorem on_clearCache_some {serial : Nat} {c : TemplateCache}
    (h : w.caches.lookup serial = some c) :
    (clearCache serial).on w = (.ok (), w.putCache serial c.clear) := by
  rw [clearCache, on_bind_ok (on_onCache_some h)]
  rfl

theorem on_clearCache_none {serial : Nat} (h : w.caches.lookup serial = none) :
    (clearCache serial).on w = (.ok (), w) := by
  rw [clearCache, on_bind_ok (on_onCache_none h)]
  rfl

theorem on_clearShared_some {s : SharedCache} (h : w.shared = some s) :
    clearShared.on w = (clearCache s.cache).on w := by
  rw [clearShared, on_bind_ok (on_get w), h]

theorem on_clearShared_none (h : w.shared = none) : clearShared.on w = (.ok (), w) := by
  rw [clearShared, on_bind_ok (on_get w), h]
  rfl

/-- A shared cache is built from the configuration at hand and noted with it. -/
theorem on_buildShared {t : Tagged Config} {c : TemplateCache}
    (h : TemplateCache.create t.value.cache.maxSize t.value.parser.rules t.value.cache.counted =
      .ok c) : ∃ w', (buildShared t).on w = (.ok w.next, w') ∧
        ({ w.addCache c with shared := some ⟨w.next, t.serial⟩ } : Workspace).Agrees w' := by
  refine ⟨_, ?_, Workspace.agrees_deliver _ (cacheNotice t.value.cache.maxSize)⟩
  rw [buildShared, on_bind_ok (on_newCache_ok h)]
  rfl

/-- The shared cache stays the same as long as the configuration object does. -/
theorem on_sharedCache_kept {c : Tagged Config} (hon : currentConfig.on w = (.ok c, w'))
    {s : SharedCache} (hs : w'.shared = some s) (h : s.config = c.serial) :
    sharedCache.on w = (.ok s.cache, w') := by
  rw [sharedCache, on_bind_ok hon, on_bind_ok (on_get w'), hs]
  simp only
  rw [if_pos h]
  rfl

theorem on_sharedCache_built {c : Tagged Config} (hon : currentConfig.on w = (.ok c, w'))
    (h : ∀ s, w'.shared = some s → s.config ≠ c.serial) :
    sharedCache.on w = (buildShared c).on w' := by
  rw [sharedCache, on_bind_ok hon, on_bind_ok (on_get w')]
  cases hs : w'.shared with
  | none => rfl
  | some s =>
    simp only
    rw [if_neg (h s hs)]

end Action

end QueryBinding
