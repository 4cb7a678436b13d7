import QueryBinding.Proofs.Workspace.Process
import QueryBinding.Proofs.Workspace.Strictness

/-! How long the shared cache lasts. It is looked for by whoever asks for it and by the
statements that are parsed while caching is on, and nothing else builds, replaces or drops
it. A configuration that comes into force is therefore noticed at the next use only, and by
its identity: if by then the former object is back in force, the cache stays, but an equal
object does not keep it. -/

namespace QueryBinding

/-! ### Reports about the configuration -/

namespace Template

theorem not_raises_configuration (rules : Rules) (sql : String) :
    ¬ Raises .configuration (parse rules sql) := by
  cases hp : parse rules sql with
  | ok parsed => exact not_raises_ok
  | error e =>
    obtain ⟨m, rfl⟩ | ⟨i, rfl⟩ := parse_error_cases hp
    · obtain ⟨f, hf, hcls⟩ := Error.fault?_tooLong sql.length m
      rw [raises_error_iff hf, hcls]
      decide
    · obtain ⟨f, hf, hcls, -⟩ := Error.fault?_malformed i sql
      rw [raises_error_iff hf, hcls]
      decide

theorem raises_map_iff {α β : Type} {cls : FaultClass} {f : α → β} {r : Except Error α} :
    Raises cls (r.map f) ↔ Raises cls r := by
  cases r with
  | error e => simp only [Raises, Except.map, Except.error.injEq]
  | ok x => exact iff_of_false not_raises_ok not_raises_ok

end Template

namespace Action

theorem raises_installConfig_iff (c : Tagged Config) (w : Workspace) :
    Template.Raises .configuration ((installConfig c).on w).1 ↔ c.value.flaws ≠ [] := by
  by_cases h : c.value.flaws = []
  · rw [on_installConfig_accepted h]
    exact iff_of_false Template.not_raises_ok (not_not_intro h)
  · obtain ⟨f, hf, hcls⟩ := Error.fault?_configuration c.value.flaws
    rw [on_installConfig_refused h]
    exact iff_of_true ((Template.raises_error_iff hf).mpr hcls) h

/-! ### Actions that leave the shared cache alone -/

theorem shared_installConfig (c : Tagged Config) (w : Workspace) :
    ((installConfig c).on w).2.shared = w.shared := by
  by_cases h : c.value.flaws = []
  · rw [on_installConfig_accepted h]
    exact (Workspace.agrees_deliver _ _).shared
  · rw [on_installConfig_refused h]

theorem shared_newCache (size : ℤ) (rules : Rules) (counted : Bool) (w : Workspace) :
    ((newCache size rules counted).on w).2.shared = w.shared := by
  cases h : TemplateCache.create size rules counted with
  | ok c =>
    rw [on_newCache_ok h]
    rfl
  | error e => rw [on_newCache_error h]

theorem shared_parse (rules : Rules) (sql : String) (w : Workspace) :
    ((parse rules sql).on w).2.shared = w.shared := by
  obtain ⟨r, w', hon, hagrees, -⟩ := on_parse rules sql w
  rw [hon]
  exact hagrees.shared

theorem shared_fetch (k : ℕ) (sql : String) (w : Workspace) :
    ((fetch k sql).on w).2.shared = w.shared := by
  cases h : w.caches.lookup k with
  | none =>
    obtain ⟨r, w', hon, hagrees, -⟩ := on_fetch_none h sql
    rw [hon]
    exact hagrees.shared
  | some c =>
    obtain ⟨r, w', hon, hagrees, -⟩ := on_fetch_some h sql
    rw [hon]
    exact hagrees.shared

theorem shared_getCached (k : ℕ) (sql : String) (w : Workspace) :
    ((getCached k sql).on w).2.shared = w.shared := by
  cases h : w.caches.lookup k with
  | none => rw [on_getCached_none h]
  | some c =>
    rw [on_getCached_some h]
    rfl

theorem shared_clearCache (k : ℕ) (w : Workspace) :
    ((clearCache k).on w).2.shared = w.shared := by
  cases h : w.caches.lookup k with
  | none => rw [on_clearCache_none h]
  | some c =>
    rw [on_clearCache_some h]
    rfl

theorem shared_clearShared (w : Workspace) : (clearShared.on w).2.shared = w.shared := by
  cases h : w.shared with
  | none => rw [on_clearShared_none h, h]
  | some s => rw [on_clearShared_some h, shared_clearCache, h]

end Action

namespace Coherent

open QueryBinding.Action

variable {v : Registry} {w : Workspace}

theorem valid (h : Coherent v w) :
    0 < w.inForce.parser.maxLength ∧ 0 < w.inForce.cache.maxSize := by
  obtain ⟨c, v', w', -, hf, hc, hvalue⟩ := h.currentConfig
  rw [← hvalue, ← Config.flaws_eq_nil_iff]
  exact hf.coherent.flawless c hc

/-- Without caching a statement is parsed on its own. -/
theorem shared_statement (h : Coherent v w) (hoff : ¬ w.inForce.cache.enabled = true)
    (sql : String) : ((Action.statement sql none).on w).2.shared = w.shared := by
  obtain ⟨c, v', w', hon, -, -, hvalue⟩ := h.currentConfig
  rw [← hvalue] at hoff
  rw [Action.statement, on_bind_ok hon, if_neg hoff, shared_parse, ← shared_currentConfig w, hon]

/-- With caching a statement is fetched from the shared cache. -/
theorem statement_eq_fetch (h : Coherent v w) (henabled : w.inForce.cache.enabled = true)
    (sql : String) : (Action.statement sql none).on w =
      (Action.sharedCache >>= fun k => Action.fetch k sql).on w := by
  obtain ⟨c, v', w', hon, hf, hc, hvalue⟩ := h.currentConfig
  obtain ⟨k, c', v'', w'', hshared, -⟩ := hf.coherent.sharedCache
  have hsame : Action.sharedCache.on w = Action.sharedCache.on w' := by
    rw [Action.sharedCache, on_bind_ok hon, on_bind_ok (on_currentConfig_some hc)]
  rw [← hvalue] at henabled
  rw [Action.statement, on_bind_ok hon, if_pos henabled, on_bind_ok hshared,
    on_bind_ok (hsame.trans hshared)]

theorem not_raises_statement (h : Coherent v w) (sql : String) (cache : Option ℕ) :
    ¬ Template.Raises .configuration ((Action.statement sql cache).on w).1 := by
  rw [← Template.raises_map_iff (f := Tagged.value)]
  have hparse : ∃ rules, ((Action.statement sql cache).on w).1.map Tagged.value =
      (Template.parse rules sql).map Parsed.template := by
    cases cache with
    | none =>
      obtain ⟨r, v', w', hon, -, -, hr⟩ := h.statement sql
      exact ⟨_, by rw [hon, hr]⟩
    | some k =>
      show ∃ rules, ((Action.fetch k sql).on w).1.map Tagged.value = _
      cases hk : w.caches.lookup k with
      | none =>
        obtain ⟨r, w', hon, -, hr⟩ := on_fetch_none hk sql
        exact ⟨_, by rw [hon, hr]⟩
      | some c =>
        obtain ⟨r, w', hon, -, -, -, -, hr⟩ := h.fetch k sql
        exact ⟨_, by rw [hon, hr c hk]⟩
  obtain ⟨rules, heq⟩ := hparse
  rw [heq, Template.raises_map_iff]
  exact Template.not_raises_configuration rules sql

end Coherent

namespace Process

/-! ### Uses of the shared cache -/

/-- The operation looks for the shared cache. -/
def Uses (p : Process) : Operation → Prop
  | .shared => True
  | .statement _ none => p.world.inForce.cache.enabled = true
  | _ => False

/-- None of the operations looks for the shared cache. -/
def Idle (p : Process) : List Operation → Prop
  | [] => True
  | op :: ops => ¬ p.Uses op ∧ (p.step op).Idle ops

/-- The serial number of the cache that a use gets. -/
def cacheObject (p : Process) : Except Error ℕ := (Action.sharedCache.on p.world).1

/-- The serial number of the configuration in force. -/
def configObject (p : Process) : Except Error ℕ :=
  (Action.currentConfig.on p.world).1.map Tagged.serial

namespace Matches

variable {v : Registry} {p : Process} {o : Outline}

theorem shared_step (h : Matches v p o) {op : Operation} (hop : ¬ p.Uses op) :
    (p.step op).world.shared = p.world.shared := by
  cases op with
  | newConfig c => rfl
  | install k =>
    simp only [Process.step]
    cases p.configs[k]? with
    | none => rfl
    | some c => exact Action.shared_installConfig c p.world
  | current => exact Action.shared_currentConfig p.world
  | newCache size rules counted => exact Action.shared_newCache size rules counted p.world
  | shared => exact absurd trivial hop
  | clearShared => exact Action.shared_clearShared p.world
  | get k sql => exact Action.shared_getCached k sql p.world
  | fetch k sql => exact Action.shared_fetch k sql p.world
  | clear k => exact Action.shared_clearCache k p.world
  | statement sql cache =>
    cases cache with
    | none => exact h.coherent.shared_statement hop sql
    | some k => exact Action.shared_fetch k sql p.world

theorem shared_idle (h : Matches v p o) {ops : List Operation} (hops : p.Idle ops) :
    (ops.foldl Process.step p).world.shared = p.world.shared := by
  induction ops generalizing v p o with
  | nil => rfl
  | cons op ops ih =>
    obtain ⟨v', h', -⟩ := h.step op
    exact (ih h' hops.2).trans (h.shared_step hops.1)

/-- A use leaves the cache that it gets behind, noted with the configuration in force. -/
theorem shared_use (h : Matches v p o) {use : Operation} (huse : p.Uses use) :
    ∃ k i, p.cacheObject = .ok k ∧ p.configObject = .ok i ∧
      (p.step use).world.shared = some ⟨k, i⟩ := by
  obtain ⟨k, c, v', w', hon, -, hserves, -, hcurrent, -⟩ := h.coherent.sharedCache
  refine ⟨k, c.serial, by rw [cacheObject, hon], by rw [configObject, hcurrent]; rfl, ?_⟩
  unfold Uses at huse
  split at huse
  · rw [Process.step, after, hon]
    exact hserves.shared
  · rename_i sql
    rw [Process.step, after, h.coherent.statement_eq_fetch huse sql, Action.on_bind_ok hon,
      Action.shared_fetch]
    exact hserves.shared
  · exact huse.elim

/-- Two uses with none between get the same cache if and only if they find the same
configuration object in force. -/
theorem cacheObject_eq_iff (h : Matches v p o) {use : Operation} {between : List Operation}
    (huse : p.Uses use) (hidle : (p.step use).Idle between) :
    ((use :: between).foldl Process.step p).cacheObject = p.cacheObject ↔
      ((use :: between).foldl Process.step p).configObject = p.configObject := by
  obtain ⟨k, i, hk, hi, hshared⟩ := h.shared_use huse
  obtain ⟨v', h', -⟩ := h.step use
  -- the second use still finds what the first one noted
  have hkept := (h'.shared_idle hidle).trans hshared
  obtain ⟨v'', h'', -⟩ := h'.foldl between
  obtain ⟨k', c, v₃, w₃, hon, -, -, -, hcurrent, hsame⟩ := h''.coherent.sharedCache
  rw [List.foldl_cons, hk, hi, cacheObject, hon, configObject, hcurrent]
  show (Except.ok k' : Except Error ℕ) = .ok k ↔ (Except.ok c.serial : Except Error ℕ) = .ok i
  rw [Except.ok.injEq, Except.ok.injEq]
  exact hsame _ hkept

end Matches

/-! ### The configuration in force -/

/-- A process under a valid configuration, with a shared cache that follows it. -/
structure Governed (p : Process) : Prop where
  current : ∃ c, (Action.currentConfig.on p.world).1 = .ok c ∧ c.value = p.world.inForce
  valid : 0 < p.world.inForce.parser.maxLength ∧ 0 < p.world.inForce.cache.maxSize
  refused_iff (c : Tagged Config) :
    Template.Raises .configuration ((Action.installConfig c).on p.world).1 ↔
      ¬ (0 < c.value.parser.maxLength ∧ 0 < c.value.cache.maxSize)
  /-- A configuration that is refused changes nothing at all. -/
  refused (c : Tagged Config) :
    Template.Raises .configuration ((Action.installConfig c).on p.world).1 →
      ((Action.installConfig c).on p.world).2 = p.world
  /-- One that is not comes into force and leaves the caches to be. -/
  accepted (c : Tagged Config) : 0 < c.value.parser.maxLength ∧ 0 < c.value.cache.maxSize →
    ∃ w', (Action.installConfig c).on p.world = (.ok (), w') ∧
      Workspace.Agrees { p.world with config := some c } w'
  reinstalled (c : Tagged Config) : p.world.config = some c →
    p.world.Agrees ((Action.installConfig c).on p.world).2
  shared : ∃ k cache w', Action.sharedCache.on p.world = (.ok k, w') ∧
    w'.inForce = p.world.inForce ∧ w'.caches.lookup k = some cache ∧ cache.Fits p.world.inForce
  /-- A statement uses the cache that is handed out to others. -/
  plain (sql : String) : p.world.inForce.cache.enabled = true →
    (Action.statement sql none).on p.world =
      (Action.sharedCache >>= fun k => Action.fetch k sql).on p.world
  statement (sql : String) (cache : Option ℕ) :
    ¬ Template.Raises .configuration ((Action.statement sql cache).on p.world).1
  /-- Consecutive uses get one cache if and only if they find one configuration object. -/
  same_iff (use : Operation) (between : List Operation) : p.Uses use →
    (p.step use).Idle between →
      (((use :: between).foldl step p).cacheObject = p.cacheObject ↔
        ((use :: between).foldl step p).configObject = p.configObject)

/-- Whatever was done, the configuration in force is valid, and the shared cache follows
it. -/
theorem governed (w : Workspace) (ops : List Operation) : Governed (run w ops) := by
  obtain ⟨v, h, -⟩ := (Matches.start (fun _ => {}) w).foldl ops
  change Matches v (run w ops) _ at h
  generalize run w ops = p at h
  have haccepted : ∀ c : Tagged Config, c.value.flaws = [] →
      ∃ w', (Action.installConfig c).on p.world = (.ok (), w') ∧
        Workspace.Agrees { p.world with config := some c } w' := fun c hflaws =>
    ⟨_, Action.on_installConfig_accepted hflaws, Workspace.agrees_deliver _ _⟩
  constructor
  · obtain ⟨c, v', w', hon, -, -, hvalue⟩ := h.coherent.currentConfig
    exact ⟨c, by rw [hon], hvalue⟩
  · exact h.coherent.valid
  · intro c
    rw [Action.raises_installConfig_iff, ← Config.flaws_eq_nil_iff]
  · intro c hraises
    rw [Action.on_installConfig_refused ((Action.raises_installConfig_iff c _).mp hraises)]
  · exact fun c hvalid => haccepted c ((Config.flaws_eq_nil_iff c.value).mpr hvalid)
  · intro c hc
    obtain ⟨w', hon, hagrees⟩ := haccepted c (h.coherent.flawless c hc)
    have hsame : ({ p.world with config := some c } : Workspace) = p.world := by rw [← hc]
    rw [hon]
    exact hsame ▸ hagrees
  · obtain ⟨k, c, v', w', hon, -, hserves, hvalue, -⟩ := h.coherent.sharedCache
    obtain ⟨cache, hlookup, hfits⟩ := hserves.fits
    refine ⟨k, cache, w', hon, ?_, hlookup, hvalue ▸ hfits⟩
    exact (Workspace.inForce_of_config hserves.config).trans hvalue
  · exact fun sql henabled => h.coherent.statement_eq_fetch henabled sql
  · exact h.coherent.not_raises_statement
  · exact fun use between huse hidle => h.cacheObject_eq_iff huse hidle

/-- The configuration was replaced and put back between two uses. -/
example : ((run {} [.newConfig {}, .newConfig {}, .install 0]).cacheObject,
    (run {} [.newConfig {}, .newConfig {}, .install 0, .shared, .install 1,
      .install 0]).cacheObject) = (.ok 2, .ok 2) := rfl

/-- An equal configuration is another object. -/
example : (run {} [.newConfig {}, .newConfig {}, .install 0, .shared, .install 1]).cacheObject =
    .ok 3 := rfl

end Process

end QueryBinding
