import Mathlib.Data.List.Induction
import QueryBinding.Proofs.Cache.Window
import QueryBinding.Proofs.Files.Path
import QueryBinding.Proofs.Workspace.Loading

/-! Loads of resources between changes to the files. The keys of the loads that gave a
text, in the order of their last use, tell what is remembered: the last of them, as many as
there is room for. What is remembered is the text that was read when its key last came in,
whatever became of the file, and everything else is read anew. A load that fails is as if
it had not been, so that a resource is found as soon as it is there. -/

namespace QueryBinding

namespace Action

variable {α β : Type}

/-! ### Actions that leave the remembered resources alone -/

/-- The action neither remembers a resource nor uses one. -/
def Spares (a : Action α) : Prop := ∀ w, (a.on w).2.resources = w.resources

theorem Spares.bind {a : Action α} {f : α → Action β} (ha : a.Spares) (hf : ∀ x, (f x).Spares) :
    Spares (a >>= f) := by
  intro w
  have hw := ha w
  rw [on_bind]
  cases hon : a.on w with
  | mk r w' =>
    rw [hon] at hw
    cases r with
    | error e => exact hw
    | ok x => exact (hf x w').trans hw

theorem spares_pure (x : α) : Spares (pure x) := fun _ => rfl

theorem spares_throw (e : Error) : Spares (throw e : Action α) := fun _ => rfl

theorem spares_get : Spares get := fun _ => rfl

theorem spares_lift (r : Except Error α) : Spares (lift r) := fun w => by rw [on_lift]

theorem spares_modify {f : Workspace → Workspace} (h : ∀ w, (f w).resources = w.resources) :
    Spares (modify f) := h

theorem spares_emit (r : Record) : Spares (emit r) := fun w => Workspace.resources_deliver w r

theorem spares_reportColons (colons : List Nat) : Spares (reportColons colons) := by
  induction colons with
  | nil => exact spares_pure ()
  | cons i is ih =>
    rw [reportColons, List.forM_eq_forM, List.forM_cons]
    exact (spares_emit _).bind fun _ => ih

theorem spares_fresh : Spares fresh := fun _ => rfl

theorem spares_parse (rules : Rules) (sql : String) : Spares (parse rules sql) :=
  (spares_lift _).bind fun _ => (spares_reportColons _).bind fun _ =>
    spares_fresh.bind fun _ => spares_pure _

theorem spares_currentConfig : Spares currentConfig := by
  refine spares_get.bind fun w => ?_
  cases w.config with
  | some c => exact spares_pure c
  | none =>
    exact (spares_fresh.bind fun _ => spares_pure _).bind fun _ =>
      Spares.bind (spares_modify fun _ => rfl) fun _ => spares_pure _

theorem spares_onCache (serial : Nat) (f : TemplateCache → β × TemplateCache) :
    Spares (onCache serial f) := by
  refine (spares_get.bind fun _ => spares_pure _).bind fun cache => ?_
  cases cache with
  | none => exact spares_pure none
  | some c => exact Spares.bind (spares_modify fun _ => rfl) fun _ => spares_pure _

theorem spares_fetch (serial : Nat) (sql : String) : Spares (fetch serial sql) := by
  refine spares_fresh.bind fun tag => (spares_onCache serial _).bind fun outcome => ?_
  cases outcome with
  | none => exact spares_parse {} sql
  | some outcome =>
    exact (spares_lift _).bind fun _ => (spares_reportColons _).bind fun _ => spares_pure _

theorem spares_buildShared (c : Tagged Config) : Spares (buildShared c) := by
  have hnew : Spares (newCache c.value.cache.maxSize c.value.parser.rules c.value.cache.counted) :=
    (spares_lift _).bind fun _ => spares_fresh.bind fun _ =>
      Spares.bind (spares_modify fun _ => rfl) fun _ => spares_pure _
  exact hnew.bind fun _ => Spares.bind (spares_modify fun _ => rfl) fun _ =>
    (spares_emit _).bind fun _ => spares_pure _

theorem spares_sharedCache : Spares sharedCache := by
  refine spares_currentConfig.bind fun c => spares_get.bind fun w => ?_
  cases w.shared with
  | none => exact spares_buildShared c
  | some s =>
    simp only
    split_ifs
    · exact spares_pure _
    · exact spares_buildShared c

theorem spares_statement (sql : String) (cache : Option Nat) : Spares (statement sql cache) := by
  cases cache with
  | some serial => exact spares_fetch serial sql
  | none =>
    refine spares_currentConfig.bind fun c => ?_
    split_ifs
    · exact spares_sharedCache.bind fun serial => spares_fetch serial sql
    · exact spares_parse _ sql

theorem spares_writeFile (path : String) (bytes : List UInt8) : Spares (writeFile path bytes) := by
  refine spares_get.bind fun w => ?_
  generalize w.files.write (Path.normal path) bytes = written
  refine Spares.bind (spares_modify fun _ => rfl) fun _ => ?_
  obtain ⟨files, _ | obstacle⟩ := written
  · exact spares_pure ()
  · exact spares_throw _

theorem spares_unlinkFile (path : String) : Spares (unlinkFile path) := by
  refine spares_get.bind fun w => ?_
  cases w.files.unlink (Path.normal path) with
  | error obstacle => exact spares_throw _
  | ok files => exact spares_modify fun _ => rfl

end Action

/-! ### Runs -/

/-- What happens to files and resources. -/
inductive Deed where
  | write (path : String) (bytes : List UInt8)
  | unlink (path : String)
  | load (key : ResourceKey)
  | statement (package resource : String) (cache : Option Nat)

namespace Deed

/-- The resource that is loaded. -/
def key? : Deed → Option ResourceKey
  | write _ _ => none
  | unlink _ => none
  | load key => some key
  | statement package resource _ => some ⟨package, resource, Action.defaultEncoding⟩

/-- The workspace behind a deed, whether it succeeds or not. -/
def after (w : Workspace) : Deed → Workspace
  | write path bytes => ((Action.writeFile path bytes).on w).2
  | unlink path => ((Action.unlinkFile path).on w).2
  | load key => ((Action.loadResource key).on w).2
  | statement package resource cache =>
    ((Action.statementOfResource package resource cache).on w).2

/-- A deed that loads nothing leaves the remembered resources alone. -/
theorem resources_of_none {d : Deed} (h : d.key? = none) (w : Workspace) :
    (d.after w).resources = w.resources := by
  cases d with
  | write path bytes => exact Action.spares_writeFile path bytes w
  | unlink path => exact Action.spares_unlinkFile path w
  | load key => cases h
  | statement package resource cache => cases h

/-- Whoever loads a resource, it is the load that counts. -/
theorem resources_of_some {d : Deed} {key : ResourceKey} (h : d.key? = some key) (w : Workspace) :
    (d.after w).resources = ((Action.loadResource key).on w).2.resources := by
  cases d with
  | write path bytes => cases h
  | unlink path => cases h
  | load key =>
    cases h
    rfl
  | statement package resource cache =>
    cases h
    rw [after, Action.statementOfResource, Action.on_bind]
    cases (Action.loadResource ⟨package, resource, Action.defaultEncoding⟩).on w with
    | mk r w' =>
      cases r with
      | error e => rfl
      | ok text => exact Action.spares_statement text cache w'

end Deed

/-- A workspace with the keys of its resources by their last load that gave a text. -/
structure Shelf where
  world : Workspace
  keys : List ResourceKey

namespace Shelf

def step (s : Shelf) (d : Deed) : Shelf where
  world := d.after s.world
  keys := match d.key? with
    | some key =>
      if ((Action.loadResource key).on s.world).1.isOk then Lru.used s.keys key else s.keys
    | none => s.keys

theorem keys_step_of_none {d : Deed} (h : d.key? = none) (s : Shelf) :
    (s.step d).keys = s.keys := by rw [step, h]

theorem keys_step_of_some {d : Deed} {key : ResourceKey} (h : d.key? = some key) (s : Shelf) :
    (s.step d).keys = if ((Action.loadResource key).on s.world).1.isOk
      then Lru.used s.keys key else s.keys := by rw [step, h]

/-- The keys that were used last, as many as there is room for. -/
def window (s : Shelf) : List ResourceKey := s.keys.rtake 256

/-- A workspace in which no resource was loaded. -/
def start (w : Workspace) : Shelf := ⟨{ w with resources := Lru.empty 256 (by decide) }, []⟩

def run (w : Workspace) (ds : List Deed) : Shelf := ds.foldl step (start w)

theorem run_concat (w : Workspace) (ds : List Deed) (d : Deed) :
    run w (ds ++ [d]) = (run w ds).step d := List.foldl_concat _ _ _ _

/-- The remembered resources are those of the window. -/
structure Tracks (s : Shelf) : Prop where
  capacity : s.world.resources.capacity = 256
  follows : s.world.resources.Follows s.keys

namespace Tracks

variable {s : Shelf} {key : ResourceKey} {d : Deed}

theorem start (w : Workspace) : (start w).Tracks :=
  ⟨rfl, (List.rtake_nil _).symm, List.nodup_nil⟩

theorem keys_eq (h : s.Tracks) : s.world.resources.keys = s.window := by
  rw [h.follows.keys_eq, h.capacity, window]

theorem find?_eq_none_iff (h : s.Tracks) :
    s.world.resources.find? key = none ↔ key ∉ s.window := by
  rw [Lru.find?_eq_none_iff, h.keys_eq]

theorem exists_find? (h : s.Tracks) (hk : key ∈ s.window) :
    ∃ text, s.world.resources.find? key = some text := by
  rwa [← Option.isSome_iff_exists, Lru.find?_isSome_iff, h.keys_eq]

/-- A load finds its resource, reads it to a text or fails. -/
theorem load_cases (h : s.Tracks) (key : ResourceKey) :
    (key ∈ s.window ∧ ∃ text, s.world.resources.find? key = some text ∧
      (Action.loadResource key).on s.world = (.ok text, s.world.reuse key)) ∨
    (key ∉ s.window ∧ ∃ text, s.world.Holds key text ∧
      (Action.loadResource key).on s.world = (.ok text, s.world.shelve key text)) ∨
    (key ∉ s.window ∧ ∃ e modules, s.world.reading key = .error e ∧
      (Action.loadResource key).on s.world = (.error e, { s.world with modules })) := by
  by_cases hk : key ∈ s.window
  · obtain ⟨text, hf⟩ := h.exists_find? hk
    exact Or.inl ⟨hk, text, hf, Action.loadResource_remembered hf⟩
  right
  have hf := h.find?_eq_none_iff.mpr hk
  cases hr : s.world.reading key with
  | ok text =>
    have ht := Workspace.reading_eq_ok_iff.mp hr
    exact Or.inl ⟨hk, text, ht, Action.loadResource_holds hf ht⟩
  | error e =>
    obtain ⟨modules, hon⟩ := Action.loadResource_failed hf hr
    exact Or.inr ⟨hk, e, modules, rfl, hon⟩

theorem step (h : s.Tracks) (d : Deed) : (s.step d).Tracks := by
  cases hd : d.key? with
  | none =>
    have hkeys := keys_step_of_none hd s
    have hresources : (s.step d).world.resources = s.world.resources := d.resources_of_none hd _
    refine ⟨by rw [hresources, h.capacity], ?_⟩
    rw [hresources, hkeys]
    exact h.follows
  | some key =>
    have hkeys := keys_step_of_some hd s
    have hresources : (s.step d).world.resources =
        ((Action.loadResource key).on s.world).2.resources := d.resources_of_some hd _
    obtain ⟨-, text, hf, hon⟩ | ⟨hk, text, -, hon⟩ | ⟨-, e, modules, -, hon⟩ := h.load_cases key
    · rw [hon] at hkeys hresources
      refine ⟨?_, ?_⟩
      · rw [hresources, Workspace.reuse, Lru.capacity_touch, h.capacity]
      · rw [hresources, hkeys]
        exact h.follows.touch hf
    · rw [hon] at hkeys hresources
      refine ⟨?_, ?_⟩
      · rw [hresources]
        exact h.capacity
      · rw [hresources, hkeys]
        exact h.follows.insert (h.find?_eq_none_iff.mpr hk) text
    · rw [hon] at hkeys hresources
      refine ⟨?_, ?_⟩
      · rw [hresources]
        exact h.capacity
      · rw [hresources, hkeys]
        exact h.follows

theorem run (w : Workspace) (ds : List Deed) : (run w ds).Tracks := by
  induction ds using List.reverseRecOn with
  | nil => exact .start w
  | append_singleton ds d ih =>
    rw [run_concat]
    exact ih.step d

/-- What comes in was not there, and is what its resource holds. -/
theorem mem_of_mem_step (h : s.Tracks) {text : String}
    (he : (key, text) ∈ (s.step d).world.resources.entries) :
    (key, text) ∈ s.world.resources.entries ∨
      d.key? = some key ∧ key ∉ s.window ∧ s.world.Holds key text := by
  cases hd : d.key? with
  | none => exact Or.inl ((d.resources_of_none hd s.world) ▸ he)
  | some k =>
    have hresources : (s.step d).world.resources =
        ((Action.loadResource k).on s.world).2.resources := d.resources_of_some hd _
    obtain ⟨-, t, -, hon⟩ | ⟨hk, t, ht, hon⟩ | ⟨-, e, modules, -, hon⟩ := h.load_cases k
    · rw [hresources, hon] at he
      exact Or.inl (Lru.mem_of_mem_touch he)
    · rw [hresources, hon] at he
      rcases Lru.mem_of_mem_insert he with he | he
      · exact Or.inl he
      · cases he
        exact Or.inr ⟨rfl, hk, ht⟩
    · rw [hresources, hon] at he
      exact Or.inl he

/-- While a key stays in the window its text stays the same. -/
theorem find?_step (h : s.Tracks) (hk : key ∈ s.window) (hk' : key ∈ (s.step d).window) :
    (s.step d).world.resources.find? key = s.world.resources.find? key := by
  rw [← (h.step d).keys_eq] at hk'
  exact Lru.find?_eq_of_subset h.follows.keys_nodup hk' fun t ht =>
    (h.mem_of_mem_step ht).resolve_right fun hin => hin.2.1 hk

/-- No key comes in but by a load of its own. -/
theorem mem_window_of_step (h : s.Tracks) (hd : d.key? ≠ some key)
    (hk : key ∈ (s.step d).window) : key ∈ s.window := by
  rw [← (h.step d).keys_eq] at hk
  obtain ⟨⟨k, text⟩, he, rfl⟩ := List.mem_map.mp hk
  have hold := (h.mem_of_mem_step he).resolve_right fun hin => hd hin.1
  rw [← h.keys_eq]
  exact List.mem_map_of_mem hold

end Tracks

/-! ### Texts and when they were read -/

/-- The text that was read when the key last came into the window, where it has been ever
since. -/
def Entered (w : Workspace) (ds : List Deed) (key : ResourceKey) (text : String) : Prop :=
  ∃ before d more, ds = before ++ d :: more ∧ d.key? = some key ∧ key ∉ (run w before).window ∧
    (run w before).world.Holds key text ∧
    ∀ part, part <+: more → key ∈ (run w (before ++ d :: part)).window

section Texts

variable {w : Workspace} {ds : List Deed} {d : Deed} {key : ResourceKey} {text : String}

theorem Entered.concat (h : Entered w ds key text) (hk : key ∈ (run w (ds ++ [d])).window) :
    Entered w (ds ++ [d]) key text := by
  obtain ⟨before, d', more, rfl, hd', hout, ht, hin⟩ := h
  rw [List.append_assoc, List.cons_append] at hk ⊢
  refine ⟨before, d', more ++ [d], rfl, hd', hout, ht, fun part hpart => ?_⟩
  rcases List.prefix_concat_iff.mp hpart with rfl | hpart
  · exact hk
  · exact hin part hpart

/-- What is remembered was read when its key came in. -/
theorem entered_of_find? (h : (run w ds).world.resources.find? key = some text) :
    Entered w ds key text := by
  induction ds using List.reverseRecOn with
  | nil => cases h
  | append_singleton ds d ih =>
    have hs := Tracks.run w ds
    have hk' : key ∈ (run w (ds ++ [d])).window := by
      rw [← not_not (a := key ∈ _), ← (Tracks.run w _).find?_eq_none_iff, h]
      exact Option.some_ne_none text
    by_cases hk : key ∈ (run w ds).window
    · rw [run_concat] at h hk'
      rw [hs.find?_step hk hk'] at h
      rw [← run_concat] at hk'
      exact (ih h).concat hk'
    · rw [run_concat] at h
      rcases hs.mem_of_mem_step (Lru.mem_of_find? h) with he | ⟨hd, hout, ht⟩
      · rw [← hs.keys_eq] at hk
        exact absurd (List.mem_map_of_mem he) hk
      · refine ⟨ds, d, [], rfl, hd, hout, ht, fun part hpart => ?_⟩
        rwa [List.prefix_nil.mp hpart]

end Texts

/-! ### Answers -/

namespace Tracks

variable {s : Shelf} {key : ResourceKey} {d : Deed}

theorem step_recalled (h : s.Tracks) (hd : d.key? = some key) (hk : key ∈ s.window) :
    (s.step d).window = s.window.erase key ++ [key] := by
  have hkeys : (s.step d).keys = Lru.used s.keys key := by
    obtain ⟨text, hf⟩ := h.exists_find? hk
    rw [keys_step_of_some hd, Action.loadResource_remembered hf]
    rfl
  rw [window, hkeys, Lru.rtake_used_of_mem h.follows.nodup hk]
  rfl

theorem step_read (h : s.Tracks) (hd : d.key? = some key) (hk : key ∉ s.window) {text : String}
    (ht : s.world.Holds key text) : (s.step d).window =
      (if 256 ≤ s.window.length then s.window.tail else s.window) ++ [key] := by
  have hkeys : (s.step d).keys = Lru.used s.keys key := by
    rw [keys_step_of_some hd, Action.loadResource_holds (h.find?_eq_none_iff.mpr hk) ht]
    rfl
  rw [window, hkeys, Lru.rtake_used_of_not_mem (by omega) hk]
  rfl

theorem step_failed (h : s.Tracks) (hd : d.key? = some key) (hk : key ∉ s.window)
    (hno : ∀ text, ¬ s.world.Holds key text) :
    (s.step d).keys = s.keys ∧ (s.step d).world.resources = s.world.resources := by
  obtain ⟨e, modules, hon⟩ :=
    (Action.readsAnew (h.find?_eq_none_iff.mpr hk)).failed hno
  refine ⟨?_, ?_⟩
  · rw [keys_step_of_some hd, hon]
    rfl
  · exact (d.resources_of_some hd s.world).trans (by rw [hon])

/-- Only a resource that is not remembered and holds no text can fail to load. -/
theorem not_mem_step_of_error (h : s.Tracks) {e : Error}
    (he : ((Action.loadResource key).on s.world).1 = .error e) :
    key ∉ (s.step (.load key)).window := by
  have hk : key ∉ s.window := fun hk => by
    obtain ⟨text, hf⟩ := h.exists_find? hk
    rw [Action.loadResource_remembered hf] at he
    cases he
  have hno : ∀ text, ¬ s.world.Holds key text := fun text ht => by
    rw [Action.loadResource_holds (h.find?_eq_none_iff.mpr hk) ht] at he
    cases he
  rw [window, (h.step_failed rfl hk hno).1]
  exact hk

theorem not_mem_window_foldl (h : s.Tracks) (hk : key ∉ s.window) {more : List Deed}
    (hmore : ∀ d ∈ more, d.key? ≠ some key) : key ∉ (more.foldl Shelf.step s).window := by
  induction more generalizing s with
  | nil => exact hk
  | cons d more ih =>
    have hk' : key ∉ (s.step d).window := fun hin =>
      hk (h.mem_window_of_step (hmore d List.mem_cons_self) hin)
    exact ih (h.step d) hk' fun d' hd' => hmore d' (List.mem_cons_of_mem d hd')

end Tracks

/-- How resources are loaded after any deeds. -/
structure Memoised (w : Workspace) (ds : List Deed) : Prop where
  nodup : (run w ds).keys.Nodup
  keys_eq : (run w ds).world.resources.keys = (run w ds).window
  /-- In the window the text is the one that came in, and the load changes nothing but which
  keys were used last. -/
  recalled (key : ResourceKey) : key ∈ (run w ds).window → ∃ text, Entered w ds key text ∧
    (Action.loadResource key).on (run w ds).world = (.ok text, (run w ds).world.reuse key)
  window_recalled (d : Deed) (key : ResourceKey) : d.key? = some key → key ∈ (run w ds).window →
    (run w (ds ++ [d])).window = (run w ds).window.erase key ++ [key]
  anew (key : ResourceKey) : key ∉ (run w ds).window → Action.ReadsAnew (run w ds).world key
  /-- A text comes in, and if the window was full its first key goes. -/
  window_read (d : Deed) (key : ResourceKey) (text : String) : d.key? = some key →
    key ∉ (run w ds).window → (run w ds).world.Holds key text → (run w (ds ++ [d])).window =
      (if 256 ≤ (run w ds).window.length then (run w ds).window.tail
        else (run w ds).window) ++ [key]
  failed (d : Deed) (key : ResourceKey) : d.key? = some key → key ∉ (run w ds).window →
    (∀ text, ¬ (run w ds).world.Holds key text) → (run w (ds ++ [d])).keys = (run w ds).keys ∧
      (run w (ds ++ [d])).world.resources = (run w ds).world.resources
  apart (d : Deed) : d.key? = none → (run w (ds ++ [d])).keys = (run w ds).keys ∧
    (run w (ds ++ [d])).world.resources = (run w ds).world.resources
  /-- What could not be loaded is found by the next load of it if it is there by then. -/
  found (key : ResourceKey) (e : Error) (more : List Deed) (text : String) :
    ((Action.loadResource key).on (run w ds).world).1 = .error e →
    (∀ d ∈ more, d.key? ≠ some key) → (run w (ds ++ .load key :: more)).world.Holds key text →
      ((Action.loadResource key).on (run w (ds ++ .load key :: more)).world).1 = .ok text
  /-- A statement of a resource is loaded as the resource is and then parsed. -/
  statement (package resource : String) (cache : Option Nat) :
    (Action.statementOfResource package resource cache).on (run w ds).world =
      match (Action.loadResource ⟨package, resource, Action.defaultEncoding⟩).on
        (run w ds).world with
      | (.ok text, w') => (Action.statement text cache).on w'
      | (.error e, w') => (.error e, w')

/-- Only what could be read is remembered, and for as long as it is in the window. -/
theorem memoised_on_success (w : Workspace) (ds : List Deed) : Memoised w ds where
  nodup := (Tracks.run w ds).follows.nodup
  keys_eq := (Tracks.run w ds).keys_eq
  recalled key hk := by
    obtain ⟨text, hf⟩ := (Tracks.run w ds).exists_find? hk
    exact ⟨text, entered_of_find? hf, Action.loadResource_remembered hf⟩
  window_recalled d key hd hk := by
    rw [run_concat]
    exact (Tracks.run w ds).step_recalled hd hk
  anew key hk := Action.readsAnew ((Tracks.run w ds).find?_eq_none_iff.mpr hk)
  window_read d key text hd hk ht := by
    rw [run_concat]
    exact (Tracks.run w ds).step_read hd hk ht
  failed d key hd hk hno := by
    rw [run_concat]
    exact (Tracks.run w ds).step_failed hd hk hno
  apart d hd := by
    rw [run_concat]
    exact ⟨keys_step_of_none hd _, d.resources_of_none hd _⟩
  found key e more text he hmore ht := by
    have h := Tracks.run w ds
    have hout := (h.step _).not_mem_window_foldl (h.not_mem_step_of_error he) hmore
    have hrun : run w (ds ++ .load key :: more) = more.foldl step ((run w ds).step (.load key)) :=
      List.foldl_append
    rw [← hrun] at hout
    have hf := (Tracks.run w (ds ++ .load key :: more)).find?_eq_none_iff.mpr hout
    rw [Action.loadResource_holds hf ht]
  statement package resource cache := by
    rw [Action.statementOfResource, Action.on_bind]
    obtain ⟨e | text, w'⟩ :=
      (Action.loadResource ⟨package, resource, Action.defaultEncoding⟩).on (run w ds).world
    · rfl
    · rfl

/-- A package with one resource, two letters in UTF-16 without a byte order mark. -/
def unmarked : Workspace where
  files := { dirs := [["pk"]], contents := [⟨["pk", "a"], 0, [0x61, 0, 0x62, 0]⟩], next := 1 }

theorem stores_unmarked (encoding : String) :
    (run unmarked []).world.Stores ⟨"pk", "a", encoding⟩ [0x61, 0, 0x62, 0] := by
  have hmodule : unmarked.moduleOf "pk" = .ok (.package ["pk"]) := by
    rw [Workspace.moduleOf, Modules.find, show ("." : String) = String.singleton '.' from rfl,
      splitOn_singleton]
    rfl
  have hpath : unmarked.files.absolute ["pk"] "a" = "/tmp/work/pk/a" := by
    rw [Files.absolute, Path.components_eq]
    decide +kernel
  have hcomponents : Path.components "/tmp/work/pk/a" = ["tmp", "work", "pk", "a"] := by
    rw [Path.components_eq]
    decide +kernel
  have hnull : "/tmp/work/pk/a".contains '\x00' = false := by
    rw [String.contains_char_eq]
    decide +kernel
  have hlong : Path.isLong "/tmp/work/pk/a" = false := by decide +kernel
  have hopen : unmarked.files.open? (unmarked.files.absolute ["pk"] "a") =
      .ok ⟨["pk", "a"], 0, [0x61, 0, 0x62, 0]⟩ := by
    rw [hpath, Files.open?, Files.locate, hnull, hlong, hcomponents]
    rfl
  have hname : Workspace.Nameable "pk" := ⟨by decide, by simp⟩
  exact ⟨["pk"], _, ⟨hname, hmodule⟩, hopen, rfl⟩

/-- Bytes in an order that nobody told are no text, but there is no report of this: the load
fails with an error from below. It is not remembered, and the same bytes are read once their
order is given. -/
theorem memoised_on_success_unmarked :
    (¬ ∃ text, (run unmarked []).world.Holds ⟨"pk", "a", "utf-16"⟩ text) ∧
      ((Action.loadResource ⟨"pk", "a", "utf-16"⟩).on (run unmarked []).world).1 =
        .error .missingMark ∧
      Error.missingMark.fault? = none ∧ (run unmarked [.load ⟨"pk", "a", "utf-16"⟩]).keys = [] ∧
      ((Action.loadResource ⟨"pk", "a", "utf-16-le"⟩).on (run unmarked []).world).1 = .ok "ab" ∧
      (run unmarked [.load ⟨"pk", "a", "utf-16-le"⟩]).window = [⟨"pk", "a", "utf-16-le"⟩] := by
  have hm := memoised_on_success unmarked []
  have hnone : ∀ key, key ∉ (run unmarked []).window := fun key => List.not_mem_nil
  have hforeign : (run unmarked []).world.Foreign ⟨"pk", "a", "utf-16"⟩ .missingMark :=
    .missingMark (stores_unmarked _)
      (Codec.find?_of_ofName? (show Codec.ofName? "utf-16" = some .utf16 by decide +kernel)
        (by decide +kernel) _) rfl
  have htext : (run unmarked []).world.Holds ⟨"pk", "a", "utf-16-le"⟩ "ab" :=
    ⟨_, (Codec.utf16Of .little).decode, ['a', 'b'], stores_unmarked _,
      Codec.find?_of_ofName? (by decide +kernel) (by decide +kernel) _, by decide +kernel,
      by decide⟩
  obtain ⟨he, hfault⟩ := ((hm.anew _ (hnone _)).foreign_iff _).mpr hforeign
  have hno : ∀ text, ¬ (run unmarked []).world.Holds ⟨"pk", "a", "utf-16"⟩ text := by
    intro text ht
    rw [((hm.anew _ (hnone _)).returns_iff text).mpr ht] at he
    cases he
  exact ⟨not_exists.mpr hno, he, hfault, (hm.failed (.load _) _ rfl (hnone _) hno).1,
    ((hm.anew _ (hnone _)).returns_iff _).mpr htext,
    hm.window_read (.load _) _ _ rfl (hnone _) htext⟩

end Shelf

end QueryBinding
