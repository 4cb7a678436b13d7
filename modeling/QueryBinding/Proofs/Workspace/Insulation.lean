import QueryBinding.Proofs.Workspace.Actions

/-! What statements depend on. Two workspaces with the same configuration, the same caches and
the same next serial number give the same outcome for a statement, and have the same
configuration and caches behind it. Files, logs and remembered resources make no difference. -/

namespace QueryBinding

namespace Workspace

/-- Workspaces that statements cannot tell apart. -/
structure Alike (w w' : Workspace) : Prop where
  config : w'.config = w.config
  shared : w'.shared = w.shared
  caches : w'.caches = w.caches
  next : w'.next = w.next

namespace Alike

variable {w w' w'' : Workspace}

theorem refl (w : Workspace) : w.Alike w := ⟨rfl, rfl, rfl, rfl⟩

theorem symm (h : w.Alike w') : w'.Alike w :=
  ⟨h.config.symm, h.shared.symm, h.caches.symm, h.next.symm⟩

theorem trans (h : w.Alike w') (h' : w'.Alike w'') : w.Alike w'' :=
  ⟨h'.config.trans h.config, h'.shared.trans h.shared, h'.caches.trans h.caches,
    h'.next.trans h.next⟩

end Alike

theorem alike_send (r : Record) (w : Workspace) (h : Handler) : w.Alike (w.send r h) := by
  unfold send
  cases h.sink <;> exact ⟨rfl, rfl, rfl, rfl⟩

theorem alike_deliver (w : Workspace) (r : Record) : w.Alike (w.deliver r) := by
  rw [deliver]
  induction w.hub.targets r.logger r.level generalizing w with
  | nil => exact Alike.refl w
  | cons h hs ih => exact (alike_send r w h).trans (ih (w.send r h))

end Workspace

namespace Action

variable {α β : Type}

/-- The outcome of an action, and what it makes of the configuration and the caches, are the
same in workspaces that statements cannot tell apart. -/
def Insulated (a : Action α) : Prop :=
  ∀ w w', w.Alike w' → (a.on w').1 = (a.on w).1 ∧ (a.on w).2.Alike (a.on w').2

theorem Insulated.bind {a : Action α} {f : α → Action β} (ha : a.Insulated)
    (hf : ∀ x, (f x).Insulated) : Insulated (a >>= f) := by
  intro w w' h
  have hrel := ha w w' h
  rw [on_bind, on_bind]
  cases hon : a.on w with
  | mk r v =>
    cases hon' : a.on w' with
    | mk r' v' =>
      rw [hon, hon'] at hrel
      obtain ⟨rfl, hv⟩ := hrel
      cases r' with
      | error e => exact ⟨rfl, hv⟩
      | ok x => exact hf x v v' hv

theorem insulated_pure (x : α) : Insulated (pure x) := fun _ _ h => ⟨rfl, h⟩

theorem insulated_lift (r : Except Error α) : Insulated (lift r) := by
  intro w w' h
  rw [on_lift, on_lift]
  exact ⟨rfl, h⟩

/-- What an action reads has to be the same in both workspaces. -/
theorem insulated_get {f : Workspace → Action β} (hf : ∀ w, (f w).Insulated)
    (hread : ∀ w w', w.Alike w' → f w' = f w) : Insulated (get >>= f) := by
  intro w w' h
  rw [on_bind_ok (on_get w), on_bind_ok (on_get w'), hread w w' h]
  exact hf w w w' h

theorem insulated_modify {f : Workspace → Workspace}
    (h : ∀ w w', w.Alike w' → (f w).Alike (f w')) : Insulated (modify f) :=
  fun w w' hw => ⟨rfl, h w w' hw⟩

theorem insulated_fresh : Insulated fresh := fun _ _ h =>
  ⟨congrArg Except.ok h.next, h.config, h.shared, h.caches, congrArg Nat.succ h.next⟩

theorem insulated_emit (r : Record) : Insulated (emit r) := fun w w' h =>
  ⟨rfl, (w.alike_deliver r).symm.trans (h.trans (w'.alike_deliver r))⟩

theorem insulated_reportColons (colons : List Nat) : Insulated (reportColons colons) := by
  induction colons with
  | nil => exact insulated_pure ()
  | cons i is ih =>
    rw [reportColons, List.forM_eq_forM, List.forM_cons]
    exact (insulated_emit _).bind fun _ => ih

theorem insulated_parse (rules : Rules) (sql : String) : Insulated (parse rules sql) :=
  (insulated_lift _).bind fun _ => (insulated_reportColons _).bind fun _ =>
    insulated_fresh.bind fun _ => insulated_pure _

theorem insulated_currentConfig : Insulated currentConfig := by
  refine insulated_get (fun w => ?_) fun w w' h => by rw [h.config]
  cases w.config with
  | some c => exact insulated_pure c
  | none =>
    refine (insulated_fresh.bind fun _ => insulated_pure _).bind fun c => ?_
    refine (insulated_modify fun w w' h => ?_).bind fun _ => insulated_pure c
    exact ⟨rfl, h.shared, h.caches, h.next⟩

theorem insulated_onCache (serial : Nat) (f : TemplateCache → β × TemplateCache) :
    Insulated (onCache serial f) := by
  have hcache : Insulated (cache? serial) :=
    insulated_get (fun w => insulated_pure _) fun w w' h => by rw [h.caches]
  refine hcache.bind fun cache => ?_
  cases cache with
  | none => exact insulated_pure none
  | some c =>
    refine (insulated_modify fun w w' h => ?_).bind fun _ => insulated_pure _
    exact ⟨h.config, h.shared, by rw [h.caches], h.next⟩

theorem insulated_fetch (serial : Nat) (sql : String) : Insulated (fetch serial sql) := by
  refine insulated_fresh.bind fun tag => (insulated_onCache serial _).bind fun outcome => ?_
  cases outcome with
  | none => exact insulated_parse {} sql
  | some outcome =>
    exact (insulated_lift _).bind fun _ => (insulated_reportColons _).bind fun _ =>
      insulated_pure _

theorem insulated_newCache (size : Int) (rules : Rules) (counted : Bool) :
    Insulated (newCache size rules counted) := by
  refine (insulated_lift _).bind fun cache => insulated_fresh.bind fun serial => ?_
  refine (insulated_modify fun w w' h => ?_).bind fun _ => insulated_pure serial
  exact ⟨h.config, h.shared, by rw [h.caches], h.next⟩

theorem insulated_buildShared (c : Tagged Config) : Insulated (buildShared c) := by
  refine (insulated_newCache _ _ _).bind fun serial => ?_
  refine (insulated_modify fun w w' h => ?_).bind fun _ =>
    (insulated_emit _).bind fun _ => insulated_pure serial
  exact ⟨h.config, rfl, h.caches, h.next⟩

theorem insulated_sharedCache : Insulated sharedCache := by
  refine insulated_currentConfig.bind fun c => ?_
  refine insulated_get (fun w => ?_) fun w w' h => by rw [h.shared]
  cases w.shared with
  | none => exact insulated_buildShared c
  | some s =>
    simp only
    split_ifs
    · exact insulated_pure _
    · exact insulated_buildShared c

theorem insulated_statement (sql : String) (cache : Option Nat) :
    Insulated (statement sql cache) := by
  cases cache with
  | some serial => exact insulated_fetch serial sql
  | none =>
    refine insulated_currentConfig.bind fun c => ?_
    split_ifs
    · exact insulated_sharedCache.bind fun serial => insulated_fetch serial sql
    · exact insulated_parse _ sql

end Action

end QueryBinding
