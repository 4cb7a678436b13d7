import QueryBinding.Proofs.Binder.Precedence

/-! Names bound at once. A map and the entries beside it are bound as if each of their entries
were bound by a call of its own, the map first: the parts of the binder come out the same, the
order of its names included, and so no later call can tell the difference. -/

namespace QueryBinding

variable {α : Type}

namespace Binder

/-- Binds entries by one call each. -/
def bindEach (b : Binder α) (es : Entries α) : Binder α :=
  es.foldl (fun b e => b.bindNamed e.1 e.2) b

theorem bindEntries_nil (b : Binder α) : b.bindEntries [] = b := by
  simp [bindEntries, Entries.merge, Entries.has, Entries.get?]

theorem bindEntries_eq (b : Binder α) (es : Entries α) : b.bindEntries es = b.bindEach es := by
  induction es generalizing b with
  | nil => exact b.bindEntries_nil
  | cons e es ih =>
    rw [Tracks.bindEntries_cons, ih]
    rfl

theorem bindAll_eq (b : Binder α) (map : Option (Entries α)) (beside : Entries α) :
    b.bindAll map beside = b.bindEach (map.getD [] ++ beside) := by
  rw [bindAll, bindEntries_eq, bindEntries_eq, bindEach, bindEach, bindEach, List.foldl_append]

theorem bindEach_eq (b : Binder α) (es : Entries α) :
    b.bindEach es = { b with
      named := b.named.merge es
      superseded := b.superseded.filter fun name => !es.has name } :=
  (b.bindEntries_eq es).symm

end Binder

namespace Call

/-- A call for each entry. -/
def setEach (k : ℕ) (es : Entries α) : List (Call α) := es.map fun e => .set k e.1 e.2

theorem foldl_setEach (t : Template) (bs : List (Binder α)) (k : ℕ) (es : Entries α) :
    (setEach k es).foldl (next t) bs = bs.modify k (·.bindEach es) := by
  induction es generalizing bs with
  | nil => exact (List.modify_id k bs).symm
  | cons e es ih =>
    show (setEach k es).foldl (next t) (bs.modify k (·.bindNamed e.1 e.2)) = _
    rw [ih, List.modify_modify_eq]
    rfl

theorem next_all (t : Template) (bs : List (Binder α)) (k : ℕ) (map : Option (Entries α))
    (beside : Entries α) :
    (all k map beside).next t bs = (setEach k (map.getD [] ++ beside)).foldl (next t) bs := by
  rw [foldl_setEach]
  show bs.modify k (·.bindAll map beside) = _
  simp only [Binder.bindAll_eq]

end Call

/-- What binding a map and the entries beside it makes of a binder. -/
structure BoundAll (map : Option (Entries α)) (beside : Entries α) (b b' : Binder α) : Prop where
  each : b' = b.bindEach (map.getD [] ++ beside)
  names : b'.named.names = b.named.names ++
    (((map.getD []).names ++ beside.names).filter fun name => !b.named.has name).eraseDups
  /-- Neither a map nor the entries beside it have a name twice. The latter go first. -/
  values : (map.getD []).names.Nodup → beside.names.Nodup → ∀ name, b'.named.get? name =
    ((beside.get? name).or ((map.getD []).get? name)).or (b.named.get? name)
  positional : b'.positional = b.positional
  superseded : ∀ name, name ∈ b'.superseded ↔
    name ∈ b.superseded ∧ name ∉ (map.getD []).names ∧ name ∉ beside.names

theorem boundAll_bindAll (b : Binder α) (map : Option (Entries α)) (beside : Entries α) :
    BoundAll map beside b (b.bindAll map beside) where
  each := b.bindAll_eq map beside
  names := by
    rw [b.bindAll_eq, Binder.bindEach_eq, Entries.names_merge, Entries.names_append]
  values hmap hbeside name := by
    rw [b.bindAll_eq, Binder.bindEach_eq, Entries.get?_merge, List.reverse_append,
      Entries.get?_append, Entries.get?_reverse hbeside, Entries.get?_reverse hmap]
  positional := rfl
  superseded name := by
    rw [b.bindAll_eq, Binder.bindEach_eq, List.mem_filter, Bool.not_eq_true',
      ← Bool.not_eq_true, Entries.has, ← Entries.mem_names_iff, Entries.names_append,
      List.mem_append, not_or]

/-- Binding at once can not be told from binding one by one, by whatever calls follow. -/
theorem bound_at_once (t : Template) (calls : List (Call α)) (k : ℕ) (map : Option (Entries α))
    (beside : Entries α) :
    (∀ more, Call.run t (calls ++ .all k map beside :: more) =
      Call.run t (calls ++ Call.setEach k (map.getD [] ++ beside) ++ more)) ∧
    ∀ b, (Call.run t calls)[k]? = some b → ∃ b',
      (Call.run t (calls ++ [.all k map beside]))[k]? = some b' ∧ BoundAll map beside b b' := by
  constructor
  · intro more
    rw [Call.run, Call.run, List.foldl_append, List.foldl_cons, Call.next_all, List.foldl_append,
      List.foldl_append]
  · intro b hb
    refine ⟨_, ?_, boundAll_bindAll b map beside⟩
    rw [Call.run_append]
    show ((Call.run t calls).modify k (·.bindAll map beside))[k]? = _
    rw [List.getElem?_modify_eq, hb]
    rfl

/-- A name in the map and beside it, which was superseded before, and two new ones. -/
theorem bound_at_once_overlap : ∃ t : Template, ∃ b : Binder ℕ,
    (Call.run t [.create .template, .set 0 "a" 1, .positional 0 [7, 8]])[0]? = some b ∧
    b.superseded = ["a"] ∧ ∃ b', (Call.run t ([.create .template, .set 0 "a" 1,
      .positional 0 [7, 8]] ++ [.all 0 (some [("b", 2), ("a", 3)]) [("c", 5), ("a", 4)]]))[0]? =
        some b' ∧ BoundAll (some [("b", 2), ("a", 3)]) [("c", 5), ("a", 4)] b b' ∧
    b'.named = [("a", 4), ("b", 2), ("c", 5)] ∧ b'.superseded = [] := by
  obtain ⟨b', hb', hbound⟩ := (bound_at_once ⟨":a :b", "? ?", [⟨.named, some "a", 0, 0⟩,
    ⟨.named, some "b", 1, 3⟩], []⟩ [.create .template, .set 0 "a" 1, .positional 0 [7, 8]] 0
    (some [("b", 2), ("a", 3)]) [("c", 5), ("a", 4)]).2 _ rfl
  refine ⟨_, _, rfl, rfl, b', hb', hbound, ?_, ?_⟩
  · rw [hbound.each]
    rfl
  · rw [hbound.each]
    rfl

end QueryBinding
