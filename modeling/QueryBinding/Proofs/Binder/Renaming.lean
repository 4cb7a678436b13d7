import QueryBinding.Proofs.Binder.Precedence
import QueryBinding.Proofs.Template.Names
import QueryBinding.Proofs.Template.Renaming

/-! Binders over a text with new names. Names are compared with each other and not looked
into, so a binder that is told the new names does what the one that is told the old ones
does: the same calls are refused, the same values come out, and a name that is missing is
missing under its new name. -/

namespace QueryBinding

variable {α : Type} {r : Renaming}

theorem Renaming.contains_map (r : Renaming) (names : List String) (name : String) :
    (names.map r).contains (r name) = names.contains name := by
  rw [Bool.eq_iff_iff, List.contains_iff_mem, List.contains_iff_mem,
    List.mem_map_of_injective r.injective]

namespace Entries

/-! ### Renamed entries -/

def rename (r : Renaming) (es : Entries α) : Entries α := es.map fun e => (r e.1, e.2)

@[simp] theorem rename_cons (e : String × α) (es : Entries α) :
    rename r (e :: es) = (r e.1, e.2) :: rename r es := rfl

theorem put_rename (name : String) (value : α) (es : Entries α) :
    (es.rename r).put (r name) value = (es.put name value).rename r := by
  induction es with
  | nil => rfl
  | cons e es ih =>
    by_cases h : e.1 = name
    · simp [put, h]
    · simp [put, h, r.injective.eq_iff, ih]

theorem get?_rename (name : String) (es : Entries α) :
    (es.rename r).get? (r name) = es.get? name := by
  induction es with
  | nil => rfl
  | cons e es ih => simp [get?, r.injective.eq_iff, ih]

theorem has_rename (name : String) (es : Entries α) :
    (es.rename r).has (r name) = es.has name := by
  rw [has, get?_rename, has]

theorem merge_rename (es new : Entries α) :
    (es.rename r).merge (new.rename r) = (es.merge new).rename r := by
  induction new generalizing es with
  | nil => rfl
  | cons e new ih =>
    have hput := put_rename (r := r) e.1 e.2 es
    exact (congrArg (merge · (rename r new)) hput).trans (ih _)

theorem names_rename (es : Entries α) : (es.rename r).names = es.names.map r := by
  simp [names, rename]

end Entries

/-! ### Renamed templates -/

/-- The same rank and the new name. -/
def Placeholder.Alike (r : Renaming) (p q : Placeholder) : Prop :=
  q.name = p.name.map r ∧ q.index = p.index

theorem Template.Renamed.alike {t u : Template} (h : Template.Renamed r t u) :
    List.Forall₂ (Placeholder.Alike r) t.placeholders u.placeholders := by
  rw [List.forall₂_iff_get]
  refine ⟨h.count.symm, fun i hi hj => ?_⟩
  have hq := h.placeholder i _ (List.getElem?_eq_getElem hi)
  rw [List.getElem?_eq_getElem hj, Option.some_inj] at hq
  rw [List.get_eq_getElem, List.get_eq_getElem, hq]
  exact ⟨rfl, rfl⟩

section Templates

variable {t u : Template} (hu : List.Forall₂ (Placeholder.Alike r) t.placeholders u.placeholders)
include hu

theorem Template.count_of_alike : u.count = t.count := hu.length_eq.symm

theorem Template.map_name_of_alike :
    u.placeholders.map (·.name) = t.placeholders.map fun p => p.name.map r := by
  rw [← List.forall₂_eq_eq_eq, List.forall₂_map_left_iff, List.forall₂_map_right_iff]
  exact hu.flip.imp fun _ _ h => h.1

theorem Template.positionalCount_of_alike : u.positionalCount = t.positionalCount := by
  have h := congrArg (List.countP Option.isNone) (map_name_of_alike hu)
  rw [List.countP_map, List.countP_map] at h
  simpa [positionalCount, Function.comp_def] using h

theorem Template.names_of_alike : u.names = t.names.map r := by
  have h := congrArg (List.filterMap id) (map_name_of_alike hu)
  rw [List.filterMap_map, List.filterMap_map] at h
  have hnames : u.placeholders.filterMap (·.name) =
      (t.placeholders.filterMap (·.name)).map r := by
    rw [List.map_filterMap]
    exact h
  rw [names, hnames, eraseDups_map r.injective, names]

end Templates

/-- The failure over a source with new names. -/
def Error.rename (r : Renaming) (source : String) : Error → Error
  | .wrongCount total positional count _ => .wrongCount total positional count source
  | .noValues positional index _ => .noValues positional index source
  | .unbound name index _ => .unbound (r name) index source
  | e => e

/-- It is reported as before. -/
theorem Error.cls_rename (source : String) (e : Error) :
    (e.rename r source).fault?.map Fault.cls = e.fault?.map Fault.cls := by
  cases e with
  | wrongCount total positional count sql =>
    exact congrArg some ((Fault.facts_arity _ _ _ _).1.trans (Fault.facts_arity _ _ _ _).1.symm)
  | noValues positional index sql =>
    exact congrArg some ((Fault.facts_arity _ _ _ _).1.trans (Fault.facts_arity _ _ _ _).1.symm)
  | unbound name index sql =>
    exact congrArg some ((Fault.cls_make _ _ _ _).1.trans (Fault.cls_make _ _ _ _).1.symm)
  | _ => rfl

/-! ### Twins -/

/-- Two binders that were told the same, the second in the new names. -/
structure Twins (r : Renaming) (t u : Template) (b c : Binder α) : Prop where
  template : b.template = t
  template_renamed : c.template = u
  named : c.named = b.named.rename r
  positional : c.positional = b.positional
  superseded : c.superseded = b.superseded.map r

namespace Twins

variable {t u : Template} {b c : Binder α}

theorem empty (origin : Origin) (t u : Template) :
    Twins r t u (Binder.empty origin t : Binder α) (Binder.empty origin u) :=
  ⟨rfl, rfl, rfl, rfl, rfl⟩

theorem bindNamed (h : Twins r t u b c) (name : String) (value : α) :
    Twins r t u (b.bindNamed name value) (c.bindNamed (r name) value) where
  template := h.template
  template_renamed := h.template_renamed
  named := by rw [Binder.bindNamed, h.named, Entries.put_rename, Binder.bindNamed]
  positional := h.positional
  superseded := by
    rw [Binder.bindNamed, h.superseded, List.filter_map, Binder.bindNamed]
    simp [Function.comp_def, r.injective.eq_iff]

theorem bindEntries (h : Twins r t u b c) (es : Entries α) :
    Twins r t u (b.bindEntries es) (c.bindEntries (es.rename r)) where
  template := h.template
  template_renamed := h.template_renamed
  named := by rw [Binder.bindEntries, h.named, Entries.merge_rename, Binder.bindEntries]
  positional := h.positional
  superseded := by
    rw [Binder.bindEntries, h.superseded, List.filter_map, Binder.bindEntries]
    simp [Function.comp_def, Entries.has_rename]

theorem bindAll (h : Twins r t u b c) (map : Option (Entries α)) (beside : Entries α) :
    Twins r t u (b.bindAll map beside)
      (c.bindAll (map.map (Entries.rename r)) (beside.rename r)) := by
  have hmap : (map.map (Entries.rename r)).getD [] = (map.getD []).rename r := by
    cases map <;> rfl
  rw [Binder.bindAll, Binder.bindAll, hmap]
  exact (h.bindEntries _).bindEntries _

section Alike

variable (hu : List.Forall₂ (Placeholder.Alike r) t.placeholders u.placeholders)
include hu

theorem bindPositional (h : Twins r t u b c) (values : List α) :
    (∃ b' c', b.bindPositional values = .ok b' ∧ c.bindPositional values = .ok c' ∧
      Twins r t u b' c') ∨
    ∃ e, b.bindPositional values = .error e ∧
      c.bindPositional values = .error (e.rename r u.source) := by
  have htotal : c.template.count = b.template.count := by
    rw [h.template, h.template_renamed, Template.count_of_alike hu]
  have hslots : c.template.positionalCount = b.template.positionalCount := by
    rw [h.template, h.template_renamed, Template.positionalCount_of_alike hu]
  by_cases hcount : values.length ≠ b.template.count ∧ values.length ≠ b.template.positionalCount
  · refine Or.inr ⟨_, if_pos hcount, ?_⟩
    rw [Binder.bindPositional, htotal, hslots, h.template_renamed]
    exact if_pos hcount
  · have hc : c.bindPositional values = .ok { c with
        positional := some values
        superseded := if values.length = b.template.count then c.named.names else [] } := by
      rw [Binder.bindPositional, htotal, hslots]
      exact if_neg hcount
    refine Or.inl ⟨_, _, if_neg hcount, hc, h.template, h.template_renamed, h.named, rfl, ?_⟩
    rw [h.named, Entries.names_rename]
    split_ifs <;> rfl

/-! ### What twins answer -/

theorem aligned?_eq (h : Twins r t u b c) : c.aligned? = b.aligned? := by
  rw [Binder.aligned?, h.positional, h.template_renamed, Template.count_of_alike hu, ← h.template,
    Binder.aligned?]

omit hu in
theorem current?_eq (h : Twins r t u b c) (name : String) :
    c.current? (r name) = b.current? name := by
  rw [Binder.current?, Binder.current?, h.superseded, h.named, r.contains_map, Entries.get?_rename]

omit hu in
theorem mapError_ranked (source : String) (values : List α) (index : ℤ) :
    (Binder.ranked values index).mapError (Error.rename r source) = Binder.ranked values index := by
  rw [Binder.ranked]
  cases Binder.at? values index <;> rfl

theorem valueFor_eq (h : Twins r t u b c) {p q : Placeholder} (hpq : p.Alike r q) (slot : ℕ) :
    c.valueFor slot q = (b.valueFor slot p).mapError (Error.rename r u.source) := by
  have haligned := h.aligned?_eq hu
  have hslots := Template.positionalCount_of_alike hu
  obtain ⟨hname, hindex⟩ := hpq
  cases hp : p.name with
  | none =>
    rw [hp, Option.map_none] at hname
    simp only [Binder.valueFor, hp, hname, h.positional, haligned, hindex]
    cases b.positional with
    | none =>
      simp [h.template, h.template_renamed, hslots, Except.mapError, Error.rename]
    | some values => exact (mapError_ranked _ _ _).symm
  | some name =>
    rw [hp, Option.map_some] at hname
    simp only [Binder.valueFor, hp, hname, h.current?_eq, haligned, hindex]
    cases b.current? name with
    | some v => rfl
    | none =>
      cases b.aligned? with
      | none => simp [h.template_renamed, Except.mapError, Error.rename]
      | some values => exact (mapError_ranked _ _ _).symm

theorem valuesFrom_eq (h : Twins r t u b c) {ps qs : List Placeholder}
    (hpq : List.Forall₂ (Placeholder.Alike r) ps qs) (slot : ℕ) :
    c.valuesFrom slot qs = (b.valuesFrom slot ps).mapError (Error.rename r u.source) := by
  induction hpq generalizing slot with
  | nil => rfl
  | @cons p q ps qs hp _ ih =>
    have hnone : q.name.isNone = p.name.isNone := by
      rw [hp.1, Option.isNone_map]
    rw [Binder.valuesFrom, Binder.valuesFrom, h.valueFor_eq hu hp, ih, hnone]
    cases b.valueFor slot p with
    | error e => rfl
    | ok v => cases b.valuesFrom (if p.name.isNone then slot + 1 else slot) ps <;> rfl

omit hu in
theorem all_superseded_eq (h : Twins r t u b c) :
    c.named.names.all c.superseded.contains = b.named.names.all b.superseded.contains := by
  rw [h.named, h.superseded, Entries.names_rename, List.all_map]
  exact congrArg _ (funext fun name => r.contains_map b.superseded name)

theorem resolve_eq (h : Twins r t u b c) :
    c.resolve = b.resolve.mapError (Error.rename r u.source) := by
  have hvalues : c.valuesFrom 0 c.template.placeholders =
      (b.valuesFrom 0 b.template.placeholders).mapError (Error.rename r u.source) := by
    rw [h.template, h.template_renamed]
    exact h.valuesFrom_eq hu hu 0
  rw [Binder.resolve, Binder.resolve, h.aligned?_eq hu, h.all_superseded_eq, hvalues]
  cases b.aligned? with
  | none => rfl
  | some values =>
    simp only
    split_ifs <;> rfl

omit hu in
theorem isOpen_eq (h : Twins r t u b c) {p q : Placeholder} (hpq : p.Alike r q) :
    c.isOpen q = b.isOpen p := by
  rw [Binder.isOpen, Binder.isOpen, hpq.1]
  cases p.name with
  | none => simp only [Option.map_none, h.positional]
  | some name => simp only [Option.map_some, h.named, Entries.has_rename]

theorem isResolvable_eq (h : Twins r t u b c) : c.isResolvable = b.isResolvable := by
  have hfind : ∀ {ps qs : List Placeholder}, List.Forall₂ (Placeholder.Alike r) ps qs →
      (qs.find? c.isOpen).isNone = (ps.find? b.isOpen).isNone := by
    intro ps qs hpq
    induction hpq with
    | nil => rfl
    | @cons p q ps qs hp _ ih =>
      rw [List.find?_cons, List.find?_cons, h.isOpen_eq hp]
      cases b.isOpen p with
      | true => rfl
      | false => exact ih
  rw [Binder.isResolvable, Binder.isResolvable, Binder.firstOpen?, Binder.firstOpen?,
    h.aligned?_eq hu, h.template, h.template_renamed]
  split_ifs
  · rfl
  · exact hfind hu

theorem unboundNames_eq (h : Twins r t u b c) : c.unboundNames = b.unboundNames.map r := by
  rw [Binder.unboundNames, Binder.unboundNames, h.aligned?_eq hu, h.template, h.template_renamed,
    h.named, Template.names_of_alike hu]
  split_ifs
  · rfl
  · rw [List.filter_map]
    simp [Function.comp_def, Entries.has_rename]

theorem progress_eq (h : Twins r t u b c) : c.progress = b.progress := by
  have hnamed : c.named.isEmpty = b.named.isEmpty := by
    rw [h.named, Entries.rename, List.isEmpty_map]
  have hplaceholders : u.placeholders.isEmpty = t.placeholders.isEmpty := by
    rw [Bool.eq_iff_iff, List.isEmpty_iff_length_eq_zero, List.isEmpty_iff_length_eq_zero,
      hu.length_eq]
  rw [Binder.progress, Binder.progress, h.isResolvable_eq hu, h.positional, hnamed, h.template,
    h.template_renamed, hplaceholders]

end Alike

end Twins

/-! ### Series of calls -/

/-- The call with the new names. -/
def Call.rename (r : Renaming) : Call α → Call α
  | set b name value => set b (r name) value
  | all b map beside => all b (map.map (Entries.rename r)) (beside.rename r)
  | c => c

section Runs

variable {t u : Template} (hu : List.Forall₂ (Placeholder.Alike r) t.placeholders u.placeholders)
  {bs cs : List (Binder α)}
include hu

/-- A call and its twin are both taken or both refused. -/
theorem Call.step_twins (h : List.Forall₂ (Twins r t u) bs cs) (call : Call α) :
    (∃ bs' cs', call.step t bs = .ok bs' ∧ (call.rename r).step u cs = .ok cs' ∧
      List.Forall₂ (Twins r t u) bs' cs') ∨
    ∃ e, call.step t bs = .error e ∧
      (call.rename r).step u cs = .error (e.rename r u.source) := by
  cases call with
  | create origin =>
    exact Or.inl ⟨_, _, rfl, rfl,
      List.rel_append h (List.Forall₂.cons (Twins.empty origin t u) List.Forall₂.nil)⟩
  | copy k => exact Or.inl ⟨_, _, rfl, rfl, List.rel_append h (related_getElem? h k)⟩
  | set k name value =>
    exact Or.inl ⟨_, _, rfl, rfl, related_modify h fun _ _ _ hb => hb.bindNamed name value⟩
  | all k map beside =>
    exact Or.inl ⟨_, _, rfl, rfl, related_modify h fun _ _ _ hb => hb.bindAll map beside⟩
  | positional k values =>
    have hrename : (positional k values).rename r = positional k values := rfl
    rw [hrename, step, step]
    cases hk : bs[k]? with
    | none =>
      have hnone : cs[k]? = none := by
        rw [List.getElem?_eq_none_iff] at hk ⊢
        exact h.length_eq ▸ hk
      rw [hnone]
      exact Or.inl ⟨bs, cs, rfl, rfl, h⟩
    | some b =>
      obtain ⟨c, hc, hbc⟩ := exists_related h hk
      simp only [hc]
      rcases hbc.bindPositional hu values with ⟨b', c', hb', hc', htwins⟩ | ⟨e, hb', hc'⟩
      · rw [hb', hc']
        refine Or.inl ⟨_, _, rfl, rfl, ?_⟩
        rw [List.set_eq_modify, List.set_eq_modify]
        exact related_modify h fun _ _ _ _ => htwins
      · rw [hb', hc']
        exact Or.inr ⟨e, rfl, rfl⟩

theorem Call.run_twins (calls : List (Call α)) :
    List.Forall₂ (Twins r t u) (run t calls) (run u (calls.map (rename r))) := by
  have hfold : ∀ {bs cs : List (Binder α)}, List.Forall₂ (Twins r t u) bs cs →
      List.Forall₂ (Twins r t u) (calls.foldl (next t) bs)
        ((calls.map (rename r)).foldl (next u) cs) := by
    induction calls with
    | nil => exact fun h => h
    | cons call calls ih =>
      intro bs cs h
      apply ih
      -- a refused call changes neither list
      rcases step_twins hu h call with ⟨bs', cs', hb, hc, htwins⟩ | ⟨e, hb, hc⟩
      · rw [next, next, hb, hc]
        exact htwins
      · rw [next, next, hb, hc]
        exact h
  exact hfold List.Forall₂.nil

end Runs

/-- Two binders that give the same answers, but for the names. -/
structure Matches (r : Renaming) (source : String) (b c : Binder α) : Prop where
  resolve : c.resolve = b.resolve.mapError (Error.rename r source)
  progress : c.progress = b.progress
  positional : c.positional = b.positional
  unboundNames : c.unboundNames = b.unboundNames.map r

/-- A series of calls in the new names over the one template does what it does in the old
names over the other. -/
structure Equivariant (r : Renaming) (t u : Template) (calls : List (Call α)) : Prop where
  binders : List.Forall₂ (Matches r u.source) (Call.run t calls)
    (Call.run u (calls.map (Call.rename r)))
  raises : ∀ call : Call α,
    (∃ bs cs, call.step t (Call.run t calls) = .ok bs ∧
      (call.rename r).step u (Call.run u (calls.map (Call.rename r))) = .ok cs) ∨
    ∃ e, call.step t (Call.run t calls) = .error e ∧
      (call.rename r).step u (Call.run u (calls.map (Call.rename r))) =
        .error (e.rename r u.source)

/-- Names of placeholders are only names. A text that was read is read with new names as
well, with the same placeholders but for the names and what these have grown, and no
binder can tell the difference. -/
theorem equivariant_of_parse {strict : Bool} {sql : String} {parsed : Parsed}
    (h : Template.parse ⟨strict, none⟩ sql = .ok parsed) (r : Renaming) : ∃ again,
      Template.parse ⟨strict, none⟩ (parsed.template.respelled r) = .ok again ∧
      Template.Renamed r parsed.template again.template ∧
      (∀ source e, (Error.rename r source e).fault?.map Fault.cls = e.fault?.map Fault.cls) ∧
      ∀ calls : List (Call α), Equivariant r parsed.template again.template calls := by
  obtain ⟨again, hagain, hrenamed⟩ := Template.exists_parse_respelled r h
  have hu := hrenamed.alike
  refine ⟨again, hagain, hrenamed, Error.cls_rename, fun calls => ⟨?_, fun call => ?_⟩⟩
  · refine (Call.run_twins hu calls).imp fun b c hbc => ?_
    exact ⟨hbc.resolve_eq hu, hbc.progress_eq hu, hbc.positional, hbc.unboundNames_eq hu⟩
  · rcases Call.step_twins hu (Call.run_twins hu calls) call with ⟨bs, cs, hb, hc, -⟩ | herror
    · exact Or.inl ⟨bs, cs, hb, hc⟩
    · exact Or.inr herror

/-- Longer names. -/
def Renaming.underscored : Renaming where
  toFun name := "_" ++ name
  injective m n h := by
    have hlist := congrArg String.toList h
    rw [String.toList_append, String.toList_append] at hlist
    exact String.toList_inj.mp (List.append_cancel_left hlist)
  isName name h := by
    rw [String.toList_append]
    exact ⟨by decide, Lexeme.isWord_of_isName h⟩

/-- The names before a cast and behind a literal are replaced, and that in the literal is
kept. -/
theorem equivariant_of_parse_underscored : ∃ parsed again,
    Template.parse ⟨true, none⟩ ":a::b ':a' ? :b" = .ok parsed ∧
    Template.parse ⟨true, none⟩ ":_a::b ':a' ? :_b" = .ok again ∧
    again.template.names = ["_a", "_b"] ∧
    Equivariant .underscored parsed.template again.template
      [.create .template, .set 0 "a" 1, .positional 0 [2]] := by
  have h : Template.parse ⟨true, none⟩ ":a::b ':a' ? :b" = .ok _ := rfl
  obtain ⟨again, hagain, -, -, hall⟩ := equivariant_of_parse (α := ℕ) h .underscored
  have hagain : Template.parse ⟨true, none⟩ ":_a::b ':a' ? :_b" = .ok again := hagain
  refine ⟨_, again, h, hagain, ?_, hall _⟩
  cases hagain
  rfl

end QueryBinding
