import QueryBinding.Proofs.Binder.Progress

/-! How binders get on. A history only grows. What is bound by name adds values and takes
none away, and neither does a call that is refused, so nothing that could be resolved is
lost by them. Only a sequence for the positional placeholders alone can lose something: the
values of names that the sequence before it gave and no call by name did. -/

namespace QueryBinding

variable {α : Type}

def Event.name? : Event α → Option String
  | named name _ => some name
  | sequence _ => none

namespace History

variable {t : Template} {h es : History α} {name : String}

/-- The names that were ever bound. -/
def names (h : History α) : List String := h.filterMap Event.name?

/-! ### Longer histories -/

theorem value?_append (h es : History α) (name : String) :
    (h ++ es).value? name = (es.value? name).or (h.value? name) := by
  rw [value?, List.reverse_append, List.findSome?_append, value?, value?]

theorem isSome_value?_iff : (h.value? name).isSome = true ↔ name ∈ h.names := by
  simp only [value?, List.findSome?_isSome_iff, List.mem_reverse, names, List.mem_filterMap]
  refine exists_congr fun e => and_congr_right fun _ => ?_
  cases e <;> simp [Event.value?, Event.name?]

/-- Names leave the last sequence as it is. -/
theorem last?_append (hes : ∀ e ∈ es, e.sequence? = none) : (h ++ es).last? = h.last? := by
  have hnone : es.reverse.findSome? Event.sequence? = none := by
    rw [List.findSome?_eq_none_iff]
    exact fun e he => hes e (List.mem_reverse.mp he)
  rw [last?, List.reverse_append, List.findSome?_append, hnone, Option.none_or, last?]

theorem aligned?_append (hes : ∀ e ∈ es, e.sequence? = none) :
    (h ++ es).aligned? t = h.aligned? t := by
  rw [aligned?, last?_append hes, aligned?]

/-- Names take no value away. -/
theorem Complete.append (hc : Complete t h) (hes : ∀ e ∈ es, e.sequence? = none) :
    Complete t (h ++ es) := by
  cases ha : h.aligned? t with
  | some values => exact complete_of_aligned ((aligned?_append hes).trans ha)
  | none =>
    intro i p hp
    have ha' := (aligned?_append (t := t) hes).trans ha
    have hvalue := hc i p hp
    cases hname : p.name with
    | none =>
      rw [hname, valueAt?_positional ha] at hvalue
      rwa [valueAt?_positional ha', last?_append hes]
    | some name =>
      rw [hname, valueAt?_named ha] at hvalue
      rw [valueAt?_named ha', value?_append, Ne, Option.or_eq_none_iff]
      exact fun hnone => hvalue hnone.2

end History

namespace Tracks

variable {t : Template} {b b' : Binder α} {h es : History α} {values : List α}

theorem has_named_iff (hb : Tracks t b h) {name : String} :
    b.named.has name = true ↔ name ∈ h.names := by
  rw [hb.has_named, History.isSome_value?_iff]

/-- Unless there is a value for every placeholder, what is left are the names that were never
bound. -/
theorem mem_unboundNames_slots (hb : Tracks t b h) (ha : h.aligned? t = none) {name : String} :
    name ∈ b.unboundNames ↔ (∃ p ∈ t.placeholders, p.name = some name) ∧ name ∉ h.names := by
  rw [Binder.unboundNames, hb.aligned?_eq, ha, hb.template, ← hb.has_named_iff,
    ← Template.mem_names_iff]
  simp

/-- Names that are bound later are no longer left. -/
theorem unboundNames_sublist (hb : Tracks t b h) (hb' : Tracks t b' (h ++ es))
    (hes : ∀ e ∈ es, e.sequence? = none) : b'.unboundNames.Sublist b.unboundNames := by
  rw [Binder.unboundNames, Binder.unboundNames, hb'.aligned?_eq, hb.aligned?_eq,
    History.aligned?_append hes, hb'.template, hb.template]
  split_ifs
  · exact List.Sublist.refl _
  · refine List.monotone_filter_right _ fun name hname => ?_
    rw [Bool.not_eq_true'] at hname ⊢
    rw [hb'.has_named, History.value?_append] at hname
    rw [hb.has_named]
    cases hv : h.value? name with
    | none => rfl
    | some v => simp [hv] at hname

theorem isResolvable_append (hb : Tracks t b h) (hb' : Tracks t b' (h ++ es))
    (hes : ∀ e ∈ es, e.sequence? = none) (hr : b.isResolvable = true) :
    b'.isResolvable = true := by
  rw [hb'.isResolvable_iff]
  exact (hb.isResolvable_iff.mp hr).append hes

/-- A binder that was told something is told it for good. -/
theorem progress_append (hb : Tracks t b h) (hb' : Tracks t b' (h ++ es))
    (hp : b.progress ≠ .unbound) : b'.progress ≠ .unbound := by
  rw [Ne, hb.progress_eq.2] at hp
  rw [Ne, hb'.progress_eq.2]
  rintro ⟨hne, hnil⟩
  exact hp ⟨hne, (List.append_eq_nil_iff.mp hnil).1⟩

/-! ### Sequences -/

theorem isResolvable_of_count (hb : Tracks t b h) (hcount : values.length = t.count) :
    ∃ b', b.bindPositional values = .ok b' ∧ b'.isResolvable = true := by
  cases hv : b.bindPositional values with
  | error e => exact absurd hcount (hb.bindPositional_error.mp hv).1
  | ok b' =>
    obtain ⟨-, hb'⟩ := hb.bindPositional hv
    have ha : (h.tell (.sequence values)).aligned? t = some values := by
      rw [History.aligned?_sequence, if_pos hcount]
    exact ⟨b', rfl, hb'.isResolvable_iff.mpr (History.complete_of_aligned ha)⟩

/-- After a sequence only names can be left. -/
theorem isResolvable_sequence (hb' : Tracks t b' (h.tell (.sequence values))) :
    b'.isResolvable = true ↔ b'.unboundNames = [] := by
  rw [hb'.isResolvable_iff, hb'.complete_iff, hb'.positional, History.last?_sequence]
  simp

theorem names_sequence (h : History α) (values : List α) :
    (h.tell (.sequence values)).names = h.names := by
  simp [History.names, History.tell, Event.name?]

/-- The only way back. -/
theorem isResolvable_eq_false_iff (hb : Tracks t b h) (hr : b.isResolvable = true)
    (hv : b.bindPositional values = .ok b') : b'.isResolvable = false ↔
      values.length = t.positionalCount ∧ values.length ≠ t.count ∧
      (∃ before, b.positional = some before ∧ before.length = t.count) ∧
      ∃ p ∈ t.placeholders, ∃ name, p.name = some name ∧ name ∉ h.names := by
  obtain ⟨hlength, hb'⟩ := hb.bindPositional hv
  rw [← Bool.not_eq_true]
  by_cases hcount : values.length = t.count
  · obtain ⟨b'', hv'', hr''⟩ := hb.isResolvable_of_count hcount
    cases hv.symm.trans hv''
    exact iff_of_false (fun hnot => hnot hr'') fun hall => hall.2.1 hcount
  · have ha' : (h.tell (.sequence values)).aligned? t = none := by
      rw [History.aligned?_sequence, if_neg hcount]
    have hleft (name : String) : name ∈ b'.unboundNames ↔
        (∃ p ∈ t.placeholders, p.name = some name) ∧ name ∉ h.names := by
      rw [hb'.mem_unboundNames_slots ha', names_sequence]
    rw [isResolvable_sequence hb']
    constructor
    · intro hne
      obtain ⟨name, hname⟩ := List.exists_mem_of_ne_nil _ hne
      obtain ⟨⟨p, hp, hpname⟩, hnever⟩ := (hleft name).mp hname
      refine ⟨hlength.resolve_left hcount, hcount, ?_, p, hp, name, hpname, hnever⟩
      cases ha : h.aligned? t with
      | some before =>
        obtain ⟨hlast, hbefore⟩ := History.aligned?_eq_some_iff.mp ha
        exact ⟨before, hb.positional.trans hlast, hbefore⟩
      | none =>
        -- without an aligned sequence the name was already missing before
        have hnone := (hb.complete_iff.mp (hb.isResolvable_iff.mp hr)).1
        have hmem := (hb.mem_unboundNames_slots ha).mpr ⟨⟨p, hp, hpname⟩, hnever⟩
        rw [hnone] at hmem
        cases hmem
    · rintro ⟨-, -, -, p, hp, name, hpname, hnever⟩ hnil
      have hmem := (hleft name).mpr ⟨⟨p, hp, hpname⟩, hnever⟩
      rw [hnil] at hmem
      cases hmem

end Tracks

/-! ### Runs -/

namespace Call

variable {t : Template} {hs : List (History α)} {h : History α} {j : ℕ}

theorem getElem?_modify_append (hj : hs[j]? = some h) (k : ℕ) (es : History α) :
    ∃ es', (hs.modify k (· ++ es))[j]? = some (h ++ es') ∧ (es' = [] ∨ k = j ∧ es' = es) := by
  by_cases hk : k = j
  · subst hk
    exact ⟨es, by simp [hj], Or.inr ⟨rfl, rfl⟩⟩
  · exact ⟨[], by simp [hk, hj], Or.inl rfl⟩

/-- A call adds to the history of a binder, or leaves it alone. Only a sequence of its own that
fits adds something else than names. -/
theorem record_extends (hj : hs[j]? = some h) (c : Call α) :
    ∃ es, (c.record t hs)[j]? = some (h ++ es) ∧
      ((∀ values, c = .positional j values →
        values.length ≠ t.count ∧ values.length ≠ t.positionalCount) →
          ∀ e ∈ es, e.sequence? = none) := by
  have hlt : j < hs.length := (List.getElem?_eq_some_iff.mp hj).1
  have hnone : ∀ e ∈ ([] : History α), e.sequence? = none := nofun
  cases c with
  | create origin =>
    exact ⟨[], by rw [record, List.getElem?_append_left hlt, hj, List.append_nil], fun _ => hnone⟩
  | copy k =>
    exact ⟨[], by rw [record, List.getElem?_append_left hlt, hj, List.append_nil], fun _ => hnone⟩
  | set k name value =>
    obtain ⟨es, hes, rfl | ⟨-, rfl⟩⟩ := getElem?_modify_append hj k [.named name value]
    · exact ⟨[], hes, fun _ => hnone⟩
    · exact ⟨_, hes, fun _ => by simp [Event.sequence?]⟩
  | all k map beside =>
    have hassoc : (all k map beside).record t hs = hs.modify k
        (· ++ (History.ofEntries (map.getD []) ++ History.ofEntries beside)) := by
      simp only [record, List.append_assoc]
    rw [hassoc]
    obtain ⟨es, hes, rfl | ⟨-, rfl⟩⟩ := getElem?_modify_append hj k
      (History.ofEntries (map.getD []) ++ History.ofEntries beside)
    · exact ⟨[], hes, fun _ => hnone⟩
    · refine ⟨_, hes, fun _ e he => ?_⟩
      rw [History.ofEntries, History.ofEntries, ← List.map_append] at he
      obtain ⟨_, -, rfl⟩ := List.mem_map.mp he
      rfl
  | positional k values =>
    rw [record]
    split_ifs with hfits
    · obtain ⟨es, hes, rfl | ⟨rfl, rfl⟩⟩ := getElem?_modify_append hj k [.sequence values]
      · exact ⟨[], hes, fun _ => hnone⟩
      · refine ⟨_, hes, fun hrefused => ?_⟩
        obtain ⟨htotal, hslots⟩ := hrefused values rfl
        tauto
    · exact ⟨[], by rw [hj, List.append_nil], fun _ => hnone⟩

theorem histories_extend {calls : List (Call α)} (hj : (histories t calls)[j]? = some h)
    (more : List (Call α)) : ∃ es, (histories t (calls ++ more))[j]? = some (h ++ es) := by
  have hfold : ∀ {hs : List (History α)} {h : History α}, hs[j]? = some h →
      ∃ es, (more.foldl (record t) hs)[j]? = some (h ++ es) := by
    induction more with
    | nil => exact fun hj => ⟨[], by rw [List.foldl_nil, hj, List.append_nil]⟩
    | cons c more ih =>
      intro hs h hj
      obtain ⟨es, hes, -⟩ := record_extends (t := t) hj c
      obtain ⟨es', hes'⟩ := ih hes
      exact ⟨es ++ es', by rw [List.foldl_cons, hes', List.append_assoc]⟩
  rw [histories, List.foldl_append]
  exact hfold hj

/-- The binder with a history. -/
theorem exists_tracks {calls : List (Call α)} (hj : (histories t calls)[j]? = some h) :
    ∃ b, (run t calls)[j]? = some b ∧ Tracks t b h := by
  have hflip : List.Forall₂ (fun h b => Tracks t b h) (histories t calls) (run t calls) :=
    (run_tracks t calls).flip
  exact exists_related hflip hj

end Call

/-! ### No way back -/

/-- Binder `j` after a series of calls, with its history. What it has reached it keeps, but for
the values of a sequence for all placeholders that gives way to a shorter one. -/
structure Advances (t : Template) (calls : List (Call α)) (j : ℕ) (b : Binder α)
    (h : History α) : Prop where
  leaves : b.progress ≠ .unbound → ∀ more, ∃ b', (Call.run t (calls ++ more))[j]? = some b' ∧
    b'.progress ≠ .unbound
  /-- Every call keeps what there is unless it is a sequence for this binder that fits. -/
  keeps : ∀ c : Call α,
    (∀ values, c = .positional j values → ∃ e, b.bindPositional values = .error e) →
      ∃ b', (Call.run t (calls ++ [c]))[j]? = some b' ∧
        b'.unboundNames.Sublist b.unboundNames ∧
        (b.isResolvable = true → b'.isResolvable = true)
  accepts : ∀ values b', b.bindPositional values = .ok b' →
    (Call.run t (calls ++ [.positional j values]))[j]? = some b'
  completes : ∀ values : List α, values.length = t.count →
    ∃ b', b.bindPositional values = .ok b' ∧ b'.isResolvable = true
  gives_way : ∀ values b', b.isResolvable = true → b.bindPositional values = .ok b' →
    (b'.isResolvable = false ↔ values.length = t.positionalCount ∧ values.length ≠ t.count ∧
      (∃ before, b.positional = some before ∧ before.length = t.count) ∧
      ∃ p ∈ t.placeholders, ∃ name, p.name = some name ∧ name ∉ h.names)
  never_bound : ∀ values b', b.bindPositional values = .ok b' → b'.isResolvable = false →
    (∀ name, name ∈ b'.unboundNames ↔
      (∃ p ∈ t.placeholders, p.name = some name) ∧ name ∉ h.names) ∧
    b'.unboundNames.Pairwise fun m n =>
      Template.firstRank t.placeholders m < Template.firstRank t.placeholders n

/-- Every binder advances, whatever the template and the calls. -/
theorem advances_run (t : Template) (calls : List (Call α)) :
    ∀ (j : ℕ) (b : Binder α), (Call.run t calls)[j]? = some b →
      ∃ h, (Call.histories t calls)[j]? = some h ∧ Advances t calls j b h := by
  intro j b hj
  obtain ⟨h, hh, hb⟩ := Call.exists_related (Call.run_tracks t calls) hj
  refine ⟨h, hh, ?_⟩
  constructor
  · intro hp more
    obtain ⟨es, hes⟩ := Call.histories_extend hh more
    obtain ⟨b', hj', hb'⟩ := Call.exists_tracks hes
    exact ⟨b', hj', hb.progress_append hb' hp⟩
  · intro c hrefused
    obtain ⟨es, hes, hnames⟩ := Call.record_extends (t := t) hh c
    rw [← Call.histories_append] at hes
    obtain ⟨b', hj', hb'⟩ := Call.exists_tracks hes
    have hes : ∀ e ∈ es, e.sequence? = none := by
      refine hnames fun values hc => ?_
      obtain ⟨e, he⟩ := hrefused values hc
      obtain ⟨htotal, hslots, -⟩ := hb.bindPositional_error.mp he
      exact ⟨htotal, hslots⟩
    exact ⟨b', hj', hb.unboundNames_sublist hb' hes, hb.isResolvable_append hb' hes⟩
  · intro values b' hv
    have hlt : j < (Call.run t calls).length := (List.getElem?_eq_some_iff.mp hj).1
    rw [Call.run_append, Call.next, Call.step, hj]
    simp [hv, Except.map, hlt]
  · exact fun values hcount => hb.isResolvable_of_count hcount
  · exact fun values b' hr hv => hb.isResolvable_eq_false_iff hr hv
  · intro values b' hv hr
    obtain ⟨-, hb'⟩ := hb.bindPositional hv
    have ha' : (h.tell (.sequence values)).aligned? t = none := by
      by_contra hne
      obtain ⟨vs, hvs⟩ := Option.ne_none_iff_exists'.mp hne
      rw [hb'.isResolvable_iff.mpr (History.complete_of_aligned hvs)] at hr
      cases hr
    refine ⟨fun name => ?_, hb'.pairwise_unboundNames⟩
    rw [hb'.mem_unboundNames_slots ha', Tracks.names_sequence]

/-- A sequence for both placeholders is followed by one for the positional one alone, and the
name that was never bound is left. -/
theorem advances_run_slots : ∃ parsed, Template.parse {} ":a ? :b" = .ok parsed ∧
    ∃ b h, (Call.run parsed.template
        [.create .template, .set 0 "a" 1, .positional 0 [7, 8, 9]])[0]? = some b ∧
      Advances parsed.template [.create .template, .set 0 "a" 1, .positional 0 [7, 8, 9]] 0 b h ∧
      b.isResolvable = true ∧ ∃ b', b.bindPositional [4] = .ok b' ∧ b'.unboundNames = ["b"] := by
  obtain ⟨h, -, ha⟩ := advances_run ⟨":a ? :b", "? ? ?", [⟨.named, some "a", 0, 0⟩,
    ⟨.positional, none, 1, 3⟩, ⟨.named, some "b", 2, 5⟩], []⟩
    [.create .template, .set 0 "a" 1, .positional 0 [7, 8, 9]] 0 _ rfl
  exact ⟨⟨_, []⟩, rfl, _, h, rfl, ha, rfl, _, rfl, rfl⟩

end QueryBinding
