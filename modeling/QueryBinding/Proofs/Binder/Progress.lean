import Mathlib.Data.Nat.Find
import QueryBinding.Proofs.Binder.Precedence
import QueryBinding.Proofs.Template.Names

/-! What a binder answers about its progress. Whether it can be resolved, its state and the
names that are left are each found in a way of their own, none of which looks at what a
sequence supersedes. They agree with resolving all the same, since a sequence that
supersedes names has a value for every placeholder. Resolving fails at the first
placeholder without a value. -/

namespace QueryBinding

variable {α : Type}

namespace History

/-! ### Gaps -/

/-- Every placeholder has a value. -/
def Complete (t : Template) (h : History α) : Prop :=
  ∀ (i : ℕ) (p : Placeholder), t.placeholders[i]? = some p → h.valueAt? t i p.name ≠ none

/-- The first placeholder without a value is `p`, which has rank `i`. -/
structure FirstGap (t : Template) (h : History α) (i : ℕ) (p : Placeholder) : Prop where
  placeholder : t.placeholders[i]? = some p
  missing : h.valueAt? t i p.name = none
  least : ∀ (j : ℕ) (q : Placeholder), t.placeholders[j]? = some q →
    h.valueAt? t j q.name = none → i ≤ j

section Failure

variable {β γ ε : Type} {f : β → Except ε γ} {xs : List β}

/-- Going through a list fails as the first member does that fails. -/
theorem mapM_eq_error_iff {e : ε} : xs.mapM f = .error e ↔ ∃ (i : ℕ) (x : β), xs[i]? = some x ∧
    f x = .error e ∧ ∀ (j : ℕ) (y : β), j < i → xs[j]? = some y → ∃ z, f y = .ok z := by
  induction xs with
  | nil => exact iff_of_false nofun fun ⟨i, x, hx, _⟩ => by simp at hx
  | cons x xs ih =>
    rw [List.mapM_cons]
    cases hx : f x with
    | error e' =>
      constructor
      · rintro ⟨⟩
        exact ⟨0, x, rfl, hx, nofun⟩
      · rintro ⟨i, y, hy, he, hbefore⟩
        cases i with
        | zero =>
          cases hy
          rw [hx] at he
          cases he
          rfl
        | succ i =>
          obtain ⟨z, hz⟩ := hbefore 0 x i.succ_pos rfl
          rw [hx] at hz
          cases hz
    | ok z =>
      have htail : (do let y ← Except.ok z; let ys ← xs.mapM f; pure (y :: ys)) = .error e ↔
          xs.mapM f = .error e := by
        cases hm : xs.mapM f with
        | error e' => exact Iff.rfl
        | ok ys => exact iff_of_false nofun nofun
      rw [htail, ih]
      constructor
      · rintro ⟨i, y, hy, he, hbefore⟩
        refine ⟨i + 1, y, hy, he, fun j w hj hw => ?_⟩
        cases j with
        | zero =>
          cases hw
          exact ⟨z, hx⟩
        | succ j => exact hbefore j w (Nat.lt_of_succ_lt_succ hj) hw
      · rintro ⟨i, y, hy, he, hbefore⟩
        cases i with
        | zero =>
          cases hy
          rw [hx] at he
          cases he
        | succ i => exact ⟨i, y, hy, he, fun j w hj hw => hbefore (j + 1) w (by omega) hw⟩

end Failure

section Gaps

variable {t : Template} {h : History α} {i : ℕ} {p : Placeholder}

theorem outcomeAt_eq_ok_iff {v : α} :
    h.outcomeAt t (p, i) = .ok v ↔ h.valueAt? t i p.name = some v := by
  rw [outcomeAt]
  cases h.valueAt? t i p.name <;> simp

theorem outcomeAt_eq_error_iff {e : Error} : h.outcomeAt t (p, i) = .error e ↔
    h.valueAt? t i p.name = none ∧ e = History.missing t i p.name := by
  rw [outcomeAt]
  cases h.valueAt? t i p.name <;> simp [eq_comm]

/-- Resolving fails at the first gap. -/
theorem resolve_eq_error_iff {e : Error} : h.resolve t = .error e ↔
    ∃ i p, FirstGap t h i p ∧ e = History.missing t i p.name := by
  have hzip (j : ℕ) : t.placeholders.zipIdx[j]? = t.placeholders[j]?.map fun q => (q, j) := by
    rw [List.getElem?_zipIdx, Nat.zero_add]
  rw [resolve, mapM_eq_error_iff]
  constructor
  · rintro ⟨i, ⟨p, k⟩, hp, he, hbefore⟩
    rw [hzip, Option.map_eq_some_iff] at hp
    obtain ⟨q, hp, heq⟩ := hp
    cases heq
    obtain ⟨hmissing, rfl⟩ := outcomeAt_eq_error_iff.mp he
    refine ⟨i, p, ⟨hp, hmissing, fun j q hq hnone => ?_⟩, rfl⟩
    by_contra hlt
    obtain ⟨v, hv⟩ := hbefore j (q, j) (Nat.lt_of_not_le hlt) (by rw [hzip, hq]; rfl)
    rw [outcomeAt_eq_ok_iff, hnone] at hv
    cases hv
  · rintro ⟨i, p, hgap, rfl⟩
    refine ⟨i, (p, i), by rw [hzip, hgap.placeholder]; rfl,
      outcomeAt_eq_error_iff.mpr ⟨hgap.missing, rfl⟩, fun j y hj hy => ?_⟩
    rw [hzip, Option.map_eq_some_iff] at hy
    obtain ⟨q, hq, rfl⟩ := hy
    obtain ⟨v, hv⟩ := Option.ne_none_iff_exists'.mp fun hnone =>
      Nat.not_le_of_lt hj (hgap.least j q hq hnone)
    exact ⟨v, outcomeAt_eq_ok_iff.mpr hv⟩

theorem exists_firstGap (hc : ¬ Complete t h) : ∃ i p, FirstGap t h i p := by
  classical
  have hgap : ∃ i p, t.placeholders[i]? = some p ∧ h.valueAt? t i p.name = none := by
    simpa [Complete] using hc
  obtain ⟨p, hp, hmissing⟩ := Nat.find_spec hgap
  exact ⟨_, p, hp, hmissing, fun j q hq hnone => Nat.find_min' hgap ⟨q, hq, hnone⟩⟩

theorem resolve_ok_iff : (∃ vs, h.resolve t = .ok vs) ↔ Complete t h := by
  constructor
  · rintro ⟨vs, hvs⟩
    by_contra hc
    obtain ⟨i, p, hgap⟩ := exists_firstGap hc
    rw [resolve_eq_error_iff.mpr ⟨i, p, hgap, rfl⟩] at hvs
    cases hvs
  · intro hc
    cases hr : h.resolve t with
    | ok vs => exact ⟨vs, rfl⟩
    | error e =>
      obtain ⟨i, p, hgap, -⟩ := resolve_eq_error_iff.mp hr
      exact absurd hgap.missing (hc i p hgap.placeholder)

/-- A sequence with a value for every placeholder leaves no gap. -/
theorem complete_of_aligned {values : List α} (ha : h.aligned? t = some values) :
    Complete t h := by
  obtain ⟨vs, hvs, -⟩ := resolve_aligned ha
  exact resolve_ok_iff.mp ⟨vs, hvs⟩

theorem FirstGap.aligned?_eq_none (hgap : FirstGap t h i p) : h.aligned? t = none := by
  rw [Option.eq_none_iff_forall_ne_some]
  intro values ha
  exact complete_of_aligned ha i p hgap.placeholder hgap.missing

end Gaps

end History

namespace Tracks

variable {t : Template} {b : Binder α} {h : History α}

/-! ### The questions -/

theorem has_named (hb : Tracks t b h) (name : String) :
    b.named.has name = (h.value? name).isSome := by
  rw [Entries.has, hb.named]

/-- Unless there is a value for every placeholder, what is open is what has no value. -/
theorem isOpen_iff (hb : Tracks t b h) (ha : h.aligned? t = none) {i : ℕ} {p : Placeholder}
    (hp : t.placeholders[i]? = some p) : b.isOpen p = true ↔ h.valueAt? t i p.name = none := by
  rw [Binder.isOpen]
  cases hname : p.name with
  | some name =>
    rw [History.valueAt?_named ha]
    simp [hb.has_named]
  | none =>
    simp only [hb.positional]
    cases hlast : h.last? with
    | none => simp [History.valueAt?_positional ha, hlast]
    | some values =>
      have hcount := History.aligned?_eq_none_iff.mp ha values hlast
      obtain ⟨v, -, hv⟩ := hb.exists_slot hlast hcount hp hname
      simp [hv]

theorem isResolvable_iff (hb : Tracks t b h) : b.isResolvable = true ↔ h.Complete t := by
  rw [Binder.isResolvable, Binder.firstOpen?, hb.aligned?_eq, hb.template]
  cases ha : h.aligned? t with
  | some values => exact iff_of_true rfl (History.complete_of_aligned ha)
  | none =>
    simp only [Option.isSome_none, Bool.false_eq_true, if_false, Option.isNone_iff_eq_none,
      List.find?_eq_none]
    constructor
    · intro hopen i p hp hmissing
      exact hopen p (List.mem_of_getElem? hp) ((hb.isOpen_iff ha hp).mpr hmissing)
    · intro hc p hp hopen
      obtain ⟨i, hi⟩ := List.mem_iff_getElem?.mp hp
      exact hc i p hi ((hb.isOpen_iff ha hi).mp hopen)

theorem mem_unboundNames_iff (hb : Tracks t b h) {name : String} : name ∈ b.unboundNames ↔
    ∃ i p, t.placeholders[i]? = some p ∧ p.name = some name ∧ h.valueAt? t i p.name = none := by
  rw [Binder.unboundNames, hb.aligned?_eq, hb.template]
  cases ha : h.aligned? t with
  | some values =>
    refine iff_of_false List.not_mem_nil ?_
    rintro ⟨i, p, hp, -, hmissing⟩
    exact History.complete_of_aligned ha i p hp hmissing
  | none =>
    have hvalue {i : ℕ} {p : Placeholder} (hname : p.name = some name) :
        h.valueAt? t i p.name = h.value? name := by
      rw [hname, History.valueAt?_named ha]
    simp only [Option.isSome_none, Bool.false_eq_true, if_false, List.mem_filter,
      Template.mem_names_iff, hb.has_named, Bool.not_eq_true', Option.isSome_eq_false_iff,
      Option.isNone_iff_eq_none]
    constructor
    · rintro ⟨⟨p, hp, hname⟩, hnone⟩
      obtain ⟨i, hi⟩ := List.mem_iff_getElem?.mp hp
      exact ⟨i, p, hi, hname, (hvalue hname).trans hnone⟩
    · rintro ⟨i, p, hp, hname, hmissing⟩
      exact ⟨⟨p, List.mem_of_getElem? hp, hname⟩, (hvalue hname).symm.trans hmissing⟩

theorem pairwise_unboundNames (hb : Tracks t b h) : b.unboundNames.Pairwise fun m n =>
    Template.firstRank t.placeholders m < Template.firstRank t.placeholders n := by
  rw [Binder.unboundNames, hb.template]
  split_ifs
  · exact .nil
  · exact (Template.pairwise_names t).filter _

/-- A binder is complete if no name is left and a sequence is there if one is needed. -/
theorem complete_iff (hb : Tracks t b h) : h.Complete t ↔ b.unboundNames = [] ∧
    (b.positional.isSome = true ∨ ∀ p ∈ t.placeholders, p.name ≠ none) := by
  constructor
  · intro hc
    refine ⟨List.eq_nil_iff_forall_not_mem.mpr fun name hname => ?_, ?_⟩
    · obtain ⟨i, p, hp, -, hmissing⟩ := hb.mem_unboundNames_iff.mp hname
      exact hc i p hp hmissing
    · rw [or_iff_not_imp_left, Option.not_isSome_iff_eq_none, hb.positional]
      intro hlast p hp hname
      obtain ⟨i, hi⟩ := List.mem_iff_getElem?.mp hp
      have ha : h.aligned? t = none := by rw [History.aligned?, hlast, Option.filter_none]
      apply hc i p hi
      rw [hname, History.valueAt?_positional ha, hlast, Option.bind_none]
  · rintro ⟨hnames, hsequence⟩ i p hp hmissing
    cases ha : h.aligned? t with
    | some values => exact History.complete_of_aligned ha i p hp hmissing
    | none =>
      cases hname : p.name with
      | some name =>
        have hmem := hb.mem_unboundNames_iff.mpr ⟨i, p, hp, hname, hmissing⟩
        rw [hnames] at hmem
        cases hmem
      | none =>
        have hopen := (hb.isOpen_iff ha hp).mpr hmissing
        rw [Binder.isOpen, hname, Option.isNone_iff_eq_none] at hopen
        rcases hsequence with hsome | hall
        · simp [hopen] at hsome
        · exact hall p (List.mem_of_getElem? hp) hname

/-! ### State -/

theorem untold_iff (hb : Tracks t b h) :
    (b.named.isEmpty && b.positional.isNone) = true ↔ h = [] := by
  rw [Bool.and_eq_true, List.isEmpty_iff, Option.isNone_iff_eq_none, hb.positional]
  constructor
  · rintro ⟨hnamed, hlast⟩
    rw [List.eq_nil_iff_forall_not_mem]
    intro e he
    cases e with
    | named name value =>
      have hvalue := hb.named name
      rw [hnamed, Entries.get?, eq_comm, History.value?, List.findSome?_eq_none_iff] at hvalue
      simpa [Event.value?] using hvalue _ (List.mem_reverse.mpr he)
    | sequence values =>
      rw [History.last?, List.findSome?_eq_none_iff] at hlast
      exact Option.some_ne_none _ (hlast _ (List.mem_reverse.mpr he))
  · rintro rfl
    refine ⟨?_, rfl⟩
    cases hnamed : b.named with
    | nil => rfl
    | cons e es =>
      have hvalue := hb.named e.1
      simp [hnamed, Entries.get?, History.value?] at hvalue

theorem complete_nil_iff : History.Complete t ([] : History α) ↔ t.placeholders = [] := by
  have hmissing (i : ℕ) (name : Option String) :
      History.valueAt? t ([] : History α) i name = none := by
    cases name <;> rfl
  constructor
  · intro hc
    rw [List.eq_nil_iff_forall_not_mem]
    intro p hp
    obtain ⟨i, hi⟩ := List.mem_iff_getElem?.mp hp
    exact hc i p hi (hmissing i p.name)
  · intro hnil i p hp
    simp [hnil] at hp

theorem progress_eq (hb : Tracks t b h) : (b.progress = .resolved ↔ h.Complete t) ∧
    (b.progress = .unbound ↔ t.placeholders ≠ [] ∧ h = []) := by
  rw [Binder.progress, hb.template]
  by_cases hh : h = []
  · subst hh
    rw [if_pos (hb.untold_iff.mpr rfl), complete_nil_iff]
    cases t.placeholders <;> simp
  · rw [if_neg fun huntold => hh (hb.untold_iff.mp huntold), ← hb.isResolvable_iff]
    cases b.isResolvable <;> simp [hh]

/-! ### The first gap -/

section Gap

variable {i : ℕ} {p : Placeholder} {name : String}

theorem le_firstRank (hb : Tracks t b h) (hgap : h.FirstGap t i p) (hname : name ∈ b.unboundNames) :
    i ≤ Template.firstRank t.placeholders name := by
  obtain ⟨j, q, hq, hqname, hmissing⟩ := hb.mem_unboundNames_iff.mp hname
  obtain ⟨r, hr, hrname⟩ := Template.exists_firstRank
    (Template.mem_names_iff.mpr ⟨q, List.mem_of_getElem? hq, hqname⟩)
  -- without an aligned sequence a name has the same value wherever it stands
  have ha := hgap.aligned?_eq_none
  refine hgap.least _ r hr ?_
  rw [hrname, History.valueAt?_named ha]
  rwa [hqname, History.valueAt?_named ha] at hmissing

/-- The name of the first gap appears there for the first time and is the first that is
left. -/
theorem first_name (hb : Tracks t b h) (hgap : h.FirstGap t i p) (hname : p.name = some name) :
    Template.firstRank t.placeholders name = i ∧ b.unboundNames.head? = some name := by
  have hmem : name ∈ b.unboundNames :=
    hb.mem_unboundNames_iff.mpr ⟨i, p, hgap.placeholder, hname, hgap.missing⟩
  have hrank : Template.firstRank t.placeholders name = i :=
    (Template.firstRank_le hgap.placeholder hname).antisymm (hb.le_firstRank hgap hmem)
  refine ⟨hrank, ?_⟩
  have hpairwise := hb.pairwise_unboundNames
  have hle : ∀ m ∈ b.unboundNames, i ≤ Template.firstRank t.placeholders m :=
    fun m hm => hb.le_firstRank hgap hm
  cases hall : b.unboundNames with
  | nil =>
    rw [hall] at hmem
    cases hmem
  | cons m ms =>
    rw [hall] at hmem hpairwise hle
    rcases List.mem_cons.mp hmem with rfl | hmem
    · rfl
    · -- another name at the head would be a gap further in front
      have hlt := (List.pairwise_cons.mp hpairwise).1 name hmem
      have hfirst := hle m List.mem_cons_self
      omega

end Gap

end Tracks

/-! ### Agreement -/

/-- The answers of a binder about its progress agree with what it resolves to, and with
the values that its history tells. -/
structure Reports (t : Template) (b : Binder α) (h : History α) : Prop where
  isResolvable : (∃ vs, b.resolve = .ok vs) ↔ b.isResolvable = true
  resolved : (∃ vs, b.resolve = .ok vs) ↔ b.progress = .resolved
  complete : (∃ vs, b.resolve = .ok vs) ↔ b.unboundNames = [] ∧
    (b.positional.isSome = true ∨ ∀ p ∈ t.placeholders, p.name ≠ none)
  raises : ∀ e, b.resolve = .error e → ∃ i p, h.FirstGap t i p
  named : ∀ i p name, h.FirstGap t i p → p.name = some name →
    b.resolve = .error (.unbound name i t.source) ∧ b.unboundNames.head? = some name ∧
      Template.firstRank t.placeholders name = i ∧
      ∃ f, (Error.unbound name i t.source).fault? = some f ∧ f.cls = .unbound ∧
        f.facts.get? "name" = some (.text name) ∧
          f.facts.get? "occurrence_index" = some (.int i)
  positional : ∀ i p, h.FirstGap t i p → p.name = none →
    b.resolve = .error (.noValues t.positionalCount i t.source) ∧
      ∃ f, (Error.noValues t.positionalCount i t.source).fault? = some f ∧ f.cls = .arity ∧
        f.facts.get? "expected" = some (.int t.positionalCount) ∧
          f.facts.get? "actual" = some (.int 0)
  nodup : b.unboundNames.Nodup
  order : b.unboundNames.Pairwise fun m n =>
    Template.firstRank t.placeholders m < Template.firstRank t.placeholders n
  missing : ∀ name, name ∈ b.unboundNames ↔
    ∃ i p, t.placeholders[i]? = some p ∧ p.name = some name ∧ h.valueAt? t i p.name = none
  unbound : b.progress = .unbound ↔ t.placeholders ≠ [] ∧ h = []

theorem Tracks.reports {t : Template} {b : Binder α} {h : History α} (hb : Tracks t b h)
    (ht : t.Ranked) : Reports t b h := by
  have hcomplete : (∃ vs, b.resolve = .ok vs) ↔ h.Complete t := by
    rw [hb.resolve_eq ht, History.resolve_ok_iff]
  have hgap {i : ℕ} {p : Placeholder} (hfirst : h.FirstGap t i p) :
      b.resolve = .error (History.missing t i p.name) := by
    rw [hb.resolve_eq ht, History.resolve_eq_error_iff]
    exact ⟨i, p, hfirst, rfl⟩
  constructor
  · rw [hcomplete, hb.isResolvable_iff]
  · rw [hcomplete, hb.progress_eq.1]
  · rw [hcomplete, hb.complete_iff]
  · intro e he
    rw [hb.resolve_eq ht, History.resolve_eq_error_iff] at he
    obtain ⟨i, p, hfirst, -⟩ := he
    exact ⟨i, p, hfirst⟩
  · intro i p name hfirst hname
    obtain ⟨hrank, hhead⟩ := hb.first_name hfirst hname
    have herror := hgap hfirst
    rw [hname] at herror
    exact ⟨herror, hhead, hrank, Error.fault?_unbound name i t.source⟩
  · intro i p hfirst hname
    have herror := hgap hfirst
    rw [hname] at herror
    exact ⟨herror, Error.fault?_noValues t.positionalCount i t.source⟩
  · exact hb.pairwise_unboundNames.imp fun hlt heq => absurd (heq ▸ hlt) (Nat.lt_irrefl _)
  · exact hb.pairwise_unboundNames
  · exact fun name => hb.mem_unboundNames_iff
  · exact hb.progress_eq.2

/-- Over a text that was read every binder reports what it would resolve to, after every
series of calls. -/
theorem reports_of_parse {rules : Rules} {sql : String} {parsed : Parsed}
    (h : Template.parse rules sql = .ok parsed) (calls : List (Call α)) :
    List.Forall₂ (Reports parsed.template) (Call.run parsed.template calls)
      (Call.histories parsed.template calls) :=
  (Call.run_tracks parsed.template calls).imp fun _ _ hb =>
    hb.reports (Template.ranked_of_parse h)

/-- A name alone leaves the positional placeholder without a value, and in a copy that has
one only the other name is missing. -/
theorem reports_of_parse_copy : ∃ parsed, Template.parse {} ":a ? :b :a" = .ok parsed ∧
    List.Forall₂ (Reports parsed.template)
      (Call.run parsed.template [.create .template, .set 0 "a" 1, .copy 0, .positional 1 [2]])
      (Call.histories parsed.template
        [.create .template, .set 0 "a" 1, .copy 0, .positional 1 [2]]) ∧
    (Call.run parsed.template
        [.create .template, .set 0 "a" 1, .copy 0, .positional 1 [2]]).map Binder.resolve =
      [.error (.noValues 1 1 ":a ? :b :a"), .error (.unbound "b" 2 ":a ? :b :a")] := by
  have h : Template.parse {} ":a ? :b :a" = .ok _ := rfl
  exact ⟨_, h, reports_of_parse h _, rfl⟩

end QueryBinding
