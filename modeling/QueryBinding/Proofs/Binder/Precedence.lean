import QueryBinding.Proofs.Binder.History
import QueryBinding.Proofs.Entries
import QueryBinding.Proofs.Error
import QueryBinding.Proofs.Template.Placeholders

/-! The order of calls decides. A binder keeps the last value of each name, the
last sequence and the names which that sequence supersedes. These three tell as
much about the values of the placeholders as the whole history of the binder does,
through every series of calls. -/

namespace QueryBinding

variable {α : Type}

/-- The placeholders bear their ranks, as those of a parsed text do. -/
def Template.Ranked (t : Template) : Prop :=
  ∀ (i : Nat) (p : Placeholder), t.placeholders[i]? = some p → p.index = i

/-! ### What a binder remembers -/

/-- A binder that remembers what matters of its history. -/
structure Tracks (t : Template) (b : Binder α) (h : History α) : Prop where
  template : b.template = t
  positional : b.positional = h.last?
  fits : ∀ values, h.last? = some values →
    values.length = t.count ∨ values.length = t.positionalCount
  named : ∀ name, b.named.get? name = h.value? name
  superseded : ∀ name, name ∈ b.superseded ↔ (h.aligned? t).isSome = true ∧
    (h.value? name).isSome = true ∧ h.since.value? name = none

namespace Tracks

variable {t : Template} {b : Binder α} {h : History α}

theorem empty (origin : Origin) (t : Template) :
    Tracks t (Binder.empty origin t : Binder α) [] where
  template := rfl
  positional := rfl
  fits := by simp [History.last?]
  named _ := rfl
  superseded name := by simp [Binder.empty, History.value?]

theorem bindNamed (hb : Tracks t b h) (name : String) (value : α) :
    Tracks t (b.bindNamed name value) (h.tell (.named name value)) where
  template := hb.template
  positional := by
    rw [History.last?_named]
    exact hb.positional
  fits := by
    rw [History.last?_named]
    exact hb.fits
  named other := by
    rw [History.value?_named, Binder.bindNamed, Entries.get?_put, hb.named]
  superseded other := by
    rw [History.aligned?_named, History.value?_named, History.since_named, History.value?_named,
      Binder.bindNamed, List.mem_filter, hb.superseded]
    by_cases hn : name = other
    · simp [hn]
    · simp [hn, Ne.symm hn]

/-- Several names at once are bound as one after the other. -/
theorem bindEntries_cons (b : Binder α) (e : String × α) (es : Entries α) :
    b.bindEntries (e :: es) = (b.bindNamed e.1 e.2).bindEntries es := by
  have hfilter : b.superseded.filter (fun name => !Entries.has name (e :: es)) =
      (b.superseded.filter (· ≠ e.1)).filter fun name => !Entries.has name es := by
    rw [List.filter_filter]
    apply List.filter_congr
    intro name _
    by_cases hn : e.1 = name
    · simp [Entries.has, Entries.get?, hn]
    · simp [Entries.has, Entries.get?, hn, Ne.symm hn]
  rw [Binder.bindEntries, hfilter]
  rfl

theorem bindEntries (hb : Tracks t b h) (es : Entries α) :
    Tracks t (b.bindEntries es) (h ++ History.ofEntries es) := by
  induction es generalizing b h with
  | nil =>
    have hnil : b.bindEntries [] = b := by
      simp [Binder.bindEntries, Entries.merge, Entries.has, Entries.get?]
    rw [hnil, History.ofEntries, List.map_nil, List.append_nil]
    exact hb
  | cons e es ih =>
    have happend : h ++ History.ofEntries (e :: es) =
        h.tell (.named e.1 e.2) ++ History.ofEntries es := by
      simp [History.ofEntries, History.tell]
    rw [bindEntries_cons, happend]
    exact ih (hb.bindNamed e.1 e.2)

theorem bindAll (hb : Tracks t b h) (map : Option (Entries α)) (beside : Entries α) :
    Tracks t (b.bindAll map beside)
      (h ++ History.ofEntries (map.getD []) ++ History.ofEntries beside) :=
  (hb.bindEntries _).bindEntries _

theorem bindPositional {values : List α} {b' : Binder α} (hb : Tracks t b h)
    (hv : b.bindPositional values = .ok b') : (values.length = t.count ∨
      values.length = t.positionalCount) ∧ Tracks t b' (h.tell (.sequence values)) := by
  obtain rfl := hb.template
  by_cases hcount : values.length ≠ b.template.count ∧ values.length ≠ b.template.positionalCount
  · rw [Binder.bindPositional, if_pos hcount] at hv
    cases hv
  · rw [Binder.bindPositional, if_neg hcount] at hv
    cases hv
    have hlength : values.length = b.template.count ∨
        values.length = b.template.positionalCount := by tauto
    refine ⟨hlength, rfl, ?_, ?_, ?_, ?_⟩
    · rw [History.last?_sequence]
    · rw [History.last?_sequence]
      rintro _ ⟨⟩
      exact hlength
    · intro name
      rw [History.value?_sequence]
      exact hb.named name
    · intro name
      rw [History.aligned?_sequence, History.value?_sequence, History.since_sequence]
      by_cases htotal : values.length = b.template.count
      · simp [htotal, Entries.mem_names_iff, hb.named, History.value?]
      · simp [htotal]

theorem bindPositional_error {values : List α} {e : Error} (hb : Tracks t b h) :
    b.bindPositional values = .error e ↔ values.length ≠ t.count ∧
      values.length ≠ t.positionalCount ∧
        e = .wrongCount t.count t.positionalCount values.length t.source := by
  obtain rfl := hb.template
  by_cases hcount : values.length ≠ b.template.count ∧ values.length ≠ b.template.positionalCount
  · rw [Binder.bindPositional, if_pos hcount, Except.error.injEq]
    exact ⟨fun he => ⟨hcount.1, hcount.2, he.symm⟩, fun he => he.2.2.symm⟩
  · rw [Binder.bindPositional, if_neg hcount]
    exact ⟨nofun, fun he => absurd ⟨he.1, he.2.1⟩ hcount⟩

/-! ### What a binder resolves to -/

theorem aligned?_eq (hb : Tracks t b h) : b.aligned? = h.aligned? t := by
  rw [Binder.aligned?, hb.positional, hb.template, History.aligned?]

/-- The names in force are those bound after an aligned sequence, or all if the
last sequence is not aligned. -/
theorem current?_eq (hb : Tracks t b h) (name : String) : b.current? name =
    if (h.aligned? t).isSome then h.since.value? name else h.value? name := by
  have hs := hb.superseded name
  rw [Binder.current?, hb.named]
  by_cases ha : (h.aligned? t).isSome = true
  · rw [if_pos ha]
    cases hsince : h.since.value? name with
    | some v =>
      have hnot : name ∉ b.superseded := fun hm => by simpa [hsince] using (hs.mp hm).2.2
      rw [History.value?_of_since h name hsince]
      simp [hnot]
    | none =>
      cases hv : h.value? name with
      | none => simp
      | some v =>
        have hm : name ∈ b.superseded := hs.mpr ⟨ha, by simp [hv], hsince⟩
        simp [hm]
  · have hnot : name ∉ b.superseded := fun hm => ha (hs.mp hm).1
    simp [ha, hnot]

theorem slot_lt {t : Template} {i : Nat} {p : Placeholder} (hp : t.placeholders[i]? = some p)
    (hname : p.name = none) : History.slot t i < t.positionalCount := by
  obtain ⟨hi, rfl⟩ := List.getElem?_eq_some_iff.mp hp
  have hsplit := List.take_append_drop i t.placeholders
  rw [List.drop_eq_getElem_cons hi] at hsplit
  rw [History.slot, Template.positionalCount]
  conv_rhs => rw [← hsplit]
  rw [List.countP_append, List.countP_cons, hname]
  simp only [Option.isNone_none, if_true]
  omega

theorem ranked_natCast {values : List α} {k : Nat} {v : α} (hk : values[k]? = some v) :
    Binder.ranked values (k : Int) = .ok v := by
  simp [Binder.ranked, Binder.at?, hk]

section ValueFor

variable {i : Nat} {p : Placeholder}

theorem valueFor_aligned (hb : Tracks t b h) (hp : t.placeholders[i]? = some p)
    (hindex : p.index = i) {values : List α} (ha : h.aligned? t = some values) :
    b.valueFor (History.slot t i) p = h.outcomeAt t (p, i) := by
  obtain ⟨hlast, hlength⟩ := History.aligned?_eq_some_iff.mp ha
  have hi : i < values.length := hlength ▸ (List.getElem?_eq_some_iff.mp hp).1
  have hv : values[i]? = some values[i] := List.getElem?_eq_getElem hi
  rw [History.outcomeAt, History.valueAt?_aligned ha, hv]
  cases hname : p.name with
  | none =>
    simp [Binder.valueFor, hname, hb.positional, hlast, hb.aligned?_eq, ha, hindex,
      ranked_natCast hv]
  | some name =>
    have hcurrent := hb.current?_eq name
    rw [ha, Option.isSome_some, if_pos rfl] at hcurrent
    cases hs : h.since.value? name with
    | none => simp [Binder.valueFor, hname, hcurrent, hs, hb.aligned?_eq, ha, hindex,
        ranked_natCast hv]
    | some v => simp [Binder.valueFor, hname, hcurrent, hs]

/-- A sequence that is not aligned has a value for every positional placeholder. -/
theorem exists_slot (hb : Tracks t b h) {values : List α} (hlast : h.last? = some values)
    (hcount : values.length ≠ t.count) (hp : t.placeholders[i]? = some p) (hname : p.name = none) :
    ∃ v, values[History.slot t i]? = some v ∧ h.valueAt? t i none = some v := by
  have ha : h.aligned? t = none := by
    rw [History.aligned?_eq_none_iff]
    intro vs hvs
    obtain rfl : values = vs := Option.some.inj (hlast.symm.trans hvs)
    exact hcount
  have hlength := (hb.fits values hlast).resolve_left hcount
  have hv : values[History.slot t i]? = some _ :=
    List.getElem?_eq_getElem (hlength ▸ slot_lt hp hname)
  refine ⟨_, hv, ?_⟩
  rw [History.valueAt?_positional ha, hlast]
  exact hv

theorem valueFor_slots (hb : Tracks t b h) (hp : t.placeholders[i]? = some p)
    (hindex : p.index = i) (ha : h.aligned? t = none) :
    b.valueFor (History.slot t i) p = h.outcomeAt t (p, i) := by
  rw [History.outcomeAt]
  cases hname : p.name with
  | none =>
    cases hlast : h.last? with
    | none =>
      rw [History.valueAt?_positional ha]
      simp [Binder.valueFor, hname, hb.positional, hlast, History.missing, hb.template, hindex]
    | some values =>
      have hcount := History.aligned?_eq_none_iff.mp ha values hlast
      obtain ⟨v, hv, hvalue⟩ := hb.exists_slot hlast hcount hp hname
      simp [Binder.valueFor, hname, hb.positional, hlast, hb.aligned?_eq, ha, hvalue,
        ranked_natCast hv]
  | some name =>
    have hcurrent := hb.current?_eq name
    rw [ha, Option.isSome_none, if_neg (by decide)] at hcurrent
    rw [History.valueAt?_named ha]
    cases hv : h.value? name with
    | none =>
      simp [Binder.valueFor, hname, hcurrent, hv, hb.aligned?_eq, ha, History.missing, hb.template,
        hindex]
    | some v => simp [Binder.valueFor, hname, hcurrent, hv]

/-- A placeholder gets the value that the history gives it. -/
theorem valueFor_eq (hb : Tracks t b h) (hp : t.placeholders[i]? = some p)
    (hindex : p.index = i) : b.valueFor (History.slot t i) p = h.outcomeAt t (p, i) := by
  cases ha : h.aligned? t with
  | none => exact hb.valueFor_slots hp hindex ha
  | some values => exact hb.valueFor_aligned hp hindex ha

end ValueFor

theorem slot_append {t : Template} {before ps : List Placeholder} {p : Placeholder}
    (heq : t.placeholders = before ++ p :: ps) : History.slot t (before ++ [p]).length =
      if p.name.isNone then History.slot t before.length + 1 else History.slot t before.length := by
  have hsplit : t.placeholders = (before ++ [p]) ++ ps := by simpa using heq
  rw [History.slot, hsplit, List.take_left, List.countP_append, History.slot, heq, List.take_left,
    List.countP_singleton]
  split_ifs <;> rfl

/-- The values of the placeholders from one on, by their ranks. -/
theorem valuesFrom_eq (hb : Tracks t b h)
    (ht : t.Ranked) {before ps : List Placeholder}
    (heq : t.placeholders = before ++ ps) : b.valuesFrom (History.slot t before.length) ps =
      (ps.zipIdx before.length).mapM (h.outcomeAt t) := by
  induction ps generalizing before with
  | nil => rfl
  | cons p ps ih =>
    have hp : t.placeholders[before.length]? = some p := by simp [heq]
    have ih := @ih (before ++ [p]) (by simpa using heq)
    rw [slot_append heq, List.length_append, List.length_singleton] at ih
    rw [Binder.valuesFrom, hb.valueFor_eq hp (ht _ p hp), ih, List.zipIdx_cons, List.mapM_cons]
    cases h.outcomeAt t (p, before.length) with
    | error e => rfl
    | ok v => cases (ps.zipIdx (before.length + 1)).mapM (h.outcomeAt t) <;> rfl

/-- Nothing was bound after an aligned sequence that supersedes every name. -/
theorem since_eq_none (hb : Tracks t b h) {values : List α} (ha : h.aligned? t = some values)
    (hall : b.named.names.all b.superseded.contains = true) (name : String) :
    h.since.value? name = none := by
  have hcurrent := hb.current?_eq name
  rw [ha, Option.isSome_some, if_pos rfl] at hcurrent
  rw [← hcurrent, Binder.current?]
  by_cases hm : name ∈ b.superseded
  · simp [hm]
  · have hget : b.named.get? name = none := by
      rw [← Option.not_isSome_iff_eq_none, ← Entries.mem_names_iff]
      intro hn
      rw [List.all_eq_true] at hall
      exact hm (by simpa using hall name hn)
    simp [hm, hget]

/-- The values of a binder are those that its history tells. -/
theorem resolve_eq (hb : Tracks t b h)
    (ht : t.Ranked) : b.resolve = h.resolve t := by
  have hloop : b.valuesFrom 0 b.template.placeholders = h.resolve t := by
    rw [hb.template]
    have hnil : t.placeholders = [] ++ t.placeholders := rfl
    exact hb.valuesFrom_eq ht hnil
  rw [Binder.resolve, hloop, hb.aligned?_eq]
  cases ha : h.aligned? t with
  | none => rfl
  | some values =>
    simp only
    split_ifs with hall
    · -- nothing was bound after the sequence
      obtain ⟨vs, hvs, hcount, hvalue⟩ := History.resolve_aligned ha
      have hlength := (History.aligned?_eq_some_iff.mp ha).2
      rw [hvs]
      congr 1
      apply List.ext_getElem?
      intro i
      by_cases hi : i < t.placeholders.length
      · rw [hvalue i _ (List.getElem?_eq_getElem hi)]
        have hnone : t.placeholders[i].name.bind h.since.value? = none := by
          cases hname : t.placeholders[i].name with
          | none => rfl
          | some name => exact hb.since_eq_none ha hall name
        rw [hnone, Option.none_or]
      · rw [Template.count] at hcount hlength
        rw [List.getElem?_eq_none (by omega), List.getElem?_eq_none (by omega)]
    · rfl

end Tracks

theorem Template.ranked_of_parse {rules : Rules} {sql : String} {parsed : Parsed}
    (h : Template.parse rules sql = .ok parsed) : parsed.template.Ranked := by
  intro i p hp
  rw [template_of_parse h] at hp
  obtain ⟨hi, rfl⟩ := List.getElem?_eq_some_iff.mp hp
  exact (exact_scan sql.toList).index i hi

/-! ### Series of calls -/

namespace Call

section Related

variable {β γ : Type} {R : β → γ → Prop} {xs : List β} {ys : List γ}

theorem related_getElem? (h : List.Forall₂ R xs ys) (k : Nat) :
    List.Forall₂ R xs[k]?.toList ys[k]?.toList := by
  induction h generalizing k with
  | nil => exact List.Forall₂.nil
  | cons hx _ ih =>
    cases k with
    | zero => exact List.Forall₂.cons hx List.Forall₂.nil
    | succ k => exact ih k

theorem exists_related (h : List.Forall₂ R xs ys) {k : Nat} {x : β} (hx : xs[k]? = some x) :
    ∃ y, ys[k]? = some y ∧ R x y := by
  induction h generalizing k with
  | nil => cases hx
  | cons hxy _ ih =>
    cases k with
    | zero =>
      cases hx
      exact ⟨_, rfl, hxy⟩
    | succ k => exact ih hx

theorem exists_related_of_mem (h : List.Forall₂ R xs ys) {y : γ} (hy : y ∈ ys) : ∃ x, R x y := by
  induction h with
  | nil => cases hy
  | cons hxy _ ih =>
    rcases List.mem_cons.mp hy with rfl | hy
    · exact ⟨_, hxy⟩
    · exact ih hy

theorem related_modify (h : List.Forall₂ R xs ys) {k : Nat} {f : β → β} {g : γ → γ}
    (hk : ∀ x y, xs[k]? = some x → R x y → R (f x) (g y)) :
    List.Forall₂ R (xs.modify k f) (ys.modify k g) := by
  induction h generalizing k with
  | nil =>
    rw [List.modify_nil, List.modify_nil]
    exact List.Forall₂.nil
  | cons hx hxs ih =>
    cases k with
    | zero => exact List.Forall₂.cons (hk _ _ rfl hx) hxs
    | succ k => exact List.Forall₂.cons hx (ih fun x y hxk => hk x y hxk)

end Related

variable {t : Template} {bs : List (Binder α)} {hs : List (History α)}

/-- A call keeps every binder in step with its history. -/
theorem next_tracks (h : List.Forall₂ (Tracks t) bs hs) (c : Call α) :
    List.Forall₂ (Tracks t) (c.next t bs) (c.record t hs) := by
  cases c with
  | create origin =>
    exact List.rel_append h (List.Forall₂.cons (Tracks.empty origin t) List.Forall₂.nil)
  | copy k => exact List.rel_append h (related_getElem? h k)
  | set k name value => exact related_modify h fun _ _ _ hb => hb.bindNamed name value
  | all k map beside => exact related_modify h fun _ _ _ hb => hb.bindAll map beside
  | positional k values =>
    rw [record]
    cases hk : bs[k]? with
    | none =>
      have hlength : hs.length ≤ k := h.length_eq ▸ List.getElem?_eq_none_iff.mp hk
      rw [List.modify_eq_self hlength, ite_self]
      simpa [next, step, hk] using h
    | some b =>
      obtain ⟨_, -, hb⟩ := exists_related h hk
      cases hv : b.bindPositional values with
      | error e =>
        have herror : (positional k values).next t bs = bs := by
          simp [next, step, hk, hv, Except.map]
        rw [herror, if_neg]
        · exact h
        · obtain ⟨htotal, hslots, -⟩ := hb.bindPositional_error.mp hv
          tauto
      | ok b' =>
        have hok : (positional k values).next t bs = bs.modify k fun _ => b' := by
          simp [next, step, hk, hv, Except.map, List.set_eq_modify]
        rw [hok, if_pos]
        · apply related_modify h
          intro x y hx hxy
          obtain rfl : b = x := Option.some.inj (hk.symm.trans hx)
          exact (hxy.bindPositional hv).2
        · exact (hb.bindPositional hv).1

theorem run_tracks (t : Template) (calls : List (Call α)) :
    List.Forall₂ (Tracks t) (run t calls) (histories t calls) := by
  have hfold : ∀ {bs : List (Binder α)} {hs : List (History α)}, List.Forall₂ (Tracks t) bs hs →
      List.Forall₂ (Tracks t) (calls.foldl (next t) bs) (calls.foldl (record t) hs) := by
    induction calls with
    | nil => exact fun h => h
    | cons c calls ih => exact fun h => ih (next_tracks h c)
  exact hfold List.Forall₂.nil

/-- The only call that is refused is one with a sequence of the wrong length. -/
theorem step_error_iff (h : List.Forall₂ (Tracks t) bs hs) {c : Call α} {e : Error} :
    c.step t bs = .error e ↔ ∃ k values, c = .positional k values ∧ k < bs.length ∧
      values.length ≠ t.count ∧ values.length ≠ t.positionalCount ∧
        e = .wrongCount t.count t.positionalCount values.length t.source := by
  cases c with
  | positional k values =>
    cases hk : bs[k]? with
    | none =>
      have hlength : bs.length ≤ k := List.getElem?_eq_none_iff.mp hk
      have hok : (positional k values).step t bs = .ok bs := by simp only [step, hk]
      rw [hok]
      constructor
      · nofun
      · rintro ⟨_, _, ⟨⟩, hlt, -⟩
        omega
    | some b =>
      obtain ⟨_, -, hb⟩ := exists_related h hk
      have hlt : k < bs.length := (List.getElem?_eq_some_iff.mp hk).1
      have hcall : (positional k values).step t bs = .error e ↔
          b.bindPositional values = .error e := by
        simp only [step, hk]
        cases b.bindPositional values <;> simp [Except.map]
      rw [hcall, hb.bindPositional_error]
      constructor
      · exact fun he => ⟨k, values, rfl, hlt, he⟩
      · rintro ⟨_, _, ⟨⟩, -, he⟩
        exact he
  | _ => simp [step]

theorem record_of_error (h : List.Forall₂ (Tracks t) bs hs) {c : Call α} {e : Error}
    (hc : c.step t bs = .error e) : c.record t hs = hs := by
  obtain ⟨k, values, rfl, -, htotal, hslots, -⟩ := (step_error_iff h).mp hc
  rw [record, if_neg]
  tauto

/-- A call changes no binder but its own. -/
theorem next_other (t : Template) (bs : List (Binder α)) {c : Call α} {j : Nat} (hj : j < bs.length)
    (hc : c.target? ≠ some j) : (c.next t bs)[j]? = bs[j]? := by
  cases c with
  | create origin => exact List.getElem?_append_left hj
  | copy k => exact List.getElem?_append_left hj
  | set k name value => exact List.getElem?_modify_ne _ _ fun he => hc (congrArg some he)
  | all k map beside => exact List.getElem?_modify_ne _ _ fun he => hc (congrArg some he)
  | positional k values =>
    rw [next, step]
    cases bs[k]? with
    | none => rfl
    | some b =>
      cases hv : b.bindPositional values with
      | error e => simp [hv, Except.map]
      | ok b' =>
        have hne : k ≠ j := fun he => hc (congrArg some he)
        simp [hv, Except.map, hne]

theorem record_other (t : Template) (hs : List (History α)) {c : Call α} {j : Nat}
    (hj : j < hs.length) (hc : c.target? ≠ some j) : (c.record t hs)[j]? = hs[j]? := by
  cases c with
  | create origin => exact List.getElem?_append_left hj
  | copy k => exact List.getElem?_append_left hj
  | set k name value => exact List.getElem?_modify_ne _ _ fun he => hc (congrArg some he)
  | all k map beside => exact List.getElem?_modify_ne _ _ fun he => hc (congrArg some he)
  | positional k values =>
    rw [record]
    split_ifs
    · exact List.getElem?_modify_ne _ _ fun he => hc (congrArg some he)
    · rfl

theorem run_append (t : Template) (calls : List (Call α)) (c : Call α) :
    run t (calls ++ [c]) = c.next t (run t calls) := by
  rw [run, List.foldl_append]
  rfl

theorem histories_append (t : Template) (calls : List (Call α)) (c : Call α) :
    histories t (calls ++ [c]) = c.record t (histories t calls) := by
  rw [histories, List.foldl_append]
  rfl

end Call

/-! ### The precedence of calls -/

/-- After a series of calls each binder resolves to what its own history tells, and
its next call is refused only if it is a sequence of the wrong length. -/
structure Faithful (t : Template) (calls : List (Call α)) : Prop where
  resolve : (Call.run t calls).map Binder.resolve = (Call.histories t calls).map (·.resolve t)
  aligned : ∀ h ∈ Call.histories t calls, ∀ values, h.last? = some values →
    values.length = t.count → ∃ vs, h.resolve t = .ok vs ∧ vs.length = t.count ∧
      ∀ (i : Nat) (p : Placeholder), t.placeholders[i]? = some p →
        vs[i]? = (p.name.bind h.since.value?).or values[i]?
  slots : ∀ h ∈ Call.histories t calls, ∀ values, h.last? = some values →
    values.length ≠ t.count → ∀ (i : Nat) (p : Placeholder), t.placeholders[i]? = some p →
      p.name = none → ∃ v, values[History.slot t i]? = some v ∧ h.valueAt? t i none = some v
  refuses : ∀ k values, k < (Call.run t calls).length → values.length ≠ t.count →
    values.length ≠ t.positionalCount → ∃ e f,
      (Call.positional k values).step t (Call.run t calls) = .error e ∧ e.fault? = some f ∧
        f.cls = .arity ∧ f.facts.get? "expected" = some (.int t.count) ∧
          f.facts.get? "actual" = some (.int values.length)
  accepts : ∀ c e, c.step t (Call.run t calls) = .error e →
    (∃ k values, c = .positional k values ∧ values.length ≠ t.count ∧
      values.length ≠ t.positionalCount) ∧ Call.run t (calls ++ [c]) = Call.run t calls ∧
        Call.histories t (calls ++ [c]) = Call.histories t calls
  apart : ∀ c j, j < (Call.run t calls).length → c.target? ≠ some j →
    (Call.run t (calls ++ [c]))[j]? = (Call.run t calls)[j]? ∧
      (Call.histories t (calls ++ [c]))[j]? = (Call.histories t calls)[j]?

/-- The binders of a text that was read are faithful to their histories after every
series of calls. -/
theorem faithful_of_parse {rules : Rules} {sql : String} {parsed : Parsed}
    (h : Template.parse rules sql = .ok parsed) (calls : List (Call α)) :
    Faithful parsed.template calls := by
  have ht := Template.ranked_of_parse h
  have htracks := Call.run_tracks parsed.template calls
  have hlength := htracks.length_eq
  constructor
  · rw [← List.forall₂_eq_eq_eq, List.forall₂_map_left_iff, List.forall₂_map_right_iff]
    exact htracks.imp fun _ _ hb => hb.resolve_eq ht
  · intro h _ values hlast hcount
    exact History.resolve_aligned (History.aligned?_eq_some_iff.mpr ⟨hlast, hcount⟩)
  · intro h hm values hlast hcount i p hp hname
    obtain ⟨_, hb⟩ := Call.exists_related_of_mem htracks hm
    exact hb.exists_slot hlast hcount hp hname
  · intro k values hk htotal hslots
    have hstep := (Call.step_error_iff htracks).mpr ⟨k, values, rfl, hk, htotal, hslots, rfl⟩
    obtain ⟨f, hf⟩ := Error.fault?_wrongCount _ _ _ _
    exact ⟨_, f, hstep, hf⟩
  · intro c e hc
    obtain ⟨k, values, heq, -, htotal, hslots, -⟩ := (Call.step_error_iff htracks).mp hc
    refine ⟨⟨k, values, heq, htotal, hslots⟩, ?_, ?_⟩
    · rw [Call.run_append, Call.next, hc]
    · rw [Call.histories_append, Call.record_of_error htracks hc]
  · intro c j hj hc
    rw [Call.run_append, Call.histories_append]
    exact ⟨Call.next_other _ _ hj hc, Call.record_other _ _ (hlength ▸ hj) hc⟩

/-- A sequence for all placeholders supersedes a name, and in a copy a shorter one
brings it back. The last sequence is refused. -/
theorem faithful_of_parse_copy : ∃ parsed, Template.parse {} ":a ? :b" = .ok parsed ∧
    Faithful parsed.template [.create .template, .set 0 "a" 1, .positional 0 [7, 8, 9],
      .set 0 "b" 2, .copy 0, .positional 1 [4], .positional 0 [5, 6]] ∧
    (Call.run parsed.template [.create .template, .set 0 "a" 1, .positional 0 [7, 8, 9],
      .set 0 "b" 2, .copy 0, .positional 1 [4], .positional 0 [5, 6]]).map Binder.resolve =
        [.ok [7, 8, 2], .ok [1, 4, 2]] := by
  have h : Template.parse {} ":a ? :b" = .ok _ := rfl
  exact ⟨_, h, faithful_of_parse h _, rfl⟩

end QueryBinding
