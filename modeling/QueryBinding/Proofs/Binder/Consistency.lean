import QueryBinding.Proofs.Binder.Precedence

/-! What the parts of a binder have to do with each other, and which values of a sequence
are looked up. A sequence supersedes only names that were bound, and only if it has a value
for every placeholder; every sequence fits the template in one of the two layouts. So the
values of the positional placeholders are never looked up behind the end of a sequence,
whatever the template. The ranks of placeholders are only as good as the template: one put
together by hand may have ranks that lie outside. -/

namespace QueryBinding

variable {α : Type}

namespace Binder

variable {b : Binder α} {values : List α} {p : Placeholder} {ps : List Placeholder} {slot : ℕ}

/-! ### Ranks -/

/-- A rank that has a value among `n` of them. A negative one counts from the end. -/
def InRange (n : ℕ) (index : ℤ) : Prop := -n ≤ index ∧ index < n

theorem at?_eq_none_iff {index : ℤ} : at? values index = none ↔ ¬ InRange values.length index := by
  unfold at? InRange
  split_ifs with hpos hneg
  · rw [List.getElem?_eq_none_iff]
    omega
  · rw [List.getElem?_eq_none_iff]
    omega
  · exact iff_of_true rfl (by omega)

theorem ranked_eq_error_iff {index : ℤ} {e : Error} :
    ranked values index = .error e ↔ e = .outOfRange ∧ ¬ InRange values.length index := by
  rw [ranked, ← at?_eq_none_iff]
  cases at? values index with
  | none => exact ⟨fun h => ⟨(Except.error.inj h).symm, rfl⟩, fun h => congrArg _ h.1.symm⟩
  | some v =>
    refine iff_of_false ?_ fun h => Option.some_ne_none v h.2
    rintro ⟨⟩

/-- A positional placeholder that has its place in the sequence. -/
theorem ranked_slot_ne {k : ℕ} (h : k < values.length) (e : Error) :
    ranked values (k : ℤ) ≠ .error e := by
  intro he
  exact (ranked_eq_error_iff.mp he).2 ⟨by omega, by omega⟩

/-! ### Sequences with a value for every placeholder -/

/-- The placeholder has no name whose value is in force. -/
def Draws (b : Binder α) (p : Placeholder) : Prop :=
  ∀ name, p.name = some name → b.named.has name = false ∨ name ∈ b.superseded

theorem current?_eq_none_iff {name : String} :
    b.current? name = none ↔ b.named.has name = false ∨ name ∈ b.superseded := by
  rw [current?, Entries.has, Option.isSome_eq_false_iff, Option.isNone_iff_eq_none]
  by_cases hm : name ∈ b.superseded <;> simp [hm]

theorem draws_iff : b.Draws p ↔ p.name.bind b.current? = none := by
  rw [Draws]
  cases hp : p.name with
  | none => simp
  | some name => simp [current?_eq_none_iff]

theorem aligned?_eq_some_iff : b.aligned? = some values ↔
    b.positional = some values ∧ values.length = b.template.count := by
  rw [aligned?, Option.filter_eq_some_iff, decide_eq_true_eq]

theorem aligned?_eq_none_iff : b.aligned? = none ↔
    ∀ values, b.positional = some values → values.length ≠ b.template.count := by
  simp [aligned?, Option.filter_eq_none_iff]

theorem valueFor_of_not_draws {v : α} (h : p.name.bind b.current? = some v) (slot : ℕ) :
    b.valueFor slot p = .ok v := by
  obtain ⟨name, hname, hv⟩ := Option.bind_eq_some_iff.mp h
  simp only [valueFor, hname, hv]

/-- A value that is drawn from the sequence is looked up by its rank. -/
theorem valueFor_of_draws (ha : b.aligned? = some values) (h : b.Draws p) (slot : ℕ) :
    b.valueFor slot p = ranked values p.index := by
  rw [draws_iff] at h
  cases hp : p.name with
  | none => simp [valueFor, hp, ha, (aligned?_eq_some_iff.mp ha).1]
  | some name =>
    rw [hp, Option.bind_some] at h
    simp [valueFor, hp, ha, h]

theorem map_eq_error_iff {ε β γ : Type} {x : Except ε β} {f : β → γ} {e : ε} :
    x.map f = .error e ↔ x = .error e := by
  cases x <;> simp [Except.map]

theorem valuesFrom_aligned_error_iff (ha : b.aligned? = some values) {e : Error} :
    b.valuesFrom slot ps = .error e ↔ e = .outOfRange ∧
      ∃ p ∈ ps, b.Draws p ∧ ¬ InRange values.length p.index := by
  -- the slot is of no account here, since the look-ups go by rank
  induction ps generalizing slot with
  | nil => simp [valuesFrom]
  | cons p ps ih =>
    rw [valuesFrom, List.exists_mem_cons_iff]
    cases hv : p.name.bind b.current? with
    | some v =>
      have hdraws : ¬ b.Draws p := by
        rw [draws_iff, hv]
        exact Option.some_ne_none v
      rw [valueFor_of_not_draws hv]
      simp only [map_eq_error_iff, ih, hdraws, false_and, false_or]
    | none =>
      have hdraws : b.Draws p := draws_iff.mpr hv
      rw [valueFor_of_draws ha hdraws]
      cases hr : ranked values p.index with
      | error e' =>
        obtain ⟨rfl, hrange⟩ := ranked_eq_error_iff.mp hr
        simp [hdraws, hrange, eq_comm]
      | ok v =>
        have hrange : InRange values.length p.index := by
          by_contra hrange
          have herror := ranked_eq_error_iff.mpr ⟨rfl, hrange⟩
          rw [hr] at herror
          cases herror
        simp only [map_eq_error_iff, ih, hrange, not_true, and_false, false_or]

theorem all_superseded_iff : b.named.names.all b.superseded.contains = true ↔
    ¬ ∃ name, b.named.has name = true ∧ name ∉ b.superseded := by
  simp [List.all_eq_true, Entries.mem_names_iff, Entries.has]

/-- With a value for every placeholder only a rank can be wrong, and only if some name is
in force. -/
theorem resolve_aligned_error_iff (ha : b.aligned? = some values) {e : Error} :
    b.resolve = .error e ↔ e = .outOfRange ∧
      (∃ name, b.named.has name = true ∧ name ∉ b.superseded) ∧
      ∃ p ∈ b.template.placeholders, b.Draws p ∧ ¬ InRange b.template.count p.index := by
  rw [resolve, ha, ← (aligned?_eq_some_iff.mp ha).2]
  simp only
  split_ifs with hall
  · refine iff_of_false ?_ fun h => all_superseded_iff.mp hall h.2.1
    rintro ⟨⟩
  · rw [all_superseded_iff, not_not] at hall
    rw [valuesFrom_aligned_error_iff ha]
    tauto

/-! ### Shorter sequences -/

theorem valueFor_slots_ne (ha : b.aligned? = none)
    (h : ∀ values, b.positional = some values → p.name = none → slot < values.length) :
    b.valueFor slot p ≠ .error .outOfRange := by
  cases hp : p.name with
  | some name => cases hc : b.current? name <;> simp [valueFor, hp, ha, hc]
  | none =>
    cases hv : b.positional with
    | none => simp [valueFor, hp, hv]
    | some values =>
      have hslot : b.valueFor slot p = ranked values slot := by simp [valueFor, hp, hv, ha]
      rw [hslot]
      exact ranked_slot_ne (h values hv hp) _

/-- The places of positional placeholders lie in a sequence that has one for each. -/
theorem valuesFrom_slots_ne (ha : b.aligned? = none)
    (h : ∀ values, b.positional = some values →
      slot + ps.countP (fun p => p.name.isNone) ≤ values.length) :
    b.valuesFrom slot ps ≠ .error .outOfRange := by
  induction ps generalizing slot with
  | nil => exact nofun
  | cons p ps ih =>
    have hvalue : b.valueFor slot p ≠ .error .outOfRange := by
      refine valueFor_slots_ne ha fun values hv hp => ?_
      have hle := h values hv
      rw [List.countP_cons, hp] at hle
      simp only [Option.isNone_none, if_true] at hle
      omega
    have hrest : b.valuesFrom (if p.name.isNone then slot + 1 else slot) ps ≠
        .error .outOfRange := by
      refine ih fun values hv => ?_
      have hle := h values hv
      rw [List.countP_cons] at hle
      split_ifs at hle ⊢ <;> omega
    rw [valuesFrom]
    cases hv : b.valueFor slot p with
    | error e =>
      rw [hv] at hvalue
      exact fun he => hvalue (congrArg _ (Except.error.inj he))
    | ok v => exact fun he => hrest (map_eq_error_iff.mp he)

end Binder

/-! ### Runs -/

/-- A binder whose parts fit each other and the template, so that no look-up in the
sequence goes wrong but for a rank. -/
structure Consistent (t : Template) (b : Binder α) : Prop where
  superseded_named : ∀ name ∈ b.superseded, b.named.has name = true
  superseded_aligned : b.superseded ≠ [] →
    ∃ values, b.positional = some values ∧ values.length = t.count
  fits : ∀ values, b.positional = some values →
    values.length = t.count ∨ values.length = t.positionalCount
  slots : (∀ values, b.positional = some values → values.length ≠ t.count) →
    b.resolve ≠ .error .outOfRange
  outOfRange_iff : b.resolve = .error .outOfRange ↔
    ∃ values, b.positional = some values ∧ values.length = t.count ∧
      (∃ name, b.named.has name = true ∧ name ∉ b.superseded) ∧
      ∃ p ∈ t.placeholders, b.Draws p ∧ ¬ Binder.InRange t.count p.index
  /-- If the placeholders bear their ranks, a sequence that supersedes all is what the values
  one by one would be. -/
  ranked : t.Ranked → b.resolve ≠ .error .outOfRange ∧
    b.resolve = b.valuesFrom 0 t.placeholders

namespace Tracks

variable {t : Template} {b : Binder α} {h : History α}

theorem resolve_slots_ne (hb : Tracks t b h) (ha : b.aligned? = none) :
    b.resolve ≠ .error .outOfRange := by
  rw [Binder.resolve, ha]
  refine Binder.valuesFrom_slots_ne ha fun values hv => ?_
  have hne := Binder.aligned?_eq_none_iff.mp ha values hv
  rw [hb.template] at hne
  rw [hb.positional] at hv
  rw [Nat.zero_add, hb.template]
  exact ((hb.fits values hv).resolve_left hne).ge

theorem resolve_outOfRange_iff (hb : Tracks t b h) : b.resolve = .error .outOfRange ↔
    ∃ values, b.positional = some values ∧ values.length = t.count ∧
      (∃ name, b.named.has name = true ∧ name ∉ b.superseded) ∧
      ∃ p ∈ t.placeholders, b.Draws p ∧ ¬ Binder.InRange t.count p.index := by
  obtain rfl := hb.template
  constructor
  · intro he
    cases ha : b.aligned? with
    | none => exact absurd he (hb.resolve_slots_ne ha)
    | some values =>
      obtain ⟨hv, hcount⟩ := Binder.aligned?_eq_some_iff.mp ha
      exact ⟨values, hv, hcount, ((Binder.resolve_aligned_error_iff ha).mp he).2⟩
  · rintro ⟨values, hv, hcount, hwrong⟩
    exact (Binder.resolve_aligned_error_iff (Binder.aligned?_eq_some_iff.mpr ⟨hv, hcount⟩)).mpr
      ⟨rfl, hwrong⟩

theorem consistent (hb : Tracks t b h) : Consistent t b where
  superseded_named name hname := by
    rw [Entries.has, hb.named]
    exact ((hb.superseded name).mp hname).2.1
  superseded_aligned hne := by
    obtain ⟨name, hname⟩ := List.exists_mem_of_ne_nil _ hne
    obtain ⟨values, hvalues⟩ := Option.isSome_iff_exists.mp ((hb.superseded name).mp hname).1
    obtain ⟨hlast, hcount⟩ := History.aligned?_eq_some_iff.mp hvalues
    exact ⟨values, hb.positional.trans hlast, hcount⟩
  fits values hv := hb.fits values (hb.positional.symm.trans hv)
  slots hne := by
    apply hb.resolve_slots_ne
    rwa [Binder.aligned?_eq_none_iff, hb.template]
  outOfRange_iff := hb.resolve_outOfRange_iff
  ranked ht := by
    constructor
    · rw [Ne, hb.resolve_outOfRange_iff]
      rintro ⟨values, -, -, -, p, hp, -, hrange⟩
      obtain ⟨i, hi, rfl⟩ := List.mem_iff_getElem.mp hp
      have hindex := ht i _ (List.getElem?_eq_getElem hi)
      rw [Binder.InRange, hindex, Template.count] at hrange
      omega
    · have hloop := hb.valuesFrom_eq ht (List.nil_append t.placeholders).symm
      rw [hb.resolve_eq ht]
      exact hloop.symm

end Tracks

/-- Whatever the template, the binders are consistent after every series of calls, and the
placeholders of a text that was read bear their ranks. -/
theorem consistent_run (t : Template) (calls : List (Call α)) :
    (∀ b ∈ Call.run t calls, Consistent t b) ∧
      ∀ rules sql parsed, Template.parse rules sql = .ok parsed → parsed.template.Ranked := by
  refine ⟨fun b hb => ?_, fun _ _ _ => Template.ranked_of_parse⟩
  obtain ⟨i, hi⟩ := List.mem_iff_getElem?.mp hb
  obtain ⟨h, -, htracks⟩ := Call.exists_related (Call.run_tracks t calls) hi
  exact htracks.consistent

/-- A name that is bound after a sequence for all placeholders sends the other placeholder
to its rank, which lies outside if the template is put together so. -/
theorem consistent_run_outside : ∃ t : Template, ∃ b : Binder ℕ,
    b ∈ Call.run t [.create .template, .positional 0 [1, 2], .set 0 "a" 3] ∧ Consistent t b ∧
    b.resolve = .error .outOfRange ∧ ∃ parsed, Template.parse {} ":a ?" = .ok parsed ∧
      parsed.template.Ranked := by
  obtain ⟨hruns, hparse⟩ := consistent_run (α := ℕ)
    ⟨":a ?", "? ?", [⟨.named, some "a", 0, 0⟩, ⟨.positional, none, -3, 3⟩], []⟩
    [.create .template, .positional 0 [1, 2], .set 0 "a" 3]
  exact ⟨_, _, List.mem_singleton_self _, hruns _ (List.mem_singleton_self _), rfl, _, rfl,
    hparse {} ":a ?" _ rfl⟩

end QueryBinding
