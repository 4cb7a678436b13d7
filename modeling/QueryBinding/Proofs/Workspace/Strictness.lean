import Mathlib.Order.Bounds.Defs
import QueryBinding.Proofs.Error
import QueryBinding.Proofs.Log.Hierarchy
import QueryBinding.Proofs.Template.Colons
import QueryBinding.Proofs.Template.Lossless
import QueryBinding.Proofs.Workspace.Actions

/-! Strict and lenient reading. The two differ in the bare colons of a text only. The
lenient rules take them literally and note each of them in the log, the strict rules
report the first one and read a text that has none as the lenient rules do. Neither looks
at a text over the limit. -/

namespace QueryBinding

namespace Hub

/-- The handlers that keep the records of the library at a level that is enabled. -/
def keepers (hub : Hub) : List Handler :=
  (hub.handlers ++ if hub.propagate then hub.above else []).filter fun h => h.sink = .capture

end Hub

namespace Workspace

/-! ### What a record leaves behind -/

theorem hub_send (r : Record) (w : Workspace) (h : Handler) : (w.send r h).hub = w.hub := by
  unfold send
  cases h.sink <;> rfl

theorem captured_send (r : Record) (w : Workspace) (h : Handler) : (w.send r h).captured =
    w.captured ++ if h.sink = .capture then [(h.serial, r)] else [] := by
  unfold send
  cases h.sink <;> simp

theorem hub_foldl_send (r : Record) (hs : List Handler) (w : Workspace) :
    (hs.foldl (send r) w).hub = w.hub := by
  induction hs generalizing w with
  | nil => rfl
  | cons h hs ih => rw [List.foldl_cons, ih, hub_send]

theorem captured_foldl_send (r : Record) (hs : List Handler) (w : Workspace) :
    (hs.foldl (send r) w).captured =
      w.captured ++ (hs.filter fun h => h.sink = .capture).map fun h => (h.serial, r) := by
  induction hs generalizing w with
  | nil => simp
  | cons h hs ih =>
    rw [List.foldl_cons, ih, captured_send, List.append_assoc]
    by_cases hc : h.sink = .capture <;> simp [hc]

theorem hub_deliver (w : Workspace) (r : Record) : (w.deliver r).hub = w.hub :=
  hub_foldl_send r _ w

/-- Every handler that keeps records keeps all that are delivered, in their order. -/
theorem captured_deliverAll {w : Workspace} {rs : List Record}
    (hl : ∀ r ∈ rs, Hub.Inside r.logger) (ht : ∀ r ∈ rs, w.hub.threshold ≤ r.level) :
    (w.deliverAll rs).captured =
      w.captured ++ rs.flatMap fun r => w.hub.keepers.map fun h => (h.serial, r) := by
  induction rs generalizing w with
  | nil => exact (List.append_nil _).symm
  | cons r rs ih =>
    have hdeliver : (w.deliver r).captured =
        w.captured ++ w.hub.keepers.map fun h => (h.serial, r) := by
      rw [deliver, captured_foldl_send, Hub.targets_inside _ (hl r (by simp)),
        if_pos (ht r (by simp))]
      rfl
    have ih := @ih (w.deliver r) (fun s hs => hl s (List.mem_cons_of_mem r hs))
      (fun s hs => hub_deliver w r ▸ ht s (List.mem_cons_of_mem r hs))
    rw [List.flatMap_cons, ← List.append_assoc, ← hdeliver, ← hub_deliver w r]
    exact ih

/-- Records of the library below the level that is wanted leave nothing behind. -/
theorem deliverAll_of_level_lt {w : Workspace} {rs : List Record}
    (hl : ∀ r ∈ rs, Hub.Inside r.logger) (ht : ∀ r ∈ rs, r.level < w.hub.threshold) :
    w.deliverAll rs = w := by
  induction rs with
  | nil => rfl
  | cons r rs ih =>
    have hr : w.deliver r = w := by
      rw [deliver, Hub.targets_inside _ (hl r List.mem_cons_self),
        if_neg (Int.not_le.mpr (ht r List.mem_cons_self))]
      rfl
    rw [deliverAll, List.foldl_cons, hr]
    exact ih (fun s hs => hl s (List.mem_cons_of_mem r hs))
      (fun s hs => ht s (List.mem_cons_of_mem r hs))

end Workspace

/-! ### Outcomes of either rules -/

namespace Template

/-- A failure that is reported under the given class. -/
def Raises {α : Type} (cls : FaultClass) (r : Except Error α) : Prop :=
  ∃ e f, r = .error e ∧ e.fault? = some f ∧ f.cls = cls

/-- More characters than the limit allows, if there is one. -/
def Exceeds (sql : String) (limit : Option ℤ) : Prop := ∃ m, limit = some m ∧ m < sql.length

/-- What either rules make of a text with the given bare colons. -/
structure Readings (sql : String) (limit : Option ℤ) (bare : List ℕ) : Prop where
  sorted : bare.Pairwise (· < ·)
  mem_iff : ∀ i, i ∈ bare ↔ Token.Bare sql.toList i
  parsing_iff : ∀ strict, Raises .parsing (parse ⟨strict, limit⟩ sql) ↔ Exceeds sql limit
  /-- Over the limit nothing is read and nothing noted. -/
  refused : ∀ m, limit = some m → m < sql.length → ∀ strict w,
    (Action.parse ⟨strict, limit⟩ sql).on w = (.error (.tooLong sql.length m), w)
  lenient : ¬ Exceeds sql limit → ∀ w, (Action.parse ⟨false, limit⟩ sql).on w =
    (.ok ⟨(w.deliverAll (bare.map Action.colonNotice)).next,
        ofLexemes sql (Lexeme.scan sql.toList)⟩,
      (w.deliverAll (bare.map Action.colonNotice)).advance)
  /-- One record for every bare colon, in their order, if such records are wanted. -/
  noted : ¬ Exceeds sql limit → ∀ w,
    ((Action.parse ⟨false, limit⟩ sql).on w).2.captured = w.captured ++
      if w.hub.threshold ≤ Level.debug then
        bare.flatMap fun i => w.hub.keepers.map fun h => (h.serial, Action.colonNotice i)
      else []
  malformed_iff : Raises .malformed (parse ⟨true, limit⟩ sql) ↔
    ¬ Exceeds sql limit ∧ ∃ i, Token.Bare sql.toList i
  /-- The leftmost bare colon is the one that is reported. -/
  strict_error : ¬ Exceeds sql limit → ∀ i, IsLeast {j | Token.Bare sql.toList j} i →
    (∀ w, (Action.parse ⟨true, limit⟩ sql).on w = (.error (.malformed i sql), w)) ∧
      ∃ f, (Error.malformed i sql).fault? = some f ∧ f.cls = .malformed ∧
        f.facts.get? "position" = some (.int i) ∧ f.facts.get? "sql" = some (.text sql)
  strict_ok : (∀ i, ¬ Token.Bare sql.toList i) → ∀ w,
    (Action.parse ⟨true, limit⟩ sql).on w = (Action.parse ⟨false, limit⟩ sql).on w

section Outcomes

variable {sql : String} {limit : Option ℤ}

theorem not_raises_ok {α : Type} {cls : FaultClass} {x : α} :
    ¬ Raises cls (.ok x : Except Error α) := by
  rintro ⟨e, f, h, -, -⟩
  cases h

theorem raises_error_iff {α : Type} {cls : FaultClass} {e : Error} {f : Fault}
    (hf : e.fault? = some f) : Raises cls (.error e : Except Error α) ↔ f.cls = cls := by
  constructor
  · rintro ⟨e', f', ⟨⟩, hf', hcls⟩
    rw [hf] at hf'
    cases hf'
    exact hcls
  · intro hcls
    exact ⟨e, f, rfl, hf, hcls⟩

theorem tooLong_eq_none_of_not_exceeds (h : ¬ Exceeds sql limit) (strict : Bool) :
    (Rules.mk strict limit).tooLong sql.length = none :=
  Rules.tooLong_eq_none_iff.mpr fun m hm => Int.not_lt.mp fun hlt => h ⟨m, hm, hlt⟩

theorem parse_within (h : ¬ Exceeds sql limit) : parse ⟨false, limit⟩ sql =
    .ok ⟨ofLexemes sql (Lexeme.scan sql.toList), colonsFrom 0 (Lexeme.scan sql.toList)⟩ :=
  parse_lenient (tooLong_eq_none_of_not_exceeds h false)

theorem parse_over {m : ℤ} (hm : limit = some m) (hlt : m < sql.length) (strict : Bool) :
    parse ⟨strict, limit⟩ sql = .error (.tooLong sql.length m) :=
  parse_long (Rules.tooLong_eq_some_iff.mpr ⟨hm, hlt⟩)

theorem inside_colonNotice (i : ℕ) : Hub.Inside (Action.colonNotice i).logger :=
  .inr ⟨"core.parameters", rfl⟩

/-- The records that lenient rules leave behind. -/
theorem captured_colonNotices (w : Workspace) (bare : List ℕ) :
    (w.deliverAll (bare.map Action.colonNotice)).captured = w.captured ++
      if w.hub.threshold ≤ Level.debug then
        bare.flatMap fun i => w.hub.keepers.map fun h => (h.serial, Action.colonNotice i)
      else [] := by
  have hinside : ∀ r ∈ bare.map Action.colonNotice, Hub.Inside r.logger := by
    intro r hr
    obtain ⟨i, -, rfl⟩ := List.mem_map.mp hr
    exact inside_colonNotice i
  have hlevel : ∀ r ∈ bare.map Action.colonNotice, r.level = Level.debug := by
    intro r hr
    obtain ⟨i, -, rfl⟩ := List.mem_map.mp hr
    rfl
  split_ifs with ht
  · rw [Workspace.captured_deliverAll hinside fun r hr => (hlevel r hr).symm ▸ ht,
      List.flatMap_map]
  · rw [Workspace.deliverAll_of_level_lt hinside
      fun r hr => (hlevel r hr).symm ▸ Int.not_le.mp ht, List.append_nil]

/-- Within the limit strict rules report the first bare colon or read as lenient rules do. -/
theorem parse_strict_cases (h : ¬ Exceeds sql limit) :
    (∃ i, IsLeast {j | Token.Bare sql.toList j} i ∧
        parse ⟨true, limit⟩ sql = .error (.malformed i sql)) ∨
      (∀ i, ¬ Token.Bare sql.toList i) ∧
        parse ⟨true, limit⟩ sql = parse ⟨false, limit⟩ sql := by
  have hstrict := tooLong_eq_none_of_not_exceeds h true
  cases hc : colonsFrom 0 (Lexeme.scan sql.toList) with
  | nil =>
    right
    refine ⟨fun i hi => ?_, by rw [parse_strict_ok hstrict hc, parse_within h, hc]⟩
    have := mem_colons_scan_iff.mpr hi
    rw [hc] at this
    cases this
  | cons i is =>
    left
    refine ⟨i, ⟨mem_colons_scan_iff.mp (hc ▸ List.mem_cons_self), fun j hj => ?_⟩,
      parse_strict_error hstrict hc⟩
    have hsorted := pairwise_colonsFrom 0 (Lexeme.scan sql.toList)
    have hj := mem_colons_scan_iff.mpr hj
    rw [hc] at hsorted hj
    rcases List.mem_cons.mp hj with rfl | hj
    · exact Nat.le_refl j
    · exact Nat.le_of_lt (List.rel_of_pairwise_cons hsorted hj)

theorem parsing_iff (strict : Bool) :
    Raises .parsing (parse ⟨strict, limit⟩ sql) ↔ Exceeds sql limit := by
  constructor
  · intro hr
    by_contra h
    have hlenient : ¬ Raises .parsing (parse ⟨false, limit⟩ sql) := by
      rw [parse_within h]
      exact not_raises_ok
    cases strict with
    | false => exact hlenient hr
    | true =>
      obtain ⟨i, -, hp⟩ | ⟨-, hp⟩ := parse_strict_cases h
      · obtain ⟨f, hf, hcls, -⟩ := Error.fault?_malformed i sql
        rw [hp, raises_error_iff hf, hcls] at hr
        cases hr
      · exact hlenient (hp ▸ hr)
  · rintro ⟨m, hm, hlt⟩
    obtain ⟨f, hf, hcls⟩ := Error.fault?_tooLong sql.length m
    rw [parse_over hm hlt]
    exact (raises_error_iff hf).mpr hcls

theorem malformed_iff : Raises .malformed (parse ⟨true, limit⟩ sql) ↔
    ¬ Exceeds sql limit ∧ ∃ i, Token.Bare sql.toList i := by
  by_cases h : Exceeds sql limit
  · refine iff_of_false (fun hr => ?_) fun hb => hb.1 h
    obtain ⟨m, hm, hlt⟩ := h
    obtain ⟨f, hf, hcls⟩ := Error.fault?_tooLong sql.length m
    rw [parse_over hm hlt, raises_error_iff hf, hcls] at hr
    cases hr
  · obtain ⟨i, hi, hp⟩ | ⟨hnone, hp⟩ := parse_strict_cases h
    · obtain ⟨f, hf, hcls, -⟩ := Error.fault?_malformed i sql
      exact iff_of_true (hp ▸ (raises_error_iff hf).mpr hcls) ⟨h, i, hi.1⟩
    · refine iff_of_false (fun hr => ?_) fun hb => hb.2.elim hnone
      rw [hp, parse_within h] at hr
      exact not_raises_ok hr

theorem on_parse_strict_error (h : ¬ Exceeds sql limit) {i : ℕ}
    (hi : IsLeast {j | Token.Bare sql.toList j} i) (w : Workspace) :
    (Action.parse ⟨true, limit⟩ sql).on w = (.error (.malformed i sql), w) := by
  apply Action.on_parse_error
  obtain ⟨j, hj, hp⟩ | ⟨hnone, -⟩ := parse_strict_cases h
  · obtain rfl : j = i := Nat.le_antisymm (hj.2 hi.1) (hi.2 hj.1)
    exact hp
  · exact absurd hi.1 (hnone i)

/-- Without a bare colon both rules read alike or refuse alike. -/
theorem parse_strict_eq (hnone : ∀ i, ¬ Token.Bare sql.toList i) :
    parse ⟨true, limit⟩ sql = parse ⟨false, limit⟩ sql := by
  by_cases h : Exceeds sql limit
  · obtain ⟨m, hm, hlt⟩ := h
    rw [parse_over hm hlt, parse_over hm hlt]
  · obtain ⟨i, hi, -⟩ | ⟨-, hp⟩ := parse_strict_cases h
    · exact absurd hi.1 (hnone i)
    · exact hp

theorem same_iff {rules rules' : Rules} {sql' : String} {parsed parsed' : Parsed}
    (h : parse rules sql = .ok parsed) (h' : parse rules' sql' = .ok parsed') :
    parsed.template.same parsed'.template = true ↔ sql = sql' := by
  rw [template_of_parse h, template_of_parse h']
  constructor
  · intro hsame
    simp only [same, Bool.and_eq_true, beq_iff_eq] at hsame
    exact hsame.1.1
  · rintro rfl
    simp [same]

end Outcomes

theorem readings (sql : String) (limit : Option ℤ) :
    Readings sql limit (colonsFrom 0 (Lexeme.scan sql.toList)) where
  sorted := pairwise_colonsFrom 0 _
  mem_iff _ := mem_colons_scan_iff
  parsing_iff := parsing_iff
  refused _ hm hlt strict := Action.on_parse_error (parse_over hm hlt strict)
  lenient h := Action.on_parse_ok (parse_within h)
  noted h w := by
    rw [Action.on_parse_ok (parse_within h)]
    exact captured_colonNotices w _
  malformed_iff := malformed_iff
  strict_error h i hi := ⟨on_parse_strict_error h hi, Error.fault?_malformed i sql⟩
  strict_ok hnone w := by rw [Action.parse, parse_strict_eq hnone, Action.parse]

/-- The bare colons of a text are all that strict and lenient rules disagree about, and
two texts that are read make equal templates only if they are one text. -/
theorem strict_lenient : (∀ (sql : String) (limit : Option ℤ), ∃ bare, Readings sql limit bare) ∧
    ∀ (rules rules' : Rules) (sql sql' : String) (parsed parsed' : Parsed),
      parse rules sql = .ok parsed → parse rules' sql' = .ok parsed' →
      (parsed.template.same parsed'.template = true ↔ sql = sql') :=
  ⟨fun sql limit => ⟨_, readings sql limit⟩, fun _ _ _ _ _ _ h h' => same_iff h h'⟩

/-- The first of five colons stands for itself, the second is quoted, two make up a cast
and the last opens a name. Only strict rules refuse the text. -/
theorem strict_lenient_first_colon : ∃ parsed parsed',
    parse {} "a: ':' b::c :d" = .ok parsed ∧
      parse ⟨true, some 14⟩ " a ':' b::c :d" = .ok parsed' ∧
      parsed.template.same parsed'.template = false ∧
      Raises .malformed (parse ⟨true, some 14⟩ "a: ':' b::c :d") ∧
      ∃ bare, Readings "a: ':' b::c :d" (some 14) bare ∧ 1 ∈ bare := by
  have h : parse {} "a: ':' b::c :d" = .ok _ := rfl
  have h' : parse ⟨true, some 14⟩ " a ':' b::c :d" = .ok _ := rfl
  obtain ⟨hread, hsame⟩ := strict_lenient
  obtain ⟨bare, hb⟩ := hread "a: ':' b::c :d" (some 14)
  have hraise : Raises .malformed (parse ⟨true, some 14⟩ "a: ':' b::c :d") :=
    ⟨.malformed 1 _, _, rfl, rfl, rfl⟩
  refine ⟨_, _, h, h', ?_, hraise, bare, hb, ?_⟩
  · rw [Bool.eq_false_iff]
    intro hs
    exact absurd ((hsame _ _ _ _ _ _ h h').mp hs) (by decide)
  · exact (hb.mem_iff 1).mpr (mem_colons_scan_iff.mp (by decide))

end Template

end QueryBinding
