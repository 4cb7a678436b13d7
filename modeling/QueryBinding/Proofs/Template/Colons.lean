import QueryBinding.Proofs.Template.Placeholders

/-! The colons that stand for themselves, and what they make of a text. They are the
bare colons that the text tells of. A text within the limit is read, with these colons
noted, unless the rules are strict and there is such a colon; then the first one is
reported. -/

namespace QueryBinding

theorem Rules.tooLong_eq_some_iff {rules : Rules} {length : ℕ} {limit : ℤ} :
    rules.tooLong length = some limit ↔ rules.limit = some limit ∧ limit < length := by
  rw [tooLong, Option.filter_eq_some_iff, decide_eq_true_eq]

theorem Rules.tooLong_eq_none_iff {rules : Rules} {length : ℕ} :
    rules.tooLong length = none ↔ ∀ limit, rules.limit = some limit → ↑length ≤ limit := by
  rw [Option.eq_none_iff_forall_ne_some]
  constructor
  · intro h limit hl
    by_contra hlt
    exact h limit (tooLong_eq_some_iff.mpr ⟨hl, Int.not_le.mp hlt⟩)
  · intro h limit hlong
    obtain ⟨hl, hlt⟩ := tooLong_eq_some_iff.mp hlong
    exact absurd (h limit hl) (Int.not_le.mpr hlt)

namespace Template

open Lexeme Token

/-! ### Bare colons -/

theorem mem_colonsFrom_iff {offset i : ℕ} {ls : List Lexeme} :
    i ∈ colonsFrom offset ls ↔ (i, colon) ∈ located offset ls := by
  induction ls generalizing offset with
  | nil => simp [colonsFrom, located]
  | cons l ls ih => cases l <;> simp [colonsFrom, located, width, ih]

theorem pairwise_colonsFrom (offset : ℕ) (ls : List Lexeme) :
    (colonsFrom offset ls).Pairwise (· < ·) := by
  induction ls generalizing offset with
  | nil => exact .nil
  | cons l ls ih =>
    cases l with
    | colon =>
      refine List.pairwise_cons.mpr ⟨fun j hj => ?_, ih (offset + 1)⟩
      exact le_of_mem_located (mem_colonsFrom_iff.mp hj)
    | _ => exact ih _

/-- The colons that stand for themselves are the bare ones of the text. -/
theorem mem_colons_scan_iff {cs : List Char} {i : ℕ} :
    i ∈ colonsFrom 0 (scan cs) ↔ Bare cs i := mem_colonsFrom_iff.trans mem_located_colon_iff

/-! ### Outcomes -/

variable {sql : String} {limit : Option ℤ}

theorem parse_long {rules : Rules} {m : ℤ} (h : rules.tooLong sql.length = some m) :
    parse rules sql = .error (.tooLong sql.length m) := by
  rw [parse, h]

theorem parse_lenient (h : (Rules.mk false limit).tooLong sql.length = none) :
    parse ⟨false, limit⟩ sql =
      .ok ⟨ofLexemes sql (scan sql.toList), colonsFrom 0 (scan sql.toList)⟩ := by
  rw [parse, h]

theorem parse_strict_ok (h : (Rules.mk true limit).tooLong sql.length = none)
    (hc : colonsFrom 0 (scan sql.toList) = []) :
    parse ⟨true, limit⟩ sql = .ok ⟨ofLexemes sql (scan sql.toList), []⟩ := by
  rw [parse, h]
  simp only [hc]

theorem parse_strict_error (h : (Rules.mk true limit).tooLong sql.length = none) {i : ℕ}
    {is : List ℕ} (hc : colonsFrom 0 (scan sql.toList) = i :: is) :
    parse ⟨true, limit⟩ sql = .error (.malformed i sql) := by
  rw [parse, h]
  simp only [hc]

theorem parse_eq_ok_iff {rules : Rules} {parsed : Parsed} :
    parse rules sql = .ok parsed ↔ rules.tooLong sql.length = none ∧
      (rules.strict = true → colonsFrom 0 (scan sql.toList) = []) ∧
      parsed = ⟨ofLexemes sql (scan sql.toList), colonsFrom 0 (scan sql.toList)⟩ := by
  obtain ⟨strict, limit⟩ := rules
  cases hlong : (Rules.mk strict limit).tooLong sql.length with
  | some m =>
    rw [parse_long hlong]
    exact iff_of_false nofun nofun
  | none =>
    cases strict with
    | false =>
      rw [parse_lenient hlong, Except.ok.injEq]
      exact ⟨fun h => ⟨rfl, nofun, h.symm⟩, fun h => h.2.2.symm⟩
    | true =>
      cases hc : colonsFrom 0 (scan sql.toList) with
      | nil =>
        rw [parse_strict_ok hlong hc, Except.ok.injEq]
        exact ⟨fun h => ⟨rfl, fun _ => rfl, h.symm⟩, fun h => h.2.2.symm⟩
      | cons i is =>
        rw [parse_strict_error hlong hc]
        exact iff_of_false nofun fun h => List.cons_ne_nil i is (h.2.1 rfl)

/-- A text is refused for its length or for a colon. -/
theorem parse_error_cases {rules : Rules} {e : Error} (h : parse rules sql = .error e) :
    (∃ m, e = .tooLong sql.length m) ∨ ∃ i, e = .malformed i sql := by
  unfold parse at h
  split at h
  · cases h
    exact Or.inl ⟨_, rfl⟩
  · dsimp only at h
    split at h
    · cases h
      exact Or.inr ⟨_, rfl⟩
    · cases h

end Template

end QueryBinding
