import QueryBinding.Proofs.EraseDups
import QueryBinding.Template

/-! The names of a template. Each name that a placeholder has is listed once, and they
stand in the order of the first placeholders that have them. -/

namespace QueryBinding

namespace Template

/-! ### First appearances -/

/-- How many placeholders lie before the first one with a name. -/
def firstRank (ps : List Placeholder) (name : String) : ℕ :=
  ps.findIdx fun p => p.name == some name

theorem mem_names_iff {t : Template} {name : String} :
    name ∈ t.names ↔ ∃ p ∈ t.placeholders, p.name = some name := by
  rw [names, List.mem_eraseDups, List.mem_filterMap]

theorem firstRank_append {ps : List Placeholder} {name : String}
    (h : name ∈ ps.filterMap (·.name)) (qs : List Placeholder) :
    firstRank (ps ++ qs) name = firstRank ps name ∧ firstRank ps name < ps.length := by
  obtain ⟨p, hp, hname⟩ := List.mem_filterMap.mp h
  have hlt : firstRank ps name < ps.length :=
    List.findIdx_lt_length_of_exists ⟨p, hp, by simp [hname]⟩
  refine ⟨?_, hlt⟩
  rw [firstRank, List.findIdx_append]
  exact if_pos hlt

theorem firstRank_append_singleton {ps : List Placeholder} {p : Placeholder} {name : String}
    (h : name ∉ ps.filterMap (·.name)) (hp : p.name = some name) :
    firstRank (ps ++ [p]) name = ps.length := by
  have hnone : ps.findIdx (fun q => q.name == some name) = ps.length := by
    rw [List.findIdx_eq_length]
    intro q hq
    rw [beq_eq_false_iff_ne]
    exact fun hname => h (List.mem_filterMap.mpr ⟨q, hq, hname⟩)
  rw [firstRank, List.findIdx_append, hnone, if_neg (Nat.lt_irrefl _)]
  simp [List.findIdx_cons, hp]

theorem firstRank_le {ps : List Placeholder} {i : ℕ} {p : Placeholder} {name : String}
    (hp : ps[i]? = some p) (hname : p.name = some name) : firstRank ps name ≤ i := by
  obtain ⟨hi, rfl⟩ := List.getElem?_eq_some_iff.mp hp
  by_contra hlt
  have hnot := List.not_of_lt_findIdx (Nat.lt_of_not_le hlt)
  simp [hname] at hnot

/-- The first placeholder with a name. -/
theorem exists_firstRank {t : Template} {name : String} (h : name ∈ t.names) : ∃ p,
    t.placeholders[firstRank t.placeholders name]? = some p ∧ p.name = some name := by
  obtain ⟨p, hp, hname⟩ := mem_names_iff.mp h
  have hlt : firstRank t.placeholders name < t.placeholders.length :=
    List.findIdx_lt_length_of_exists ⟨p, hp, by simp [hname]⟩
  exact ⟨_, List.getElem?_eq_getElem hlt,
    beq_iff_eq.mp (List.findIdx_getElem (p := fun q : Placeholder => q.name == some name))⟩

/-- Names are listed in the order of their first appearance. -/
theorem pairwise_names (t : Template) : t.names.Pairwise fun m n =>
    firstRank t.placeholders m < firstRank t.placeholders n := by
  rw [names]
  induction t.placeholders using List.reverseRecOn with
  | nil => exact .nil
  | append_singleton ps p ih =>
    have hold : (ps.filterMap (·.name)).eraseDups.Pairwise fun m n =>
        firstRank (ps ++ [p]) m < firstRank (ps ++ [p]) n := by
      refine ih.imp_of_mem fun hm hn hlt => ?_
      rwa [(firstRank_append (List.mem_eraseDups.mp hm) [p]).1,
        (firstRank_append (List.mem_eraseDups.mp hn) [p]).1]
    rw [List.filterMap_append]
    cases hp : p.name with
    | none => simpa [hp] using hold
    | some name =>
      have hsingle : [p].filterMap (·.name) = [name] := by simp [hp]
      rw [hsingle]
      by_cases hname : name ∈ ps.filterMap (·.name)
      · rw [eraseDups_concat_of_mem hname]
        exact hold
      · rw [eraseDups_concat_of_not_mem hname, List.pairwise_append]
        refine ⟨hold, List.pairwise_singleton _ _, fun m hm n hn => ?_⟩
        obtain ⟨hfirst, hlt⟩ := firstRank_append (List.mem_eraseDups.mp hm) [p]
        rw [List.mem_singleton.mp hn, firstRank_append_singleton hname hp, hfirst]
        exact hlt

end Template

end QueryBinding
