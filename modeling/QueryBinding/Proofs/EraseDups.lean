import Mathlib.Data.List.Induction
import Mathlib.Data.List.Nodup
import Mathlib.Logic.Function.Defs
import Mathlib.Tactic.Common

/-! Lists whose repetitions are dropped. Every element stays where it is for the first time. -/

namespace QueryBinding

variable {α β : Type} [BEq α] [LawfulBEq α] [BEq β] [LawfulBEq β]

theorem eraseDups_concat_of_mem {l : List α} {a : α} (h : a ∈ l) :
    (l ++ [a]).eraseDups = l.eraseDups := by
  simp [List.eraseDups_append, List.removeAll, h]

theorem eraseDups_concat_of_not_mem {l : List α} {a : α} (h : a ∉ l) :
    (l ++ [a]).eraseDups = l.eraseDups ++ [a] := by
  simp [List.eraseDups_append, List.removeAll, h, List.eraseDups_cons]

theorem eraseDups_filter (p : α → Bool) (l : List α) :
    (l.filter p).eraseDups = l.eraseDups.filter p := by
  induction l using List.reverseRecOn with
  | nil => rfl
  | append_singleton l a ih =>
    rw [List.filter_append]
    cases ha : p a with
    | false =>
      have hsingle : [a].filter p = [] := by simp [ha]
      rw [hsingle, List.append_nil, ih]
      by_cases hm : a ∈ l
      · rw [eraseDups_concat_of_mem hm]
      · simp [eraseDups_concat_of_not_mem hm, ha]
    | true =>
      have hsingle : [a].filter p = [a] := by simp [ha]
      rw [hsingle]
      by_cases hm : a ∈ l
      · rw [eraseDups_concat_of_mem hm,
          eraseDups_concat_of_mem (List.mem_filter.mpr ⟨hm, ha⟩), ih]
      · have hm' : a ∉ l.filter p := fun h => hm (List.mem_filter.mp h).1
        rw [eraseDups_concat_of_not_mem hm, eraseDups_concat_of_not_mem hm', ih,
          List.filter_append, hsingle]

theorem eraseDups_map {f : α → β} (hf : Function.Injective f) (l : List α) :
    (l.map f).eraseDups = l.eraseDups.map f := by
  induction l using List.reverseRecOn with
  | nil => rfl
  | append_singleton l a ih =>
    rw [List.map_append, List.map_singleton]
    by_cases hm : a ∈ l
    · rw [eraseDups_concat_of_mem hm, eraseDups_concat_of_mem (List.mem_map_of_mem hm), ih]
    · have hm' : f a ∉ l.map f := by
        rintro h
        obtain ⟨b, hb, heq⟩ := List.mem_map.mp h
        exact hm (hf heq ▸ hb)
      rw [eraseDups_concat_of_not_mem hm, eraseDups_concat_of_not_mem hm', ih, List.map_append]
      rfl

theorem eraseDups_of_nodup {l : List α} (h : l.Nodup) : l.eraseDups = l := by
  induction l with
  | nil => rfl
  | cons a l ih =>
    obtain ⟨hnot, hnodup⟩ := List.nodup_cons.mp h
    have hfilter : (l.filter fun b => !b == a) = l := by
      refine List.filter_eq_self.mpr fun b hb => ?_
      rw [Bool.not_eq_true', beq_eq_false_iff_ne]
      exact ne_of_mem_of_not_mem hb hnot
    rw [List.eraseDups_cons, hfilter, ih hnodup]

theorem nodup_eraseDups (l : List α) : l.eraseDups.Nodup := by
  induction l using List.reverseRecOn with
  | nil => exact List.nodup_nil
  | append_singleton l a ih =>
    by_cases hm : a ∈ l
    · rwa [eraseDups_concat_of_mem hm]
    · rw [eraseDups_concat_of_not_mem hm, List.nodup_append]
      refine ⟨ih, List.nodup_singleton a, fun b hb c hc => ?_⟩
      rw [List.mem_singleton.mp hc]
      exact ne_of_mem_of_not_mem (List.mem_eraseDups.mp hb) hm

end QueryBinding
