import Mathlib.Tactic.Common
import QueryBinding.Text.Newline

/-! Line ends, told by what stands next to each other in the text. A carriage return before a
line feed says nothing, any other one stands for a line feed, and all else stands for itself.
What comes out has no carriage return, and a text without one stays as it is. -/

namespace QueryBinding

namespace Newline

/-- What a character stands for before the given one, or at the end of the text. -/
def meaning (c : Char) (next : Option Char) : List Char :=
  if c = '\r' then if next = some '\n' then [] else ['\n'] else [c]

/-- What the characters of a text stand for, each at its place. -/
def unified (cs : List Char) : List Char :=
  (List.range cs.length).flatMap fun i => (cs[i]?.map fun c => meaning c cs[i + 1]?).getD []

theorem unified_cons (c : Char) (cs : List Char) :
    unified (c :: cs) = meaning c cs.head? ++ unified cs := by
  rw [unified, List.length_cons, List.range_succ_eq_map, List.flatMap_cons, List.flatMap_map,
    List.head?_eq_getElem?]
  rfl

theorem fold_eq_unified (cs : List Char) : fold cs = unified cs := by
  fun_induction fold cs with
  | case1 => rfl
  | case2 cs ih =>
    rw [unified_cons, unified_cons, ← ih]
    rfl
  | case3 cs hnext ih =>
    have hhead : cs.head? ≠ some '\n' := by
      intro h
      obtain ⟨ds, rfl⟩ := List.head?_eq_some_iff.mp h
      exact hnext ds rfl
    rw [unified_cons, ← ih, meaning, if_pos rfl, if_neg hhead]
    rfl
  | case4 c cs _ hc ih =>
    rw [unified_cons, ← ih, meaning, if_neg hc]
    rfl

theorem not_mem_fold (cs : List Char) : '\r' ∉ fold cs := by
  fun_induction fold cs with
  | case1 => exact List.not_mem_nil
  | case2 cs ih => exact List.not_mem_cons_of_ne_of_not_mem (by decide) ih
  | case3 cs _ ih => exact List.not_mem_cons_of_ne_of_not_mem (by decide) ih
  | case4 c cs _ hc ih => exact List.not_mem_cons_of_ne_of_not_mem (Ne.symm hc) ih

theorem fold_of_not_mem {cs : List Char} (h : '\r' ∉ cs) : fold cs = cs := by
  induction cs with
  | nil => rfl
  | cons c cs ih =>
    rw [List.mem_cons, not_or] at h
    obtain ⟨hc, hcs⟩ := h
    rw [fold, ih hcs]
    · rintro _ rfl
      exact absurd rfl hc
    · exact fun hr => hc hr.symm

end Newline

end QueryBinding
