import QueryBinding.Proofs.Lexeme.Location
import QueryBinding.Proofs.Literal.Decomposition
import QueryBinding.Proofs.Literal.Joining

/-! Literals as runs of lexemes. Literals never touch, so the texts of the literals are
the longest runs of quoted characters in the scan. What happens to the lexemes between
them, as long as none comes or goes, leaves the texts of the literals as they are. -/

namespace QueryBinding

namespace Lexeme

/-- A run that is over, unless it is empty. -/
def flush (run : List Char) : List (List Char) := if run = [] then [] else [run]

/-- The longest runs of quoted characters, of which the first begins with `run`. -/
def runsFrom (run : List Char) : List Lexeme → List (List Char)
  | [] => flush run
  | quoted c :: ls => runsFrom (run ++ [c]) ls
  | _ :: ls => flush run ++ runsFrom [] ls

theorem runsFrom_map_normal (run : List Char) (ls : List Lexeme) :
    runsFrom run (ls.map normal) = runsFrom run ls := by
  induction ls generalizing run with
  | nil => rfl
  | cons l ls ih => cases l <;> simp [normal, runsFrom, ih]

theorem runsFrom_of_not_quoted {l : Lexeme} (h : ∀ c, l ≠ quoted c) (run : List Char)
    (ls : List Lexeme) : runsFrom run (l :: ls) = flush run ++ runsFrom [] ls := by
  cases l with
  | quoted c => exact absurd rfl (h c)
  | _ => rfl

/-- Outside literals no lexeme but a quoted apostrophe holds one. -/
theorem apostrophe_not_mem_of_fits {inside : Bool} {l : Lexeme} (h : l.Fits inside)
    (hl : ∀ c, l ≠ quoted c) : inside = false ∧ '\'' ∉ l.source := by
  cases l with
  | char c => exact ⟨h.1, by simpa [source] using Ne.symm h.2.1⟩
  | quoted c => exact absurd rfl (hl c)
  | named name =>
    refine ⟨h.1, ?_⟩
    have hname := List.count_eq_zero.mp (count_apostrophe_eq_zero h.2)
    simpa [source] using hname
  | _ => exact ⟨h, by decide⟩

end Lexeme

namespace Literal

open Lexeme

/-- The mode of a scan behind a text that ends with the part of a literal that was read. -/
inductive Halfway : Mode → Bool → List Char → List Char → Prop
  | gap (before : List Char) : Halfway .gap false before []
  | inside (before : List Char) {run : List Char} : run ≠ [] →
      Halfway (.inside before.length) true (before ++ run) run
  | closing (before : List Char) {run : List Char} : run ≠ [] →
      Halfway (.closing before.length) false (before ++ run) run

theorem chars_append (before run rest : List Char) :
    Span.chars ⟨before.length, (before ++ run).length⟩ (before ++ run ++ rest) = run := by
  have hlen : before.length + run.length ≤ (before ++ run ++ rest).length := by simp
  rw [Span.chars, List.length_append, Int.natCast_add, Slice.ofList_natCast hlen]
  simp

theorem flush_eq {run : List Char} (h : run ≠ []) : flush run = [run] := if_neg h

namespace Halfway

variable {m : Mode} {before run : List Char}

/-- A quoted character is read as part of the run at hand. -/
theorem quoted {inside : Bool} {c : Char} (hm : Halfway m inside before run)
    (hf : (Lexeme.quoted c).Fits inside) :
    ∃ m', Halfway m' ((Lexeme.quoted c).turn inside) (before ++ [c]) (run ++ [c]) ∧
      ∀ rest, spansFrom m before.length (c :: rest) = spansFrom m' (before ++ [c]).length rest := by
  have hrun : run ++ [c] ≠ [] := by simp
  cases hm with
  | gap =>
    obtain rfl : c = '\'' := by simpa [Fits] using hf
    exact ⟨_, .inside before hrun, fun rest => by simp [spansFrom]⟩
  | inside front =>
    rw [List.append_assoc]
    by_cases hc : c = '\''
    · have hclosing := Halfway.closing front hrun
      exact ⟨_, by simpa [turn, hc] using hclosing, by simp [spansFrom, hc, Nat.add_assoc]⟩
    · have hinside := Halfway.inside front hrun
      exact ⟨_, by simpa [turn, hc] using hinside, by simp [spansFrom, hc, Nat.add_assoc]⟩
  | closing front =>
    obtain rfl : c = '\'' := by simpa [Fits] using hf
    rw [List.append_assoc]
    exact ⟨_, .inside front hrun, by simp [spansFrom, Nat.add_assoc]⟩

/-- The run at hand is a literal that is over where other characters follow. -/
theorem plain {cs : List Char} (hm : Halfway m false before run) (hno : '\'' ∉ cs) (hne : cs ≠ [])
    (rest : List Char) :
    (spansFrom m before.length (cs ++ rest)).map (·.chars (before ++ cs ++ rest)) = flush run ++
      (spansFrom .gap (before ++ cs).length rest).map (·.chars (before ++ cs ++ rest)) := by
  cases hm with
  | gap => rw [spansFrom_gap hno, List.length_append, flush, if_pos rfl, List.nil_append]
  | closing front hrun =>
    have hchars := chars_append front run (cs ++ rest)
    rw [← List.append_assoc] at hchars
    have hlength : (front ++ run ++ cs).length = (front ++ run).length + cs.length :=
      List.length_append
    rw [spansFrom_closing (head?_gap_ne hno hne), spansFrom_gap hno, List.map_cons, hchars,
      flush_eq hrun, hlength, List.singleton_append]

end Halfway

/-- What is read from the middle of a text on are the runs of its lexemes. -/
theorem map_chars_spansFrom {m : Mode} {inside : Bool} {before run : List Char}
    (hm : Halfway m inside before run) {ls : List Lexeme} (hp : Proper inside ls) :
    (spansFrom m before.length (flatten ls)).map (·.chars (before ++ flatten ls)) =
      runsFrom run ls := by
  induction ls generalizing m inside before run with
  | nil =>
    cases hm with
    | gap => rfl
    | inside front hrun | closing front hrun =>
      show [Span.chars ⟨front.length, (front ++ run).length⟩ (front ++ run ++ [])] = flush run
      rw [chars_append, flush_eq hrun]
  | cons l ls ih =>
    obtain ⟨hf, -, hp⟩ := hp
    by_cases hl : ∃ c, l = quoted c
    · obtain ⟨c, rfl⟩ := hl
      obtain ⟨m', hm', hspans⟩ := hm.quoted hf
      have ih := ih hm' hp
      rwa [List.append_assoc, ← hspans] at ih
    · have hl : ∀ c, l ≠ quoted c := fun c hc => hl ⟨c, hc⟩
      obtain ⟨rfl, hno⟩ := apostrophe_not_mem_of_fits hf hl
      have hturn : l.turn false = false := by
        cases l with
        | quoted c => exact absurd rfl (hl c)
        | _ => rfl
      rw [hturn] at hp
      have hne : l.source ≠ [] := by cases l <;> simp [source]
      rw [flatten_cons, ← List.append_assoc, hm.plain hno hne, ih (.gap _) hp,
        runsFrom_of_not_quoted hl]

/-- The texts of the literals of a text. -/
theorem map_chars_spans (cs : List Char) :
    (spans cs).map (·.chars cs) = runsFrom [] (scan cs) := by
  have h := map_chars_spansFrom (.gap []) (proper_scan cs)
  rwa [flatten_scan] at h

end Literal

end QueryBinding
