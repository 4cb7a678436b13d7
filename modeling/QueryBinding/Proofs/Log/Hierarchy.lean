import Mathlib.Data.Int.Notation
import Mathlib.Tactic.Common
import QueryBinding.Log.Hub

/-! The hierarchy of loggers by their dotted names, as it is documented. A logger without a level
has that of the nearest one above it which has a level, and its records go to its handlers and on
to those of the loggers above it, until one of these keeps them. With nothing set at the other
loggers that have a name, the hub says what the whole hierarchy does. The loggers of callers are
the library's, but for the names that begin as its top does and go on without a dot. -/

namespace QueryBinding

/-- What is set at one logger. A level of zero is none. -/
structure Logger where
  level : ℤ := 0
  handlers : List Handler := []
  propagate : Bool := true

namespace Logger

/-- The level of the first of these loggers, which stand above each other. -/
def effectiveLevel : List Logger → ℤ
  | [] => 0
  | l :: ls => if l.level = 0 then effectiveLevel ls else l.level

/-- The handlers that a record of the first of these loggers reaches. -/
def reached : List Logger → List Handler
  | [] => []
  | l :: ls => l.handlers ++ if l.propagate then reached ls else []

variable {ls above : List Logger}

theorem effectiveLevel_append (h : ∀ l ∈ ls, l = {}) :
    effectiveLevel (ls ++ above) = effectiveLevel above := by
  induction ls with
  | nil => rfl
  | cons l ls ih =>
    rw [h l List.mem_cons_self]
    exact ih fun l hl => h l (List.mem_cons_of_mem _ hl)

theorem reached_append (h : ∀ l ∈ ls, l = {}) : reached (ls ++ above) = reached above := by
  induction ls with
  | nil => rfl
  | cons l ls ih =>
    rw [h l List.mem_cons_self]
    exact ih fun l hl => h l (List.mem_cons_of_mem _ hl)

end Logger

/-- The loggers of a process: the one above all, which has no name, and those with a name. -/
structure LoggerTree where
  root : Logger
  named : List Char → Logger

namespace LoggerTree

/-- The names that a dotted name is cut to at its dots, and the whole name. The part `front`
has been passed. This is an assumption about names in which two dots stand side by side: they too
are cut at each of the dots, as the documentation of the hierarchy has it. -/
def cuts (front : List Char) : List Char → List (List Char)
  | [] => [front]
  | c :: cs =>
    if c = '.' ∧ front ≠ [] then front :: cuts (front ++ [c]) cs else cuts (front ++ [c]) cs

/-- A logger and those above it, the nearest ones first. -/
def lineage (t : LoggerTree) (name : String) : List Logger :=
  ((cuts [] name.toList).map t.named).reverse ++ [t.root]

/-- The handlers that get a record of a logger and a level. -/
def targets (t : LoggerTree) (name : String) (level : ℤ) : List Handler :=
  if Logger.effectiveLevel (t.lineage name) ≤ level then Logger.reached (t.lineage name) else []

theorem prefix_of_mem_cuts {front cs name : List Char} (h : name ∈ cuts front cs) :
    front <+: name := by
  induction cs generalizing front with
  | nil =>
    obtain rfl := List.mem_singleton.mp h
    exact List.prefix_refl name
  | cons c cs ih =>
    have hlonger : name ∈ cuts (front ++ [c]) cs → front <+: name := fun h =>
      (List.prefix_append front [c]).trans (ih h)
    rw [cuts] at h
    split_ifs at h
    · rcases List.mem_cons.mp h with rfl | h
      · exact List.prefix_refl name
      · exact hlonger h
    · exact hlonger h

/-- What a name is cut to is the whole name, or a dot comes next in it. -/
theorem append_eq_of_mem_cuts {front cs name : List Char} (h : name ∈ cuts front cs) :
    front ++ cs = name ∨ ∃ rest, front ++ cs = name ++ '.' :: rest := by
  induction cs generalizing front with
  | nil =>
    obtain rfl := List.mem_singleton.mp h
    exact .inl (List.append_nil name)
  | cons c cs ih =>
    have hlonger : name ∈ cuts (front ++ [c]) cs →
        front ++ c :: cs = name ∨ ∃ rest, front ++ c :: cs = name ++ '.' :: rest := fun h => by
      rw [List.append_cons]
      exact ih h
    rw [cuts] at h
    split_ifs at h with hdot
    · rcases List.mem_cons.mp h with rfl | h
      · exact .inr ⟨cs, by rw [hdot.1]⟩
      · exact hlonger h
    · exact hlonger h

end LoggerTree

namespace Hub

/-- The loggers of a process in which, besides the one above all, only the top of the library
has anything set. -/
def tree (hub : Hub) : LoggerTree where
  root := { level := Level.warning, handlers := hub.above }
  named name :=
    if name = rootName.toList then ⟨hub.level, hub.handlers, hub.propagate⟩ else {}

/-- The loggers of the library: its top and those with a longer dotted name. That the latter are
below the top, whatever comes after the dot, is the assumption that `LoggerTree.cuts` makes. -/
def Inside (logger : String) : Prop :=
  logger = rootName ∨ ∃ rest, logger = rootName ++ "." ++ rest

theorem covers_iff {logger : String} : covers logger = true ↔ Inside logger := by
  rw [covers, Bool.or_eq_true, decide_eq_true_iff, List.isPrefixOf_iff_prefix]
  refine or_congr_right ⟨?_, ?_⟩
  · rintro ⟨rest, hrest⟩
    exact ⟨String.ofList rest, String.toList_inj.mp (by simp [← hrest])⟩
  · rintro ⟨rest, rfl⟩
    exact ⟨rest.toList, String.toList_append.symm⟩

/-- What stands above a logger of the library: loggers at which nothing is set, the top of the
library, and the logger above all. -/
theorem exists_lineage (hub : Hub) {logger : String} (h : Inside logger) :
    ∃ ls, (∀ l ∈ ls, l = {}) ∧ hub.tree.lineage logger =
      ls ++ [⟨hub.level, hub.handlers, hub.propagate⟩, hub.tree.root] := by
  rcases h with rfl | ⟨rest, rfl⟩
  · exact ⟨[], nofun, rfl⟩
  · have hcuts : LoggerTree.cuts [] (rootName ++ "." ++ rest).toList =
        rootName.toList :: LoggerTree.cuts (rootName.toList ++ ['.']) rest.toList := by
      rw [String.toList_append, String.toList_append]
      rfl
    refine ⟨((LoggerTree.cuts (rootName.toList ++ ['.']) rest.toList).map hub.tree.named).reverse,
      fun l hl => ?_, ?_⟩
    · obtain ⟨name, hname, rfl⟩ := List.mem_map.mp (List.mem_reverse.mp hl)
      have hlength := (LoggerTree.prefix_of_mem_cuts hname).length_le
      refine if_neg ?_
      rintro rfl
      rw [List.length_append] at hlength
      exact absurd hlength (by simp)
    · rw [LoggerTree.lineage, hcuts, List.map_cons, List.reverse_cons, List.append_assoc]
      rfl

theorem targets_inside (hub : Hub) {logger : String} (h : Inside logger) (level : ℤ) :
    hub.targets logger level =
      if hub.threshold ≤ level then hub.handlers ++ if hub.propagate then hub.above else []
      else [] :=
  if_pos (covers_iff.mpr h)

/-- Nothing is set above the loggers of other names but at the logger above all. -/
theorem targets_outside (hub : Hub) {logger : String} (h : ¬ Inside logger) (level : ℤ) :
    hub.targets logger level = if Level.warning ≤ level then hub.above else [] :=
  if_neg (mt covers_iff.mp h)

theorem targets_tree_inside (hub : Hub) {logger : String} (h : Inside logger) (level : ℤ) :
    hub.tree.targets logger level = hub.targets logger level := by
  obtain ⟨ls, hls, hlineage⟩ := hub.exists_lineage h
  have hlevel : Logger.effectiveLevel (hub.tree.lineage logger) = hub.threshold := by
    rw [hlineage, Logger.effectiveLevel_append hls]
    rfl
  have hreached : Logger.reached (hub.tree.lineage logger) =
      hub.handlers ++ if hub.propagate then hub.above else [] := by
    rw [hlineage, Logger.reached_append hls]
    simp [Logger.reached, tree]
  rw [LoggerTree.targets, hlevel, hreached, targets_inside hub h]

theorem targets_tree_outside (hub : Hub) {logger : String} (h : ¬ Inside logger) (level : ℤ) :
    hub.tree.targets logger level = hub.targets logger level := by
  have hls : ∀ l ∈ ((LoggerTree.cuts [] logger.toList).map hub.tree.named).reverse, l = {} := by
    intro l hl
    obtain ⟨name, hname, rfl⟩ := List.mem_map.mp (List.mem_reverse.mp hl)
    refine if_neg ?_
    rintro rfl
    refine h ?_
    rcases LoggerTree.append_eq_of_mem_cuts hname with hwhole | ⟨rest, hdot⟩
    · exact .inl (String.toList_inj.mp hwhole)
    · exact .inr ⟨String.ofList rest, String.toList_inj.mp (by simpa using hdot)⟩
  have hlevel : Logger.effectiveLevel (hub.tree.lineage logger) = Level.warning := by
    rw [LoggerTree.lineage, Logger.effectiveLevel_append hls]
    rfl
  have hreached : Logger.reached (hub.tree.lineage logger) = hub.above := by
    rw [LoggerTree.lineage, Logger.reached_append hls]
    exact List.append_nil hub.above
  rw [LoggerTree.targets, hlevel, hreached, targets_outside hub h]

/-- The hub says where the records of every logger go. -/
theorem targets_tree (hub : Hub) (logger : String) (level : ℤ) :
    hub.tree.targets logger level = hub.targets logger level := by
  by_cases h : Inside logger
  · exact hub.targets_tree_inside h level
  · exact hub.targets_tree_outside h level

/-! ### The loggers of callers -/

/-- The names that begin as the top of the library does and go on without a dot. -/
def Stray (name : Option String) : Prop :=
  ∃ rest : String, name = some (rootName ++ rest) ∧ rest ≠ "" ∧ ∀ tail, rest ≠ "." ++ tail

theorem loggerName_begins (rest : String) :
    loggerName (some (rootName ++ rest)) = rootName ++ rest := by
  refine if_pos (List.isPrefixOf_iff_prefix.mpr ?_)
  rw [String.toList_append]
  exact List.prefix_append _ _

theorem loggerName_other {name : String} (h : ∀ rest, name ≠ rootName ++ rest) :
    loggerName (some name) = rootName ++ "." ++ name := by
  refine if_neg fun hprefix => ?_
  obtain ⟨rest, hrest⟩ := List.isPrefixOf_iff_prefix.mp hprefix
  exact h (String.ofList rest) (String.toList_inj.mp (by simp [← hrest]))

theorem inside_append_iff {rest : String} :
    Inside (rootName ++ rest) ↔ rest = "" ∨ ∃ tail, rest = "." ++ tail := by
  refine or_congr String.append_eq_left_iff (exists_congr fun tail => ?_)
  rw [String.append_assoc, String.append_right_inj]

/-- The logger of a name is one of the library's, but for the stray names. -/
theorem inside_loggerName_iff (name : Option String) :
    Inside (loggerName name) ↔ ¬ Stray name := by
  rcases name with - | name
  · exact iff_of_true (.inl rfl) nofun
  · by_cases hbegins : ∃ rest, name = rootName ++ rest
    · obtain ⟨rest, rfl⟩ := hbegins
      rw [loggerName_begins, inside_append_iff]
      constructor
      · rintro hdot ⟨rest', hname, hne, hnot⟩
        obtain rfl := (String.append_right_inj _).mp (Option.some.inj hname)
        exact hdot.elim hne fun ⟨tail, htail⟩ => hnot tail htail
      · intro hstray
        by_contra hdot
        rw [not_or, not_exists] at hdot
        exact hstray ⟨rest, rfl, hdot⟩
    · rw [not_exists] at hbegins
      refine iff_of_true ?_ ?_
      · rw [loggerName_other hbegins]
        exact .inr ⟨name, rfl⟩
      · rintro ⟨rest, hname, -⟩
        exact hbegins rest (Option.some.inj hname)

instance (name : Option String) : Decidable (Stray name) :=
  decidable_of_iff (covers (loggerName name) = false) (by
    rw [Bool.eq_false_iff, ne_eq, covers_iff, inside_loggerName_iff, not_not])

example : Stray (some "sqlbinderx") ∧ ¬ Stray (some "sqlbinder.x") ∧ ¬ Stray (some "x") := by
  decide +kernel

/-- Every logger's name begins as the top of the library does. -/
theorem exists_loggerName_eq (name : Option String) :
    ∃ rest, loggerName name = rootName ++ rest := by
  rcases name with - | name
  · exact ⟨"", rfl⟩
  · by_cases hbegins : ∃ rest, name = rootName ++ rest
    · obtain ⟨rest, rfl⟩ := hbegins
      exact ⟨rest, loggerName_begins rest⟩
    · exact ⟨"." ++ name, (loggerName_other (not_exists.mp hbegins)).trans String.append_assoc⟩

/-- A logger is the one of its own name. -/
theorem loggerName_loggerName (name : Option String) :
    loggerName (some (loggerName name)) = loggerName name := by
  obtain ⟨rest, hrest⟩ := exists_loggerName_eq name
  rw [hrest, loggerName_begins]

end Hub

end QueryBinding
