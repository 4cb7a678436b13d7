import Mathlib.Tactic.Common
import QueryBinding.Error

/-! What reports tell. A report is of the class that it is made for and keeps the facts
of the case, whatever its detail. -/

namespace QueryBinding

theorem Fault.cls_make (cls : FaultClass) (args : List Value) (detail : String)
    (facts : Entries Value) : (Fault.make cls args detail facts).cls = cls ∧
      (Fault.make cls args detail facts).facts = facts := by
  rw [Fault.make]
  split_ifs
  · exact ⟨rfl, rfl⟩
  · cases (args.filter Value.isTruthy).map Value.display <;> exact ⟨rfl, rfl⟩

theorem Fault.facts_arity (expected actual sql message : Value) :
    (Fault.arity expected actual sql message).cls = .arity ∧
      (Fault.arity expected actual sql message).facts =
        [("sql", sql), ("expected", expected), ("actual", actual)] :=
  Fault.cls_make _ _ _ _

/-- A wrong count is reported with the counts as facts. -/
theorem Error.fault?_wrongCount (total positional count : Nat) (sql : String) :
    ∃ f, (Error.wrongCount total positional count sql).fault? = some f ∧ f.cls = .arity ∧
      f.facts.get? "expected" = some (.int total) ∧ f.facts.get? "actual" = some (.int count) := by
  obtain ⟨hcls, hfacts⟩ := Fault.facts_arity (.int total) (.int count) (.text sql) _
  refine ⟨_, rfl, hcls, ?_, ?_⟩
  · rw [hfacts]
    rfl
  · rw [hfacts]
    rfl

theorem Error.fault?_tooLong (length : Nat) (limit : Int) :
    ∃ f, (Error.tooLong length limit).fault? = some f ∧ f.cls = .parsing :=
  ⟨_, rfl, (Fault.cls_make _ _ _ _).1⟩

theorem Error.fault?_configuration (flaws : List String) :
    ∃ f, (Error.configuration flaws).fault? = some f ∧ f.cls = .configuration :=
  ⟨_, rfl, (Fault.cls_make _ _ _ _).1⟩

/-- A bare colon is reported with its offset and the text as facts. -/
theorem Error.fault?_malformed (position : Nat) (sql : String) :
    ∃ f, (Error.malformed position sql).fault? = some f ∧ f.cls = .malformed ∧
      f.facts.get? "position" = some (.int position) ∧ f.facts.get? "sql" = some (.text sql) := by
  obtain ⟨hcls, hfacts⟩ := Fault.cls_make .malformed [] _
    [("sql", .text sql), ("position", .int position)]
  refine ⟨_, rfl, hcls, ?_, ?_⟩
  · exact (congrArg (Entries.get? "position") hfacts).trans rfl
  · exact (congrArg (Entries.get? "sql") hfacts).trans rfl

/-- Missing values of positional placeholders are reported as a count of none. -/
theorem Error.fault?_noValues (positional : Nat) (index : Int) (sql : String) :
    ∃ f, (Error.noValues positional index sql).fault? = some f ∧ f.cls = .arity ∧
      f.facts.get? "expected" = some (.int positional) ∧ f.facts.get? "actual" = some (.int 0) := by
  obtain ⟨hcls, hfacts⟩ := Fault.facts_arity (.int positional) (.int 0) (.text sql) _
  refine ⟨_, rfl, hcls, ?_, ?_⟩
  · rw [hfacts]
    rfl
  · rw [hfacts]
    rfl

/-- A name without a value is reported with the rank of its placeholder. -/
theorem Error.fault?_unbound (name : String) (index : Int) (sql : String) :
    ∃ f, (Error.unbound name index sql).fault? = some f ∧ f.cls = .unbound ∧
      f.facts.get? "name" = some (.text name) ∧
        f.facts.get? "occurrence_index" = some (.int index) := by
  obtain ⟨hcls, hfacts⟩ := Fault.cls_make .unbound [] _
    [("sql", .text sql), ("name", .text name), ("occurrence_index", .int index)]
  refine ⟨_, rfl, hcls, ?_, ?_⟩
  · exact (congrArg (Entries.get? "name") hfacts).trans rfl
  · exact (congrArg (Entries.get? "occurrence_index") hfacts).trans rfl

/-- A missing file is reported with the place where it was looked for. -/
theorem Error.fault?_notFound (place : String) :
    ∃ f, (Error.notFound place).fault? = some f ∧ f.cls = .notFound ∧
      f.facts.get? "path" = some (.text place) := by
  obtain ⟨hcls, hfacts⟩ := Fault.cls_make .notFound _ "" [("path", .text place)]
  exact ⟨_, rfl, hcls, (congrArg (Entries.get? "path") hfacts).trans rfl⟩

theorem Error.fault?_undecodable (medium : Medium) (place : String) (failure : Encoding.Failure) :
    ∃ f, (Error.undecodable medium place failure).fault? = some f ∧ f.cls = .loading :=
  ⟨_, rfl, (Fault.cls_make _ _ _ _).1⟩

end QueryBinding
