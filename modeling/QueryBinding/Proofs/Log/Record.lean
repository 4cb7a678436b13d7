import QueryBinding.Log.Message
import QueryBinding.Log.Record
import QueryBinding.Proofs.Entries
import QueryBinding.Proofs.Value.Json

/-! The structured form of a record. It is one JSON object without control characters, and what
it spells are the record's own fields with those of the caller put over them, and the exception
over both. -/

namespace QueryBinding

namespace Record

/-- The fields of every record. -/
def ownNames : List String :=
  ["timestamp", "level", "logger", "message", "module", "function", "line"]

/-- What a record itself has under these names. -/
def own (r : Record) (stamp : String) : Entries Value := [
  ("timestamp", .text stamp),
  ("level", .text (Level.label r.level)),
  ("logger", .text r.logger),
  ("message", .text r.message),
  ("module", .text r.site.unit),
  ("function", (r.site.function.map Value.text).getD .null),
  ("line", .int r.site.line)]

/-- The fields of the caller. -/
def extra (r : Record) : Entries Value := r.fields.getD []

variable {r : Record} {stamp : String}

theorem entries_of_none (h : r.exception = none) :
    r.entries stamp = (r.own stamp).merge r.extra := by
  rw [entries, h]
  rfl

theorem entries_of_some {text : String} (h : r.exception = some text) :
    r.entries stamp = ((r.own stamp).merge r.extra).put "exception" (.text text) := by
  rw [entries, h]
  rfl

theorem names_own (r : Record) (stamp : String) : (r.own stamp).names = ownNames := rfl

theorem names_merge_extra (h : r.extra.names.Nodup) : ((r.own stamp).merge r.extra).names =
    ownNames ++ r.extra.names.filter (· ∉ ownNames) := by
  rw [Entries.names_merge_of_nodup _ h, names_own]
  congr 1
  refine List.filter_congr fun name _ => ?_
  rw [Bool.eq_iff_iff, Bool.not_eq_true', Entries.has_eq_false_iff, names_own,
    decide_eq_true_iff]

theorem has_exception_iff (h : r.extra.names.Nodup) :
    ((r.own stamp).merge r.extra).has "exception" = true ↔ "exception" ∈ r.extra.names := by
  rw [Entries.has, ← Entries.mem_names_iff, names_merge_extra h, List.mem_append, List.mem_filter]
  simp [ownNames]

/-- The exception comes last, unless the caller has a field of that name. -/
theorem names_entries (h : r.extra.names.Nodup) : (r.entries stamp).names =
    ownNames ++ r.extra.names.filter (· ∉ ownNames) ++
      if r.exception.isSome ∧ "exception" ∉ r.extra.names then ["exception"] else [] := by
  cases hexc : r.exception with
  | none =>
    rw [entries_of_none hexc, names_merge_extra h]
    simp
  | some text =>
    rw [entries_of_some hexc, Entries.names_put, names_merge_extra h]
    simp only [has_exception_iff h]
    by_cases hmem : "exception" ∈ r.extra.names <;> simp [hmem]

theorem nodup_names_entries (r : Record) (stamp : String) : (r.entries stamp).names.Nodup := by
  have hmerge : ((r.own stamp).merge r.extra).names.Nodup :=
    Entries.nodup_names_merge (by rw [names_own]; decide) r.extra
  cases hexc : r.exception with
  | none =>
    rw [entries_of_none hexc]
    exact hmerge
  | some text =>
    rw [entries_of_some hexc]
    exact Entries.nodup_names_put hmerge _ _

/-- The fields of the caller go before those of the record. -/
theorem get?_entries (h : r.extra.names.Nodup) {name : String}
    (hname : r.exception = none ∨ name ≠ "exception") :
    (r.entries stamp).get? name = (r.extra.get? name).or ((r.own stamp).get? name) := by
  cases hexc : r.exception with
  | none => rw [entries_of_none hexc, Entries.get?_merge_of_nodup _ h]
  | some text =>
    have hne : name ≠ "exception" := hname.resolve_left (by simp [hexc])
    rw [entries_of_some hexc, Entries.get?_put_of_ne hne, Entries.get?_merge_of_nodup _ h]

theorem get?_exception {text : String} (h : r.exception = some text) :
    (r.entries stamp).get? "exception" = some (.text text) := by
  rw [entries_of_some h, Entries.get?_put_self]

/-- What the structured form of a record tells, whose message a pattern and arguments make. -/
structure Structured (pattern : String) (args : List Value) (r : Record) (stamp : String) :
    Prop where
  /-- The text is one JSON object, which has these fields in their order. -/
  spells_iff : ∀ v, Json.Spells (r.structured stamp).toList v ↔ v = .object (r.entries stamp)
  printed : Json.Printed (r.structured stamp).toList
  names : (r.entries stamp).names = ownNames ++ r.extra.names.filter (· ∉ ownNames) ++
    if r.exception.isSome ∧ "exception" ∉ r.extra.names then ["exception"] else []
  nodup : (r.entries stamp).names.Nodup
  extra : ∀ name value, r.extra.get? name = some value →
    r.exception = none ∨ name ≠ "exception" → (r.entries stamp).get? name = some value
  own : ∀ name ∉ r.extra.names, r.exception = none ∨ name ≠ "exception" →
    (r.entries stamp).get? name = (r.own stamp).get? name
  /-- The message has its arguments filled in. -/
  message : ∃ message, Message.fill pattern args = .ok message ∧
    (r.own stamp).get? "message" = some (.text message)
  exception : ∀ text, r.exception = some text →
    (r.entries stamp).get? "exception" = some (.text text)

theorem structured_entries {pattern : String} {args : List Value} (stamp : String)
    (hmessage : Message.fill pattern args = .ok r.message) (h : r.extra.names.Nodup) :
    Structured pattern args r stamp where
  spells_iff v := by
    rw [structured, Json.text, String.toList_ofList]
    exact Json.spells_encode_iff
  printed := by
    rw [structured, Json.text, String.toList_ofList]
    exact Json.printed_encode _
  names := names_entries h
  nodup := nodup_names_entries r stamp
  extra name value hvalue hname := by
    rw [get?_entries h hname, hvalue]
    rfl
  own name hnot hname := by
    rw [get?_entries h hname, Entries.get?_eq_none_iff.mpr hnot, Option.none_or]
  message := ⟨r.message, hmessage, rfl⟩
  exception _ := get?_exception

/-- A caller with fields of its own for the line and the exception of a record that has one. -/
theorem structured_entries_overlap : ∃ r : Record,
    Structured "%s\n" [.text "é"] r "now" ∧
    r.extra = [("line", .null), ("exception", .int 0), ("ids", .list [.int (-1), .object []])] ∧
    (r.entries "now").names = ownNames ++ ["exception", "ids"] ∧
    (r.entries "now").get? "exception" = some (.text "KeyError: 0") ∧
    r.structured "now" = "\x7b\"timestamp\":\"now\",\"level\":\"ERROR\",\"logger\":\"sqlbinder\"," ++
      "\"message\":\"é\\n\",\"module\":\"loader\",\"function\":null,\"line\":null," ++
      "\"exception\":\"KeyError: 0\",\"ids\":[-1,\x7b\x7d]\x7d" := by
  let r : Record :=
    { logger := "sqlbinder"
      level := Level.error
      message := "é\n"
      site := ⟨"loader", none, 7⟩
      fields := some [("line", .null), ("exception", .int 0),
        ("ids", .list [.int (-1), .object []])]
      exception := some "KeyError: 0" }
  have h : Structured "%s\n" [.text "é"] r "now" := structured_entries "now" rfl (by decide)
  refine ⟨r, h, rfl, ?_, h.exception _ rfl, ?_⟩
  · rw [h.names]
    decide
  · decide +kernel

end Record

end QueryBinding
