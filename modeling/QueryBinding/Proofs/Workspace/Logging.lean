import QueryBinding.Log.Message
import QueryBinding.Proofs.EraseDups
import QueryBinding.Proofs.Log.Hierarchy
import QueryBinding.Proofs.Workspace.Insulation
import QueryBinding.Proofs.Workspace.Strictness
import QueryBinding.Workspace.Logging

/-! Logging that is set up again and again. Each time the handlers of the last time are replaced,
so a record goes once to every handler that was given this time and to no other one. -/

namespace QueryBinding

namespace Hub

variable {hub : Hub} {level : ℤ}

/-- A handler that is given twice is there once, and nothing is left of what was there. -/
theorem configure_eq (hub : Hub) (level : ℤ) (hs : List Handler) :
    hub.configure level hs = ⟨level, hs.eraseDups, false, hub.above⟩ := by
  -- from the right, since the last handler is the one that may be there already
  induction hs using List.reverseRecOn with
  | nil => rfl
  | append_singleton hs h ih =>
    have hstep : hub.configure level (hs ++ [h]) = (hub.configure level hs).addHandler h := by
      rw [configure, List.foldl_append]
      rfl
    rw [hstep, ih, addHandler]
    by_cases hmem : h ∈ hs
    · simp [eraseDups_concat_of_mem hmem, hmem]
    · simp [eraseDups_concat_of_not_mem hmem, hmem]

end Hub

namespace Level

/-- The levels that are named in their order. -/
def named : List (String × ℤ) :=
  [("DEBUG", debug), ("INFO", info), ("WARNING", warning), ("ERROR", error),
    ("CRITICAL", critical)]

theorem ofLabel_of_mem {label : String} {level : ℤ}
    (h : (Uppercase.ofString label, level) ∈ named) : ofLabel label = .ok level ∧ level ≠ 0 := by
  rw [ofLabel]
  simp only [named, List.mem_cons, Prod.mk.injEq, List.not_mem_nil, or_false] at h
  obtain ⟨hlabel, rfl⟩ | ⟨hlabel, rfl⟩ | ⟨hlabel, rfl⟩ | ⟨hlabel, rfl⟩ | ⟨hlabel, rfl⟩ := h <;>
    rw [hlabel] <;> exact ⟨rfl, by decide⟩

end Level

/-- What logging is set up with. -/
structure LoggingSetup where
  level : String
  format : String
  file : Option String
  extra : List Handler

namespace LoggingSetup

def action (c : LoggingSetup) : Action Unit :=
  Action.configureLogging c.level c.format c.file c.extra

/-- The console handler that is made in a workspace. -/
def console (c : LoggingSetup) (w : Workspace) : Handler :=
  ⟨w.next, .console (Action.layoutOf c.format)⟩

/-- What a setup has done when it comes to the log file. The console is the only handler. -/
def begun (c : LoggingSetup) (configured : ℤ) (w : Workspace) : Workspace :=
  { w.advance with hub := ⟨configured, [c.console w], w.hub.propagate, w.hub.above⟩ }

end LoggingSetup

namespace Action

variable {w w' : Workspace}

/-! ### One setup -/

/-- The handlers that are made for a log file, if one is named. Files are always structured. -/
inductive LogsTo (number : ℕ) : Option String → List Handler → Prop
  | unnamed : LogsTo number none []
  | empty : LogsTo number (some "") []
  | file {path : String} (hpath : path ≠ "") (serial : ℕ) :
      LogsTo number (some path) [⟨number, .file serial .structured⟩]

theorem LogsTo.serial_of_mem {number : ℕ} {file : Option String} {logs : List Handler}
    (hs : LogsTo number file logs) {h : Handler} (hh : h ∈ logs) : h.serial = number := by
  cases hs with
  | unnamed | empty => cases hh
  | file => rw [List.mem_singleton.mp hh]

theorem LogsTo.nodup {number : ℕ} {file : Option String} {logs : List Handler}
    (hs : LogsTo number file logs) : logs.Nodup := by
  cases hs with
  | unnamed | empty => exact List.nodup_nil
  | file => exact List.nodup_singleton _

theorem on_openLog (path : String) (w : Workspace) : (openLog path).on w =
    match w.files.openToAppend (Path.direct (w.files.absolute [] path)) with
    | .error o => (.error (.ofObstacle o (Path.direct (w.files.absolute [] path))), w)
    | .ok (serial, files) => (.ok serial, { w with files }) := by
  rw [openLog, on_bind_ok (on_get w)]
  simp only
  cases w.files.openToAppend (Path.direct (w.files.absolute [] path)) <;> rfl

theorem openLog_ok {path : String} {serial : ℕ} (h : (openLog path).on w = (.ok serial, w')) :
    w'.hub = w.hub ∧ w'.next = w.next := by
  rw [on_openLog] at h
  split at h
  · cases h
  · cases h
    exact ⟨rfl, rfl⟩

theorem fileHandlers_ok {file : Option String} {logs : List Handler}
    (h : (fileHandlers file).on w = (.ok logs, w')) :
    LogsTo w.next file logs ∧ w'.hub = w.hub ∧ w'.next = w.next + logs.length := by
  unfold fileHandlers at h
  split at h
  · cases h
    exact ⟨.unnamed, rfl, rfl⟩
  · cases h
    exact ⟨.empty, rfl, rfl⟩
  · next path hpath =>
    rw [on_bind] at h
    cases hopen : (openLog path).on w with
    | mk r w₁ =>
      rw [hopen] at h
      cases r with
      | error e => cases h
      | ok serial =>
        obtain ⟨hhub, hnext⟩ := openLog_ok hopen
        cases h
        refine ⟨?_, hhub, congrArg Nat.succ hnext⟩
        rw [hnext]
        exact .file hpath serial

/-- A setup whose level is not known changes nothing. -/
theorem setUp_refused {c : LoggingSetup} {e : Error} (hlevel : Level.ofLabel c.level = .error e)
    (w : Workspace) : c.action.on w = (.error e, w) := by
  rw [LoggingSetup.action, configureLogging, on_bind, on_lift, hlevel]

theorem on_setUp {c : LoggingSetup} {configured : ℤ}
    (hlevel : Level.ofLabel c.level = .ok configured) (w : Workspace) : c.action.on w =
    match (fileHandlers c.file).on (c.begun configured w) with
    | (.ok logs, w₁) =>
      let before : Workspace :=
        { w₁ with hub := w₁.hub.configure configured (c.console w :: logs ++ c.extra) }
      (.ok (), before.deliver (configuredNotice c.level c.format before.hub.handlers.length))
    | (.error e, w₁) => (.error e, w₁) := by
  rw [LoggingSetup.action, configureLogging, on_bind, on_lift, hlevel]
  simp only [on_bind_ok (on_fresh w), on_bind_ok (on_modify _ _)]
  cases hlogs : (fileHandlers c.file).on (c.begun configured w) with
  | mk r w₁ =>
    cases r with
    | ok logs => exact on_bind_ok hlogs _
    | error e => exact on_bind_error hlogs _

/-- What a setup that succeeds leaves behind, up to the notice of it. -/
structure SetsUp (c : LoggingSetup) (w : Workspace) (configured : ℤ) (logs : List Handler)
    (before : Workspace) : Prop where
  level : Level.ofLabel c.level = .ok configured
  logsTo : LogsTo (w.next + 1) c.file logs
  hub : before.hub =
    ⟨configured, (c.console w :: logs ++ c.extra).eraseDups, false, w.hub.above⟩
  next : before.next = w.next + 1 + logs.length

theorem setUp_ok {c : LoggingSetup} (h : c.action.on w = (.ok (), w')) :
    ∃ configured logs before, SetsUp c w configured logs before ∧
      w' = before.deliver (configuredNotice c.level c.format before.hub.handlers.length) := by
  cases hlevel : Level.ofLabel c.level with
  | error e =>
    rw [setUp_refused hlevel] at h
    cases h
  | ok configured =>
    rw [on_setUp hlevel] at h
    split at h
    · next logs w₁ hlogs =>
      obtain ⟨hlogsTo, hhub, hnext⟩ := fileHandlers_ok hlogs
      cases h
      refine ⟨configured, logs, { w₁ with
        hub := w₁.hub.configure configured (c.console w :: logs ++ c.extra) },
        ⟨hlevel, hlogsTo, ?_, hnext⟩, rfl⟩
      show w₁.hub.configure configured (c.console w :: logs ++ c.extra) = _
      rw [hhub, Hub.configure_eq]
      rfl
    · cases h

/-- Handlers that were made before now. -/
def Made (w : Workspace) (hs : List Handler) : Prop := ∀ h ∈ hs, h.serial < w.next

namespace SetsUp

variable {c : LoggingSetup} {configured : ℤ} {logs : List Handler} {before : Workspace}

theorem next_le_serial (hs : SetsUp c w configured logs before) {h : Handler}
    (hh : h ∈ c.console w :: logs) : w.next ≤ h.serial := by
  rcases List.mem_cons.mp hh with rfl | hh
  · exact Nat.le_refl _
  · rw [hs.logsTo.serial_of_mem hh]
    exact Nat.le_succ _

theorem nodup (hs : SetsUp c w configured logs before) : (c.console w :: logs).Nodup := by
  refine List.nodup_cons.mpr ⟨fun hh => ?_, hs.logsTo.nodup⟩
  exact absurd (hs.logsTo.serial_of_mem hh) (Nat.succ_ne_self w.next).symm

/-- The handlers that are there are those that were made and those that were given, each once. -/
theorem handlers (hs : SetsUp c w configured logs before) (hmade : Made w c.extra) :
    before.hub.handlers = c.console w :: logs ++ c.extra.eraseDups := by
  have hother : c.extra.removeAll (c.console w :: logs) = c.extra := by
    refine List.filter_eq_self.mpr fun h hh => ?_
    simp only [Bool.not_eq_true', List.elem_eq_mem, decide_eq_false_iff_not]
    intro hnew
    exact absurd (hmade h hh) (Nat.not_lt.mpr (hs.next_le_serial hnew))
  rw [hs.hub]
  show (c.console w :: logs ++ c.extra).eraseDups = _
  rw [List.eraseDups_append, hother, eraseDups_of_nodup hs.nodup]

theorem mem_handlers_iff (hs : SetsUp c w configured logs before) (hmade : Made w c.extra)
    {h : Handler} :
    h ∈ before.hub.handlers ↔ h = c.console w ∨ h ∈ logs ∨ h ∈ c.extra := by
  rw [hs.handlers hmade, List.mem_append, List.mem_cons, List.mem_eraseDups, or_assoc]

/-- What was made earlier is there only if it was given. -/
theorem not_mem_handlers (hs : SetsUp c w configured logs before) (hmade : Made w c.extra)
    {h : Handler} (hold : h.serial < w.next) (hnot : h ∉ c.extra) :
    h ∉ before.hub.handlers := by
  intro hin
  rcases (hs.mem_handlers_iff hmade).mp hin with hnew | hnew | hgiven
  · exact absurd hold (Nat.not_lt.mpr (hs.next_le_serial (hnew ▸ List.mem_cons_self)))
  · exact absurd hold (Nat.not_lt.mpr (hs.next_le_serial (List.mem_cons_of_mem _ hnew)))
  · exact hnot hgiven

theorem made (hs : SetsUp c w configured logs before) (hmade : Made w c.extra) :
    Made before before.hub.handlers := by
  intro h hh
  rw [hs.next]
  rcases (hs.mem_handlers_iff hmade).mp hh with rfl | hh | hh
  · show w.next < _
    omega
  · have := List.length_pos_of_mem hh
    rw [hs.logsTo.serial_of_mem hh]
    omega
  · have := hmade h hh
    omega

theorem threshold_eq (hs : SetsUp c w configured logs before) (hne : configured ≠ 0) :
    before.hub.threshold = configured := by
  rw [hs.hub]
  exact if_neg hne

section Targets

variable {w₂ : Workspace}

/-- Records that are important enough go to the handlers that are there, and no others of the
library go anywhere. -/
theorem targets_inside (hs : SetsUp c w configured logs before) (hne : configured ≠ 0)
    (hhub : w₂.hub = before.hub) {logger : String} (hlogger : Hub.Inside logger) (level : ℤ) :
    w₂.hub.targets logger level = if configured ≤ level then w₂.hub.handlers else [] := by
  have hpropagate : before.hub.propagate = false := by rw [hs.hub]
  rw [hhub, Hub.targets_inside _ hlogger, hs.threshold_eq hne, hpropagate,
    if_neg Bool.false_ne_true, List.append_nil]

end Targets

end SetsUp

/-! ### Setups one after the other -/

/-- Setups that succeed, with things between them that leave the loggers alone. The handlers of
the first workspace and those that each setup installed are told. -/
inductive SetUps (w : Workspace) : List Handler → Workspace → Prop
  | start : SetUps w (w.hub.handlers ++ w.hub.above) w
  | setUp {installed : List Handler} {w₁ w₂ : Workspace} {c : LoggingSetup}
      (h : SetUps w installed w₁) (hmade : Made w₁ c.extra)
      (hcall : c.action.on w₁ = (.ok (), w₂)) : SetUps w (installed ++ w₂.hub.handlers) w₂
  | aside {installed : List Handler} {w₁ w₂ : Workspace} (h : SetUps w installed w₁)
      (hhub : w₂.hub = w₁.hub) (hnext : w₁.next ≤ w₂.next) : SetUps w installed w₂

theorem Made.mono {hs : List Handler} (h : Made w hs) (hnext : w.next ≤ w'.next) : Made w' hs :=
  fun g hg => Nat.lt_of_lt_of_le (h g hg) hnext

/-- One setup keeps the handlers above the library and makes those that it installs. -/
theorem setUp_step {c : LoggingSetup} (hmade : Made w c.extra)
    (hcall : c.action.on w = (.ok (), w')) :
    w'.hub.above = w.hub.above ∧ w.next ≤ w'.next ∧ Made w' w'.hub.handlers := by
  obtain ⟨configured, logs, before, hs, rfl⟩ := setUp_ok hcall
  have hnext := (before.alike_deliver
    (configuredNotice c.level c.format before.hub.handlers.length)).next
  rw [Workspace.hub_deliver, hnext, hs.next]
  refine ⟨by rw [hs.hub], by omega, (hs.made hmade).mono (Nat.le_of_eq hnext.symm)⟩

section SetUps

variable {installed : List Handler} {w₁ : Workspace}

/-- The handlers above the library are those of the first workspace. -/
theorem SetUps.above (h : SetUps w installed w₁) :
    w₁.hub.above = w.hub.above ∧ ∀ g ∈ w₁.hub.above, g ∈ installed := by
  induction h with
  | start => exact ⟨rfl, fun g hg => List.mem_append_right _ hg⟩
  | setUp h hmade hcall ih =>
    obtain ⟨habove, -⟩ := setUp_step hmade hcall
    rw [habove]
    exact ⟨ih.1, fun g hg => List.mem_append_left _ (ih.2 g hg)⟩
  | aside h hhub hnext ih =>
    rw [hhub]
    exact ih

/-- All handlers that were ever installed were made before now. -/
theorem SetUps.made (h : SetUps w installed w₁)
    (hmade : Made w (w.hub.handlers ++ w.hub.above)) : Made w₁ installed := by
  induction h with
  | start => exact hmade
  | setUp h hextra hcall ih =>
    obtain ⟨-, hnext, hnew⟩ := setUp_step hextra hcall
    intro g hg
    rcases List.mem_append.mp hg with hg | hg
    · exact ih.mono hnext g hg
    · exact hnew g hg
  | aside h hhub hnext ih => exact ih.mono hnext

end SetUps

/-! ### Records after a setup -/

/-- The record of a message with fields. -/
def callerRecord (logger : String) (level : ℤ) (message : String) (fields : Entries Value) :
    Record where
  logger := logger
  level := level
  message := message
  site := { unit := "(unknown file)", function := none }
  fields := some fields

theorem on_log (logger : String) (level : ℤ) (message : String) (fields : Entries Value)
    (w : Workspace) : (log logger level message fields).on w =
      (.ok (), w.deliver (callerRecord logger level message fields)) := rfl

theorem on_log_of_targets {logger : String} {level : ℤ} {hs : List Handler}
    (h : w.hub.targets logger level = hs) (message : String) (fields : Entries Value) :
    (log logger level message fields).on w =
      (.ok (), hs.foldl (Workspace.send (callerRecord logger level message fields)) w) := by
  rw [on_log, Workspace.deliver, ← h]
  rfl

/-- Where records go in a workspace `w₂` after a setup that led from `w` to `w₁`. Before it, the
given handlers had been installed. -/
structure DeliversOnce (c : LoggingSetup) (configured : ℤ) (logs installed : List Handler)
    (w w₁ w₂ : Workspace) : Prop where
  logsTo : LogsTo (w.next + 1) c.file logs
  /-- The console, the log file and the further handlers, each of them once. -/
  handlers : w₂.hub.handlers = c.console w :: logs ++ c.extra.eraseDups
  nodup : w₂.hub.handlers.Nodup
  mem_iff : ∀ h, h ∈ w₂.hub.handlers ↔ h = c.console w ∨ h ∈ logs ∨ h ∈ c.extra
  /-- By the rules of the hierarchy a record goes to each of them once, and nowhere else. -/
  reached : ∀ logger, Hub.Inside logger → ∀ level h,
    (w₂.hub.tree.targets logger level).count h =
      if configured ≤ level ∧ h ∈ w₂.hub.handlers then 1 else 0
  /-- A handler that was there before, or is above the library, is not left over. -/
  leftover : ∀ h ∈ installed ++ w₂.hub.above, h ∉ c.extra → h ∉ w₂.hub.handlers
  logged : ∀ logger, Hub.Inside logger → ∀ level, configured ≤ level →
    ∀ message fields,
      (log logger level message fields).on w₂ = (.ok (), w₂.hub.handlers.foldl
        (Workspace.send (callerRecord logger level message fields)) w₂)
  /-- Every handler that keeps records keeps this one. -/
  captured : ∀ logger, Hub.Inside logger → ∀ level, configured ≤ level →
    ∀ message fields,
      ((log logger level message fields).on w₂).2.captured = w₂.captured ++
        (w₂.hub.handlers.filter fun h => h.sink = .capture).map
          fun h => (h.serial, callerRecord logger level message fields)
  silent : ∀ logger, Hub.Inside logger → ∀ level < configured, ∀ message fields,
    (log logger level message fields).on w₂ = (.ok (), w₂)
  /-- The message is taken as it stands. -/
  carried : ∀ logger level message fields,
    Message.fill message [] = .ok (callerRecord logger level message fields).message ∧
      (callerRecord logger level message fields).fields = some fields
  /-- The notice of the setup tells how many handlers there are. -/
  notice : ∃ (before : Workspace) (r : Record), before.hub = w₂.hub ∧ w₁ = before.deliver r ∧
    ∃ fields, r.fields = some fields ∧
      fields.get? "handlers_count" = some (.int w₂.hub.handlers.length)

/-- Records that are logged after any number of setups go where the last one sends them. -/
theorem delivers_once {w₀ w w₁ w₂ : Workspace} {installed : List Handler} {c : LoggingSetup}
    {configured : ℤ} (hmade : Made w₀ (w₀.hub.handlers ++ w₀.hub.above))
    (hbefore : SetUps w₀ installed w) (hextra : Made w c.extra)
    (hlevel : (Uppercase.ofString c.level, configured) ∈ Level.named)
    (hcall : c.action.on w = (.ok (), w₁)) (hafter : w₂.hub = w₁.hub) :
    ∃ logs, DeliversOnce c configured logs installed w w₁ w₂ := by
  obtain ⟨level, logs, before, hs, rfl⟩ := setUp_ok hcall
  obtain ⟨hofLabel, hne⟩ := Level.ofLabel_of_mem hlevel
  obtain rfl : level = configured := Except.ok.inj (hs.level.symm.trans hofLabel)
  rw [Workspace.hub_deliver] at hafter
  have hhandlers : w₂.hub.handlers = before.hub.handlers := by rw [hafter]
  have hnodup : w₂.hub.handlers.Nodup := by
    rw [hhandlers, hs.hub]
    exact nodup_eraseDups _
  have hlogged : ∀ logger, Hub.Inside logger → ∀ l, level ≤ l → ∀ message fields,
      (log logger l message fields).on w₂ = (.ok (), w₂.hub.handlers.foldl
        (Workspace.send (callerRecord logger l message fields)) w₂) := by
    intro logger hlogger l hle message fields
    rw [on_log_of_targets (hs.targets_inside hne hafter hlogger l), if_pos hle]
  refine ⟨logs, hs.logsTo, ?handlers, hnodup, ?mem_iff, ?reached, ?leftover, hlogged, ?captured,
    ?silent, fun _ _ _ _ => ⟨rfl, rfl⟩, before, _, hafter.symm, rfl, _, rfl, ?notice⟩
  case handlers =>
    rw [hhandlers]
    exact hs.handlers hextra
  case mem_iff =>
    intro h
    rw [hhandlers]
    exact hs.mem_handlers_iff hextra
  case reached =>
    intro logger hlogger l h
    rw [Hub.targets_tree, hs.targets_inside hne hafter hlogger l]
    by_cases hle : level ≤ l
    · rw [if_pos hle, hnodup.count]
      simp [hle]
    · simp [hle]
  case leftover =>
    intro h hh hnot
    -- all of these were made before the setup, so none is the console or the log file
    have habove : w₂.hub.above = w.hub.above := by rw [hafter, hs.hub]
    rw [habove, List.mem_append] at hh
    have hold : h.serial < w.next :=
      hbefore.made hmade h (hh.elim id (hbefore.above.2 h))
    rw [hhandlers]
    exact hs.not_mem_handlers hextra hold hnot
  case captured =>
    intro logger hlogger l hle message fields
    rw [hlogged logger hlogger l hle]
    exact Workspace.captured_foldl_send _ _ _
  case silent =>
    intro logger hlogger l hlt message fields
    rw [on_log_of_targets (hs.targets_inside hne hafter hlogger l), if_neg (Int.not_le.mpr hlt)]
    rfl
  case notice =>
    rw [hhandlers]
    rfl

/-- Two setups share a handler, which the second one names twice. The handler that only the first
one names gets nothing more, nor does the one above the library. -/
theorem delivers_once_shared :
    let c₁ : LoggingSetup := ⟨"debug", "simple", none, [⟨1, .capture⟩, ⟨2, .capture⟩]⟩
    let c₂ : LoggingSetup := ⟨"Warning", "structured", some "", [⟨2, .capture⟩, ⟨2, .capture⟩]⟩
    let w₁ := (c₁.action.on { hub := { above := [⟨0, .capture⟩] }, next := 3 }).2
    let w₂ := (c₂.action.on w₁).2
    c₂.action.on w₁ = (.ok (), w₂) ∧ w₂.hub.handlers = [c₂.console w₁, ⟨2, .capture⟩] ∧
      ((log "sqlbinder.jobs" Level.error "100%d" []).on w₂).2.captured = w₂.captured ++
        [(2, callerRecord "sqlbinder.jobs" Level.error "100%d" [])] ∧
      (log "sqlbinder.jobs" Level.info "100%d" []).on w₂ = (.ok (), w₂) := by
  intro c₁ c₂ w₁ w₂
  have hfirst : c₁.action.on { hub := { above := [⟨0, .capture⟩] }, next := 3 } =
      (.ok (), w₁) := by
    subst w₁ c₁
    rfl
  have hsecond : c₂.action.on w₁ = (.ok (), w₂) := by
    subst w₂ w₁ c₁ c₂
    rfl
  have hextra : Made { hub := { above := [⟨0, .capture⟩] }, next := 3 } c₁.extra := by
    simp [Made, c₁]
  have hshared : Made w₁ c₂.extra := by
    intro h hh
    obtain rfl : h = ⟨2, .capture⟩ := by simpa [c₂] using hh
    exact hextra.mono (setUp_step hextra hfirst).2.1 _ (by simp [c₁])
  obtain ⟨logs, h⟩ := delivers_once (by simp [Made]) (.setUp .start hextra hfirst) hshared
    (show (Uppercase.ofString c₂.level, Level.warning) ∈ Level.named by decide +kernel) hsecond rfl
  have hhandlers : w₂.hub.handlers = [c₂.console w₁, ⟨2, .capture⟩] := by
    rw [h.handlers]
    cases h.logsTo with
    | empty => rfl
    | file hpath => exact absurd rfl hpath
  have hinside : Hub.Inside "sqlbinder.jobs" := .inr ⟨"jobs", rfl⟩
  refine ⟨hsecond, hhandlers, ?_, h.silent _ hinside Level.info (by decide) _ _⟩
  rw [h.captured _ hinside Level.error (by decide), hhandlers]
  rfl

end Action

end QueryBinding
