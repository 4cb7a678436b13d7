import QueryBinding.Proofs.Workspace.Logging

/-! Loggers and the setups of the logging, whether these succeed or not. A setup that is refused
for its level changes nothing, and one that can not open its log file has installed the console.
A record of the logger of a name then reaches all that the last setup installed, unless the name
is stray: its logger is no logger of the library, and only what is above the library hears it. -/

namespace QueryBinding

namespace Level

/-- The names of the levels that can be configured. Two of the levels have a second name. -/
def spelled : List (String × ℤ) := named ++ [("WARN", warning), ("FATAL", critical)]

theorem ofLabel_of_spelled {label : String} {level : ℤ}
    (h : (Uppercase.ofString label, level) ∈ spelled) : ofLabel label = .ok level ∧ level ≠ 0 := by
  rcases List.mem_append.mp h with h | h
  · exact ofLabel_of_mem h
  · simp only [List.mem_cons, Prod.mk.injEq, List.not_mem_nil, or_false] at h
    rw [ofLabel]
    obtain ⟨hlabel, rfl⟩ | ⟨hlabel, rfl⟩ := h <;> rw [hlabel] <;> exact ⟨rfl, by decide⟩

end Level

namespace Action

variable {w w' : Workspace} {c : LoggingSetup} {configured : ℤ} {r : Except Error Unit}
  {installed : List Handler}

/-! ### What a setup installs -/

/-- The handlers that a setup installs in a workspace: all of them, or the console alone if it
does not get any further. -/
inductive Installs (c : LoggingSetup) (w : Workspace) : Except Error Unit → List Handler → Prop
  | done {logs : List Handler} (hlogs : LogsTo (w.next + 1) c.file logs) :
      Installs c w (.ok ()) (c.console w :: logs ++ c.extra)
  | stopped (e : Error) : Installs c w (.error e) [c.console w]

/-- The level and the handlers that are there once a setup has got to configure them. -/
structure SetTo (configured : ℤ) (installed : List Handler) (w : Workspace) : Prop where
  level : w.hub.level = configured
  handlers : w.hub.handlers = installed.eraseDups

theorem hub_openLog (path : String) (w : Workspace) : ((openLog path).on w).2.hub = w.hub := by
  rw [on_openLog]
  split <;> rfl

/-- The log file makes no difference to the loggers, whether it can be opened or not. -/
theorem hub_fileHandlers (file : Option String) (w : Workspace) :
    ((fileHandlers file).on w).2.hub = w.hub := by
  unfold fileHandlers
  split
  · rfl
  · rfl
  · next path hpath =>
    have hopen := hub_openLog path w
    rw [on_bind]
    split
    · next serial w₁ hon =>
      rw [hon] at hopen
      exact hopen
    · next e w₁ hon =>
      rw [hon] at hopen
      exact hopen

/-- However a setup ends, its level is there, and so are the handlers that it got to install. -/
theorem exists_installs (hlevel : Level.ofLabel c.level = .ok configured)
    (hcall : c.action.on w = (r, w')) :
    ∃ installed, Installs c w r installed ∧ SetTo configured installed w' := by
  cases r with
  | ok =>
    obtain ⟨level, logs, before, hs, rfl⟩ := setUp_ok hcall
    obtain rfl : level = configured := Except.ok.inj (hs.level.symm.trans hlevel)
    refine ⟨_, .done hs.logsTo, ?_⟩
    constructor <;> rw [Workspace.hub_deliver, hs.hub]
  | error e =>
    rw [on_setUp hlevel] at hcall
    split at hcall
    · cases hcall
    · next e' w₁ hfailed =>
      cases hcall
      have hhub := hub_fileHandlers c.file (c.begun configured w)
      rw [hfailed] at hhub
      exact ⟨_, .stopped e, by rw [hhub]; rfl, by rw [hhub]; rfl⟩

/-! ### The last setup -/

/-- The last setup that configured a level was `c`. It met the workspace `w`, whatever had
happened before, and ended as `r`. Setups after it were refused for their level, and other things
left the loggers alone. -/
inductive LastSetUp (c : LoggingSetup) (w : Workspace) (r : Except Error Unit) : Workspace → Prop
  | call {w₁ : Workspace} (hcall : c.action.on w = (r, w₁)) : LastSetUp c w r w₁
  | refused {w₁ : Workspace} {d : LoggingSetup} {e : Error} (h : LastSetUp c w r w₁)
      (hlevel : Level.ofLabel d.level = .error e) : LastSetUp c w r (d.action.on w₁).2
  | aside {w₁ w₂ : Workspace} (h : LastSetUp c w r w₁) (hhub : w₂.hub = w₁.hub) :
      LastSetUp c w r w₂

/-- The loggers stay as the last setup has left them. -/
theorem LastSetUp.setTo (h : LastSetUp c w r w')
    (hlevel : Level.ofLabel c.level = .ok configured) :
    ∃ installed, Installs c w r installed ∧ SetTo configured installed w' := by
  induction h with
  | call hcall => exact exists_installs hlevel hcall
  | refused _ hrefused ih =>
    rw [setUp_refused hrefused]
    exact ih
  | aside _ hhub ih =>
    obtain ⟨installed, hinstalls, hset⟩ := ih
    exact ⟨installed, hinstalls, by rw [hhub, hset.level], by rw [hhub, hset.handlers]⟩

namespace SetTo

theorem threshold_eq (hs : SetTo configured installed w) (hne : configured ≠ 0) :
    w.hub.threshold = configured := by
  rw [Hub.threshold, hs.level, if_neg hne]

/-- Records of the library that are important enough go to all that is installed, and further on
if the handlers above the library are to hear them too. -/
theorem targets_inside (hs : SetTo configured installed w) (hne : configured ≠ 0)
    {logger : String} (hlogger : Hub.Inside logger) {level : ℤ} (hle : configured ≤ level) :
    w.hub.targets logger level =
      installed.eraseDups ++ if w.hub.propagate then w.hub.above else [] := by
  rw [Hub.targets_inside _ hlogger, hs.threshold_eq hne, if_pos hle, hs.handlers]

end SetTo

/-! ### The logger of a name -/

/-- Where the logger of a name stands, and where its records go in a workspace `w`. -/
structure Namespaced (name : Option String) (configured : ℤ) (installed : List Handler)
    (w : Workspace) : Prop where
  /-- The logger is the top of the library or has a longer dotted name, if the name does not go
  on without a dot. -/
  inside_iff : Hub.Inside (Hub.loggerName name) ↔ ¬ Hub.Stray name
  /-- A stray name is that of its logger. -/
  kept : Hub.Stray name → name = some (Hub.loggerName name)
  again : Hub.loggerName (some (Hub.loggerName name)) = Hub.loggerName name
  /-- By the rules of the hierarchy a record goes to all that is installed. -/
  reached : ¬ Hub.Stray name → ∀ level, configured ≤ level → ∀ h ∈ installed,
    h ∈ w.hub.tree.targets (Hub.loggerName name) level
  logged : ¬ Hub.Stray name → ∀ level, configured ≤ level → ∀ message fields,
    (log (Hub.loggerName name) level message fields).on w = (.ok (),
      (installed.eraseDups ++ if w.hub.propagate then w.hub.above else []).foldl
        (Workspace.send (callerRecord (Hub.loggerName name) level message fields)) w)
  /-- Every handler that keeps records keeps this one. -/
  captured : ¬ Hub.Stray name → ∀ level, configured ≤ level → ∀ message fields,
    ∀ h ∈ installed, h.sink = .capture →
      (h.serial, callerRecord (Hub.loggerName name) level message fields) ∈
        ((log (Hub.loggerName name) level message fields).on w).2.captured
  /-- The record of a stray name goes by the hierarchy to the handlers above the library, which
  the configured level does not bind, and to no other ones. -/
  missed : Hub.Stray name → ∀ level, w.hub.tree.targets (Hub.loggerName name) level =
    if Level.warning ≤ level then w.hub.above else []
  /-- So nothing that is installed hears it, whether there is anything above the library or
  not. -/
  unheard : Hub.Stray name → ∀ level message fields,
    (log (Hub.loggerName name) level message fields).on w = (.ok (),
      (if Level.warning ≤ level then w.hub.above else []).foldl
        (Workspace.send (callerRecord (Hub.loggerName name) level message fields)) w)

/-- The logger of a name is the library's and reaches all that the last setup installed, unless
the name begins as the top of the library does and goes on without a dot. -/
theorem namespaced (name : Option String)
    (hlevel : (Uppercase.ofString c.level, configured) ∈ Level.spelled)
    (hlast : LastSetUp c w r w') :
    ∃ installed, Installs c w r installed ∧ Namespaced name configured installed w' := by
  obtain ⟨hofLabel, hne⟩ := Level.ofLabel_of_spelled hlevel
  obtain ⟨installed, hinstalls, hset⟩ := hlast.setTo hofLabel
  have hinside : ¬ Hub.Stray name → Hub.Inside (Hub.loggerName name) :=
    (Hub.inside_loggerName_iff name).mpr
  have houtside : Hub.Stray name → ¬ Hub.Inside (Hub.loggerName name) := fun hstray hin =>
    (Hub.inside_loggerName_iff name).mp hin hstray
  have hlogged : ¬ Hub.Stray name → ∀ level, configured ≤ level → ∀ message fields,
      (log (Hub.loggerName name) level message fields).on w' = (.ok (),
        (installed.eraseDups ++ if w'.hub.propagate then w'.hub.above else []).foldl
          (Workspace.send (callerRecord (Hub.loggerName name) level message fields)) w') :=
    fun hnot level hle => on_log_of_targets (hset.targets_inside hne (hinside hnot) hle)
  refine ⟨installed, hinstalls, Hub.inside_loggerName_iff name, ?kept,
    Hub.loggerName_loggerName name, ?reached, hlogged, ?captured, ?missed, ?unheard⟩
  case kept =>
    rintro ⟨rest, rfl, -⟩
    rw [Hub.loggerName_begins]
  case reached =>
    intro hnot level hle h hh
    rw [Hub.targets_tree, hset.targets_inside hne (hinside hnot) hle]
    exact List.mem_append_left _ (List.mem_eraseDups.mpr hh)
  case captured =>
    intro hnot level hle message fields h hh hsink
    rw [hlogged hnot level hle, Workspace.captured_foldl_send]
    refine List.mem_append_right _ (List.mem_map.mpr ⟨h, List.mem_filter.mpr ⟨?_, ?_⟩, rfl⟩)
    · exact List.mem_append_left _ (List.mem_eraseDups.mpr hh)
    · exact decide_eq_true hsink
  case missed =>
    intro hstray level
    rw [Hub.targets_tree, Hub.targets_outside _ (houtside hstray)]
  case unheard =>
    intro hstray level
    exact on_log_of_targets (Hub.targets_outside _ (houtside hstray) level)

/-- A setup with an unknown level comes after one that succeeds. The record of a name that goes on
without a dot is lost, and that of another name is kept. -/
theorem namespaced_without_dot :
    let c : LoggingSetup := ⟨"Info", "simple", none, [⟨0, .capture⟩]⟩
    let d : LoggingSetup := ⟨"verbose", "simple", none, []⟩
    let w := (d.action.on (c.action.on { next := 1 }).2).2
    Hub.loggerName (some "sqlbinderx") = "sqlbinderx" ∧ ¬ Hub.Inside "sqlbinderx" ∧
      (log "sqlbinderx" Level.critical "lost" []).on w = (.ok (), w) ∧
      (0, callerRecord "sqlbinder.jobs" Level.info "kept" []) ∈
        ((log "sqlbinder.jobs" Level.info "kept" []).on w).2.captured := by
  intro c d w
  have hlevel : (Uppercase.ofString c.level, Level.info) ∈ Level.spelled := by decide +kernel
  have hcall : c.action.on { next := 1 } = (.ok (), (c.action.on { next := 1 }).2) := by
    subst c
    rfl
  have hrefused : Level.ofLabel d.level = .error (.unknownLevel "VERBOSE") := by
    have hupper : Uppercase.ofString d.level = "VERBOSE" := by decide +kernel
    rw [Level.ofLabel, hupper]
    rfl
  have hlast : LastSetUp c { next := 1 } (.ok ()) w := .refused (.call hcall) hrefused
  have hstray : Hub.Stray (some "sqlbinderx") := by decide +kernel
  have hplain : ¬ Hub.Stray (some "jobs") := by decide +kernel
  obtain ⟨_, -, hx⟩ := namespaced (some "sqlbinderx") hlevel hlast
  obtain ⟨installed, hinstalls, hjobs⟩ := namespaced (some "jobs") hlevel hlast
  have hgiven : ⟨0, .capture⟩ ∈ installed := by
    cases hinstalls with
    | done hlogs => exact List.mem_append_right _ (List.mem_singleton.mpr rfl)
  have habove : w.hub.above = [] := by
    subst w d c
    rfl
  refine ⟨rfl, fun hin => hx.inside_iff.mp hin hstray, ?_, ?_⟩
  · refine (hx.unheard hstray Level.critical "lost" []).trans ?_
    rw [habove, ite_self]
    rfl
  · exact hjobs.captured hplain Level.info (Int.le_refl _) "kept" [] ⟨0, .capture⟩ hgiven rfl

end Action

end QueryBinding
