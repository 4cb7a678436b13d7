import QueryBinding.Workspace

/-! The configuration in force. The default is installed on first use, and a
configuration with flaws is refused. -/

namespace QueryBinding.Action

/-- Makes a configuration an object of its own. -/
def newConfig (c : Config) : Action (Tagged Config) := do
  return ⟨← fresh, c⟩

def currentConfig : Action (Tagged Config) := do
  match (← get).config with
  | some c => return c
  | none =>
    let c ← newConfig {}
    modify fun w => { w with config := some c }
    return c

/-- Puts a configuration in force without looking at it. -/
def forceConfig (c : Tagged Config) : Action Unit := modify fun w => { w with config := some c }

def updateNotice (c : Config) : Record where
  logger := "sqlbinder.core.config"
  level := Level.info
  message := "Global configuration updated"
  site := ⟨"config", some "set_global_config", 134⟩
  fields := some [
    ("strict_placeholders", .bool c.parser.strict),
    ("enable_caching", .bool c.cache.enabled),
    ("max_cache_size", .int c.cache.maxSize)]

def installConfig (c : Tagged Config) : Action Unit := do
  if c.value.flaws ≠ [] then throw (.configuration c.value.flaws)
  forceConfig c
  emit (updateNotice c.value)

/-! ### Environment -/

/-- Sets or removes an environment variable. -/
def setVariable (name : String) (value : Option String) : Action Unit := do
  match value with
  | some s =>
    if name.contains '\x00' || s.contains '\x00' then throw .embeddedNull
    if name.contains '=' then throw .illegalVariable
  | none => pure ()
  modify fun w => { w with environment := match value with
    | some s => w.environment.put name s
    | none => w.environment.erase name }

def numberWarning (w : Environment.Warning) : Record where
  logger := "sqlbinder.core.config"
  level := Level.warning
  message := w.message
  site := ⟨"config", some "_env_int", 180⟩

def environmentConfig : Action (Tagged Config) := do
  let environment := (← get).environment
  let (config, warnings) := Environment.load fun s => environment.get? s.label
  warnings.forM fun w => emit (numberWarning w)
  newConfig config

end QueryBinding.Action
