import QueryBinding.Workspace.Configuration

/-! Caches as objects, and the one that statements share. The shared cache is
built anew when another configuration object has come into force. -/

namespace QueryBinding.Action

def newCache (size : Int) (rules : Rules) (counted : Bool) : Action Nat := do
  let cache ← lift (TemplateCache.create size rules counted)
  let serial ← fresh
  modify fun w => { w with caches := w.caches ++ [(serial, cache)] }
  return serial

def cache? (serial : Nat) : Action (Option TemplateCache) := do
  return (← get).caches.lookup serial

/-- Runs an operation on a cache; there is no answer if the cache does not
exist. -/
def onCache {β : Type} (serial : Nat) (f : TemplateCache → β × TemplateCache) :
    Action (Option β) := do
  match ← cache? serial with
  | none => return none
  | some c =>
    let (answer, c) := f c
    modify fun w => { w with
      caches := w.caches.map fun e => if e.1 = serial then (serial, c) else e }
    return some answer

def cacheNotice (size : Int) : Record where
  logger := "sqlbinder.core.cache"
  level := Level.debug
  message := "Created template cache with max_size=" ++ Numeral.text size
  site := ⟨"cache", some "get_template_cache", 216⟩

def buildShared (c : Tagged Config) : Action Nat := do
  let settings := c.value.cache
  let serial ← newCache settings.maxSize c.value.parser.rules settings.counted
  modify fun w => { w with shared := some ⟨serial, c.serial⟩ }
  emit (cacheNotice settings.maxSize)
  return serial

def sharedCache : Action Nat := do
  let c ← currentConfig
  match (← get).shared with
  | some s => if s.config = c.serial then return s.cache else buildShared c
  | none => buildShared c

def clearCache (serial : Nat) : Action Unit := do
  let _ ← onCache serial fun c => ((), c.clear)

/-- Clears the shared cache if there is one. -/
def clearShared : Action Unit := do
  match (← get).shared with
  | some s => clearCache s.cache
  | none => return

/-! ### Templates -/

def colonNotice (offset : Nat) : Record where
  logger := "sqlbinder.core.parameters"
  level := Level.debug
  message := "Treating ':' at offset " ++ toString offset ++ " as a literal colon"
  site := ⟨"parameters", some "parse_sql", 281⟩

def reportColons (colons : List Nat) : Action Unit :=
  colons.forM fun offset => emit (colonNotice offset)

/-- Makes a template an object of its own. -/
def newTemplate (t : Template) : Action (Tagged Template) := do
  return ⟨← fresh, t⟩

/-- Parses a statement without a cache. -/
def parse (rules : Rules) (sql : String) : Action (Tagged Template) := do
  let parsed ← lift (Template.parse rules sql)
  reportColons parsed.colons
  newTemplate parsed.template

def getCached (serial : Nat) (sql : String) : Action (Option (Tagged Template)) := do
  return (← onCache serial fun c => c.get sql).join

/-- Fetches a statement from a cache, which parses it if need be. A cache that
does not exist parses by the usual rules and keeps nothing. -/
def fetch (serial : Nat) (sql : String) : Action (Tagged Template) := do
  let tag ← fresh
  match ← onCache serial fun c => c.fetch sql tag with
  | some outcome =>
    let fetched ← lift outcome
    reportColons fetched.colons
    return fetched.template
  | none => parse {} sql

/-- The template of a statement, from the given cache, else from the shared
cache if caching is on, else parsed afresh. -/
def statement (sql : String) : Option Nat → Action (Tagged Template)
  | some cache => fetch cache sql
  | none => do
    let c ← currentConfig
    if c.value.cache.enabled then fetch (← sharedCache) sql
    else parse c.value.parser.rules sql

end QueryBinding.Action
