import QueryBinding.Cache.Lru
import QueryBinding.Cache.Stats
import QueryBinding.Tagged
import QueryBinding.Template.Parse

/-! Caches of parsed templates, keyed by the exact text of the statement. A
statement that is not cached is parsed by the rules of the cache; one that
cannot be parsed leaves the entries as they are. -/

namespace QueryBinding

structure TemplateCache where
  rules : Rules
  /-- Whether hits, misses and evictions are counted. -/
  counted : Bool
  store : Lru String (Tagged Template)
  stats : Stats

namespace TemplateCache

def create (size : Int) (rules : Rules) (counted : Bool) : Except Error TemplateCache :=
  if h : 0 < size then .ok ⟨rules, counted, Lru.empty size.toNat (by omega), {}⟩
  else .error (.cacheSize size)

def size (c : TemplateCache) : Nat := c.store.size

def capacity (c : TemplateCache) : Nat := c.store.capacity

def has (c : TemplateCache) (sql : String) : Bool := c.store.has sql

def record (c : TemplateCache) (e : Stats.Event) : TemplateCache :=
  if c.counted then { c with stats := c.stats.record e } else c

def hit (c : TemplateCache) (sql : String) : TemplateCache :=
  { c with store := c.store.touch sql }.record .hit

/-- The cached template, which becomes the last used one. -/
def get (c : TemplateCache) (sql : String) : Option (Tagged Template) × TemplateCache :=
  match c.store.find? sql with
  | some t => (some t, c.hit sql)
  | none => (none, c.record .miss)

def insert (c : TemplateCache) (sql : String) (t : Tagged Template) : TemplateCache :=
  let c := if c.store.isFull then c.record .evict else c
  { c with store := c.store.insert sql t }

/-- A template with the colons that were taken literally while it was parsed,
none if it was cached. -/
structure Fetched where
  template : Tagged Template
  colons : List Nat

/-- The cached template, or the parse of the statement, which is given the
serial number `serial` and cached. -/
def fetch (c : TemplateCache) (sql : String) (serial : Nat) :
    Except Error Fetched × TemplateCache :=
  match c.store.find? sql with
  | some t => (.ok ⟨t, []⟩, c.hit sql)
  | none =>
    match Template.parse c.rules sql with
    | .error e => (.error e, c.record .miss)
    | .ok p =>
      let t : Tagged Template := ⟨serial, p.template⟩
      (.ok ⟨t, p.colons⟩, (c.record .miss).insert sql t)

def clear (c : TemplateCache) : TemplateCache := { c with store := c.store.clear, stats := {} }

end TemplateCache

end QueryBinding
