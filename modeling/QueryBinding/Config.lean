import QueryBinding.Template.Parse

/-! Settings of parsing and caching. -/

namespace QueryBinding

structure ParserSettings where
  strict : Bool := false
  maxLength : Int := 1048576
  deriving DecidableEq, Repr

structure CacheSettings where
  enabled : Bool := true
  maxSize : Int := 5000
  counted : Bool := true
  deriving DecidableEq, Repr

structure Config where
  parser : ParserSettings := {}
  cache : CacheSettings := {}
  deriving DecidableEq, Repr

def ParserSettings.rules (s : ParserSettings) : Rules := ⟨s.strict, some s.maxLength⟩

def shownBool (b : Bool) : String := if b then "True" else "False"

def ParserSettings.shown (s : ParserSettings) : String :=
  "ParserConfiguration(strict_placeholders=" ++ shownBool s.strict ++ ", max_sql_length=" ++
    Numeral.text s.maxLength ++ ")"

def CacheSettings.shown (s : CacheSettings) : String :=
  "CacheConfiguration(enable_caching=" ++ shownBool s.enabled ++ ", max_cache_size=" ++
    Numeral.text s.maxSize ++ ", enable_cache_stats=" ++ shownBool s.counted ++ ")"

namespace Config

/-- Why a configuration cannot be put in force. -/
def flaws (c : Config) : List String :=
  (if 0 < c.parser.maxLength then [] else ["max_sql_length must be positive"]) ++
    (if 0 < c.cache.maxSize then [] else ["max_cache_size must be positive"])

def shown (c : Config) : String :=
  "BinderConfig(parser_config=" ++ c.parser.shown ++ ", cache_config=" ++ c.cache.shown ++ ")"

theorem flaws_eq_nil_iff (c : Config) :
    c.flaws = [] ↔ 0 < c.parser.maxLength ∧ 0 < c.cache.maxSize := by
  unfold flaws
  by_cases h : 0 < c.parser.maxLength <;> by_cases h' : 0 < c.cache.maxSize <;> simp [h, h']

end Config

end QueryBinding
