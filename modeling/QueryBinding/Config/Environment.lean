import QueryBinding.Config

/-! Settings read from environment variables, each from one of its own. A
switch is on for a handful of words in any letter case and off for every
other text. A number that cannot be read leaves its default in place, with a
warning. -/

namespace QueryBinding

namespace Environment

inductive Setting where
  | strict
  | maxLength
  | caching
  | maxSize
  | counting
  deriving DecidableEq, Repr

def Setting.label : Setting → String
  | strict => "SQLBINDER_STRICT_PLACEHOLDERS"
  | maxLength => "SQLBINDER_MAX_SQL_LENGTH"
  | caching => "SQLBINDER_ENABLE_CACHING"
  | maxSize => "SQLBINDER_MAX_CACHE_SIZE"
  | counting => "SQLBINDER_ENABLE_CACHE_STATS"

def onWords : List String := ["true", "1", "yes", "on", "enabled"]

/-- Only ASCII letters have to be made small: no other letter has a small form
that is spelled with the letters of the accepted words. -/
def isOn (s : String) : Bool := onWords.contains (String.ofList (s.toList.map Char.toLower))

/-- A text that is no integer, and the default used in its stead. -/
structure Warning where
  setting : Setting
  text : String
  fallback : Int
  deriving DecidableEq, Repr

def Warning.message (w : Warning) : String :=
  "Invalid integer value for " ++ w.setting.label ++ ": " ++ w.text ++ ", using default " ++
    Numeral.text w.fallback

def switch (fallback : Bool) : Option String → Bool
  | none => fallback
  | some s => isOn s

def number (v : Setting) (fallback : Int) : Option String → Int × List Warning
  | none => (fallback, [])
  | some s =>
    match Numeral.read? s.toList with
    | some n => (n, [])
    | none => (fallback, [⟨v, s, fallback⟩])

/-- The configuration that the variables spell, with the warnings in the order
in which they arise. -/
def load (lookup : Setting → Option String) : Config × List Warning :=
  let parser : ParserSettings := {}
  let cache : CacheSettings := {}
  let maxLength := number .maxLength parser.maxLength (lookup .maxLength)
  let maxSize := number .maxSize cache.maxSize (lookup .maxSize)
  (⟨⟨switch parser.strict (lookup .strict), maxLength.1⟩,
    ⟨switch cache.enabled (lookup .caching), maxSize.1, switch cache.counted (lookup .counting)⟩⟩,
   maxLength.2 ++ maxSize.2)

end Environment

end QueryBinding
