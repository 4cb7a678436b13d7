import QueryBinding.Proofs.Text.Numeral
import QueryBinding.Proofs.Workspace.Actions
import QueryBinding.Text.Lowercase

/-! What environment variables say. Each setting is told by its own variable: a switch is on if
the small form of the text is one of five words, a number is what the text spells, and a text
that spells none is warned of. So a configuration that is written into the variables comes back
as it was, whether or not it may be put in force. -/

namespace QueryBinding

namespace Environment

/-! ### Switches -/

/-- The characters of the words that turn a switch on. -/
def wordChars : List Char := onWords.flatMap String.toList

theorem lt_of_mem_wordChars {c : Char} (h : c ∈ wordChars) : 0 < c.toNat ∧ c.toNat < 0x80 := by
  have hall : wordChars.all (fun c => 0 < c.toNat ∧ c.toNat < 0x80) = true := by decide +kernel
  exact of_decide_eq_true (List.all_eq_true.mp hall c h)

theorem toLower_of_le {c : Char} (h : 0x80 ≤ c.toNat) : c.toLower = c := by
  apply dif_neg
  rintro ⟨-, hle⟩
  have : c.toNat ≤ 90 := UInt32.le_iff_toNat_le.mp hle
  omega

theorem toNat_ofNat (m : ℕ) : (Char.ofNat m).toNat = m ∨ (Char.ofNat m).toNat = 0 := by
  rw [Char.ofNat]
  by_cases hvalid : m.isValidChar
  · rw [dif_pos hvalid]
    exact Or.inl rfl
  · rw [dif_neg hvalid]
    exact Or.inr rfl

theorem ofNat_not_mem_wordChars {m : ℕ} (h : 0x80 ≤ m) : Char.ofNat m ∉ wordChars := by
  intro hm
  have hlt := lt_of_mem_wordChars hm
  have hcases := toNat_ofNat m
  omega

/-- Outside ASCII no small form begins with a character of the words. The nearest to it are the
Kelvin sign, which becomes a `k`, and the dotted capital, which becomes an `i` with a dot. -/
theorem exists_ofChar {c : Char} (h : 0x80 ≤ c.toNat) (final : Bool) :
    ∃ d ds, Lowercase.ofChar final c = d :: ds ∧ d ∉ wordChars := by
  have hruns : ∀ r ∈ Lowercase.runs, (0x80 : ℤ) ≤ r.first + r.shift ∨
      r.first = r.last ∧ r.first + r.shift = 0x6B := by decide +kernel
  unfold Lowercase.ofChar
  rw [if_neg (Nat.not_lt_of_le h)]
  split_ifs with hdotted hsigma
  · exact ⟨_, _, rfl, by decide +kernel⟩
  · exact ⟨_, _, rfl, by decide +kernel⟩
  · cases hr : Lowercase.runs.find? (·.covers c.toNat) with
    | none =>
      refine ⟨c, [], rfl, fun hm => ?_⟩
      have := (lt_of_mem_wordChars hm).2
      omega
    | some r =>
      refine ⟨_, [], rfl, ?_⟩
      have hcovers := List.find?_some hr
      simp only [Uppercase.Run.covers, Bool.and_eq_true, decide_eq_true_eq] at hcovers
      rcases hruns r (List.mem_of_find?_eq_some hr) with hfar | ⟨hone, hk⟩
      · exact ofNat_not_mem_wordChars (by omega)
      · have : ((c.toNat : ℤ) + r.shift).toNat = 0x6B := by omega
        rw [this]
        decide +kernel

/-- A text becomes a word in small letters just if its ASCII letters do. -/
theorem ofCharsFrom_eq_iff {word : List Char} (hw : ∀ c ∈ word, c ∈ wordChars)
    (final : ℕ → Bool) (offset : ℕ) (cs : List Char) :
    Lowercase.ofCharsFrom final offset cs = word ↔ cs.map Char.toLower = word := by
  induction cs generalizing offset word with
  | nil => exact Iff.rfl
  | cons c cs ih =>
    rw [Lowercase.ofCharsFrom, List.map_cons]
    rcases Nat.lt_or_ge c.toNat 0x80 with hc | hc
    · have hascii : Lowercase.ofChar (final offset) c = [c.toLower] := if_pos hc
      rw [hascii, List.singleton_append]
      cases word with
      | nil => exact iff_of_false nofun nofun
      | cons d word =>
        rw [List.cons.injEq, List.cons.injEq, ih fun c hm => hw c (List.mem_cons_of_mem _ hm)]
    · obtain ⟨d, ds, heq, hd⟩ := exists_ofChar hc (final offset)
      rw [heq, toLower_of_le hc]
      refine iff_of_false ?_ ?_
      · rintro rfl
        exact hd (hw d List.mem_cons_self)
      · rintro rfl
        have := (lt_of_mem_wordChars (hw c List.mem_cons_self)).2
        omega

theorem isOn_iff (final : ℕ → Bool) (s : String) :
    isOn s = true ↔ Lowercase.ofString final s ∈ onWords := by
  have heq : ∀ word ∈ onWords, String.ofList (s.toList.map Char.toLower) = word ↔
      Lowercase.ofString final s = word := by
    intro word hword
    have hchars : ∀ c ∈ word.toList, c ∈ wordChars := fun c hc =>
      List.mem_flatMap.mpr ⟨word, hword, hc⟩
    rw [Lowercase.ofString, ← String.toList_inj, ← String.toList_inj, String.toList_ofList,
      String.toList_ofList, ofCharsFrom_eq_iff hchars]
  rw [isOn, List.contains_iff_mem]
  constructor
  · intro h
    exact ((heq _ h).mp rfl) ▸ h
  · intro h
    exact ((heq _ h).mpr rfl) ▸ h

/-- What a variable says about a switch. -/
structure SaysSwitch (fallback : Bool) (text : Option String) (value : Bool) : Prop where
  absent : text = none → value = fallback
  present : ∀ s, text = some s → ∀ final, value = true ↔
    Lowercase.ofString final s ∈ ["true", "1", "yes", "on", "enabled"]

theorem saysSwitch (fallback : Bool) (text : Option String) :
    SaysSwitch fallback text (switch fallback text) where
  absent h := by
    rw [h]
    rfl
  present s h final := by
    rw [h]
    exact isOn_iff final s

/-! ### Numbers -/

/-- What a variable says about a number, and the warnings that it gives rise to. -/
inductive SaysNumber (v : Setting) (fallback : ℤ) : Option String → ℤ → List Warning → Prop
  | absent : SaysNumber v fallback none fallback []
  | spelled {s : String} {n : ℤ} : Numeral.Spells s.toList n →
      SaysNumber v fallback (some s) n []
  | misspelled {s : String} : (∀ n, ¬ Numeral.Spells s.toList n) →
      SaysNumber v fallback (some s) fallback [⟨v, s, fallback⟩]

theorem saysNumber (v : Setting) (fallback : ℤ) (text : Option String) :
    SaysNumber v fallback text (number v fallback text).1 (number v fallback text).2 := by
  cases text with
  | none => exact .absent
  | some s =>
    rw [number]
    cases hr : Numeral.read? s.toList with
    | some n => exact .spelled (Numeral.read?_eq_some_iff.mp hr)
    | none => exact .misspelled (Numeral.read?_eq_none_iff.mp hr)

theorem number_of_written {n : ℤ} {s : String} (h : Numeral.Written n s.toList) (v : Setting)
    (fallback : ℤ) : number v fallback (some s) = (n, []) := by
  rw [number, Numeral.read?_eq_some_iff.mpr (Numeral.spells_of_written h)]

theorem switch_of_iff {value : Bool} {s : String} {final : ℕ → Bool}
    (h : value = true ↔ Lowercase.ofString final s ∈ onWords) (fallback : Bool) :
    switch fallback (some s) = value := by
  rw [switch, Bool.eq_iff_iff, isOn_iff final]
  exact h.symm

/-! ### All settings -/

/-- What the variables say, each about its own setting. -/
structure Says (lookup : Setting → Option String) (c : Config) (warnings : List Warning) :
    Prop where
  strict : SaysSwitch false (lookup .strict) c.parser.strict
  caching : SaysSwitch true (lookup .caching) c.cache.enabled
  counting : SaysSwitch true (lookup .counting) c.cache.counted
  /-- The warning of the length comes before that of the size. -/
  numbers : ∃ length size, SaysNumber .maxLength 1048576 (lookup .maxLength)
      c.parser.maxLength length ∧
    SaysNumber .maxSize 5000 (lookup .maxSize) c.cache.maxSize size ∧ warnings = length ++ size

theorem says_load (lookup : Setting → Option String) :
    Says lookup (load lookup).1 (load lookup).2 where
  strict := saysSwitch _ _
  caching := saysSwitch _ _
  counting := saysSwitch _ _
  numbers := ⟨_, _, saysNumber _ _ _, saysNumber _ _ _, rfl⟩

/-- A switch is written as a word that turns it on, in any letters, or as any other text. -/
def WrittenSwitch (value : Bool) (text : Option String) : Prop :=
  ∃ s final, text = some s ∧ (value = true ↔
    Lowercase.ofString final s ∈ ["true", "1", "yes", "on", "enabled"])

def WrittenNumber (n : ℤ) (text : Option String) : Prop :=
  ∃ s, text = some s ∧ Numeral.Written n s.toList

/-- A configuration that is written into the variables. -/
structure Written (c : Config) (lookup : Setting → Option String) : Prop where
  strict : WrittenSwitch c.parser.strict (lookup .strict)
  maxLength : WrittenNumber c.parser.maxLength (lookup .maxLength)
  caching : WrittenSwitch c.cache.enabled (lookup .caching)
  maxSize : WrittenNumber c.cache.maxSize (lookup .maxSize)
  counting : WrittenSwitch c.cache.counted (lookup .counting)

theorem load_of_written {c : Config} {lookup : Setting → Option String} (h : Written c lookup) :
    load lookup = (c, []) := by
  obtain ⟨_, _, hstrict, hstrictOn⟩ := h.strict
  obtain ⟨_, _, hcaching, hcachingOn⟩ := h.caching
  obtain ⟨_, _, hcounting, hcountingOn⟩ := h.counting
  obtain ⟨_, hlength, hlengthText⟩ := h.maxLength
  obtain ⟨_, hsize, hsizeText⟩ := h.maxSize
  simp only [load, hstrict, hcaching, hcounting, hlength, hsize, switch_of_iff hstrictOn,
    switch_of_iff hcachingOn, switch_of_iff hcountingOn, number_of_written hlengthText,
    number_of_written hsizeText]
  rfl

/-- The plain writing of a configuration. -/
def plain (c : Config) : Setting → Option String
  | .strict => some (toString c.parser.strict)
  | .maxLength => some (Numeral.text c.parser.maxLength)
  | .caching => some (toString c.cache.enabled)
  | .maxSize => some (Numeral.text c.cache.maxSize)
  | .counting => some (toString c.cache.counted)

theorem writtenSwitch_toString (value : Bool) : WrittenSwitch value (some (toString value)) := by
  refine ⟨_, fun _ => false, rfl, ?_⟩
  cases value <;> decide +kernel

theorem writtenNumber_text {n : ℤ} (h : n.natAbs < 10 ^ Numeral.maxDigits) :
    WrittenNumber n (some (Numeral.text n)) := by
  refine ⟨_, rfl, ?_⟩
  rw [Numeral.text, String.toList_ofList]
  exact Numeral.written_ofInt h

theorem written_plain {c : Config} (hlength : c.parser.maxLength.natAbs < 10 ^ Numeral.maxDigits)
    (hsize : c.cache.maxSize.natAbs < 10 ^ Numeral.maxDigits) : Written c (plain c) where
  strict := writtenSwitch_toString _
  maxLength := writtenNumber_text hlength
  caching := writtenSwitch_toString _
  maxSize := writtenNumber_text hsize
  counting := writtenSwitch_toString _

end Environment

namespace Action

open Environment

theorem on_environmentConfig {w : Workspace} {c : Config} {warnings : List Warning}
    (h : (load fun s => w.environment.get? s.label) = (c, warnings)) : environmentConfig.on w =
      (.ok ⟨(w.deliverAll (warnings.map numberWarning)).next, c⟩,
        (w.deliverAll (warnings.map numberWarning)).advance) := by
  rw [environmentConfig, on_bind_ok (on_get w)]
  simp only [h]
  exact on_bind_ok (on_forM_emit numberWarning warnings w) _

/-- Reading the environment never fails. Each setting is what its variable says, with a warning
for every number that is misspelled and for nothing else, and a configuration that is written
into the variables is read without a warning, however it is written. -/
theorem configured_by_environment (w : Workspace) :
    (∃ c warnings, Says (fun s => w.environment.get? s.label) c warnings ∧
      environmentConfig.on w = (.ok ⟨(w.deliverAll (warnings.map numberWarning)).next, c⟩,
        (w.deliverAll (warnings.map numberWarning)).advance) ∧
      ∀ x ∈ warnings, (numberWarning x).level = Level.warning ∧
        (numberWarning x).message = "Invalid integer value for " ++ x.setting.label ++ ": " ++
          x.text ++ ", using default " ++ Numeral.text x.fallback) ∧
    (∀ c, Written c (fun s => w.environment.get? s.label) →
      environmentConfig.on w = (.ok ⟨w.next, c⟩, w.advance)) ∧
    ∀ c : Config, c.parser.maxLength.natAbs < 10 ^ Numeral.maxDigits →
      c.cache.maxSize.natAbs < 10 ^ Numeral.maxDigits → Written c (plain c) := by
  refine ⟨⟨_, _, says_load _, on_environmentConfig rfl, fun _ _ => ⟨rfl, rfl⟩⟩, fun c hc => ?_,
    fun c hlength hsize => written_plain hlength hsize⟩
  exact on_environmentConfig (load_of_written hc)

/-- A negative length with a zero and an underscore, and a size of zero. -/
theorem configured_by_environment_zeros : ∃ w c, w.environment = [
      ("SQLBINDER_STRICT_PLACEHOLDERS", "oN"), ("SQLBINDER_MAX_SQL_LENGTH", " -0_7"),
      ("SQLBINDER_ENABLE_CACHING", "off"), ("SQLBINDER_MAX_CACHE_SIZE", "+0\n"),
      ("SQLBINDER_ENABLE_CACHE_STATS", "1")] ∧
    Written c (fun s => w.environment.get? s.label) ∧
    environmentConfig.on w = (.ok ⟨w.next, ⟨⟨true, -7⟩, ⟨false, 0, true⟩⟩⟩, w.advance) := by
  have hwritten : Written ⟨⟨true, -7⟩, ⟨false, 0, true⟩⟩ fun s => Entries.get? s.label [
      ("SQLBINDER_STRICT_PLACEHOLDERS", "oN"), ("SQLBINDER_MAX_SQL_LENGTH", " -0_7"),
      ("SQLBINDER_ENABLE_CACHING", "off"), ("SQLBINDER_MAX_CACHE_SIZE", "+0\n"),
      ("SQLBINDER_ENABLE_CACHE_STATS", "1")] := by
    refine ⟨⟨_, fun _ => false, rfl, by decide +kernel⟩, ⟨_, rfl, ['-'], 1, ?_, ?_, .minus 7⟩,
      ⟨_, fun _ => false, rfl, by decide +kernel⟩, ⟨_, rfl, ['+'], 0, ?_, ?_, .plus 0⟩,
      ⟨_, fun _ => false, rfl, by decide +kernel⟩⟩
    · exact ⟨[' '], ['0', '_', '7'], [], rfl, List.forall_mem_singleton.mpr rfl, nofun,
        .apart '0' (.last '7')⟩
    · decide
    · exact ⟨[], ['0'], ['\n'], rfl, nofun, List.forall_mem_singleton.mpr rfl, .last '0'⟩
    · decide
  exact ⟨{ environment := _ }, _, rfl, hwritten, (configured_by_environment _).2.1 _ hwritten⟩

end Action

end QueryBinding
