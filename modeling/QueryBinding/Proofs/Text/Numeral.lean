import Mathlib.Data.List.DropRight
import Mathlib.Data.Nat.Digits.Defs
import QueryBinding.Text.Numeral

/-! The grammar of integers. A spelling has white space around it, at most one sign, and
digits of any script with single underscores between some of them, and stands for the number
that its digits have in decimal. Reading accepts exactly the spellings with no more digits
than are allowed, so a number that is written in decimal is read back, however the writing
is drawn out with white space, zeros and underscores. -/

namespace QueryBinding

namespace Blank

variable {p : Char → Bool} {left core right : List Char}

theorem exists_strip (p : Char → Bool) (cs : List Char) : ∃ left right,
    cs = left ++ strip p cs ++ right ∧ (∀ c ∈ left, p c = true) ∧ ∀ c ∈ right, p c = true := by
  refine ⟨cs.takeWhile p, ((cs.dropWhile p).reverse.takeWhile p).reverse, ?_,
    fun c hc => List.mem_takeWhile_imp hc,
    fun c hc => List.mem_takeWhile_imp (List.mem_reverse.mp hc)⟩
  rw [strip, List.append_assoc, ← List.reverse_append, List.takeWhile_append_dropWhile,
    List.reverse_reverse, List.takeWhile_append_dropWhile]

/-- What neither begins nor ends with a character of the class is left when those around it
are dropped. -/
theorem strip_append (hleft : ∀ c ∈ left, p c = true) (hright : ∀ c ∈ right, p c = true)
    (hne : core ≠ []) (hhead : p (core.head hne) = false)
    (hlast : p (core.getLast hne) = false) : strip p (left ++ core ++ right) = core := by
  have hdrop : (left ++ core ++ right).dropWhile p = core ++ right := by
    rw [List.append_assoc, List.dropWhile_append_of_pos hleft]
    obtain ⟨c, rest, rfl⟩ := List.exists_cons_of_ne_nil hne
    exact List.dropWhile_cons_of_neg (by simpa using hhead)
  have hback : (core ++ right).reverse.dropWhile p = core.reverse := by
    rw [List.reverse_append, List.dropWhile_append_of_pos
      fun c hc => hright c (List.mem_reverse.mp hc)]
    have hself : core.rdropWhile p = core := by
      rw [List.rdropWhile_eq_self_iff]
      exact fun _ => by simp [hlast]
    rw [List.rdropWhile, List.reverse_eq_iff] at hself
    exact hself
  rw [strip, hdrop, hback, List.reverse_reverse]

end Blank

namespace Digit

theorem exists_zero {c : Char} {d : ℕ} (h : value? c = some d) :
    ∃ z ∈ 48 :: zeros, c.toNat = z + d := by
  unfold value? at h
  split_ifs at h with hascii hdigit
  · refine ⟨48, List.mem_cons_self, ?_⟩
    have hle : 48 ≤ c.toNat := by
      simp only [Char.isDigit, Bool.and_eq_true, decide_eq_true_eq, ge_iff_le] at hdigit
      exact UInt32.le_iff_toNat_le.mp hdigit.1
    have := Option.some.inj h
    omega
  · obtain ⟨z, hz, rfl⟩ := Option.map_eq_some_iff.mp h
    have hcovers := List.find?_some hz
    simp only [Bool.and_eq_true, decide_eq_true_eq] at hcovers
    exact ⟨z, List.mem_cons_of_mem _ (List.mem_of_find?_eq_some hz), by omega⟩

/-- No digit is white space. -/
theorem isSpace_eq_false {c : Char} {d : ℕ} (h : value? c = some d) :
    Blank.isSpace c = false := by
  obtain ⟨z, hz, hc⟩ := exists_zero h
  have hall : ∀ z ∈ 48 :: zeros, ∀ d < 10, Blank.isSpace (Char.ofNat (z + d)) = false := by
    decide +kernel
  have := hall z hz d (value?_lt h)
  rwa [← hc, Char.ofNat_toNat] at this

end Digit

namespace Numeral

/-! ### Spellings -/

/-- A text that consists of the given characters, with single underscores between some of
them. -/
inductive Separated : List Char → List Char → Prop
  | last (c : Char) : Separated [c] [c]
  | next (c : Char) {chars body : List Char} : Separated chars body →
      Separated (c :: chars) (c :: body)
  | apart (c : Char) {chars body : List Char} : Separated chars body →
      Separated (c :: chars) (c :: '_' :: body)

/-- A text that consists of a sign and the given characters, with white space around them. -/
def Framed (sign chars cs : List Char) : Prop :=
  ∃ left body right, cs = left ++ (sign ++ body) ++ right ∧
    (∀ c ∈ left, Blank.isSpace c = true) ∧ (∀ c ∈ right, Blank.isSpace c = true) ∧
    Separated chars body

/-- What a sign makes of a number. -/
inductive Signed : List Char → ℕ → ℤ → Prop
  | bare (m : ℕ) : Signed [] m m
  | plus (m : ℕ) : Signed ['+'] m m
  | minus (m : ℕ) : Signed ['-'] m (-m)

/-- A text that spells an integer. -/
def Spells (cs : List Char) (n : ℤ) : Prop :=
  ∃ (sign chars : List Char) (ds : List ℕ), Framed sign chars cs ∧
    chars.map Digit.value? = ds.map some ∧ ds.length ≤ maxDigits ∧
      Signed sign (Nat.ofDigits 10 ds.reverse) n

section Digits

variable {chars body : List Char} {ds : List ℕ}

theorem ofDigits_eq (ds : List ℕ) : ofDigits ds = Nat.ofDigits 10 ds.reverse := by
  rw [Nat.ofDigits_eq_foldr, List.foldr_reverse, ofDigits]
  congr 1
  funext n d
  exact Nat.add_comm _ _

theorem value?_of_mem (h : chars.map Digit.value? = ds.map some) {c : Char} (hc : c ∈ chars) :
    ∃ d, Digit.value? c = some d := by
  have hmem := List.mem_map_of_mem (f := Digit.value?) hc
  rw [h] at hmem
  obtain ⟨d, -, hd⟩ := List.mem_map.mp hmem
  exact ⟨d, hd.symm⟩

theorem Separated.ne_nil (h : Separated chars body) : body ≠ [] := by
  cases h <;> exact List.cons_ne_nil _ _

theorem Separated.head_mem (h : Separated chars body) (hne : body ≠ []) :
    body.head hne ∈ chars := by
  cases h <;> exact List.mem_cons_self

theorem Separated.getLast_mem (h : Separated chars body) (hne : body ≠ []) :
    body.getLast hne ∈ chars := by
  induction h with
  | last c => exact List.mem_cons_self
  | next c h ih =>
    rw [List.getLast_cons h.ne_nil]
    exact List.mem_cons_of_mem _ (ih _)
  | apart c h ih =>
    rw [List.getLast_cons (List.cons_ne_nil _ _), List.getLast_cons h.ne_nil]
    exact List.mem_cons_of_mem _ (ih _)

theorem digits?_cons {c d : Char} (hd : d ≠ '_') (cs : List Char) : digits? (c :: d :: cs) =
    (Digit.value? c).bind fun n => (digits? (d :: cs)).map (n :: ·) := by
  rw [digits?]
  · nofun
  · rintro _ ⟨⟩
    exact hd rfl

theorem exists_separated (h : digits? body = some ds) :
    ∃ chars, Separated chars body ∧ chars.map Digit.value? = ds.map some := by
  fun_induction digits? body generalizing ds with
  | case1 => cases h
  | case2 c =>
    obtain ⟨d, hd, rfl⟩ := Option.map_eq_some_iff.mp h
    exact ⟨[c], .last c, congrArg ([·]) hd⟩
  | case3 c cs ih =>
    obtain ⟨d, hd, h⟩ := Option.bind_eq_some_iff.mp h
    obtain ⟨ds, hds, rfl⟩ := Option.map_eq_some_iff.mp h
    obtain ⟨chars, hchars, hvalues⟩ := ih hds
    exact ⟨c :: chars, .apart c hchars, congrArg₂ List.cons hd hvalues⟩
  | case4 c cs _ _ ih =>
    obtain ⟨d, hd, h⟩ := Option.bind_eq_some_iff.mp h
    obtain ⟨ds, hds, rfl⟩ := Option.map_eq_some_iff.mp h
    obtain ⟨chars, hchars, hvalues⟩ := ih hds
    exact ⟨c :: chars, .next c hchars, congrArg₂ List.cons hd hvalues⟩

theorem digits?_of_separated (h : Separated chars body)
    (hvalues : chars.map Digit.value? = ds.map some) : digits? body = some ds := by
  induction h generalizing ds with
  | last c =>
    obtain ⟨d, rest, rfl⟩ : ∃ d rest, ds = d :: rest := by cases ds <;> simp at hvalues ⊢
    obtain ⟨hd, hrest⟩ := List.cons.inj hvalues
    obtain rfl := List.map_eq_nil_iff.mp hrest.symm
    rw [digits?, hd]
    rfl
  | @next c chars body h ih =>
    obtain ⟨d, rest, rfl⟩ : ∃ d rest, ds = d :: rest := by cases ds <;> simp at hvalues ⊢
    obtain ⟨hd, hrest⟩ := List.cons.inj hvalues
    obtain ⟨e, body, rfl⟩ := List.exists_cons_of_ne_nil h.ne_nil
    have he : e ≠ '_' := by
      -- an underscore is no digit
      rintro rfl
      obtain ⟨_, hvalue⟩ := value?_of_mem hrest (h.head_mem h.ne_nil)
      cases hvalue
    rw [digits?_cons he, hd, ih hrest]
    rfl
  | apart c h ih =>
    obtain ⟨d, rest, rfl⟩ : ∃ d rest, ds = d :: rest := by cases ds <;> simp at hvalues ⊢
    obtain ⟨hd, hrest⟩ := List.cons.inj hvalues
    rw [digits?, hd, ih hrest]
    rfl

theorem magnitude?_eq_some_iff {m : ℕ} : magnitude? body = some m ↔
    ∃ (chars : List Char) (ds : List ℕ), Separated chars body ∧
      chars.map Digit.value? = ds.map some ∧ ds.length ≤ maxDigits ∧
      m = Nat.ofDigits 10 ds.reverse := by
  rw [magnitude?, Option.bind_eq_some_iff]
  constructor
  · rintro ⟨ds, hds, h⟩
    split_ifs at h with hlength
    obtain ⟨chars, hchars, hvalues⟩ := exists_separated hds
    exact ⟨chars, ds, hchars, hvalues, hlength, by rw [← ofDigits_eq, Option.some.inj h]⟩
  · rintro ⟨chars, ds, hchars, hvalues, hlength, rfl⟩
    exact ⟨ds, digits?_of_separated hchars hvalues, by rw [if_pos hlength, ofDigits_eq]⟩

end Digits

/-! ### Reading -/

section Reading

variable {cs sign body : List Char} {m : ℕ} {n : ℤ}

/-- Digits begin and end with a digit. -/
theorem ends_of_magnitude? (h : magnitude? body = some m) : ∃ hne : body ≠ [],
    (∃ d, Digit.value? (body.head hne) = some d) ∧
      ∃ d, Digit.value? (body.getLast hne) = some d := by
  obtain ⟨chars, ds, hchars, hvalues, -⟩ := magnitude?_eq_some_iff.mp h
  have hne := hchars.ne_nil
  exact ⟨hne, value?_of_mem hvalues (hchars.head_mem hne),
    value?_of_mem hvalues (hchars.getLast_mem hne)⟩

/-- What is left between the white space is a sign and digits. -/
theorem read?_eq_some_iff_strip : read? cs = some n ↔ ∃ sign body m,
    Blank.strip Blank.isSpace cs = sign ++ body ∧ magnitude? body = some m ∧
      Signed sign m n := by
  rw [read?]
  constructor
  · intro h
    split at h
    · next body hstrip =>
      cases hm : magnitude? body with
      | none => simp [hm] at h
      | some m =>
        rw [hm] at h
        cases h
        exact ⟨['-'], body, m, hstrip, hm, .minus m⟩
    · next body hstrip =>
      cases hm : magnitude? body with
      | none => simp [hm] at h
      | some m =>
        rw [hm] at h
        cases h
        exact ⟨['+'], body, m, hstrip, hm, .plus m⟩
    · cases hm : magnitude? (Blank.strip Blank.isSpace cs) with
      | none => simp [hm] at h
      | some m =>
        rw [hm] at h
        cases h
        exact ⟨[], _, m, rfl, hm, .bare m⟩
  · rintro ⟨sign, body, m, hstrip, hm, hsign⟩
    rw [hstrip]
    cases hsign with
    | plus => simp [hm]
    | minus => simp [hm]
    | bare =>
      -- the digits do not begin with a sign
      obtain ⟨hne, ⟨d, hd⟩, -⟩ := ends_of_magnitude? hm
      obtain ⟨c, rest, rfl⟩ := List.exists_cons_of_ne_nil hne
      have hminus : c ≠ '-' := by
        rintro rfl
        cases hd
      have hplus : c ≠ '+' := by
        rintro rfl
        cases hd
      simp [hminus, hplus, hm]

/-- White space around a sign and digits is dropped, and nothing else. -/
theorem strip_signed (hsign : Signed sign m n) (hm : magnitude? body = some m)
    {left right : List Char} (hleft : ∀ c ∈ left, Blank.isSpace c = true)
    (hright : ∀ c ∈ right, Blank.isSpace c = true) :
    Blank.strip Blank.isSpace (left ++ (sign ++ body) ++ right) = sign ++ body := by
  obtain ⟨hne, ⟨_, hhead⟩, _, hlast⟩ := ends_of_magnitude? hm
  have hcore : sign ++ body ≠ [] := List.append_ne_nil_of_right_ne_nil _ hne
  refine Blank.strip_append hleft hright hcore ?_ ?_
  · cases hsign with
    | bare => exact Digit.isSpace_eq_false hhead
    | plus => exact (by decide : Blank.isSpace '+' = false)
    | minus => exact (by decide : Blank.isSpace '-' = false)
  · rw [List.getLast_append_of_right_ne_nil _ _ hne]
    exact Digit.isSpace_eq_false hlast

/-- Reading accepts exactly the spellings, and gives what they stand for. -/
theorem read?_eq_some_iff : read? cs = some n ↔ Spells cs n := by
  rw [read?_eq_some_iff_strip]
  constructor
  · rintro ⟨sign, body, m, hstrip, hm, hsign⟩
    obtain ⟨left, right, hcs, hleft, hright⟩ := Blank.exists_strip Blank.isSpace cs
    obtain ⟨chars, ds, hchars, hvalues, hlength, rfl⟩ := magnitude?_eq_some_iff.mp hm
    rw [hstrip] at hcs
    exact ⟨sign, chars, ds, ⟨left, body, right, hcs, hleft, hright, hchars⟩, hvalues, hlength,
      hsign⟩
  · rintro ⟨sign, chars, ds, ⟨left, body, right, rfl, hleft, hright, hchars⟩, hvalues, hlength,
      hsign⟩
    have hm := magnitude?_eq_some_iff.mpr ⟨chars, ds, hchars, hvalues, hlength, rfl⟩
    exact ⟨sign, body, _, strip_signed hsign hm hleft hright, hm, hsign⟩

theorem read?_eq_none_iff : read? cs = none ↔ ∀ n, ¬ Spells cs n := by
  simp only [← read?_eq_some_iff, Option.eq_none_iff_forall_ne_some, Ne]

end Reading

/-! ### Writing -/

/-- A writing of an integer in decimal, with zeros in front. -/
def Written (n : ℤ) (cs : List Char) : Prop :=
  ∃ sign zeros, Framed sign (List.replicate zeros '0' ++ Nat.toDigits 10 n.natAbs) cs ∧
    zeros + (Nat.toDigits 10 n.natAbs).length ≤ maxDigits ∧ Signed sign n.natAbs n

theorem value?_digitChar {d : ℕ} (h : d < 10) : Digit.value? (Nat.digitChar d) = some d := by
  have hall : ∀ d < 10, Digit.value? (Nat.digitChar d) = some d := by decide
  exact hall d h

/-- The decimal digits of a number stand for it. -/
theorem exists_values (n : ℕ) : ∃ ds, (Nat.toDigits 10 n).map Digit.value? = ds.map some ∧
    ofDigits ds = n := by
  induction n using Nat.strong_induction_on with
  | _ n ih =>
    by_cases hn : n < 10
    · refine ⟨[n], ?_, Nat.zero_add n⟩
      rw [Nat.toDigits_of_lt_base hn, List.map_singleton, value?_digitChar hn]
      rfl
    · obtain ⟨ds, hds, hvalue⟩ := ih (n / 10) (by omega)
      refine ⟨ds ++ [n % 10], ?_, ?_⟩
      · rw [Nat.toDigits_of_base_le (by decide) (Nat.le_of_not_lt hn), List.map_append, hds,
          List.map_append, List.map_singleton, value?_digitChar (Nat.mod_lt _ (by decide))]
        rfl
      · rw [ofDigits, List.foldl_append, ← ofDigits, hvalue]
        exact Nat.div_add_mod n 10

theorem ofDigits_zeros (zeros : ℕ) (ds : List ℕ) :
    ofDigits (List.replicate zeros 0 ++ ds) = ofDigits ds := by
  induction zeros with
  | zero => rfl
  | succ zeros ih => exact ih

theorem spells_of_written {n : ℤ} {cs : List Char} (h : Written n cs) : Spells cs n := by
  obtain ⟨sign, zeros, hframed, hlength, hsign⟩ := h
  obtain ⟨ds, hds, hvalue⟩ := exists_values n.natAbs
  have hvalues : (List.replicate zeros '0' ++ Nat.toDigits 10 n.natAbs).map Digit.value? =
      (List.replicate zeros 0 ++ ds).map some := by
    rw [List.map_append, hds, List.map_append, List.map_replicate, List.map_replicate]
    rfl
  refine ⟨sign, _, _, hframed, hvalues, ?_, ?_⟩
  · have hcount := congrArg List.length hds
    rw [List.length_map, List.length_map] at hcount
    rw [List.length_append, List.length_replicate]
    omega
  · rwa [← ofDigits_eq, ofDigits_zeros, hvalue]

theorem separated_self {chars : List Char} (h : chars ≠ []) : Separated chars chars := by
  induction chars with
  | nil => exact absurd rfl h
  | cons c chars ih =>
    cases chars with
    | nil => exact .last c
    | cons d chars => exact .next c (ih (List.cons_ne_nil _ _))

/-- The plain writing of an integer that is not too long. -/
theorem written_ofInt {n : ℤ} (h : n.natAbs < 10 ^ maxDigits) : Written n (ofInt n) := by
  have hlength : 0 + (Nat.toDigits 10 n.natAbs).length ≤ maxDigits := by
    rw [Nat.zero_add, Nat.length_toDigits_le_iff (by decide) (by decide)]
    exact h
  have hself : Separated (List.replicate 0 '0' ++ Nat.toDigits 10 n.natAbs)
      (Nat.toDigits 10 n.natAbs) := by
    apply separated_self
    intro hnil
    have hpos := Nat.length_toDigits_pos (b := 10) (n := n.natAbs)
    exact hpos.ne' (congrArg List.length hnil)
  cases n with
  | ofNat m =>
    exact ⟨[], 0, ⟨[], _, [], by simp [ofInt, ofNat], nofun, nofun, hself⟩, hlength, .bare m⟩
  | negSucc m =>
    exact ⟨['-'], 0, ⟨[], _, [], by simp [ofInt, ofNat], nofun, nofun, hself⟩, hlength,
      .minus (m + 1)⟩

/-! ### Telling numbers from what follows them -/

section Append

variable {ds ds' r r' : List Char}

/-- Where digits end is told by what follows them. -/
theorem append_inj_of_digits (hds : ∀ c ∈ ds, c.isDigit = true)
    (hds' : ∀ c ∈ ds', c.isDigit = true) (hr : ∀ c ∈ r.head?, c.isDigit = false)
    (hr' : ∀ c ∈ r'.head?, c.isDigit = false) (h : ds ++ r = ds' ++ r') :
    ds = ds' ∧ r = r' := by
  have htake : ∀ {ds r : List Char}, (∀ c ∈ ds, c.isDigit = true) →
      (∀ c ∈ r.head?, c.isDigit = false) → (ds ++ r).takeWhile Char.isDigit = ds := by
    intro ds r hds hr
    rw [List.takeWhile_append_of_pos hds]
    cases r with
    | nil => simp
    | cons c r => simp [hr c rfl]
  obtain rfl : ds = ds' := by rw [← htake hds hr, h, htake hds' hr']
  exact ⟨rfl, List.append_cancel_left h⟩

theorem isDigit_of_mem_ofNat {n : ℕ} {c : Char} (h : c ∈ ofNat n) : c.isDigit = true :=
  Nat.isDigit_of_mem_toDigits (by decide) (by decide) h

theorem ofNat_append_inj {m n : ℕ} (hr : ∀ c ∈ r.head?, c.isDigit = false)
    (hr' : ∀ c ∈ r'.head?, c.isDigit = false) (h : ofNat m ++ r = ofNat n ++ r') :
    m = n ∧ r = r' := by
  obtain ⟨hmn, hrest⟩ := append_inj_of_digits (fun _ => isDigit_of_mem_ofNat)
    (fun _ => isDigit_of_mem_ofNat) hr hr' h
  have hvalue := congrArg (Nat.ofDigitChars 10 · 0) hmn
  simp only [ofNat, Nat.ofDigitChars_ten_toDigits] at hvalue
  exact ⟨hvalue, hrest⟩

/-- Digits do not begin with a sign. -/
theorem ofNat_append_ne_minus (n : ℕ) (r cs : List Char) : ofNat n ++ r ≠ '-' :: cs := by
  obtain ⟨c, ds, hds⟩ := List.exists_cons_of_ne_nil (Nat.toDigits_ne_nil (n := n) (b := 10))
  have hdigit : c.isDigit = true := isDigit_of_mem_ofNat (n := n) (by simp [ofNat, hds])
  rw [ofNat, hds]
  intro h
  obtain ⟨rfl, -⟩ := List.cons.inj h
  exact absurd hdigit (by decide)

theorem ofInt_append_inj {m n : ℤ} (hr : ∀ c ∈ r.head?, c.isDigit = false)
    (hr' : ∀ c ∈ r'.head?, c.isDigit = false) (h : ofInt m ++ r = ofInt n ++ r') :
    m = n ∧ r = r' := by
  cases m with
  | ofNat m =>
    cases n with
    | ofNat n =>
      obtain ⟨rfl, rfl⟩ := ofNat_append_inj hr hr' h
      exact ⟨rfl, rfl⟩
    | negSucc n => exact absurd h (ofNat_append_ne_minus _ _ _)
  | negSucc m =>
    cases n with
    | ofNat n => exact absurd h.symm (ofNat_append_ne_minus _ _ _)
    | negSucc n =>
      obtain ⟨hmn, rfl⟩ := ofNat_append_inj hr hr' (List.cons.inj h).2
      obtain rfl := Nat.succ.inj hmn
      exact ⟨rfl, rfl⟩

end Append

/-! ### Hexadecimal digits -/

theorem length_hex (width n : ℕ) : (hex width n).length = width := by
  induction width generalizing n with
  | zero => rfl
  | succ width ih => rw [hex, List.length_append, ih, List.length_singleton]

/-- The digits of a number that fits determine it. -/
theorem hex_inj {width m n : ℕ} (hm : m < 16 ^ width) (hn : n < 16 ^ width)
    (h : hex width m = hex width n) : m = n := by
  induction width generalizing m n with
  | zero =>
    rw [pow_zero] at hm hn
    omega
  | succ width ih =>
    have hdigit : ∀ d < 16, ∀ e < 16, Nat.digitChar d = Nat.digitChar e → d = e := by decide
    rw [hex, hex] at h
    obtain ⟨hfront, hlast⟩ := List.append_inj' h rfl
    have hmod := hdigit _ (Nat.mod_lt m (by decide)) _ (Nat.mod_lt n (by decide))
      (List.cons.inj hlast).1
    rw [pow_succ] at hm hn
    have hdiv := ih (m := m / 16) (n := n / 16) (by omega) (by omega) hfront
    omega

end Numeral

end QueryBinding
