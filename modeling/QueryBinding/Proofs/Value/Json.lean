import QueryBinding.Proofs.Text.Numeral
import QueryBinding.Value.Reader

/-! The grammar of JSON texts, for values whose numbers are integers. A text spells at most one
value, with all the fields of its objects in the order in which they stand. What is encoded
spells the value that it was made from, and has no control character in it. -/

namespace QueryBinding

namespace Json

/-! ### The grammar -/

/-- The first character of a text, as it is written between quotes. Beyond U+FFFF it may be
written as two surrogates, of which neither stands for a character of its own. -/
inductive ReadsChar : List Char → Char → List Char → Prop
  | plain {c : Char} {rest : List Char} (hquote : c ≠ '"') (hback : c ≠ '\\')
      (hcontrol : 0x20 ≤ c.toNat) : ReadsChar (c :: rest) c rest
  | short {e : Char} {n : ℕ} {rest : List Char} (h : unescape? e = some n) :
      ReadsChar ('\\' :: e :: rest) (Char.ofNat n) rest
  | unit {a b c d : Char} {n : ℕ} {rest : List Char} (h : hex4? a b c d = some n)
      (hsingle : n < 0xD800 ∨ 0xDFFF < n) :
      ReadsChar ('\\' :: 'u' :: a :: b :: c :: d :: rest) (Char.ofNat n) rest
  | pair {a b c d a' b' c' d' : Char} {high low : ℕ} {rest : List Char}
      (h : hex4? a b c d = some high) (h' : hex4? a' b' c' d' = some low)
      (hhigh : 0xD800 ≤ high ∧ high ≤ 0xDBFF) (hlow : 0xDC00 ≤ low ∧ low ≤ 0xDFFF) :
      ReadsChar ('\\' :: 'u' :: a :: b :: c :: d :: '\\' :: 'u' :: a' :: b' :: c' :: d' :: rest)
        (Char.ofNat (0x10000 + (high - 0xD800) * 0x400 + (low - 0xDC00))) rest

/-- The characters up to the closing quote. -/
inductive ReadsChars : List Char → List Char → List Char → Prop
  | close {rest : List Char} : ReadsChars ('"' :: rest) [] rest
  | char {cs cs' s rest : List Char} {c : Char} (h : ReadsChar cs c cs')
      (hs : ReadsChars cs' s rest) : ReadsChars cs (c :: s) rest

/-- Digits, of which a zero is first only if it is the only one. -/
structure IsNumber (ds : List Char) : Prop where
  ne_nil : ds ≠ []
  isDigit : ∀ c ∈ ds, c.isDigit = true
  no_zero : ds.head? = some '0' → ds = ['0']

/-- What follows an integer: it has no further digits, no fraction and no exponent. -/
def Ends (rest : List Char) : Prop :=
  ∀ c ∈ rest.head?, c.isDigit = false ∧ c ≠ '.' ∧ c ≠ 'e' ∧ c ≠ 'E'

inductive ReadsInt (cs : List Char) : ℤ → List Char → Prop
  | nat {ds rest : List Char} (h : IsNumber ds) (hrest : Ends rest) (hcs : cs = ds ++ rest) :
      ReadsInt cs (Nat.ofDigitChars 10 ds 0 : ℕ) rest
  | neg {ds rest : List Char} (h : IsNumber ds) (hrest : Ends rest)
      (hcs : cs = '-' :: (ds ++ rest)) : ReadsInt cs (-(Nat.ofDigitChars 10 ds 0 : ℕ)) rest

/-- Values without parts. -/
inductive ReadsAtom : List Char → Value → List Char → Prop
  | null {rest : List Char} : ReadsAtom ('n' :: 'u' :: 'l' :: 'l' :: rest) .null rest
  | boolTrue {rest : List Char} : ReadsAtom ('t' :: 'r' :: 'u' :: 'e' :: rest) (.bool true) rest
  | boolFalse {rest : List Char} :
      ReadsAtom ('f' :: 'a' :: 'l' :: 's' :: 'e' :: rest) (.bool false) rest
  | int {cs rest : List Char} {n : ℤ} (h : ReadsInt cs n rest) : ReadsAtom cs (.int n) rest
  | text {cs s rest : List Char} (h : ReadsChars cs s rest) :
      ReadsAtom ('"' :: cs) (.text (String.ofList s)) rest

/-- One thing or more, with commas between them, up to the closing bracket. -/
inductive ReadsSeries {α : Type} (closing : Char) (R : List Char → α → List Char → Prop) :
    List Char → List α → List Char → Prop
  | last {cs cs' rest : List Char} {x : α} (h : R cs x cs')
      (hclose : skip cs' = closing :: rest) : ReadsSeries closing R cs [x] rest
  | next {cs cs' cs'' rest : List Char} {x : α} {xs : List α} (h : R cs x cs')
      (hcomma : skip cs' = ',' :: cs'') (hs : ReadsSeries closing R cs'' xs rest) :
      ReadsSeries closing R cs (x :: xs) rest

/-- Any number of things between brackets. -/
inductive ReadsGroup {α : Type} (opening closing : Char)
    (R : List Char → α → List Char → Prop) : List Char → List α → List Char → Prop
  | empty {cs rest : List Char} (hclose : skip cs = closing :: rest) :
      ReadsGroup opening closing R (opening :: cs) [] rest
  | series {cs rest : List Char} {xs : List α} (hs : ReadsSeries closing R cs xs rest) :
      ReadsGroup opening closing R (opening :: cs) xs rest

mutual

/-- A value at the beginning of a text, after blanks, and what follows it. -/
inductive Reads : List Char → Value → List Char → Prop
  | atom {cs rest : List Char} {v : Value} (h : ReadsAtom (skip cs) v rest) : Reads cs v rest
  | list {cs rest : List Char} {vs : List Value} (h : ReadsGroup '[' ']' Reads (skip cs) vs rest) :
      Reads cs (.list vs) rest
  | object {cs rest : List Char} {fs : List (String × Value)}
      (h : ReadsGroup '{' '}' ReadsField (skip cs) fs rest) : Reads cs (.object fs) rest

/-- A field of an object, after blanks, and what follows it. -/
inductive ReadsField : List Char → String × Value → List Char → Prop
  | field {cs cs₁ cs₂ cs₃ k rest : List Char} {v : Value} (h : skip cs = '"' :: cs₁)
      (hkey : ReadsChars cs₁ k cs₂) (hcolon : skip cs₂ = ':' :: cs₃)
      (hvalue : Reads cs₃ v rest) : ReadsField cs (String.ofList k, v) rest

end

/-- A text that spells a value, with blanks around it allowed. -/
def Spells (cs : List Char) (v : Value) : Prop := ∃ rest, Reads cs v rest ∧ skip rest = []

/-! ### Unambiguity -/

section Unique

variable {cs rest rest' s s' : List Char} {c c' : Char} {v v' : Value} {n n' : ℤ}

theorem ReadsChar.unique (h : ReadsChar cs c rest) (h' : ReadsChar cs c' rest') :
    c = c' ∧ rest = rest' := by
  cases h with
  | plain hquote hback hcontrol =>
    cases h' with
    | plain => exact ⟨rfl, rfl⟩
    | short => exact absurd rfl hback
    | unit => exact absurd rfl hback
    | pair => exact absurd rfl hback
  | short h =>
    cases h' with
    | plain hquote hback hcontrol => exact absurd rfl hback
    | short h' => rw [h] at h'; cases h'; exact ⟨rfl, rfl⟩
    | unit => cases h
    | pair => cases h
  | unit h hsingle =>
    cases h' with
    | plain hquote hback hcontrol => exact absurd rfl hback
    | short h' => cases h'
    | unit h' => rw [h] at h'; cases h'; exact ⟨rfl, rfl⟩
    | pair h' _ hhigh => rw [h] at h'; cases h'; omega
  | pair h hl hhigh hlow =>
    cases h' with
    | plain hquote hback hcontrol => exact absurd rfl hback
    | short h' => cases h'
    | unit h' => rw [h] at h'; cases h'; omega
    | pair h' hl' => rw [h] at h'; cases h'; rw [hl] at hl'; cases hl'; exact ⟨rfl, rfl⟩

theorem ReadsChars.unique (h : ReadsChars cs s rest) (h' : ReadsChars cs s' rest') :
    s = s' ∧ rest = rest' := by
  induction h generalizing s' with
  | close =>
    cases h' with
    | close => exact ⟨rfl, rfl⟩
    | char h' => cases h' with | plain hquote => exact absurd rfl hquote
  | char h hs ih =>
    cases h' with
    | close => cases h with | plain hquote => exact absurd rfl hquote
    | char h' hs' =>
      obtain ⟨rfl, rfl⟩ := h.unique h'
      obtain ⟨rfl, rfl⟩ := ih hs'
      exact ⟨rfl, rfl⟩

theorem IsNumber.append_inj {ds ds' : List Char} (h : IsNumber ds) (h' : IsNumber ds')
    (hrest : Ends rest) (hrest' : Ends rest') (heq : ds ++ rest = ds' ++ rest') :
    ds = ds' ∧ rest = rest' :=
  Numeral.append_inj_of_digits h.isDigit h'.isDigit (fun c hc => (hrest c hc).1)
    (fun c hc => (hrest' c hc).1) heq

theorem IsNumber.append_ne_minus {ds : List Char} (h : IsNumber ds) (rest cs : List Char) :
    ds ++ rest ≠ '-' :: cs := by
  obtain ⟨c, ds, rfl⟩ := List.exists_cons_of_ne_nil h.ne_nil
  intro heq
  obtain ⟨rfl, -⟩ := List.cons.inj heq
  exact absurd (h.isDigit '-' List.mem_cons_self) (by decide)

theorem ReadsInt.unique (h : ReadsInt cs n rest) (h' : ReadsInt cs n' rest') :
    n = n' ∧ rest = rest' := by
  cases h with
  | nat h hrest hcs =>
    cases h' with
    | nat h' hrest' hcs' =>
      obtain ⟨rfl, rfl⟩ := h.append_inj h' hrest hrest' (hcs.symm.trans hcs')
      exact ⟨rfl, rfl⟩
    | neg h' hrest' hcs' => exact absurd (hcs.symm.trans hcs') (h.append_ne_minus _ _)
  | neg h hrest hcs =>
    cases h' with
    | nat h' hrest' hcs' => exact absurd (hcs'.symm.trans hcs) (h'.append_ne_minus _ _)
    | neg h' hrest' hcs' =>
      obtain ⟨rfl, rfl⟩ := h.append_inj h' hrest hrest'
        (List.cons.inj (hcs.symm.trans hcs')).2
      exact ⟨rfl, rfl⟩

/-- An integer begins with a minus sign or a digit. -/
theorem ReadsInt.head? (h : ReadsInt cs n rest) :
    ∃ c, cs.head? = some c ∧ (c = '-' ∨ c.isDigit = true) := by
  cases h with
  | nat h hrest hcs =>
    obtain ⟨c, ds, rfl⟩ := List.exists_cons_of_ne_nil h.ne_nil
    exact ⟨c, by rw [hcs]; rfl, Or.inr (h.isDigit c List.mem_cons_self)⟩
  | neg h hrest hcs => exact ⟨'-', by rw [hcs]; rfl, Or.inl rfl⟩

theorem ReadsInt.head?_ne (h : ReadsInt cs n rest) (hminus : c ≠ '-')
    (hdigit : c.isDigit = false) : cs.head? ≠ some c := by
  obtain ⟨d, hd, hc⟩ := h.head?
  intro heq
  obtain rfl := Option.some.inj (hd.symm.trans heq)
  rcases hc with hc | hc
  · exact hminus hc
  · rw [hdigit] at hc
    cases hc

theorem ReadsAtom.unique (h : ReadsAtom cs v rest) (h' : ReadsAtom cs v' rest') :
    v = v' ∧ rest = rest' := by
  cases h with
  | int h =>
    cases h' with
    | int h' =>
      obtain ⟨rfl, rfl⟩ := h.unique h'
      exact ⟨rfl, rfl⟩
    | _ => exact absurd rfl (h.head?_ne (by decide) (by decide))
  | text h =>
    cases h' with
    | int h' => exact absurd rfl (h'.head?_ne (by decide) (by decide))
    | text h' =>
      obtain ⟨rfl, rfl⟩ := h.unique h'
      exact ⟨rfl, rfl⟩
  | _ =>
    cases h' with
    | int h' => exact absurd rfl (h'.head?_ne (by decide) (by decide))
    | _ => exact ⟨rfl, rfl⟩

/-- A value without parts begins with none of the brackets. -/
theorem ReadsAtom.head?_ne (h : ReadsAtom cs v rest) (hc : c ∈ ['[', ']', '{', '}']) :
    cs.head? ≠ some c := by
  have hall : ∀ c ∈ ['[', ']', '{', '}'], c ≠ '-' ∧ c.isDigit = false := by
    simp only [List.forall_mem_cons, List.not_mem_nil, false_imp_iff, implies_true]
    decide
  cases h with
  | int h => exact h.head?_ne (hall c hc).1 (hall c hc).2
  | _ =>
    rintro ⟨⟩
    revert hc
    decide

theorem ReadsGroup.head? {α : Type} {R : List Char → α → List Char → Prop}
    {opening closing : Char} {xs : List α} (h : ReadsGroup opening closing R cs xs rest) :
    cs.head? = some opening := by
  cases h <;> rfl

/-- No value begins with a bracket that closes a group. -/
theorem Reads.not_closing (h : Reads cs v rest) (hc : c = ']' ∨ c = '}') :
    (skip cs).head? ≠ some c := by
  have hbracket : c ∈ ['[', ']', '{', '}'] := by rcases hc with rfl | rfl <;> decide
  cases h with
  | atom h => exact h.head?_ne hbracket
  | list h | object h =>
    rw [h.head?]
    rcases hc with rfl | rfl <;> decide

/-- The only reading at the beginning of a text. -/
def Sole {α : Type} (R : List Char → α → List Char → Prop) (cs : List Char) (x : α)
    (rest : List Char) : Prop :=
  ∀ ⦃x' rest'⦄, R cs x' rest' → x = x' ∧ rest = rest'

section Groups

variable {α : Type} {R : List Char → α → List Char → Prop} {opening closing : Char}
  {cs cs' cs'' rest : List Char} {x : α} {xs : List α}

theorem sole_last (hne : closing ≠ ',') (h : Sole R cs x cs')
    (hclose : skip cs' = closing :: rest) : Sole (ReadsSeries closing R) cs [x] rest := by
  intro xs' rest' h'
  cases h' with
  | last h' hclose' =>
    obtain ⟨rfl, rfl⟩ := h h'
    rw [hclose] at hclose'
    cases hclose'
    exact ⟨rfl, rfl⟩
  | next h' hcomma' =>
    obtain ⟨rfl, rfl⟩ := h h'
    rw [hclose] at hcomma'
    exact absurd (List.cons.inj hcomma').1 hne

theorem sole_next (hne : closing ≠ ',') (h : Sole R cs x cs') (hcomma : skip cs' = ',' :: cs'')
    (hs : Sole (ReadsSeries closing R) cs'' xs rest) :
    Sole (ReadsSeries closing R) cs (x :: xs) rest := by
  intro xs' rest' h'
  cases h' with
  | last h' hclose' =>
    obtain ⟨rfl, rfl⟩ := h h'
    rw [hcomma] at hclose'
    exact absurd (List.cons.inj hclose').1.symm hne
  | next h' hcomma' hs' =>
    obtain ⟨rfl, rfl⟩ := h h'
    rw [hcomma] at hcomma'
    cases hcomma'
    obtain ⟨rfl, rfl⟩ := hs hs'
    exact ⟨rfl, rfl⟩

/-- A series is not empty, as its first thing does not begin with the closing bracket. -/
theorem ReadsSeries.not_closing
    (hR : ∀ {cs x rest}, R cs x rest → (skip cs).head? ≠ some closing)
    (h : ReadsSeries closing R cs xs rest) (hclose : skip cs = closing :: cs') : False := by
  cases h with
  | last h | next h => exact hR h (by rw [hclose]; rfl)

theorem sole_empty (hR : ∀ {cs x rest}, R cs x rest → (skip cs).head? ≠ some closing)
    (hclose : skip cs = closing :: rest) :
    Sole (ReadsGroup opening closing R) (opening :: cs) [] rest := by
  intro xs' rest' h'
  cases h' with
  | empty hclose' =>
    rw [hclose] at hclose'
    cases hclose'
    exact ⟨rfl, rfl⟩
  | series hs' => exact (hs'.not_closing hR hclose).elim

theorem sole_series (hR : ∀ {cs x rest}, R cs x rest → (skip cs).head? ≠ some closing)
    (h : ReadsSeries closing R cs xs rest) (hs : Sole (ReadsSeries closing R) cs xs rest) :
    Sole (ReadsGroup opening closing R) (opening :: cs) xs rest := by
  intro xs' rest' h'
  cases h' with
  | empty hclose' => exact (h.not_closing hR hclose').elim
  | series hs' => exact hs hs'

end Groups

theorem sole_atom (h : ReadsAtom (skip cs) v rest) : Sole Reads cs v rest := by
  intro v' rest' h'
  cases h' with
  | atom h' => exact h.unique h'
  | list h' => exact absurd h'.head? (h.head?_ne (by decide))
  | object h' => exact absurd h'.head? (h.head?_ne (by decide))

theorem sole_list {vs : List Value} (h : ReadsGroup '[' ']' Reads (skip cs) vs rest)
    (hs : Sole (ReadsGroup '[' ']' Reads) (skip cs) vs rest) : Sole Reads cs (.list vs) rest := by
  intro v' rest' h'
  cases h' with
  | atom h' => exact absurd h.head? (h'.head?_ne (by decide))
  | list h' =>
    obtain ⟨rfl, rfl⟩ := hs h'
    exact ⟨rfl, rfl⟩
  | object h' => exact absurd (h.head?.symm.trans h'.head?) (by decide)

theorem sole_object {fs : List (String × Value)}
    (h : ReadsGroup '{' '}' ReadsField (skip cs) fs rest)
    (hs : Sole (ReadsGroup '{' '}' ReadsField) (skip cs) fs rest) :
    Sole Reads cs (.object fs) rest := by
  intro v' rest' h'
  cases h' with
  | atom h' => exact absurd h.head? (h'.head?_ne (by decide))
  | list h' => exact absurd (h.head?.symm.trans h'.head?) (by decide)
  | object h' =>
    obtain ⟨rfl, rfl⟩ := hs h'
    exact ⟨rfl, rfl⟩

theorem sole_field {cs₁ cs₂ cs₃ k : List Char} (h : skip cs = '"' :: cs₁)
    (hkey : ReadsChars cs₁ k cs₂) (hcolon : skip cs₂ = ':' :: cs₃)
    (hvalue : Sole Reads cs₃ v rest) : Sole ReadsField cs (String.ofList k, v) rest := by
  intro x' rest' h'
  cases h' with
  | field h' hkey' hcolon' hvalue' =>
    rw [h] at h'
    cases h'
    obtain ⟨rfl, rfl⟩ := hkey.unique hkey'
    rw [hcolon] at hcolon'
    cases hcolon'
    obtain ⟨rfl, rfl⟩ := hvalue hvalue'
    exact ⟨rfl, rfl⟩

theorem ReadsField.not_closing {f : String × Value} (h : ReadsField cs f rest) :
    (skip cs).head? ≠ some '}' := by
  cases h with
  | field h =>
    rw [h, List.head?_cons]
    decide

/-- A text can be read in one way only, by induction on what has been read. -/
theorem Reads.sole (h : Reads cs v rest) : Sole Reads cs v rest :=
  -- values, fields, groups and series are read by each other, so there is a motive for each
  @Reads.rec (fun cs v rest _ => Sole Reads cs v rest)
    (fun cs f rest _ => Sole ReadsField cs f rest)
    (fun cs vs rest _ => Sole (ReadsGroup '[' ']' Reads) cs vs rest)
    (fun cs fs rest _ => Sole (ReadsGroup '{' '}' ReadsField) cs fs rest)
    (fun cs vs rest _ => Sole (ReadsSeries ']' Reads) cs vs rest)
    (fun cs fs rest _ => Sole (ReadsSeries '}' ReadsField) cs fs rest)
    sole_atom sole_list sole_object
    (fun h hkey hcolon _ => sole_field h hkey hcolon)
    (sole_empty fun h => h.not_closing (Or.inl rfl))
    (sole_series fun h => h.not_closing (Or.inl rfl))
    (sole_empty ReadsField.not_closing) (sole_series ReadsField.not_closing)
    (fun _ hclose h => sole_last (by decide) h hclose)
    (fun _ hcomma _ h hs => sole_next (by decide) h hcomma hs)
    (fun _ hclose h => sole_last (by decide) h hclose)
    (fun _ hcomma _ h hs => sole_next (by decide) h hcomma hs) cs v rest h

theorem Spells.unique (h : Spells cs v) (h' : Spells cs v') : v = v' := by
  obtain ⟨rest, hreads, -⟩ := h
  obtain ⟨rest', hreads', -⟩ := h'
  exact (hreads.sole hreads').1

end Unique

/-! ### Writing -/

theorem skip_of_head {c : Char} (h : isSpace c = false) (cs : List Char) :
    skip (c :: cs) = c :: cs :=
  List.dropWhile_cons_of_neg (by simp [h])

theorem isSpace_of_number {c : Char} (h : c = '-' ∨ c.isDigit = true) : isSpace c = false := by
  rw [← Bool.not_eq_true]
  intro hspace
  simp only [isSpace, Bool.or_eq_true, beq_iff_eq] at hspace
  rcases hspace with ((rfl | rfl) | rfl) | rfl <;> revert h <;> decide

theorem ends_of_head {c : Char} (h : c ∈ [',', ']', '}']) (cs : List Char) : Ends (c :: cs) := by
  have hall : ∀ c ∈ [',', ']', '}'], c.isDigit = false ∧ c ≠ '.' ∧ c ≠ 'e' ∧ c ≠ 'E' := by
    simp only [List.forall_mem_cons, List.not_mem_nil, false_imp_iff, implies_true]
    decide
  rintro _ ⟨⟩
  exact hall c h

/-- The escape of a control character gives its code. -/
theorem exists_hex {n : ℕ} (hn : n < 0x20) :
    ∃ a b c d, Numeral.hex 4 n = [a, b, c, d] ∧ hex4? a b c d = some n := by
  refine ⟨'0', '0', Nat.digitChar (n / 16), Nat.digitChar (n % 16), ?_⟩
  revert n
  decide

theorem readsChar_escape (c : Char) (rest : List Char) : ReadsChar (escape c ++ rest) c rest := by
  unfold escape
  split_ifs with hquote hn hr ht hb hf hcontrol
  · rcases hquote with rfl | rfl <;> exact .short rfl
  · exact hn ▸ .short rfl
  · exact hr ▸ .short rfl
  · exact ht ▸ .short rfl
  · exact hb ▸ .short rfl
  · exact hf ▸ .short rfl
  · obtain ⟨a, b, c', d, hhex, hunit⟩ := exists_hex hcontrol
    have hread := @ReadsChar.unit a b c' d _ rest hunit (Or.inl (by omega))
    rw [Char.ofNat_toNat] at hread
    rw [hhex]
    exact hread
  · rw [not_or] at hquote
    exact .plain hquote.1 hquote.2 (by omega)

theorem readsChars_flatMap_escape (s rest : List Char) :
    ReadsChars (s.flatMap escape ++ '"' :: rest) s rest := by
  induction s with
  | nil => exact .close
  | cons c s ih =>
    rw [List.flatMap_cons, List.append_assoc]
    exact .char (readsChar_escape c _) ih

theorem readsChars_quote (s : String) (rest : List Char) : ∃ cs,
    quote s.toList ++ rest = '"' :: cs ∧ ReadsChars cs s.toList rest := by
  refine ⟨s.toList.flatMap escape ++ '"' :: rest, ?_, readsChars_flatMap_escape _ _⟩
  simp [quote]

/-- Only zero is written with a zero in front. -/
theorem head?_toDigits_ne {n : ℕ} (hn : 0 < n) : (Nat.toDigits 10 n).head? ≠ some '0' := by
  induction n using Nat.strongRecOn with
  | _ n ih =>
    have hdigit : ∀ n < 10, 0 < n → Nat.digitChar n ≠ '0' := by decide
    by_cases hlt : n < 10
    · rw [Nat.toDigits_of_lt_base hlt]
      simpa using hdigit n hlt hn
    · rw [Nat.toDigits_of_base_le (by decide) (Nat.le_of_not_lt hlt),
        List.head?_append_of_ne_nil _ Nat.toDigits_ne_nil]
      exact ih (n / 10) (by omega) (by omega)

theorem isNumber_toDigits (n : ℕ) : IsNumber (Nat.toDigits 10 n) where
  ne_nil := Nat.toDigits_ne_nil
  isDigit _ := Numeral.isDigit_of_mem_ofNat
  no_zero hzero := by
    rcases Nat.eq_zero_or_pos n with rfl | hn
    · rfl
    · exact absurd hzero (head?_toDigits_ne hn)

theorem readsInt_ofInt (n : ℤ) {rest : List Char} (h : Ends rest) :
    ReadsInt (Numeral.ofInt n ++ rest) n rest := by
  cases n with
  | ofNat m =>
    have hread := ReadsInt.nat (isNumber_toDigits m) h rfl
    rwa [Nat.ofDigitChars_ten_toDigits] at hread
  | negSucc m =>
    have hread := ReadsInt.neg (isNumber_toDigits (m + 1)) h rfl
    rwa [Nat.ofDigitChars_ten_toDigits] at hread

theorem readsAtom_ofInt (n : ℤ) {rest : List Char} (h : Ends rest) :
    ReadsAtom (skip (Numeral.ofInt n ++ rest)) (.int n) rest := by
  have hread := readsInt_ofInt n h
  obtain ⟨c, hhead, hc⟩ := hread.head?
  obtain ⟨tail, htail⟩ := List.head?_eq_some_iff.mp hhead
  rw [htail] at hread ⊢
  rw [skip_of_head (isSpace_of_number hc)]
  exact .int hread

theorem readsField_quote {k : String} {v : Value} {cs rest : List Char} (h : Reads cs v rest) :
    ReadsField (quote k.toList ++ ':' :: cs) (k, v) rest := by
  obtain ⟨key, hkey, hread⟩ := readsChars_quote k (':' :: cs)
  have hfield := ReadsField.field (skip_of_head (c := '"') (by decide) key) hread
    (skip_of_head (by decide) cs) h
  rw [String.ofList_toList] at hfield
  rwa [hkey]

mutual

/-- What is encoded is read as the value that it was made from. -/
theorem reads_encode (v : Value) {rest : List Char} (h : Ends rest) :
    Reads (encode v ++ rest) v rest := by
  match v with
  | .null => exact .atom .null
  | .bool true => exact .atom .boolTrue
  | .bool false => exact .atom .boolFalse
  | .int n => exact .atom (readsAtom_ofInt n h)
  | .text s =>
    obtain ⟨cs, hcs, hread⟩ := readsChars_quote s rest
    have hatom := ReadsAtom.text hread
    rw [String.ofList_toList] at hatom
    rw [encode, hcs]
    refine .atom ?_
    rwa [skip_of_head (by decide)]
  | .list [] => exact .list (.empty rfl)
  | .list (v :: vs) =>
    have hitems := readsSeries_encodeItems (v :: vs) (List.cons_ne_nil _ _) rest
    refine .list ?_
    rw [encode, List.cons_append, List.cons_append, List.append_assoc, skip_of_head (by decide)]
    exact .series hitems
  | .object [] => exact .object (.empty rfl)
  | .object (f :: fs) =>
    have hfields := readsSeries_encodeFields (f :: fs) (List.cons_ne_nil _ _) rest
    refine .object ?_
    rw [encode, List.cons_append, List.cons_append, List.append_assoc, skip_of_head (by decide)]
    exact .series hfields

theorem readsSeries_encodeItems (vs : List Value) (hne : vs ≠ []) (rest : List Char) :
    ReadsSeries ']' Reads (encodeItems vs ++ ']' :: rest) vs rest := by
  match vs with
  | [] => exact absurd rfl hne
  | [v] => exact .last (reads_encode v (ends_of_head (by decide) _)) rfl
  | v :: w :: vs =>
    have hitems := readsSeries_encodeItems (w :: vs) (List.cons_ne_nil _ _) rest
    rw [encodeItems, List.append_assoc]
    · exact .next (reads_encode v (ends_of_head (by decide) _)) rfl hitems
    · nofun

theorem readsSeries_encodeFields (fs : List (String × Value)) (hne : fs ≠ [])
    (rest : List Char) : ReadsSeries '}' ReadsField (encodeFields fs ++ '}' :: rest) fs rest := by
  match fs with
  | [] => exact absurd rfl hne
  | [(k, v)] =>
    rw [encodeFields, List.append_assoc]
    exact .last (readsField_quote (reads_encode v (ends_of_head (by decide) _))) rfl
  | (k, v) :: f :: fs =>
    have hfields := readsSeries_encodeFields (f :: fs) (List.cons_ne_nil _ _) rest
    rw [encodeFields, List.append_assoc, List.append_assoc]
    · exact .next (readsField_quote (reads_encode v (ends_of_head (by decide) _))) rfl hfields
    · nofun

end

theorem spells_encode (v : Value) : Spells (encode v) v := by
  have hread : Reads (encode v ++ []) v [] := reads_encode v nofun
  rw [List.append_nil] at hread
  exact ⟨[], hread, rfl⟩

theorem spells_encode_iff {v w : Value} : Spells (encode v) w ↔ w = v := by
  constructor
  · exact fun h => h.unique (spells_encode v)
  · rintro rfl
    exact spells_encode w

/-! ### Control characters -/

/-- A text without control characters. -/
def Printed (cs : List Char) : Prop := ∀ c ∈ cs, 0x20 ≤ c.toNat

instance (cs : List Char) : Decidable (Printed cs) :=
  List.decidableBAll (fun c : Char => 0x20 ≤ c.toNat) cs

theorem printed_append {cs ds : List Char} : Printed (cs ++ ds) ↔ Printed cs ∧ Printed ds :=
  List.forall_mem_append

theorem printed_cons {c : Char} {cs : List Char} :
    Printed (c :: cs) ↔ 0x20 ≤ c.toNat ∧ Printed cs :=
  List.forall_mem_cons

theorem printed_escape (c : Char) : Printed (escape c) := by
  unfold escape
  split_ifs with hquote hn hr ht hb hf hcontrol
  · rcases hquote with rfl | rfl <;> decide
  · decide
  · decide
  · decide
  · decide
  · decide
  · have hhex : ∀ n < 0x20, Printed ('\\' :: 'u' :: Numeral.hex 4 n) := by decide
    exact hhex c.toNat hcontrol
  · intro d hd
    rw [List.mem_singleton.mp hd]
    omega

theorem printed_quote (s : List Char) : Printed (quote s) := by
  rw [quote, printed_append, printed_cons]
  refine ⟨⟨by decide, fun c hc => ?_⟩, by decide⟩
  obtain ⟨d, -, hd⟩ := List.mem_flatMap.mp hc
  exact printed_escape d c hd

theorem printed_toDigits (n : ℕ) : Printed (Nat.toDigits 10 n) := by
  intro c hc
  have hdigit := Nat.isDigit_of_mem_toDigits (by decide) (by decide) hc
  simp only [Char.isDigit, Bool.and_eq_true, decide_eq_true_eq, ge_iff_le] at hdigit
  have hle := UInt32.le_iff_toNat_le.mp hdigit.1
  exact Nat.le_trans (by decide) hle

theorem printed_ofInt (n : ℤ) : Printed (Numeral.ofInt n) := by
  cases n with
  | ofNat m => exact printed_toDigits m
  | negSucc m => exact printed_cons.mpr ⟨by decide, printed_toDigits (m + 1)⟩

mutual

theorem printed_encode (v : Value) : Printed (encode v) := by
  match v with
  | .null | .bool true | .bool false => unfold encode; decide
  | .int n => exact printed_ofInt n
  | .text s => exact printed_quote s.toList
  | .list vs =>
    rw [encode, printed_append, printed_cons]
    exact ⟨⟨by decide, printed_encodeItems vs⟩, by decide⟩
  | .object fs =>
    rw [encode, printed_append, printed_cons]
    exact ⟨⟨by decide, printed_encodeFields fs⟩, by decide⟩

theorem printed_encodeItems (vs : List Value) : Printed (encodeItems vs) := by
  match vs with
  | [] => exact nofun
  | [v] => exact printed_encode v
  | v :: w :: vs =>
    rw [encodeItems, printed_append, printed_cons]
    · exact ⟨printed_encode v, by decide, printed_encodeItems (w :: vs)⟩
    · nofun

theorem printed_encodeFields (fs : List (String × Value)) : Printed (encodeFields fs) := by
  match fs with
  | [] => exact nofun
  | [(k, v)] =>
    rw [encodeFields, printed_append, printed_cons]
    exact ⟨printed_quote k.toList, by decide, printed_encode v⟩
  | (k, v) :: f :: fs =>
    rw [encodeFields, printed_append, printed_append, printed_cons, printed_cons]
    · exact ⟨⟨printed_quote k.toList, by decide, printed_encode v⟩, by decide,
        printed_encodeFields (f :: fs)⟩
    · nofun

end

end Json

end QueryBinding
