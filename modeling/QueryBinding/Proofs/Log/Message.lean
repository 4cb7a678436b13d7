import Mathlib.Data.List.Basic
import QueryBinding.Log.Message
import QueryBinding.Proofs.Text.Numeral
import QueryBinding.Workspace.Sources

/-! Patterns of messages by their pieces. A pattern that spells texts and directives is filled in
by writing the texts as they are and the arguments as the directives ask, in their order. There
have to be as many arguments as directives. The notices of the library are patterns that are
filled in. -/

namespace QueryBinding

namespace Directive

/-- The characters that tell how an argument is written. -/
def conversions : List Char :=
  ['s', 'r', 'a', 'd', 'i', 'u', 'o', 'x', 'X', 'e', 'E', 'f', 'F', 'g', 'G', 'c']

variable (d : Directive)

def flags : List Char :=
  (if d.left then ['-'] else []) ++ (if d.plus then ['+'] else []) ++
    (if d.blank then [' '] else []) ++ (if d.alternate then ['#'] else []) ++
    if d.zeros then ['0'] else []

/-- The width, if there is one. -/
def widthText : List Char := if d.width = 0 then [] else Numeral.ofNat d.width

def precisionText : List Char :=
  match d.precision with
  | none => []
  | some p => '.' :: Numeral.ofNat p

/-- A directive without its percent sign. -/
def spelled (c : Char) : List Char := d.flags ++ d.widthText ++ d.precisionText ++ [c]

/-- The numbers of a directive fit into what they are kept in. -/
structure Fits : Prop where
  width : d.width < Nat.pow 2 63
  precision : ∀ p, d.precision = some p → p < Nat.pow 2 31

theorem flags_subset : d.flags ⊆ ['-', '+', ' ', '#', '0'] := by
  have hflags : ∀ left plus blank alternate zeros : Bool,
      (if left then ['-'] else []) ++ (if plus then ['+'] else []) ++
        (if blank then [' '] else []) ++ (if alternate then ['#'] else []) ++
        (if zeros then ['0'] else []) ⊆ ['-', '+', ' ', '#', '0'] := by decide
  exact hflags ..

theorem convert_index {c : Char} (hc : c ∈ conversions) (i : ℕ) (v : Value) :
    d.convert i c v = d.convert 0 c v := by
  simp only [conversions, List.mem_cons, List.not_mem_nil, or_false] at hc
  obtain rfl | rfl | rfl | rfl | rfl | rfl | rfl | rfl | rfl | rfl | rfl | rfl | rfl | rfl | rfl |
    rfl := hc <;> rfl

end Directive

namespace Message

variable {d : Directive} {c : Char} {stage stage' stage'' : Stage} {cs cs' : List Char}

/-! ### Directives -/

/-- From one stage of a directive the characters lead to another one, and take no argument. -/
def Leads (stage : Stage) (cs : List Char) (stage' : Stage) : Prop :=
  ∀ i s rest, fillFrom (some stage) i s (cs ++ rest) = fillFrom (some stage') (i + cs.length) s rest

theorem Leads.refl (stage : Stage) : Leads stage [] stage := fun _ _ _ => rfl

theorem Leads.trans (h : Leads stage cs stage') (h' : Leads stage' cs' stage'') :
    Leads stage (cs ++ cs') stage'' := by
  intro i s rest
  rw [List.append_assoc, h, h', List.length_append, Nat.add_assoc]

theorem Leads.single (h : ∀ i s, read i s c stage = .ok (.more stage' s)) :
    Leads stage [c] stage' := by
  intro i s rest
  rw [List.singleton_append, fillFrom, h]
  rfl

/-- Digits lead from stage to stage, the number growing. -/
theorem leads_number {first : Stage} (stage : ℕ → Stage) {least bound : ℕ} (hleast : least ≤ 1)
    (hfirst : ∀ m, least ≤ m → m < 10 → m < bound → Leads first [Nat.digitChar m] (stage m))
    (hnext : ∀ n m, m < 10 → 10 * n + m < bound →
      Leads (stage n) [Nat.digitChar m] (stage (10 * n + m)))
    {n : ℕ} (hn : least ≤ n) (hbound : n < bound) : Leads first (Numeral.ofNat n) (stage n) := by
  -- the last digit is what is left when ten is divided by
  induction n using Nat.strongRecOn with
  | ind n ih =>
    by_cases h : n < 10
    · rw [Numeral.ofNat, Nat.toDigits_of_lt_base h]
      exact hfirst n hn h hbound
    · have hsplit : Numeral.ofNat n = Numeral.ofNat (n / 10) ++ [Nat.digitChar (n % 10)] :=
        Nat.toDigits_of_base_le (by omega) (by omega)
      have hlast := hnext (n / 10) (n % 10) (by omega) (by omega)
      rw [Nat.div_add_mod] at hlast
      rw [hsplit]
      exact (ih (n / 10) (by omega) (by omega) (by omega)).trans hlast

theorem digit?_digitChar {m : ℕ} (h : m < 10) : digit? (Nat.digitChar m) = some m := by
  revert m
  decide

theorem leads_flags (d : Directive) :
    Leads (.flags {}) d.flags (.flags { d with width := 0, precision := none }) := by
  obtain ⟨left, plus, blank, alternate, zeros, -, -⟩ := d
  cases left <;> cases plus <;> cases blank <;> cases alternate <;> cases zeros <;>
    exact fun _ _ _ => rfl

/-- The first digit of a width is no zero, which would be a flag. -/
theorem leads_width (hd : d.width = 0) {n : ℕ} (hn : 1 ≤ n) (hbound : n < Nat.pow 2 63) :
    Leads (.flags d) (Numeral.ofNat n) (.width { d with width := n }) := by
  have hdigit : ∀ d' : Directive, ∀ m, m < 10 → 10 * d'.width + m < Nat.pow 2 63 → ∀ i s,
      readWidth i s (Nat.digitChar m) d' =
        .ok (.more (.width { d' with width := 10 * d'.width + m }) s) := by
    intro d' m hm hfits i s
    rw [readWidth, digit?_digitChar hm]
    exact if_neg (Nat.not_le.mpr hfits)
  refine leads_number (fun n => .width { d with width := n }) (Nat.le_refl 1) ?_ ?_ hn hbound
  · intro m hpos hm hfits
    refine Leads.single fun i s => ?_
    have hflag : read i s (Nat.digitChar m) (.flags d) = readWidth i s (Nat.digitChar m) d := by
      obtain rfl | rfl | rfl | rfl | rfl | rfl | rfl | rfl | rfl : m = 1 ∨ m = 2 ∨ m = 3 ∨ m = 4 ∨
        m = 5 ∨ m = 6 ∨ m = 7 ∨ m = 8 ∨ m = 9 := by omega
      all_goals rfl
    have hread := hdigit d m hm (by omega) i s
    rw [hd, Nat.mul_zero, Nat.zero_add] at hread
    rw [hflag, hread]
  · exact fun n m hm hfits => Leads.single fun i s => hdigit { d with width := n } m hm hfits i s

/-- Behind a point there is a precision. -/
theorem leads_precision {n : ℕ} (hbound : n < Nat.pow 2 31) :
    Leads (.point { d with precision := some 0 }) (Numeral.ofNat n)
      (.precision { d with precision := some n }) := by
  have hdigit : ∀ k m, m < 10 → 10 * k + m < Nat.pow 2 31 → ∀ i s,
      readPrecision i s (Nat.digitChar m) { d with precision := some k } =
        .ok (.more (.precision { d with precision := some (10 * k + m) }) s) := by
    intro k m hm hfits i s
    rw [readPrecision, digit?_digitChar hm]
    exact if_neg (Nat.not_le.mpr hfits)
  refine leads_number (fun n => .precision { d with precision := some n }) (Nat.zero_le 1) ?_ ?_
    (Nat.zero_le n) hbound
  · intro m _ hm hfits
    refine Leads.single fun i s => ?_
    have hstar : ∀ m < 10, Nat.digitChar m ≠ '*' := by decide
    have hread := hdigit 0 m hm (by omega) i s
    rw [Nat.mul_zero, Nat.zero_add] at hread
    rw [← hread, read, readFirstOfPrecision, if_neg (hstar m hm)]
  · exact fun n m hm hfits => Leads.single fun i s => hdigit n m hm hfits i s

/-- The stages at which a directive may end. -/
def AtEnd (d : Directive) (stage : Stage) : Prop :=
  stage = .flags d ∨ stage = .width d ∨ stage = .precision d

theorem read_of_atEnd (h : AtEnd d stage) (hc : c ∈ Directive.conversions) (i : ℕ) (s : Supply) :
    read i s c stage = readEnd i s c d := by
  simp only [Directive.conversions, List.mem_cons, List.not_mem_nil, or_false] at hc
  obtain rfl | rfl | rfl := h <;>
    obtain rfl | rfl | rfl | rfl | rfl | rfl | rfl | rfl | rfl | rfl | rfl | rfl | rfl | rfl | rfl |
      rfl := hc <;> rfl

/-- A directive is read up to the character that ends it. -/
theorem exists_leads (hd : d.Fits) : ∃ stage, AtEnd d stage ∧
    Leads (.flags {}) (d.flags ++ d.widthText ++ d.precisionText) stage := by
  obtain ⟨stage, hstage, hwidth⟩ : ∃ stage,
      (stage = .flags { d with precision := none } ∨ stage = .width { d with precision := none }) ∧
        Leads (.flags { d with width := 0, precision := none }) d.widthText stage := by
    rw [Directive.widthText]
    split_ifs with h
    · exact ⟨_, .inl rfl, by rw [← h]; exact .refl _⟩
    · exact ⟨_, .inr rfl, leads_width rfl (Nat.pos_of_ne_zero h) hd.width⟩
  have hfront := (leads_flags d).trans hwidth
  cases hp : d.precision with
  | none =>
    have hd' : { d with precision := none } = d := by rw [← hp]
    rw [hd'] at hstage
    refine ⟨stage, hstage.imp_right .inl, ?_⟩
    rw [Directive.precisionText, hp]
    exact hfront.trans (.refl _)
  | some p =>
    have hd' : { d with precision := some p } = d := by rw [← hp]
    have hpoint : Leads stage ['.'] (.point { d with precision := some 0 }) := by
      obtain rfl | rfl := hstage <;> exact .single fun _ _ => rfl
    have hprecision : Leads (.point { d with precision := some 0 }) (Numeral.ofNat p)
        (.precision { d with precision := some p }) := leads_precision (hd.precision p hp)
    refine ⟨.precision d, .inr (.inr rfl), ?_⟩
    rw [hd'] at hprecision
    rw [Directive.precisionText, hp]
    exact hfront.trans (hpoint.trans hprecision)

theorem fillFrom_opened (hc : c ≠ '%' ∧ c ≠ '(') (i : ℕ) (s : Supply) (cs : List Char) :
    fillFrom (some .opened) i s (c :: cs) = fillFrom (some (.flags {})) i s (c :: cs) := by
  have hread : readOpened i s c = readFlag i s c {} := by
    unfold readOpened
    split
    · exact absurd rfl hc.1
    · exact absurd rfl hc.2
    · rfl
  rw [fillFrom, fillFrom, read, read, hread]

/-- No character of a directive is one that its percent sign could go with otherwise. -/
theorem ne_of_mem_spelled (hc : c ∈ Directive.conversions) {x : Char} (hx : x ∈ d.spelled c) :
    x ≠ '%' ∧ x ≠ '(' := by
  have hdigits : ∀ n, x ∈ Numeral.ofNat n → x ≠ '%' ∧ x ≠ '(' := by
    intro n hx
    have hdigit := Numeral.isDigit_of_mem_ofNat hx
    constructor <;> rintro rfl <;> cases hdigit
  have hflags : ∀ x ∈ ['-', '+', ' ', '#', '0'], x ≠ '%' ∧ x ≠ '(' := by simp
  have hends : ∀ x ∈ Directive.conversions, x ≠ '%' ∧ x ≠ '(' := by simp [Directive.conversions]
  rw [Directive.spelled, List.mem_append, List.mem_append, List.mem_append] at hx
  obtain ((hx | hx) | hx) | hx := hx
  · exact hflags x (Directive.flags_subset d hx)
  · rw [Directive.widthText] at hx
    split_ifs at hx
    · cases hx
    · exact hdigits _ hx
  · rw [Directive.precisionText] at hx
    split at hx
    · cases hx
    · rcases List.mem_cons.mp hx with rfl | hx
      · decide
      · exact hdigits _ hx
  · obtain rfl := List.mem_singleton.mp hx
    exact hends x hc

/-- A directive writes the next argument. -/
theorem fillFrom_spelled (hd : d.Fits) (hc : c ∈ Directive.conversions) (i : ℕ) (s : Supply)
    (rest : List Char) : fillFrom (some .opened) i s (d.spelled c ++ rest) =
      match s.next with
      | .error e => .error e
      | .ok (v, s) => match d.convert 0 c v with
        | .error e => .error e
        | .ok text => join text (fillFrom none (i + (d.spelled c).length) s rest) := by
  obtain ⟨x, xs, hspelled⟩ : ∃ x xs, d.spelled c = x :: xs := by
    refine List.exists_cons_of_ne_nil ?_
    simp [Directive.spelled]
  have hx : x ≠ '%' ∧ x ≠ '(' := ne_of_mem_spelled hc (hspelled ▸ List.mem_cons_self)
  have hopened : fillFrom (some .opened) i s (d.spelled c ++ rest) =
      fillFrom (some (.flags {})) i s (d.spelled c ++ rest) := by
    rw [hspelled]
    exact fillFrom_opened hx i s _
  obtain ⟨stage, hend, hleads⟩ := exists_leads hd
  rw [hopened, Directive.spelled, List.append_assoc, hleads, List.singleton_append, fillFrom,
    read_of_atEnd hend hc, readEnd]
  cases s.next with
  | error e => rfl
  | ok next =>
    obtain ⟨v, s⟩ := next
    simp only [Directive.convert_index d hc]
    cases d.convert 0 c v with
    | error e => rfl
    | ok text =>
      have hlength : (d.flags ++ d.widthText ++ d.precisionText ++ [c]).length =
          (d.flags ++ d.widthText ++ d.precisionText).length + 1 := List.length_append
      rw [hlength, Nat.add_assoc]
      rfl

/-! ### Pieces -/

/-- A text that stands for itself, or a directive for the next argument. -/
inductive Piece where
  | text (cs : List Char)
  | argument (d : Directive) (c : Char)

namespace Piece

/-- Percent signs of a text are doubled. -/
def spelled : Piece → List Char
  | text cs => cs.flatMap fun c => if c = '%' then ['%', '%'] else [c]
  | argument d c => '%' :: d.spelled c

def Proper : Piece → Prop
  | text _ => True
  | argument d c => d.Fits ∧ c ∈ Directive.conversions

end Piece

def pattern (ps : List Piece) : List Char := ps.flatMap Piece.spelled

/-- Writes texts and arguments in their order. -/
def write : List Piece → List Value → Except MessageError (List Char)
  | [], [] => .ok []
  | [], _ :: _ => .error .tooManyArguments
  | .text cs :: ps, args => (write ps args).map (cs ++ ·)
  | .argument _ _ :: _, [] => .error .tooFewArguments
  | .argument d c :: ps, v :: args =>
    match d.convert 0 c v with
    | .error e => .error e
    | .ok text => join text (write ps args)

theorem fillFrom_text (cs : List Char) (i : ℕ) (s : Supply) (rest : List Char) :
    ∃ i', fillFrom none i s ((Piece.text cs).spelled ++ rest) =
      (fillFrom none i' s rest).map (cs ++ ·) := by
  induction cs generalizing i with
  | nil =>
    refine ⟨i, ?_⟩
    show fillFrom none i s rest = _
    cases fillFrom none i s rest <;> rfl
  | cons c cs ih =>
    rw [Piece.spelled, List.flatMap_cons, List.append_assoc]
    split_ifs with hc
    · obtain ⟨i', hfill⟩ := ih (i + 2)
      refine ⟨i', ?_⟩
      show join (some ['%']) (fillFrom none (i + 2) s ((Piece.text cs).spelled ++ rest)) = _
      rw [hfill, hc]
      cases fillFrom none i' s rest <;> rfl
    · obtain ⟨i', hfill⟩ := ih (i + 1)
      refine ⟨i', ?_⟩
      rw [List.singleton_append, fillFrom, if_neg hc]
      show (fillFrom none (i + 1) s ((Piece.text cs).spelled ++ rest)).map (c :: ·) = _
      rw [hfill]
      cases fillFrom none i' s rest <;> rfl

/-- A pattern of pieces is filled in piece by piece. -/
theorem fillFrom_pattern {ps : List Piece} (h : ∀ p ∈ ps, p.Proper) (i : ℕ) (args : List Value) :
    fillFrom none i ⟨none, args⟩ (pattern ps) = write ps args := by
  induction ps generalizing i args with
  | nil => cases args <;> rfl
  | cons p ps ih =>
    have hps : ∀ p ∈ ps, p.Proper := fun p hp => h p (List.mem_cons_of_mem _ hp)
    rw [pattern, List.flatMap_cons]
    cases p with
    | text cs =>
      obtain ⟨i', hfill⟩ := fillFrom_text cs i ⟨none, args⟩ (pattern ps)
      exact hfill.trans (by rw [ih hps]; rfl)
    | argument d c =>
      obtain ⟨hd, hc⟩ := h _ List.mem_cons_self
      show fillFrom (some .opened) (i + 1) ⟨none, args⟩ (d.spelled c ++ pattern ps) = _
      rw [fillFrom_spelled hd hc]
      cases args with
      | nil => rfl
      | cons v args =>
        simp only [Supply.next, write]
        cases d.convert 0 c v with
        | error e => rfl
        | ok text => simp only [ih hps]

/-- Arguments that are no single object are written in their order. -/
theorem fill_pattern {text : String} {ps : List Piece} (htext : text.toList = pattern ps)
    (h : ps.Forall Piece.Proper) {args : List Value} (hne : args ≠ [])
    (hargs : supply args = ⟨none, args⟩) : fill text args = (write ps args).map String.ofList := by
  cases args with
  | nil => exact absurd rfl hne
  | cons v args =>
    show (fillFrom none 0 (supply (v :: args)) text.toList).map _ = _
    rw [hargs, htext, fillFrom_pattern (List.forall_iff_forall_mem.mp h)]

/-! ### The notices -/

namespace Piece

def shown : Piece := .argument {} 's'

def decimal : Piece := .argument {} 'd'

theorem proper_shown : shown.Proper := ⟨⟨by decide, nofun⟩, by decide⟩

theorem proper_decimal : decimal.Proper := ⟨⟨by decide, nofun⟩, by decide⟩

end Piece

theorem write_shown (ps : List Piece) (t : String) (args : List Value) :
    write (.shown :: ps) (.text t :: args) = (write ps args).map (t.toList ++ ·) := by
  have hconvert : ({} : Directive).convert 0 's' (.text t) = .ok (some t.toList) := by
    simp [Directive.convert, Directive.convertText, Value.hasLongNumber, Value.display,
      Directive.fit, Except.map]
  rw [Piece.shown, write, hconvert]
  cases write ps args <;> rfl

/-- A number that is short enough to be written into a message. -/
def Tellable (n : ℤ) : Prop := (Numeral.ofNat n.natAbs).length ≤ Numeral.maxDigits

theorem write_decimal (ps : List Piece) {n : ℤ} (hn : Tellable n) (args : List Value) :
    write (.decimal :: ps) (.int n :: args) = (write ps args).map (Numeral.ofInt n ++ ·) := by
  have hshort : (Value.int n).hasLongNumber = false := decide_eq_false (Nat.not_lt.mpr hn)
  have hconvert : ({} : Directive).convert 0 'd' (.int n) =
      .ok (some (({} : Directive).sign n ++ Numeral.ofNat n.natAbs)) := by
    simp [Directive.convert, Directive.convertInteger, Value.number?, hshort, Directive.integer,
      Directive.fitNumber, Except.map]
  have hwritten : ({} : Directive).sign n ++ Numeral.ofNat n.natAbs = Numeral.ofInt n := by
    cases n with
    | ofNat n => rfl
    | negSucc n => exact congrArg (· ++ Numeral.ofNat (n + 1)) (if_pos (Int.negSucc_lt_zero n))
  rw [Piece.decimal, write, hconvert, hwritten]
  cases write ps args <;> rfl

end Message

namespace Action

open Message Message.Piece

theorem fill_cacheNotice {size : ℤ} (h : Tellable size) :
    fill "Created template cache with max_size=%d" [.int size] =
      .ok (cacheNotice size).message := by
  have htext : "Created template cache with max_size=%d".toList =
      pattern [.text "Created template cache with max_size=".toList, .decimal] := by
    decide +kernel
  rw [fill_pattern htext ⟨trivial, proper_decimal⟩ (List.cons_ne_nil _ _) rfl, write,
    write_decimal _ h]
  refine congrArg Except.ok ?_
  simp only [List.append_nil, String.ofList_append, String.ofList_toList]
  rfl

theorem fill_colonNotice {offset : ℕ} (h : Tellable offset) :
    fill "Treating ':' at offset %d as a literal colon" [.int offset] =
      .ok (colonNotice offset).message := by
  have htext : "Treating ':' at offset %d as a literal colon".toList =
      pattern [.text "Treating ':' at offset ".toList, .decimal,
        .text " as a literal colon".toList] := by
    decide +kernel
  rw [fill_pattern htext ⟨trivial, proper_decimal, trivial⟩ (List.cons_ne_nil _ _) rfl, write,
    write_decimal _ h]
  refine congrArg Except.ok ?_
  simp only [List.append_nil, String.ofList_append, String.ofList_toList, ← String.append_assoc]
  rfl

theorem fill_loadNotice (medium : Medium) (function place : String) {length : ℕ}
    (h : Tellable length) :
    fill ("Loaded " ++ medium.label ++ " %s (%d characters)") [.text place, .int length] =
      .ok (loadNotice medium function place length).message := by
  have htext : ("Loaded " ++ medium.label ++ " %s (%d characters)").toList =
      pattern [.text ("Loaded " ++ medium.label ++ " ").toList, .shown, .text " (".toList,
        .decimal, .text " characters)".toList] := by
    cases medium <;> decide +kernel
  rw [fill_pattern htext ⟨trivial, proper_shown, trivial, proper_decimal, trivial⟩
    (List.cons_ne_nil _ _) rfl, write, write_shown, write, write_decimal _ h]
  refine congrArg Except.ok ?_
  simp only [List.append_nil, String.ofList_append, String.ofList_toList, ← String.append_assoc]
  rfl

theorem fill_numberWarning (w : Environment.Warning) (h : Tellable w.fallback) :
    fill "Invalid integer value for %s: %s, using default %d"
        [.text w.setting.label, .text w.text, .int w.fallback] =
      .ok (numberWarning w).message := by
  have htext : "Invalid integer value for %s: %s, using default %d".toList =
      pattern [.text "Invalid integer value for ".toList, .shown, .text ": ".toList, .shown,
        .text ", using default ".toList, .decimal] := by
    decide +kernel
  rw [fill_pattern htext ⟨trivial, proper_shown, trivial, proper_shown, trivial, proper_decimal⟩
    (List.cons_ne_nil _ _) rfl, write, write_shown, write, write_shown, write, write_decimal _ h]
  refine congrArg Except.ok ?_
  simp only [List.append_nil, String.ofList_append, String.ofList_toList, ← String.append_assoc]
  rfl

end Action

end QueryBinding
