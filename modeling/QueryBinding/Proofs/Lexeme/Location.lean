import Mathlib.Data.List.Induction
import QueryBinding.Proofs.Lexeme.Grammar
import QueryBinding.Proofs.Token

/-! Where lexemes stand. The lexemes of a list lie one behind the other and
cover the text that they spell. In a proper list each lexeme is what the text
says at its offset, told by the parity of apostrophes and colons before it, and
every placeholder and every colon that the text tells of is a lexeme. -/

namespace QueryBinding.Lexeme

open Token

/-- Lexemes with their offsets, the first of them at `offset`. -/
def located (offset : Nat) : List Lexeme → List (Nat × Lexeme)
  | [] => []
  | l :: ls => (offset, l) :: located (offset + l.width) ls

theorem length_flatten_cons (l : Lexeme) (ls : List Lexeme) :
    (flatten (l :: ls)).length = l.width + (flatten ls).length := by
  rw [flatten_cons, List.length_append, length_source]

theorem width_pos (l : Lexeme) : 0 < l.width := by cases l <;> simp [width]

theorem mem_located_iff {offset i : Nat} {l : Lexeme} {ls : List Lexeme} :
    (i, l) ∈ located offset ls ↔
      ∃ before after, ls = before ++ l :: after ∧ i = offset + (flatten before).length := by
  induction ls generalizing offset with
  | nil => simp [located]
  | cons m ls ih =>
    rw [located, List.mem_cons, ih]
    constructor
    · rintro (h | ⟨before, after, rfl, rfl⟩)
      · cases h
        exact ⟨[], ls, rfl, rfl⟩
      · exact ⟨m :: before, after, rfl, by rw [length_flatten_cons, Nat.add_assoc]⟩
    · rintro ⟨before, after, heq, rfl⟩
      cases before with
      | nil => cases heq; exact Or.inl rfl
      | cons b before =>
        cases heq
        exact Or.inr ⟨before, after, rfl, by rw [length_flatten_cons, Nat.add_assoc]⟩

theorem le_of_mem_located {offset i : Nat} {l : Lexeme} {ls : List Lexeme}
    (h : (i, l) ∈ located offset ls) : offset ≤ i := by
  obtain ⟨before, after, -, rfl⟩ := mem_located_iff.mp h
  exact Nat.le_add_right _ _

theorem end_le_of_mem_located {offset i : Nat} {l : Lexeme} {ls : List Lexeme}
    (h : (i, l) ∈ located offset ls) : i + l.width ≤ offset + (flatten ls).length := by
  obtain ⟨before, after, rfl, rfl⟩ := mem_located_iff.mp h
  rw [flatten_append, List.length_append, length_flatten_cons]
  omega

/-- A lexeme ends before the next one begins. -/
theorem pairwise_located (offset : Nat) (ls : List Lexeme) :
    (located offset ls).Pairwise fun a b => a.1 + a.2.width ≤ b.1 := by
  induction ls generalizing offset with
  | nil => exact List.Pairwise.nil
  | cons l ls ih => exact List.Pairwise.cons (fun e he => le_of_mem_located he) (ih _)

/-- Every offset of the text belongs to a lexeme. -/
theorem exists_located {offset i : Nat} {ls : List Lexeme} (hi : offset ≤ i)
    (h : i < offset + (flatten ls).length) :
    ∃ j l, (j, l) ∈ located offset ls ∧ j ≤ i ∧ i < j + l.width := by
  induction ls generalizing offset with
  | nil => exact absurd h (by simp; omega)
  | cons l ls ih =>
    by_cases hl : i < offset + l.width
    · exact ⟨offset, l, List.mem_cons_self, hi, hl⟩
    · rw [length_flatten_cons] at h
      obtain ⟨j, m, hm, hj, hlt⟩ := @ih (offset + l.width) (by omega) (by omega)
      exact ⟨j, m, List.mem_cons_of_mem _ hm, hj, hlt⟩

/-- Every offset of the text belongs to one lexeme only. -/
theorem located_unique {offset i j j' : Nat} {l l' : Lexeme} {ls : List Lexeme}
    (h : (j, l) ∈ located offset ls) (h' : (j', l') ∈ located offset ls) (hj : j ≤ i)
    (hi : i < j + l.width) (hj' : j' ≤ i) (hi' : i < j' + l'.width) : (j, l) = (j', l') := by
  induction ls generalizing offset with
  | nil => cases h
  | cons m ls ih =>
    rcases List.mem_cons.mp h with he | h <;> rcases List.mem_cons.mp h' with he' | h'
    · rw [he, he']
    · cases he
      have := le_of_mem_located h'
      omega
    · cases he'
      have := le_of_mem_located h
      omega
    · exact ih h h'

/-- A lexeme is written where it stands. -/
theorem take_drop_flatten {i : Nat} {l : Lexeme} {ls : List Lexeme} (h : (i, l) ∈ located 0 ls) :
    ((flatten ls).drop i).take l.width = l.source := by
  obtain ⟨before, after, rfl, rfl⟩ := mem_located_iff.mp h
  rw [Nat.zero_add, flatten_append, flatten_cons, List.drop_left, ← length_source, List.take_left]

/-! ### The parity of apostrophes -/

/-- Whether what follows a list stands inside a literal. -/
def turns (inside : Bool) (ls : List Lexeme) : Bool := ls.foldl turn inside

theorem proper_append {inside : Bool} {ls ms : List Lexeme} (h : Proper inside (ls ++ ms)) :
    Proper (turns inside ls) ms := by
  induction ls generalizing inside with
  | nil => exact h
  | cons l ls ih => exact ih h.2.2

theorem count_apostrophe_eq_zero {name : List Char} (h : Identifier.IsName name) :
    name.count '\'' = 0 := by
  rw [List.count_eq_zero]
  intro hm
  exact Bool.eq_false_iff.mp Identifier.not_isWord_apostrophe (isWord_of_isName h _ hm)

theorem turn_eq_parity {inside : Bool} {l : Lexeme} (h : l.Fits inside) :
    l.turn inside = (inside ^^ l.source.count '\'' % 2 == 1) := by
  cases l with
  | char c =>
    obtain ⟨rfl, hc, -, -⟩ := h
    simp [turn, source, hc]
  | quoted c => by_cases hc : c = '\'' <;> simp [turn, source, hc]
  | named name =>
    obtain ⟨rfl, hn⟩ := h
    simp [turn, source, count_apostrophe_eq_zero hn]
  | _ => cases h; rfl

theorem odd_add (a b : Nat) : ((a + b) % 2 == 1) = ((a % 2 == 1) ^^ (b % 2 == 1)) := by
  rcases Nat.mod_two_eq_zero_or_one a with ha | ha <;>
    rcases Nat.mod_two_eq_zero_or_one b with hb | hb <;> simp [Nat.add_mod, ha, hb]

/-- A literal is open after an odd number of apostrophes. -/
theorem turns_eq_parity {inside : Bool} {ls ms : List Lexeme} (h : Proper inside (ls ++ ms)) :
    turns inside ls = (inside ^^ (flatten ls).count '\'' % 2 == 1) := by
  induction ls generalizing inside with
  | nil => simp [turns]
  | cons l ls ih =>
    have ht : turns inside (l :: ls) = turns (l.turn inside) ls := rfl
    rw [ht, ih h.2.2, turn_eq_parity h.1, flatten_cons, List.count_append, odd_add, Bool.xor_assoc]

section Site

variable {before after : List Lexeme} {l : Lexeme}

theorem getElem?_site (before after : List Lexeme) (l : Lexeme) (k : Nat) :
    (flatten (before ++ l :: after))[(flatten before).length + k]? =
      (l.source ++ flatten after)[k]? := by
  rw [flatten_append, flatten_cons, List.getElem?_append_right (Nat.le_add_right _ _),
    Nat.add_sub_cancel_left]

theorem unquoted_site_iff (h : Proper false (before ++ l :: after)) :
    Unquoted (flatten (before ++ l :: after)) (flatten before).length ↔
      turns false before = false := by
  rw [Unquoted, flatten_append, List.take_left, turns_eq_parity h]
  simp

/-- What closes no literal and no even run ends in no colon. -/
theorem getLast?_ne_colon {inside : Bool} (hf : l.Fits inside) (ht : l.turn inside = false)
    (hcast : l ≠ cast) (hcolon : l ≠ colon) : l.source.getLast? ≠ some ':' := by
  cases l with
  | char c => simpa [source] using hf.2.2.2
  | quoted c =>
    rcases hf with rfl | rfl
    · by_cases hc : c = '\'' <;> simp_all [turn, source]
    · simp [source]
  | positional => simp [source]
  | named name =>
    intro hl
    obtain ⟨rfl, hn⟩ := hf
    cases name with
    | nil => exact hn
    | cons c cs =>
      rw [source, List.getLast?_cons_cons] at hl
      have hw := isWord_of_isName hn _ (List.mem_of_getLast? hl)
      exact Bool.eq_false_iff.mp Identifier.not_isWord_colon hw
  | cast => exact absurd rfl hcast
  | colon => exact absurd rfl hcolon

/-- Outside literals an even number of colons stands before a lexeme that begins
with a colon, since they are all paired. -/
theorem colons_site (h : Proper false (before ++ l :: after)) (hl : l.source.head? = some ':')
    (ht : turns false before = false) :
    ∃ first, Colons (flatten (before ++ l :: after)) first (flatten before).length ∧
      ((flatten before).length - first) % 2 = 0 := by
  induction before using List.reverseRecOn generalizing l after with
  | nil => exact ⟨0, Colons.none (by simp), rfl⟩
  | append_singleton before m ih =>
    rw [List.append_assoc, List.singleton_append] at h ⊢
    have hm := proper_append h
    have hturn : m.turn (turns false before) = false := by simpa [turns] using ht
    have hlen : (flatten (before ++ [m])).length = (flatten before).length + m.width := by
      rw [flatten_append, List.length_append, flatten_cons, flatten_nil, List.append_nil,
        length_source]
    by_cases hcast : m = cast
    · -- one more pair
      subst hcast
      obtain ⟨first, hc, heven⟩ := ih h rfl (by simpa [turn] using hturn)
      have hle := hc.le
      refine ⟨first, ?_, by rw [hlen, width]; omega⟩
      rw [hlen]
      exact (hc.snoc (getElem?_site before _ cast 0)).snoc (getElem?_site before _ cast 1)
    · by_cases hcolon : m = colon
      · -- a single colon does not stand before another one
        subst hcolon
        refine absurd rfl (hm.2.1 ':' ?_).1
        rw [flatten_cons, List.head?_append, hl]
        rfl
      · refine ⟨_, Colons.none fun j hj hc => ?_, by rw [Nat.sub_self]⟩
        have hlast := getLast?_ne_colon hm.1 hturn hcast hcolon
        have hw := width_pos m
        have hj' : j = (flatten before).length + (m.width - 1) := by omega
        rw [hj', getElem?_site, List.getElem?_append_left (by rw [length_source]; omega)] at hc
        rw [List.getLast?_eq_getElem?, length_source] at hlast
        exact hlast hc

theorem wordAt_site {name : List Char} (hn : Identifier.IsName name)
    (he : ∀ c, (flatten after).head? = some c → Identifier.isWord c = false) :
    wordAt (flatten (before ++ named name :: after)) ((flatten before).length + 1) = name := by
  have hd : (flatten (before ++ named name :: after)).drop ((flatten before).length + 1) =
      name ++ flatten after := by
    rw [flatten_append, flatten_cons, List.drop_append, List.drop_of_length_le (by omega)]
    simp [source]
  rw [wordAt, hd, List.takeWhile_append_of_pos (isWord_of_isName hn)]
  cases hr : flatten after with
  | nil => simp
  | cons c cs => simp [he c (by rw [hr]; rfl)]

end Site

/-! ### What the text says -/

/-- What the text says where a lexeme stands. -/
def Describes (cs : List Char) (i : Nat) : Lexeme → Prop
  | char c => cs[i]? = some c ∧ c ≠ '?' ∧ c ≠ ':'
  | quoted c => cs[i]? = some c ∧ (Unquoted cs i → c = '\'')
  | positional => Positional cs i
  | named name => Named cs i ∧ name = wordAt cs (i + 1)
  | cast => cs[i]? = some ':' ∧ cs[i + 1]? = some ':' ∧
      ∃ first, Colons cs first i ∧ (i - first) % 2 = 0
  | colon => Bare cs i

theorem describes_site {before after : List Lexeme} {l : Lexeme}
    (h : Proper false (before ++ l :: after)) :
    Describes (flatten (before ++ l :: after)) (flatten before).length l := by
  obtain ⟨hf, he, -⟩ := proper_append h
  have hu := unquoted_site_iff h
  have h0 := getElem?_site before after l 0
  have h1 := getElem?_site before after l 1
  cases l with
  | char c => exact ⟨h0, hf.2.2⟩
  | quoted c =>
    refine ⟨h0, fun hq => ?_⟩
    simpa [hu.mp hq, Fits] using hf
  | positional => exact ⟨h0, hu.mpr hf⟩
  | named name =>
    obtain ⟨first, hc, heven⟩ := colons_site h rfl hf.1
    obtain ⟨ht, hn⟩ := hf
    cases name with
    | nil => exact hn.elim
    | cons c name =>
      have hne : c ≠ ':' := by
        rintro rfl
        exact Bool.eq_false_iff.mp Identifier.not_isWord_colon
          (Identifier.isWord_of_isStart hn.1)
      refine ⟨⟨hu.mpr ht, endsOddRun_of_even hc heven h0 ?_, c, h1, hn.1⟩, (wordAt_site hn he).symm⟩
      rw [h1]
      simpa [source] using hne
  | cast => exact ⟨h0, h1, colons_site h rfl hf⟩
  | colon =>
    obtain ⟨first, hc, heven⟩ := colons_site h rfl hf
    have hnext : ∀ c, (flatten (before ++ colon :: after))[(flatten before).length + 1]? = some c →
        c ≠ ':' ∧ Identifier.isStart c = false :=
      fun c hc => he c (by rw [List.head?_eq_getElem?, ← hc, h1]; rfl)
    refine ⟨hu.mpr hf, endsOddRun_of_even hc heven h0 fun hn => (hnext _ hn).1 rfl, ?_⟩
    rintro ⟨c, hn, hs⟩
    rw [(hnext c hn).2] at hs
    cases hs

/-- Every lexeme of a scan is what the text says at its offset. -/
theorem describes_of_mem_located {cs : List Char} {i : Nat} {l : Lexeme}
    (h : (i, l) ∈ located 0 (scan cs)) : Describes cs i l := by
  obtain ⟨before, after, heq, rfl⟩ := mem_located_iff.mp h
  have hp := proper_scan cs
  rw [heq] at hp
  have := describes_site hp
  rwa [← heq, flatten_scan, ← Nat.zero_add (flatten before).length] at this

/-- The lexeme to which an offset of the text belongs. -/
theorem exists_mem_located_scan {cs : List Char} {i : Nat} (h : i < cs.length) :
    ∃ j l, (j, l) ∈ located 0 (scan cs) ∧ j ≤ i ∧ i < j + l.width :=
  exists_located (Nat.zero_le i) (by rwa [flatten_scan, Nat.zero_add])

/-- Behind the colon of a name stand word characters. -/
theorem isWord_of_named {cs name : List Char} {i j : Nat} {c : Char}
    (h : (j, named name) ∈ located 0 (scan cs)) (hj : j < i) (hi : i < j + (named name).width)
    (hc : cs[i]? = some c) : Identifier.isWord c = true := by
  obtain ⟨-, rfl⟩ := describes_of_mem_located h
  obtain ⟨k, rfl⟩ : ∃ k, i = j + 1 + k := ⟨i - (j + 1), by omega⟩
  rw [← getElem?_wordAt (by rw [width] at hi; omega)] at hc
  exact isWord_of_mem_wordAt (List.mem_of_getElem? hc)

/-- A question mark or a colon outside literals begins a placeholder, a cast or a
bare colon, or it is the second colon of a cast. -/
theorem located_of_unquoted {cs : List Char} {i : Nat} {c : Char} (hu : Unquoted cs i)
    (hc : cs[i]? = some c) (hs : c = '?' ∨ c = ':') :
    (c = '?' ∧ (i, positional) ∈ located 0 (scan cs)) ∨
      (c = ':' ∧ ((∃ name, (i, named name) ∈ located 0 (scan cs)) ∨
        (i, colon) ∈ located 0 (scan cs) ∨ (i, cast) ∈ located 0 (scan cs) ∨
        ∃ j, i = j + 1 ∧ (j, cast) ∈ located 0 (scan cs))) := by
  have hlt : i < cs.length := (List.getElem?_eq_some_iff.mp hc).1
  obtain ⟨j, l, hm, hj, hi⟩ := exists_mem_located_scan hlt
  have hd := describes_of_mem_located hm
  cases l with
  | char d =>
    obtain rfl : i = j := by simp only [width] at hi; omega
    obtain ⟨hd, h1, h2⟩ := hd
    obtain rfl : d = c := Option.some.inj (hd.symm.trans hc)
    exact absurd hs (by simp [h1, h2])
  | quoted d =>
    obtain rfl : i = j := by simp only [width] at hi; omega
    obtain rfl : d = c := Option.some.inj (hd.1.symm.trans hc)
    rcases hs with rfl | rfl <;> exact absurd (hd.2 hu) (by decide)
  | positional =>
    obtain rfl : i = j := by simp only [width] at hi; omega
    exact Or.inl ⟨Option.some.inj (hc.symm.trans hd.1), hm⟩
  | named name =>
    rcases Nat.lt_or_eq_of_le hj with hlt | rfl
    · have hw := isWord_of_named hm hlt hi hc
      rcases hs with rfl | rfl
      · exact absurd hw (Bool.eq_false_iff.mp Identifier.not_isWord_question)
      · exact absurd hw (Bool.eq_false_iff.mp Identifier.not_isWord_colon)
    · exact Or.inr ⟨Option.some.inj (hc.symm.trans hd.1.run.colon), Or.inl ⟨name, hm⟩⟩
  | cast =>
    rw [width] at hi
    rcases Nat.lt_or_eq_of_le hj with hlt | rfl
    · obtain rfl : i = j + 1 := by omega
      exact Or.inr ⟨Option.some.inj (hc.symm.trans hd.2.1),
        Or.inr (Or.inr (Or.inr ⟨j, rfl, hm⟩))⟩
    · exact Or.inr ⟨Option.some.inj (hc.symm.trans hd.1), Or.inr (Or.inr (Or.inl hm))⟩
  | colon =>
    obtain rfl : i = j := by simp only [width] at hi; omega
    exact Or.inr ⟨Option.some.inj (hc.symm.trans hd.run.colon), Or.inr (Or.inl hm)⟩

/-- The last colon of an odd run is no part of a cast. -/
theorem located_of_endsOddRun {cs : List Char} {i : Nat} (hu : Unquoted cs i)
    (hr : EndsOddRun cs i) :
    (∃ name, (i, named name) ∈ located 0 (scan cs)) ∨ (i, colon) ∈ located 0 (scan cs) := by
  rcases located_of_unquoted hu hr.colon (Or.inr rfl) with
    ⟨hc, -⟩ | ⟨-, hn | hb | hc | ⟨j, rfl, hc⟩⟩
  · cases hc
  · exact Or.inl hn
  · exact Or.inr hb
  · exact absurd (describes_of_mem_located hc).2.1 hr.1
  · obtain ⟨h0, h1, first, hf, heven⟩ := describes_of_mem_located hc
    exact absurd hr (not_endsOddRun_of_even hf heven h0 h1)

theorem mem_located_positional_iff {cs : List Char} {i : Nat} :
    (i, positional) ∈ located 0 (scan cs) ↔ Positional cs i := by
  constructor
  · exact describes_of_mem_located
  · intro h
    rcases located_of_unquoted h.2 h.1 (Or.inl rfl) with ⟨-, hm⟩ | ⟨hc, -⟩
    · exact hm
    · cases hc

theorem mem_located_named_iff {cs : List Char} {i : Nat} {name : List Char} :
    (i, named name) ∈ located 0 (scan cs) ↔ Named cs i ∧ name = wordAt cs (i + 1) := by
  constructor
  · exact describes_of_mem_located
  · rintro ⟨h, rfl⟩
    rcases located_of_endsOddRun h.unquoted h.run with ⟨name, hm⟩ | hm
    · obtain ⟨-, rfl⟩ := describes_of_mem_located hm
      exact hm
    · exact absurd h.opens (Bare.closed (describes_of_mem_located hm))

theorem mem_located_colon_iff {cs : List Char} {i : Nat} :
    (i, colon) ∈ located 0 (scan cs) ↔ Bare cs i := by
  constructor
  · exact describes_of_mem_located
  · intro h
    rcases located_of_endsOddRun h.unquoted h.run with ⟨name, hm⟩ | hm
    · exact absurd (Named.opens (describes_of_mem_located hm).1) h.closed
    · exact hm

end QueryBinding.Lexeme
