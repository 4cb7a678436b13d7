import QueryBinding.Proofs.Text.Numeral
import QueryBinding.Text.Quoted

/-! Quoted texts can be told from each other and from whatever follows them. The first quote
tells which one is in use, no escape begins with that quote, and no escape of a character is the
beginning of the escape of another one. -/

namespace QueryBinding

namespace Quoted

/-! ### Escapes -/

/-- The number of hexadecimal digits that follow the letter of an escape. -/
def width (letter : Char) : ℕ :=
  if letter = 'x' then 2 else if letter = 'u' then 4 else if letter = 'U' then 8 else 0

/-- What the letter of an escape without digits stands for. -/
def meaning (letter : Char) : Char :=
  if letter = 'n' then '\n' else if letter = 'r' then '\r' else if letter = 't' then '\t'
  else letter

/-- A character stands for itself, or it is escaped by a letter and the digits of its code. -/
structure Escaped (c letter : Char) : Prop where
  code : 0 < width letter → c.toNat < 16 ^ width letter
  simple : width letter = 0 → c = meaning letter

theorem exists_escapeCode (c : Char) : ∃ letter,
    escapeCode c = '\\' :: letter :: Numeral.hex (width letter) c.toNat ∧ Escaped c letter := by
  unfold escapeCode
  simp only
  split_ifs with hx hu
  · exact ⟨'x', rfl, fun _ => hx, fun h => absurd h (by decide)⟩
  · exact ⟨'u', rfl, fun _ => hu, fun h => absurd h (by decide)⟩
  · refine ⟨'U', rfl, fun _ => ?_, fun h => absurd h (by decide)⟩
    have hvalid := c.valid
    simp only [UInt32.isValidChar, Nat.isValidChar] at hvalid
    show c.val.toNat < 16 ^ 8
    omega

variable {q c d : Char} {x y : List Char}

theorem escape_cases (hq : q = '\'' ∨ q = '"') (c : Char) :
    (escape q c = [c] ∧ c ≠ q ∧ c ≠ '\\') ∨ ∃ letter,
      escape q c = '\\' :: letter :: Numeral.hex (width letter) c.toNat ∧ Escaped c letter := by
  unfold escape
  split_ifs with hself hn hr ht hprintable
  · right
    obtain rfl | rfl | rfl : c = '\'' ∨ c = '"' ∨ c = '\\' := by
      rcases hself with rfl | rfl <;> tauto
    all_goals exact ⟨_, rfl, fun h => absurd h (by decide), fun _ => rfl⟩
  · exact Or.inr ⟨'n', rfl, fun h => absurd h (by decide), fun _ => hn⟩
  · exact Or.inr ⟨'r', rfl, fun h => absurd h (by decide), fun _ => hr⟩
  · exact Or.inr ⟨'t', rfl, fun h => absurd h (by decide), fun _ => ht⟩
  · rw [not_or] at hself
    exact Or.inl ⟨rfl, hself⟩
  · exact Or.inr (exists_escapeCode c)

/-- No escape is the beginning of another one. -/
theorem escape_append_inj (hq : q = '\'' ∨ q = '"') (h : escape q c ++ x = escape q d ++ y) :
    c = d ∧ x = y := by
  obtain ⟨hc, -, hcback⟩ | ⟨letter, hc, hcode⟩ := escape_cases hq c <;>
    obtain ⟨hd, -, hdback⟩ | ⟨letter', hd, hcode'⟩ := escape_cases hq d <;>
    rw [hc, hd] at h
  · exact List.cons.inj h
  · exact absurd (List.cons.inj h).1 hcback
  · exact absurd (List.cons.inj h).1.symm hdback
  · obtain ⟨rfl, hdigits⟩ := List.cons.inj (List.cons.inj h).2
    obtain ⟨hhex, rfl⟩ := List.append_inj hdigits (by rw [Numeral.length_hex, Numeral.length_hex])
    refine ⟨?_, rfl⟩
    rcases Nat.eq_zero_or_pos (width letter) with hzero | hpos
    · rw [hcode.simple hzero, hcode'.simple hzero]
    · exact Char.toNat_inj.mp (Numeral.hex_inj (hcode.code hpos) (hcode'.code hpos) hhex)

/-- No escape begins with the quote in use. -/
theorem escape_ne_quote (hq : q = '\'' ∨ q = '"') : escape q c ++ x ≠ q :: y := by
  obtain ⟨hc, hne, -⟩ | ⟨letter, hc, -⟩ := escape_cases hq c <;> rw [hc] <;> intro h
  · exact hne (List.cons.inj h).1
  · have hback := (List.cons.inj h).1
    rcases hq with rfl | rfl <;> revert hback <;> decide

/-! ### Whole texts -/

variable {a b : List Char}

theorem mark_cases (a : List Char) : mark a = '\'' ∨ mark a = '"' := by
  unfold mark
  split_ifs <;> simp

theorem body_append_inj (hq : q = '\'' ∨ q = '"')
    (h : a.flatMap (escape q) ++ q :: x = b.flatMap (escape q) ++ q :: y) : a = b ∧ x = y := by
  -- where one text ends, the quote stands against the escape of the other's next character
  induction a generalizing b with
  | nil =>
    cases b with
    | nil => exact ⟨rfl, (List.cons.inj h).2⟩
    | cons d b =>
      rw [List.flatMap_cons, List.append_assoc] at h
      exact absurd h.symm (escape_ne_quote hq)
  | cons c a ih =>
    cases b with
    | nil =>
      rw [List.flatMap_cons, List.append_assoc] at h
      exact absurd h (escape_ne_quote hq)
    | cons d b =>
      rw [List.flatMap_cons, List.append_assoc, List.flatMap_cons, List.append_assoc] at h
      obtain ⟨rfl, hrest⟩ := escape_append_inj hq h
      obtain ⟨rfl, rfl⟩ := ih hrest
      exact ⟨rfl, rfl⟩

/-- A quoted text can be told from what follows it. -/
theorem encode_append_inj (h : encode a ++ x = encode b ++ y) : a = b ∧ x = y := by
  have hform : ∀ c z, encode c ++ z = mark c :: (c.flatMap (escape (mark c)) ++ mark c :: z) := by
    intro c z
    simp [encode]
  rw [hform, hform] at h
  obtain ⟨hmark, hbody⟩ := List.cons.inj h
  rw [← hmark] at hbody
  exact body_append_inj (mark_cases a) hbody

end Quoted

end QueryBinding
