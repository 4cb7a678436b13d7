import Mathlib.Tactic.Common
import QueryBinding.Encoding.Utf8

/-! What bytes are text in UTF-8. The decoder accepts exactly the bytes that characters are
encoded to, and gives these characters, so a text has one form: longer forms, surrogates,
values beyond the last code point and characters that are cut off are all refused. -/

namespace QueryBinding

namespace Encoding.Utf8

/-- Bytes that bring a character to its end, which then has the given value. -/
inductive Rest.Ends : Rest → List UInt8 → ℕ → Prop
  | last {r : Rest} {b : UInt8} : r.more = 0 → r.low ≤ b.toNat → b.toNat ≤ r.high →
      Ends r [b] (r.take b)
  | next {r : Rest} {b : UInt8} {more : ℕ} {bs : List UInt8} {n : ℕ} : r.more = more + 1 →
      r.low ≤ b.toNat → b.toNat ≤ r.high → Ends ⟨r.take b, 0x80, 0xBF, more⟩ bs n →
      Ends r (b :: bs) n

theorem map_cons_eq_ok_iff {ε : Type} {r : Except ε (List Char)} {c : Char} {cs : List Char} :
    r.map (c :: ·) = .ok cs ↔ ∃ cs', r = .ok cs' ∧ cs = c :: cs' := by
  cases r with
  | error e => exact iff_of_false nofun nofun
  | ok cs' =>
    constructor
    · rintro ⟨⟩
      exact ⟨cs', rfl, rfl⟩
    · rintro ⟨_, ⟨⟩, rfl⟩
      rfl

/-- Inside a character the bytes have to end it before anything else is read. -/
theorem decodeFrom_within_iff {start i : ℕ} {lead : UInt8} {r : Rest} {bytes : List UInt8}
    {cs : List Char} : decodeFrom (.within start lead r) i bytes = .ok cs ↔
      ∃ tail n rest cs', bytes = tail ++ rest ∧ r.Ends tail n ∧
        decodeFrom .ready (i + tail.length) rest = .ok cs' ∧ cs = Char.ofNat n :: cs' := by
  induction bytes generalizing i r with
  | nil =>
    refine iff_of_false nofun ?_
    rintro ⟨tail, n, rest, cs', hbytes, hends, -⟩
    obtain ⟨rfl, -⟩ := List.nil_eq_append_iff.mp hbytes
    cases hends
  | cons b bytes ih =>
    rw [decodeFrom]
    split_ifs with hb
    · cases hmore : r.more with
      | zero =>
        simp only
        rw [map_cons_eq_ok_iff]
        constructor
        · rintro ⟨cs', hrest, rfl⟩
          exact ⟨[b], _, bytes, cs', rfl, .last hmore hb.1 hb.2, hrest, rfl⟩
        · rintro ⟨tail, n, rest, cs', hbytes, hends, hrest, rfl⟩
          cases hends with
          | last =>
            obtain ⟨rfl, rfl⟩ := List.cons.inj hbytes
            exact ⟨cs', hrest, rfl⟩
          | next hmore' =>
            rw [hmore] at hmore'
            cases hmore'
      | succ more =>
        simp only
        rw [ih]
        constructor
        · rintro ⟨tail, n, rest, cs', rfl, hends, hrest, rfl⟩
          refine ⟨b :: tail, n, rest, cs', rfl, .next hmore hb.1 hb.2 hends, ?_, rfl⟩
          rwa [List.length_cons, Nat.add_comm tail.length, ← Nat.add_assoc]
        · rintro ⟨tail, n, rest, cs', hbytes, hends, hrest, rfl⟩
          cases hends with
          | last hmore' =>
            rw [hmore] at hmore'
            cases hmore'
          | @next _ _ more' bs n hmore' _ _ hends =>
            obtain ⟨rfl, rfl⟩ := List.cons.inj hbytes
            rw [hmore] at hmore'
            cases hmore'
            refine ⟨bs, n, rest, cs', rfl, hends, ?_, rfl⟩
            rwa [List.length_cons, Nat.add_comm bs.length, ← Nat.add_assoc] at hrest
    · refine iff_of_false nofun ?_
      rintro ⟨tail, n, rest, cs', hbytes, hends, -⟩
      cases hends with
      | last _ hlow hhigh =>
        obtain ⟨rfl, -⟩ := List.cons.inj hbytes
        exact hb ⟨hlow, hhigh⟩
      | next _ hlow hhigh =>
        obtain ⟨rfl, -⟩ := List.cons.inj hbytes
        exact hb ⟨hlow, hhigh⟩

/-! ### Characters outside ASCII -/

/-- A byte that goes on with a character. -/
def IsTail (b : UInt8) : Prop := 0x80 ≤ b.toNat ∧ b.toNat ≤ 0xBF

/-- A first byte and the bytes behind it that are together a character of the given value. No
value has two forms, and a surrogate has none. -/
inductive Form : UInt8 → List UInt8 → ℕ → Prop
  | two {b c : UInt8} {n : ℕ} : 0xC2 ≤ b.toNat → b.toNat ≤ 0xDF → IsTail c →
      n = (b.toNat - 0xC0) * 64 + (c.toNat - 0x80) → Form b [c] n
  | three {b c d : UInt8} {n : ℕ} : 0xE0 ≤ b.toNat → b.toNat ≤ 0xEF → IsTail c → IsTail d →
      n = ((b.toNat - 0xE0) * 64 + (c.toNat - 0x80)) * 64 + (d.toNat - 0x80) →
      0x800 ≤ n → (n < 0xD800 ∨ 0xDFFF < n) → Form b [c, d] n
  | four {b c d e : UInt8} {n : ℕ} : 0xF0 ≤ b.toNat → b.toNat ≤ 0xF4 → IsTail c → IsTail d →
      IsTail e → n = (((b.toNat - 0xF0) * 64 + (c.toNat - 0x80)) * 64 + (d.toNat - 0x80)) * 64 +
        (e.toNat - 0x80) → 0x10000 ≤ n → n < 0x110000 → Form b [c, d, e] n

section Characters

variable {v low high more n : ℕ} {b : UInt8} {tail : List UInt8} {r : Rest}

theorem Rest.ends_zero_iff : Ends ⟨v, low, high, 0⟩ tail n ↔
    ∃ b : UInt8, tail = [b] ∧ low ≤ b.toNat ∧ b.toNat ≤ high ∧ n = v * 64 + (b.toNat - 0x80) := by
  constructor
  · intro h
    cases h with
    | last _ hlow hhigh => exact ⟨_, rfl, hlow, hhigh, rfl⟩
    | next hmore => cases hmore
  · rintro ⟨b, rfl, hlow, hhigh, hn⟩
    rw [hn]
    exact .last rfl hlow hhigh

theorem Rest.ends_succ_iff : Ends ⟨v, low, high, more + 1⟩ tail n ↔
    ∃ (b : UInt8) (bs : List UInt8), tail = b :: bs ∧ low ≤ b.toNat ∧ b.toNat ≤ high ∧
      Ends ⟨v * 64 + (b.toNat - 0x80), 0x80, 0xBF, more⟩ bs n := by
  constructor
  · intro h
    cases h with
    | last hmore => cases hmore
    | next hmore hlow hhigh hends =>
      cases hmore
      exact ⟨_, _, rfl, hlow, hhigh, hends⟩
  · rintro ⟨b, bs, rfl, hlow, hhigh, hends⟩
    exact .next rfl hlow hhigh hends

theorem lead?_two (hlow : 0xC2 ≤ b.toNat) (hhigh : b.toNat ≤ 0xDF) :
    lead? b = some ⟨b.toNat - 0xC0, 0x80, 0xBF, 0⟩ := by
  simp only [lead?]
  rw [if_neg (by omega), if_pos (by omega)]

/-- The first byte of three bounds the second one, so that the value is neither too small nor a
surrogate. -/
theorem lead?_three (hlow : 0xE0 ≤ b.toNat) (hhigh : b.toNat ≤ 0xEF) : lead? b =
    some ⟨b.toNat - 0xE0, if b.toNat = 0xE0 then 0xA0 else 0x80,
      if b.toNat = 0xED then 0x9F else 0xBF, 1⟩ := by
  simp only [lead?]
  rw [if_neg (by omega), if_neg (by omega)]
  rcases eq_or_ne b.toNat 0xE0 with hfirst | hfirst
  · simp [hfirst]
  rcases eq_or_ne b.toNat 0xED with hlast | hlast
  · simp [hlast]
  · rw [if_neg hfirst, if_neg hlast, if_pos (by omega), if_neg hfirst, if_neg hlast]

/-- The first byte of four bounds the second one, so that the value is neither too small nor
beyond the last code point. -/
theorem lead?_four (hlow : 0xF0 ≤ b.toNat) (hhigh : b.toNat ≤ 0xF4) : lead? b =
    some ⟨b.toNat - 0xF0, if b.toNat = 0xF0 then 0x90 else 0x80,
      if b.toNat = 0xF4 then 0x8F else 0xBF, 2⟩ := by
  simp only [lead?]
  rw [if_neg (by omega), if_neg (by omega), if_neg (by omega), if_neg (by omega),
    if_neg (by omega)]
  rcases eq_or_ne b.toNat 0xF0 with hfirst | hfirst
  · simp [hfirst]
  rcases eq_or_ne b.toNat 0xF4 with hlast | hlast
  · simp [hlast]
  · rw [if_neg hfirst, if_pos (by omega), if_neg hfirst, if_neg hlast]

theorem lead?_bounds (hlead : lead? b = some r) : 0xC2 ≤ b.toNat ∧ b.toNat ≤ 0xF4 := by
  simp only [lead?] at hlead
  split_ifs at hlead <;> omega

/-- Reading takes exactly the forms of a character. -/
theorem ends_iff_form : (∃ r, lead? b = some r ∧ r.Ends tail n) ↔ Form b tail n := by
  constructor
  · rintro ⟨r, hlead, hends⟩
    obtain ⟨hlow, hhigh⟩ := lead?_bounds hlead
    rcases Nat.lt_or_ge b.toNat 0xE0 with htwo | htwo
    · rw [lead?_two hlow (by omega), Option.some.injEq] at hlead
      subst hlead
      rw [Rest.ends_zero_iff] at hends
      obtain ⟨c, rfl, hc, hc', hn⟩ := hends
      exact .two hlow (by omega) ⟨hc, hc'⟩ hn
    rcases Nat.lt_or_ge b.toNat 0xF0 with hthree | hthree
    · rw [lead?_three htwo (by omega), Option.some.injEq] at hlead
      subst hlead
      simp only [Rest.ends_succ_iff, Rest.ends_zero_iff] at hends
      obtain ⟨c, _, rfl, hc, hc', d, rfl, hd, hd', hn⟩ := hends
      split_ifs at hc hc' <;>
        exact .three htwo (by omega) ⟨by omega, by omega⟩ ⟨hd, hd'⟩ hn (by omega) (by omega)
    · rw [lead?_four hthree hhigh, Option.some.injEq] at hlead
      subst hlead
      simp only [Rest.ends_succ_iff, Rest.ends_zero_iff] at hends
      obtain ⟨c, _, rfl, hc, hc', d, _, rfl, hd, hd', e, rfl, he, he', hn⟩ := hends
      split_ifs at hc hc' <;>
        exact .four hthree hhigh ⟨by omega, by omega⟩ ⟨hd, hd'⟩ ⟨he, he'⟩ hn (by omega) (by omega)
  · intro h
    cases h with
    | two hlow hhigh hc hn =>
      exact ⟨_, lead?_two hlow hhigh, Rest.ends_zero_iff.mpr ⟨_, rfl, hc.1, hc.2, hn⟩⟩
    | three hlow hhigh hc hd hn hlong hvalid =>
      obtain ⟨hc, hc'⟩ := hc
      obtain ⟨hd, hd'⟩ := hd
      refine ⟨_, lead?_three hlow hhigh, Rest.ends_succ_iff.mpr ⟨_, _, rfl, ?_, ?_,
        Rest.ends_zero_iff.mpr ⟨_, rfl, hd, hd', hn⟩⟩⟩
      · split_ifs <;> omega
      · split_ifs <;> omega
    | four hlow hhigh hc hd he hn hlong hvalid =>
      obtain ⟨hc, hc'⟩ := hc
      obtain ⟨hd, hd'⟩ := hd
      obtain ⟨he, he'⟩ := he
      refine ⟨_, lead?_four hlow hhigh, Rest.ends_succ_iff.mpr ⟨_, _, rfl, ?_, ?_,
        Rest.ends_succ_iff.mpr ⟨_, _, rfl, hd, hd',
          Rest.ends_zero_iff.mpr ⟨_, rfl, he, he', hn⟩⟩⟩⟩
      · split_ifs <;> omega
      · split_ifs <;> omega

theorem ofNat_eq (h : n = b.toNat) : UInt8.ofNat n = b := by
  rw [h, UInt8.ofNat_toNat]

theorem val_ofNat (h : n.isValidChar) : (Char.ofNat n).val.toNat = n := by
  rw [Char.ofNat, dif_pos h]
  rfl

/-- A form of a character is its encoding. -/
theorem Form.encodeChar (h : Form b tail n) : String.utf8EncodeChar (Char.ofNat n) = b :: tail := by
  cases h with
  | @two c _ hlow hhigh hc hn =>
    obtain ⟨hc, hc'⟩ := hc
    have hvalid : n.isValidChar := Or.inl (by omega)
    simp only [String.utf8EncodeChar, val_ofNat hvalid]
    rw [if_neg (by omega), if_pos (by omega), ofNat_eq (b := b) (by omega),
      ofNat_eq (b := c) (by omega)]
  | @three c d _ hlow hhigh hc hd hn hlong hvalid =>
    obtain ⟨hc, hc'⟩ := hc
    obtain ⟨hd, hd'⟩ := hd
    have hvalid : n.isValidChar := hvalid.imp_right fun hn => ⟨hn, by omega⟩
    simp only [String.utf8EncodeChar, val_ofNat hvalid]
    rw [if_neg (by omega), if_neg (by omega), if_pos (by omega), ofNat_eq (b := b) (by omega),
      ofNat_eq (b := c) (by omega), ofNat_eq (b := d) (by omega)]
  | @four c d e _ hlow hhigh hc hd he hn hlong hvalid =>
    obtain ⟨hc, hc'⟩ := hc
    obtain ⟨hd, hd'⟩ := hd
    obtain ⟨he, he'⟩ := he
    have hvalid : n.isValidChar := Or.inr ⟨by omega, hvalid⟩
    simp only [String.utf8EncodeChar, val_ofNat hvalid]
    rw [if_neg (by omega), if_neg (by omega), if_neg (by omega), ofNat_eq (b := b) (by omega),
      ofNat_eq (b := c) (by omega), ofNat_eq (b := d) (by omega), ofNat_eq (b := e) (by omega)]

theorem exists_byte {k : ℕ} (hk : k < 256) : ∃ b : UInt8, b.toNat = k :=
  ⟨UInt8.ofNat k, UInt8.toNat_ofNat_of_lt' hk⟩

/-- Every character outside ASCII has a form. -/
theorem exists_form {m : Char} (hm : 0x80 ≤ m.toNat) : ∃ b tail, Form b tail m.toNat := by
  have hvalid : m.toNat < 0xD800 ∨ 0xDFFF < m.toNat ∧ m.toNat < 0x110000 := m.valid
  obtain ⟨last, hlast⟩ := exists_byte (k := m.toNat % 64 + 0x80) (by omega)
  obtain ⟨third, hthird⟩ := exists_byte (k := m.toNat / 64 % 64 + 0x80) (by omega)
  obtain ⟨second, hsecond⟩ := exists_byte (k := m.toNat / 4096 % 64 + 0x80) (by omega)
  have hlast' : IsTail last := ⟨by omega, by omega⟩
  have hthird' : IsTail third := ⟨by omega, by omega⟩
  have hsecond' : IsTail second := ⟨by omega, by omega⟩
  rcases Nat.lt_or_ge m.toNat 0x800 with htwo | htwo
  · obtain ⟨b, hb⟩ := exists_byte (k := m.toNat / 64 + 0xC0) (by omega)
    exact ⟨b, _, .two (by omega) (by omega) hlast' (by omega)⟩
  rcases Nat.lt_or_ge m.toNat 0x10000 with hthree | hthree
  · obtain ⟨b, hb⟩ := exists_byte (k := m.toNat / 4096 + 0xE0) (by omega)
    exact ⟨b, _, .three (by omega) (by omega) hthird' hlast' (by omega) htwo
      (hvalid.imp_right And.left)⟩
  · obtain ⟨b, hb⟩ := exists_byte (k := m.toNat / 262144 + 0xF0) (by omega)
    exact ⟨b, _, .four (by omega) (by omega) hsecond' hthird' hlast' (by omega) hthree
      (by omega)⟩

end Characters

/-! ### Texts -/

theorem encodeChar_ascii {b : UInt8} (h : b < 0x80) :
    String.utf8EncodeChar (Char.ofNat b.toNat) = [b] := by
  have hb : b.toNat < 0x80 := UInt8.lt_iff_toNat_lt.mp h
  have hvalid : b.toNat.isValidChar := Or.inl (by omega)
  simp only [String.utf8EncodeChar, val_ofNat hvalid]
  rw [if_pos (by omega), UInt8.ofNat_toNat]

theorem encode_cons (c : Char) (cs : List Char) :
    encode (c :: cs) = String.utf8EncodeChar c ++ encode cs := List.flatMap_cons

theorem eq_encode_of_decodeFrom {i : ℕ} {bytes : List UInt8} {cs : List Char}
    (h : decodeFrom .ready i bytes = .ok cs) : bytes = encode cs := by
  -- one character takes up to four bytes, so what is left is shorter by more than one
  induction hn : bytes.length using Nat.strongRecOn generalizing i bytes cs with
  | _ m ih =>
    cases bytes with
    | nil =>
      cases h
      rfl
    | cons b bytes =>
      rw [decodeFrom] at h
      split_ifs at h with hb
      · obtain ⟨cs', hrest, rfl⟩ := map_cons_eq_ok_iff.mp h
        rw [encode_cons, encodeChar_ascii hb,
          ← ih _ (by rw [← hn]; exact Nat.lt_succ_self _) hrest rfl]
        rfl
      · split at h
        · next r hlead =>
          obtain ⟨tail, n, rest, cs', rfl, hends, hrest, rfl⟩ := decodeFrom_within_iff.mp h
          have hlt : rest.length < m := by
            rw [← hn, List.length_cons, List.length_append]
            omega
          rw [encode_cons, (ends_iff_form.mp ⟨r, hlead, hends⟩).encodeChar, ← ih _ hlt hrest rfl]
          rfl
        · cases h

theorem decodeFrom_encode (cs : List Char) (i : ℕ) : decodeFrom .ready i (encode cs) = .ok cs := by
  induction cs generalizing i with
  | nil => rfl
  | cons c cs ih =>
    rw [encode_cons]
    rcases Nat.lt_or_ge c.toNat 0x80 with hc | hc
    · obtain ⟨b, hb⟩ := exists_byte (k := c.toNat) (by omega)
      have hlt : b < 0x80 := UInt8.lt_iff_toNat_lt.mpr (hb ▸ hc)
      have hencode := encodeChar_ascii hlt
      rw [hb, Char.ofNat_toNat] at hencode
      rw [hencode, List.singleton_append, decodeFrom, if_pos hlt, ih, hb, Char.ofNat_toNat]
      rfl
    · obtain ⟨b, tail, hform⟩ := exists_form hc
      obtain ⟨r, hlead, hends⟩ := ends_iff_form.mpr hform
      have hencode := hform.encodeChar
      rw [Char.ofNat_toNat] at hencode
      have hnot : ¬ b < 0x80 := by
        rw [UInt8.lt_iff_toNat_lt, Nat.not_lt]
        exact Nat.le_trans (by decide) (lead?_bounds hlead).1
      rw [hencode, List.cons_append, decodeFrom, if_neg hnot, hlead]
      simp only
      rw [decodeFrom_within_iff]
      exact ⟨tail, c.toNat, encode cs, cs, rfl, hends, ih _, by rw [Char.ofNat_toNat]⟩

/-- Bytes are text just if they are what characters are encoded to, and then they are the text
of these characters and of no others. -/
theorem decode_eq_ok_iff {bytes : List UInt8} {cs : List Char} :
    decode bytes = .ok cs ↔ bytes = encode cs := by
  constructor
  · exact eq_encode_of_decodeFrom
  · rintro rfl
    exact decodeFrom_encode cs 0

end Encoding.Utf8

end QueryBinding
