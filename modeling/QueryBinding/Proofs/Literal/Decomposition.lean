import Mathlib.Data.List.Induction
import QueryBinding.Proofs.Literal.Parity

/-! The decomposition of a text into gaps and literals. Between its apostrophes a
literal holds other characters and doubled apostrophes. There is one way only to cover
the apostrophes of a text by such literals that do not touch, of which the last one
may run to the end, and the scan finds it. So literals that are written with their
contents doubled and with gaps between them are read back as they were written. -/

namespace QueryBinding.Literal

/-- What can stand between the delimiters of a literal. -/
inductive Body : List Char → Prop
  | nil : Body []
  | char {c : Char} {cs : List Char} : c ≠ '\'' → Body cs → Body (c :: cs)
  | pair {cs : List Char} : Body cs → Body ('\'' :: '\'' :: cs)

/-- A closed literal is at the span. -/
def Closed (cs : List Char) (s : Span) : Prop :=
  ∃ before body after, cs = before ++ ('\'' :: body ++ '\'' :: after) ∧ Body body ∧
    after.head? ≠ some '\'' ∧ s = ⟨before.length, (before.length + (body.length + 2) : ℕ)⟩

/-- A literal that is not closed is at the span, which reaches to the end. -/
def Unclosed (cs : List Char) (s : Span) : Prop :=
  ∃ before body, cs = before ++ '\'' :: body ∧ Body body ∧ s = ⟨before.length, cs.length⟩

/-- Spans of literals, from left to right and with gaps between them, that cover all
apostrophes. -/
structure Decomposes (cs : List Char) (ss : List Span) : Prop where
  sorted : ss.Pairwise fun s t => s.stop < t.start
  covered : ∀ i : ℕ, cs[i]? = some '\'' → ∃ s ∈ ss, s.contains i = true
  literal : ∀ s ∈ ss, Closed cs s ∨ Unclosed cs s ∧ ss.getLast? = some s

/-! ### Scanning gaps and literals -/

theorem body_double (content : List Char) : Body (double content) := by
  induction content with
  | nil => exact .nil
  | cons c content ih =>
    rw [double, List.flatMap_cons]
    split_ifs with hc
    · exact .pair ih
    · exact .char hc ih

theorem body_append {body gap : List Char} (hb : Body body) (hg : '\'' ∉ gap) :
    Body (body ++ gap) := by
  induction hb with
  | nil =>
    induction gap with
    | nil => exact .nil
    | cons c gap ih =>
      have hc : c ≠ '\'' := fun h => hg (h ▸ List.mem_cons_self)
      exact .char hc (ih fun h => hg (List.mem_cons_of_mem c h))
  | char hc _ ih => exact .char hc ih
  | pair _ ih => exact .pair ih

theorem spansFrom_gap {gap : List Char} (h : '\'' ∉ gap) (offset : ℕ) (rest : List Char) :
    spansFrom .gap offset (gap ++ rest) = spansFrom .gap (offset + gap.length) rest := by
  induction gap generalizing offset with
  | nil => rfl
  | cons c gap ih =>
    have hc : c ≠ '\'' := fun hc => h (hc ▸ List.mem_cons_self)
    rw [List.cons_append, spansFrom, if_neg hc, ih fun hm => h (List.mem_cons_of_mem c hm),
      List.length_cons, Nat.add_right_comm, Nat.add_assoc]

theorem spansFrom_body {body : List Char} (h : Body body) (start offset : ℕ)
    (rest : List Char) : spansFrom (.inside start) offset (body ++ rest) =
      spansFrom (.inside start) (offset + body.length) rest := by
  induction h generalizing offset with
  | nil => rfl
  | @char c cs hc _ ih =>
    rw [List.cons_append, spansFrom, if_neg hc, ih, List.length_cons, Nat.add_right_comm,
      Nat.add_assoc]
  | @pair cs _ ih =>
    have hlen : offset + 1 + 1 + cs.length = offset + ('\'' :: '\'' :: cs).length := by
      simp only [List.length_cons]
      omega
    rw [List.cons_append, List.cons_append, spansFrom, if_pos rfl, spansFrom, if_pos rfl, ih, hlen]

/-- An apostrophe that no other one follows closes a literal. -/
theorem spansFrom_close {rest : List Char} (h : rest.head? ≠ some '\'') (start offset : ℕ) :
    spansFrom (.inside start) offset ('\'' :: rest) =
      ⟨start, (offset + 1 : ℕ)⟩ :: spansFrom .gap (offset + 1) rest := by
  cases rest with
  | nil => rfl
  | cons c rest =>
    have hc : c ≠ '\'' := fun hc => h (congrArg some hc)
    simp [spansFrom, hc]

theorem spansFrom_unclosed {body : List Char} (h : Body body) (start offset : ℕ) :
    spansFrom (.inside start) offset body = [⟨start, (offset + body.length : ℕ)⟩] := by
  have := spansFrom_body h start offset []
  rwa [List.append_nil] at this

/-! ### Readings -/

/-- The literals of a text that begins at `offset`, read one after the other. -/
inductive Reads : ℕ → List Char → List Span → Prop
  | plain {offset : ℕ} {gap : List Char} : '\'' ∉ gap → Reads offset gap []
  | unclosed (offset : ℕ) {gap body : List Char} : '\'' ∉ gap → Body body →
      Reads offset (gap ++ '\'' :: body)
        [⟨(offset + gap.length : ℕ), (offset + gap.length + (body.length + 1) : ℕ)⟩]
  | literal {offset : ℕ} {gap body rest : List Char} {ss : List Span} : '\'' ∉ gap → Body body →
      rest.head? ≠ some '\'' → Reads (offset + gap.length + (body.length + 2)) rest ss →
      Reads offset (gap ++ ('\'' :: body ++ '\'' :: rest))
        (⟨(offset + gap.length : ℕ), (offset + gap.length + (body.length + 2) : ℕ)⟩ :: ss)

theorem Reads.spansFrom_eq {offset : ℕ} {cs : List Char} {ss : List Span}
    (h : Reads offset cs ss) : spansFrom .gap offset cs = ss := by
  induction h with
  | @plain offset gap hg =>
    have := spansFrom_gap hg offset []
    rw [List.append_nil] at this
    rw [this, spansFrom]
  | @unclosed offset gap body hg hb =>
    rw [spansFrom_gap hg, spansFrom, if_pos rfl, spansFrom_unclosed hb, Nat.add_right_comm _ 1,
      Nat.add_assoc _ _ 1]
  | @literal offset gap body rest ss hg hb hr _ ih =>
    have hlen : offset + gap.length + 1 + body.length + 1 =
        offset + gap.length + (body.length + 2) := by omega
    rw [spansFrom_gap hg, List.cons_append, spansFrom, if_pos rfl, spansFrom_body hb,
      spansFrom_close hr, hlen, ih]

/-- Behind the apostrophe that opens a literal its body reaches to the end or to the
apostrophe that closes it. -/
theorem body_or_closes (cs : List Char) : Body cs ∨ ∃ body rest,
    cs = body ++ '\'' :: rest ∧ Body body ∧ rest.head? ≠ some '\'' := by
  induction cs using List.twoStepInduction with
  | nil => exact Or.inl .nil
  | singleton c =>
    by_cases hc : c = '\''
    · exact Or.inr ⟨[], [], by rw [hc]; rfl, .nil, nofun⟩
    · exact Or.inl (.char hc .nil)
  | cons_cons c d cs ih ih' =>
    by_cases hc : c = '\''
    · subst hc
      by_cases hd : d = '\''
      · subst hd
        rcases ih with hb | ⟨body, rest, rfl, hb, hr⟩
        · exact Or.inl (.pair hb)
        · exact Or.inr ⟨'\'' :: '\'' :: body, rest, rfl, .pair hb, hr⟩
      · exact Or.inr ⟨[], d :: cs, rfl, .nil, fun h => hd (Option.some.inj h)⟩
    · rcases ih' d with hb | ⟨body, rest, heq, hb, hr⟩
      · exact Or.inl (.char hc hb)
      · exact Or.inr ⟨c :: body, rest, congrArg (c :: ·) heq, .char hc hb, hr⟩

/-- Every text has a reading. -/
theorem exists_reads (offset : ℕ) (cs : List Char) : ∃ ss, Reads offset cs ss := by
  induction hn : cs.length using Nat.strong_induction_on generalizing offset cs with
  | _ n ih =>
    by_cases hm : '\'' ∈ cs
    · obtain ⟨gap, behind, rfl, hg⟩ := List.eq_append_cons_of_mem hm
      rcases body_or_closes behind with hb | ⟨body, rest, rfl, hb, hr⟩
      · exact ⟨_, .unclosed offset hg hb⟩
      · have hlt : rest.length < n := by
          rw [← hn]
          simp only [List.length_append, List.length_cons]
          omega
        obtain ⟨ss, hs⟩ := ih rest.length hlt (offset + gap.length + (body.length + 2)) rest rfl
        exact ⟨_, .literal hg hb hr hs⟩
    · exact ⟨[], .plain hm⟩

theorem reads_spansFrom (offset : ℕ) (cs : List Char) :
    Reads offset cs (spansFrom .gap offset cs) := by
  obtain ⟨ss, h⟩ := exists_reads offset cs
  rwa [h.spansFrom_eq]

/-! ### What a reading tells of the text -/

namespace Reads

variable {offset : ℕ} {cs : List Char} {ss : List Span}

theorem le_start (h : Reads offset cs ss) : ∀ s ∈ ss, (offset : ℤ) ≤ s.start := by
  induction h with
  | plain => exact nofun
  | @unclosed offset gap body =>
    intro s hs
    rw [List.mem_singleton.mp hs]
    exact Int.ofNat_le.mpr (Nat.le_add_right _ _)
  | @literal offset gap body rest ss _ _ _ _ ih =>
    rintro s (_ | ⟨_, hs⟩)
    · exact Int.ofNat_le.mpr (Nat.le_add_right _ _)
    · have := ih s hs
      omega

/-- A text that begins with no apostrophe begins with a gap. -/
theorem lt_start (h : Reads offset cs ss) (hc : cs.head? ≠ some '\'') :
    ∀ s ∈ ss, (offset : ℤ) < s.start := by
  have hgap : ∀ gap rest : List Char, (gap ++ '\'' :: rest).head? ≠ some '\'' → 0 < gap.length := by
    rintro (_ | ⟨c, gap⟩) rest hne
    · exact absurd rfl hne
    · exact Nat.succ_pos _
  cases h with
  | plain => exact nofun
  | @unclosed _ gap body =>
    have := hgap gap body hc
    intro s hs
    rw [List.mem_singleton.mp hs]
    show (offset : ℤ) < (offset + gap.length : ℕ)
    omega
  | @literal _ gap body rest _ _ _ _ h =>
    have := hgap gap (body ++ '\'' :: rest) hc
    rintro s (_ | ⟨_, hs⟩)
    · show (offset : ℤ) < (offset + gap.length : ℕ)
      omega
    · have := h.le_start s hs
      omega

theorem sorted (h : Reads offset cs ss) : ss.Pairwise fun s t => s.stop < t.start := by
  induction h with
  | plain => exact .nil
  | unclosed => exact List.pairwise_singleton _ _
  | literal _ _ hr h ih => exact List.pairwise_cons.mpr ⟨h.lt_start hr, ih⟩

theorem literal_of_mem (h : Reads offset cs ss) (before : List Char)
    (ho : before.length = offset) : ∀ s ∈ ss,
      Closed (before ++ cs) s ∨ Unclosed (before ++ cs) s ∧ ss.getLast? = some s := by
  induction h generalizing before with
  | plain => exact nofun
  | @unclosed offset gap body _ hb =>
    intro s hs
    rw [List.mem_singleton.mp hs]
    refine Or.inr ⟨⟨before ++ gap, body, by simp, hb, ?_⟩, rfl⟩
    simp only [List.length_append, List.length_cons, ho, Nat.add_assoc]
  | @literal offset gap body rest ss _ hb hr h ih =>
    have hcs : before ++ (gap ++ ('\'' :: body ++ '\'' :: rest)) =
        (before ++ gap ++ ('\'' :: body ++ ['\''])) ++ rest := by simp
    rintro s (_ | ⟨_, hs⟩)
    · refine Or.inl ⟨before ++ gap, body, rest, by simp, hb, hr, ?_⟩
      rw [List.length_append, ho]
    · have hlen : (before ++ gap ++ ('\'' :: body ++ ['\''])).length =
          offset + gap.length + (body.length + 2) := by
        simp only [List.length_append, List.length_cons, List.length_nil, ho]
      rw [hcs]
      rcases ih _ hlen s hs with hclosed | ⟨hopen, hlast⟩
      · exact Or.inl hclosed
      · exact Or.inr ⟨hopen, by rw [List.getLast?_cons, hlast]; rfl⟩

end Reads

theorem decomposes_spans (cs : List Char) : Decomposes cs (spans cs) where
  sorted := (reads_spansFrom 0 cs).sorted
  covered _ hi := exists_mem_spans_iff.mpr ⟨(List.getElem?_eq_some_iff.mp hi).1, Or.inl hi⟩
  literal := (reads_spansFrom 0 cs).literal_of_mem [] rfl

/-! ### Uniqueness -/

theorem bounds_of_literal {cs : List Char} {s : Span} (h : Closed cs s ∨ Unclosed cs s) :
    s.start < s.stop ∧ s.stop ≤ cs.length := by
  rcases h with ⟨before, body, after, rfl, -, -, rfl⟩ | ⟨before, body, rfl, -, rfl⟩
  · simp only [List.length_append, List.length_cons]
    omega
  · simp only [List.length_append, List.length_cons]
    omega

/-- What stands between an offset and the first literal behind it holds no apostrophe. -/
theorem apostrophe_not_mem_gap {before gap rest : List Char} {s : Span} {ss : List Span}
    (hs : ∀ t ∈ ss, s.stop < t.start) (hlt : s.start < s.stop)
    (hstart : s.start = (before.length + gap.length : ℕ))
    (hc : ∀ i : ℕ, before.length ≤ i → (before ++ (gap ++ rest))[i]? = some '\'' →
      ∃ t ∈ s :: ss, t.contains i = true) : '\'' ∉ gap := by
  intro hm
  obtain ⟨k, hk, hget⟩ := List.getElem_of_mem hm
  have hat : (before ++ (gap ++ rest))[before.length + k]? = some '\'' := by
    rw [List.getElem?_append_right (Nat.le_add_right _ _), Nat.add_sub_cancel_left,
      List.getElem?_append_left hk, List.getElem?_eq_getElem hk, hget]
  obtain ⟨t, ht, hin⟩ := hc _ (Nat.le_add_right _ k) hat
  simp only [Span.contains, Bool.and_eq_true, decide_eq_true_eq] at hin
  rcases List.mem_cons.mp ht with rfl | ht
  · omega
  · have := hs t ht
    omega

/-- Literals that decompose a text from an offset on are read there. -/
theorem reads_of_decomposes (before : List Char) {cs : List Char} {ss : List Span}
    (hs : ss.Pairwise fun s t => s.stop < t.start)
    (hc : ∀ i : ℕ, before.length ≤ i → (before ++ cs)[i]? = some '\'' →
      ∃ s ∈ ss, s.contains i = true)
    (hb : ∀ s ∈ ss, (before.length : ℤ) ≤ s.start)
    (hl : ∀ s ∈ ss, Closed (before ++ cs) s ∨ Unclosed (before ++ cs) s ∧ ss.getLast? = some s) :
    Reads before.length cs ss := by
  induction ss generalizing before cs with
  | nil =>
    apply Reads.plain
    intro hm
    obtain ⟨k, hk, hget⟩ := List.getElem_of_mem hm
    have hat : (before ++ cs)[before.length + k]? = some '\'' := by
      rw [List.getElem?_append_right (Nat.le_add_right _ _), Nat.add_sub_cancel_left,
        List.getElem?_eq_getElem hk, hget]
    obtain ⟨s, hs, -⟩ := hc _ (Nat.le_add_right _ k) hat
    cases hs
  | cons s ss ih =>
    obtain ⟨hfirst, hrest⟩ := List.pairwise_cons.mp hs
    have hbefore : ∀ {b part : List Char}, before ++ cs = b ++ part → s.start = b.length →
        ∃ gap, b = before ++ gap ∧ cs = gap ++ part := by
      intro b part heq hstart
      have := hb s List.mem_cons_self
      obtain ⟨gap, rfl⟩ := List.prefix_of_prefix_length_le (List.prefix_append before cs)
        (heq ▸ List.prefix_append b part) (by omega)
      rw [List.append_assoc] at heq
      exact ⟨gap, rfl, List.append_cancel_left heq⟩
    have hbound := bounds_of_literal ((hl s List.mem_cons_self).imp_right And.left)
    rcases hl s List.mem_cons_self with ⟨b, body, after, heq, hbody, ha, rfl⟩ |
      ⟨⟨b, body, heq, hbody, rfl⟩, -⟩
    · obtain ⟨gap, rfl, rfl⟩ := hbefore heq rfl
      have hgap := apostrophe_not_mem_gap hfirst hbound.1 (by rw [List.length_append]) hc
      have hcs : before ++ (gap ++ ('\'' :: body ++ '\'' :: after)) =
          (before ++ gap ++ ('\'' :: body ++ ['\''])) ++ after := by simp
      have hlen : (before ++ gap ++ ('\'' :: body ++ ['\''])).length =
          before.length + gap.length + (body.length + 2) := by
        simp only [List.length_append, List.length_cons, List.length_nil]
      rw [List.length_append]
      refine .literal hgap hbody ha (hlen ▸ ih _ hrest ?_ ?_ ?_)
      · -- what the first literal does not reach is covered by another one
        intro i hi hat
        obtain ⟨t, ht, hin⟩ := hc i (by omega) (hcs ▸ hat)
        rcases List.mem_cons.mp ht with rfl | ht
        · rw [contains_natCast, List.length_append] at hin
          omega
        · exact ⟨t, ht, hin⟩
      · intro t ht
        have := hfirst t ht
        simp only [List.length_append] at this
        omega
      · intro t ht
        rw [← hcs]
        refine (hl t (List.mem_cons_of_mem _ ht)).imp_right fun ⟨hopen, hlast⟩ => ⟨hopen, ?_⟩
        obtain ⟨u, us, rfl⟩ := List.exists_cons_of_ne_nil (List.ne_nil_of_mem ht)
        rwa [List.getLast?_cons_cons] at hlast
    · obtain ⟨gap, rfl, rfl⟩ := hbefore heq rfl
      have hgap := apostrophe_not_mem_gap hfirst hbound.1 (by rw [List.length_append]) hc
      have hnone : ss = [] := by
        rw [List.eq_nil_iff_forall_not_mem]
        intro t ht
        have hstart : ((before ++ (gap ++ '\'' :: body)).length : ℤ) < t.start := hfirst t ht
        have := bounds_of_literal ((hl t (List.mem_cons_of_mem _ ht)).imp_right And.left)
        omega
      have hlen : (before ++ (gap ++ '\'' :: body)).length =
          before.length + gap.length + (body.length + 1) := by
        simp only [List.length_append, List.length_cons, Nat.add_assoc]
      rw [hnone, hlen, List.length_append]
      exact .unclosed _ hgap hbody

theorem decomposes_iff {cs : List Char} {ss : List Span} :
    Decomposes cs ss ↔ ss = spans cs := by
  constructor
  · intro h
    have hb : ∀ s ∈ ss, (0 : ℤ) ≤ s.start := by
      intro s hs
      rcases h.literal s hs with
        ⟨before, body, after, -, -, -, rfl⟩ | ⟨⟨before, body, -, -, rfl⟩, -⟩
      · exact Int.natCast_nonneg _
      · exact Int.natCast_nonneg _
    exact (reads_of_decomposes [] h.sorted (fun i _ => h.covered i) hb
      h.literal).spansFrom_eq.symm
  · rintro rfl
    exact decomposes_spans cs

/-! ### Written literals -/

/-- A literal that is written, with the gap before it. -/
structure Part where
  gap : List Char
  content : List Char

/-- Gaps and literals in turn. Only the first gap and the last one may be empty. -/
structure Layout where
  parts : List Part
  tail : List Char
  plain : ∀ p ∈ parts, '\'' ∉ p.gap
  plain_tail : '\'' ∉ tail
  apart : ∀ p ∈ parts.tail, p.gap ≠ []

namespace Part

def text (p : Part) : List Char := p.gap ++ quote p.content

/-- The ranges of the literals of parts that begin at `offset`. -/
def ranges (offset : ℕ) : List Part → List Span
  | [] => []
  | p :: ps => ⟨(offset + p.gap.length : ℕ), (offset + p.text.length : ℕ)⟩ ::
      ranges (offset + p.text.length) ps

theorem length_text (p : Part) :
    p.text.length = p.gap.length + ((double p.content).length + 2) := by
  simp [text, quote]

end Part

namespace Layout

def text (l : Layout) : List Char := l.parts.flatMap Part.text ++ l.tail

def ranges (l : Layout) : List Span := Part.ranges 0 l.parts

end Layout

/-- A gap that is not empty begins with no apostrophe. -/
theorem head?_gap_ne {gap rest : List Char} (hg : '\'' ∉ gap) (hne : gap ≠ []) :
    (gap ++ rest).head? ≠ some '\'' := by
  obtain ⟨c, cs, rfl⟩ := List.exists_cons_of_ne_nil hne
  exact fun h => hg (Option.some.inj h ▸ List.mem_cons_self)

section Parts

variable {ps : List Part} {offset : ℕ}

theorem Part.ranges_append (ps qs : List Part) (offset : ℕ) : Part.ranges offset (ps ++ qs) =
    Part.ranges offset ps ++ Part.ranges (offset + (ps.flatMap Part.text).length) qs := by
  induction ps generalizing offset with
  | nil => rfl
  | cons p ps ih =>
    rw [List.cons_append, ranges, ih, ranges, List.flatMap_cons, List.length_append, Nat.add_assoc]
    rfl

/-- Parts are read as they are written before what is read behind them. -/
theorem reads_parts {rest : List Char} {ss : List Span} (hp : ∀ p ∈ ps, '\'' ∉ p.gap)
    (ha : ∀ p ∈ ps.tail, p.gap ≠ []) (hr : ps ≠ [] → rest.head? ≠ some '\'')
    (h : Reads (offset + (ps.flatMap Part.text).length) rest ss) :
    Reads offset (ps.flatMap Part.text ++ rest) (Part.ranges offset ps ++ ss) := by
  induction ps generalizing offset with
  | nil => exact h
  | cons p ps ih =>
    have htext : (p :: ps).flatMap Part.text ++ rest =
        p.gap ++ ('\'' :: double p.content ++ '\'' :: (ps.flatMap Part.text ++ rest)) := by
      simp [Part.text, quote]
    have hhead : (ps.flatMap Part.text ++ rest).head? ≠ some '\'' := by
      cases ps with
      | nil => exact hr (by simp)
      | cons q qs =>
        rw [List.flatMap_cons, Part.text, List.append_assoc, List.append_assoc]
        exact head?_gap_ne (hp q (by simp)) (ha q List.mem_cons_self)
    rw [List.flatMap_cons, List.length_append, ← Nat.add_assoc] at h
    have ih := ih (fun q hq => hp q (List.mem_cons_of_mem p hq))
      (fun q hq => ha q (List.mem_of_mem_tail hq)) (fun _ => hr (by simp)) h
    rw [Part.length_text, ← Nat.add_assoc] at ih
    rw [htext, Part.ranges, Part.length_text, ← Nat.add_assoc]
    exact .literal (hp p List.mem_cons_self) (body_double p.content) hhead ih

end Parts

namespace Layout

variable (l : Layout)

theorem reads_text : Reads 0 l.text l.ranges := by
  have htail : Reads (0 + (l.parts.flatMap Part.text).length) l.tail [] := .plain l.plain_tail
  have h := reads_parts l.plain l.apart (fun _ hm => l.plain_tail (List.mem_of_head? hm)) htail
  rwa [List.append_nil] at h

/-- Without the last closing apostrophe the last literal runs to the end. -/
theorem reads_unclosed {cs : List Char} (h : l.text = cs ++ '\'' :: l.tail) :
    ∃ ss s, l.ranges = ss ++ [s] ∧
      Reads 0 (cs ++ l.tail) (ss ++ [⟨s.start, (cs ++ l.tail).length⟩]) := by
  rcases List.eq_nil_or_concat l.parts with hnil | ⟨init, last, hparts⟩
  · rw [text, hnil] at h
    have := congrArg List.length h
    simp at this
    omega
  · rw [List.concat_eq_append] at hparts
    have hcs : cs = init.flatMap Part.text ++ (last.gap ++ '\'' :: double last.content) := by
      have hwritten : (init.flatMap Part.text ++ (last.gap ++ '\'' :: double last.content)) ++
          '\'' :: l.tail = cs ++ '\'' :: l.tail := by
        rw [← h, text, hparts]
        simp [Part.text, quote]
      exact (List.append_cancel_right hwritten).symm
    have hplain := l.plain
    have hapart := l.apart
    rw [hparts] at hplain hapart
    have hgap := hplain last (by simp)
    have hhead : init ≠ [] →
        (last.gap ++ '\'' :: (double last.content ++ l.tail)).head? ≠ some '\'' := by
      intro hne
      obtain ⟨p, ps, rfl⟩ := List.exists_cons_of_ne_nil hne
      exact head?_gap_ne hgap (hapart last (by simp))
    have hinner : ∀ p ∈ init.tail, p.gap ≠ [] := by
      cases init with
      | nil => exact nofun
      | cons q qs => exact fun p hp => hapart p (List.mem_append_left _ hp)
    have hbody := body_append (body_double last.content) l.plain_tail
    have hlast := Reads.unclosed (0 + (init.flatMap Part.text).length) hgap hbody
    have hinit := reads_parts (fun p hp => hplain p (List.mem_append_left _ hp)) hinner hhead hlast
    have htext : cs ++ l.tail =
        init.flatMap Part.text ++ (last.gap ++ '\'' :: (double last.content ++ l.tail)) := by
      rw [hcs, List.append_assoc, List.append_assoc, List.cons_append]
    refine ⟨_, _, by rw [ranges, hparts, Part.ranges_append]; rfl, ?_⟩
    have hlen : (cs ++ l.tail).length = 0 + (init.flatMap Part.text).length + last.gap.length +
        ((double last.content ++ l.tail).length + 1) := by
      rw [htext, List.length_append, List.length_append, List.length_cons]
      omega
    rw [hlen, htext]
    exact hinit

end Layout

/-- The literals of a text are the only spans that decompose it, and they hold the
apostrophes and what an odd number of them comes before. What is written as gaps and
literals is read as such, and a last literal without its end reaches to that of the
text. -/
theorem spans_decompose (cs : List Char) (l : Layout) :
    (∀ ss, Decomposes cs ss ↔ ss = spans cs) ∧
    (∀ i : ℕ, (∃ s ∈ spans cs, s.contains i = true) ↔
      i < cs.length ∧ (cs[i]? = some '\'' ∨ (cs.take i).count '\'' % 2 = 1)) ∧
    spans l.text = l.ranges ∧
    ∀ head, l.text = head ++ '\'' :: l.tail → ∃ ss s, l.ranges = ss ++ [s] ∧
      spans (head ++ l.tail) = ss ++ [⟨s.start, (head ++ l.tail).length⟩] := by
  refine ⟨fun ss => decomposes_iff, fun i => ?_, l.reads_text.spansFrom_eq, fun head h => ?_⟩
  · rw [exists_mem_spans_iff, Token.Unquoted, Nat.mod_two_not_eq_zero]
  · obtain ⟨ss, s, hranges, hreads⟩ := l.reads_unclosed h
    exact ⟨ss, s, hranges, hreads.spansFrom_eq⟩

/-- A doubled apostrophe and an empty content are read back, and the empty literal runs
to the end once its second apostrophe is gone. -/
theorem spans_decompose_doubled : ∃ l : Layout, l.text = "x'it''s' '' y".toList ∧
    spans l.text = [⟨1, 8⟩, ⟨9, 11⟩] ∧ Decomposes l.text [⟨1, 8⟩, ⟨9, 11⟩] ∧
    spans "x'it''s' ' y".toList = [⟨1, 8⟩, ⟨9, 12⟩] := by
  let l : Layout := ⟨[⟨['x'], "it's".toList⟩, ⟨[' '], []⟩], " y".toList, by decide, by decide,
    by decide⟩
  obtain ⟨hunique, -, hspans, hcut⟩ := spans_decompose l.text l
  obtain ⟨ss, s, hranges, hopen⟩ := hcut "x'it''s' '".toList rfl
  have hranges : [⟨1, 8⟩] ++ [⟨9, 11⟩] = ss ++ [s] := hranges
  obtain ⟨rfl, hs⟩ := List.append_inj' hranges rfl
  cases hs
  exact ⟨l, rfl, hspans, (hunique _).mpr hspans.symm, hopen⟩

end QueryBinding.Literal
