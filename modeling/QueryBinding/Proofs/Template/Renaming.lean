import Mathlib.Logic.Function.Defs
import QueryBinding.Proofs.Template.NormalForm

/-! Other names for the placeholders of a text. If each named token is written with its new
name and everything else is kept, the text is read as before: the same placeholders have
the new names and stand further behind by what the names before them have grown. Names
of any length will do, since a name ends where it ended and begins with a colon that
nothing before it can take. -/

namespace QueryBinding

/-- New names for names, different ones for different names. -/
structure Renaming where
  toFun : String → String
  injective : Function.Injective toFun
  isName : ∀ name : String, Identifier.IsName name.toList → Identifier.IsName (toFun name).toList

instance : CoeFun Renaming fun _ => String → String := ⟨Renaming.toFun⟩

variable (r : Renaming)

namespace Lexeme

/-! ### Renamed lexemes -/

def rename : Lexeme → Lexeme
  | named name => named (r (String.ofList name)).toList
  | l => l

theorem normal_rename (l : Lexeme) : (l.rename r).normal = l.normal := by
  cases l <;> rfl

theorem rename_turn (inside : Bool) (l : Lexeme) : (l.rename r).turn inside = l.turn inside := by
  cases l <;> rfl

variable {r}

theorem fits_rename {inside : Bool} {l : Lexeme} (h : l.Fits inside) :
    (l.rename r).Fits inside := by
  cases l with
  | named name =>
    have hname := h.2
    rw [← String.toList_ofList (l := name)] at hname
    exact ⟨h.1, r.isName _ hname⟩
  | _ => exact h

variable (r)

/-- A name begins with a colon, whatever it is. -/
theorem head?_flatten_rename (ls : List Lexeme) :
    (flatten (ls.map (rename r))).head? = (flatten ls).head? := by
  cases ls with
  | nil => rfl
  | cons l ls => cases l <;> rfl

theorem endsBefore_rename_iff {l : Lexeme} {next : Option Char} :
    (l.rename r).EndsBefore next ↔ l.EndsBefore next := by
  cases l <;> exact Iff.rfl

theorem proper_rename {inside : Bool} {ls : List Lexeme} (h : Proper inside ls) :
    Proper inside (ls.map (rename r)) := by
  induction ls generalizing inside with
  | nil => trivial
  | cons l ls ih =>
    obtain ⟨hf, he, hp⟩ := h
    rw [List.map_cons]
    refine ⟨fits_rename hf, (endsBefore_rename_iff r).mpr ?_, ?_⟩
    · rwa [head?_flatten_rename]
    · rw [rename_turn]
      exact ih hp

theorem scan_flatten_rename (cs : List Char) :
    scan (flatten ((scan cs).map (rename r))) = (scan cs).map (rename r) :=
  scan_flatten (proper_rename r (proper_scan cs))

theorem map_normal_rename (ls : List Lexeme) :
    (ls.map (rename r)).map normal = ls.map normal := by
  rw [List.map_map]
  exact List.map_congr_left fun l _ => normal_rename r l

theorem runsFrom_map_rename (run : List Char) (ls : List Lexeme) :
    runsFrom run (ls.map (rename r)) = runsFrom run ls := by
  rw [← runsFrom_map_normal, map_normal_rename, runsFrom_map_normal]

end Lexeme

namespace Placeholder

/-- The characters by which the new name is longer. -/
def growth (p : Placeholder) : ℤ :=
  match p.name with
  | none => 0
  | some name => (r name).length - name.length

/-- The placeholder with its new name, where those before it have grown. -/
def rename (grown : ℤ) (p : Placeholder) : Placeholder :=
  { p with name := p.name.map r, position := p.position + grown }

end Placeholder

namespace Template

open Lexeme

/-! ### Renamed placeholders -/

/-- The characters by which names have grown. -/
def growth : List Placeholder → ℤ
  | [] => 0
  | p :: ps => p.growth r + growth ps

/-- Placeholders with new names, where earlier names have grown. -/
def renameFrom : ℤ → List Placeholder → List Placeholder
  | _, [] => []
  | grown, p :: ps => p.rename r grown :: renameFrom (grown + p.growth r) ps

theorem getElem?_renameFrom (grown : ℤ) (i : ℕ) (ps : List Placeholder) :
    (renameFrom r grown ps)[i]? =
      ps[i]?.map (Placeholder.rename r (grown + growth r (ps.take i))) := by
  induction ps generalizing grown i with
  | nil => rfl
  | cons p ps ih =>
    cases i with
    | zero => simp [renameFrom, growth]
    | succ i => simp [renameFrom, growth, ih, Int.add_assoc]

theorem length_renameFrom (grown : ℤ) (ps : List Placeholder) :
    (renameFrom r grown ps).length = ps.length := by
  induction ps generalizing grown with
  | nil => rfl
  | cons p ps ih => simp [renameFrom, ih]

theorem placeholdersFrom_rename {offset offset' : ℕ} {grown : ℤ} (h : offset' = offset + grown)
    (rank : ℕ) (ls : List Lexeme) : placeholdersFrom offset' rank (ls.map (Lexeme.rename r)) =
      renameFrom r grown (placeholdersFrom offset rank ls) := by
  induction ls generalizing offset offset' rank grown with
  | nil => rfl
  | cons l ls ih =>
    cases l with
    | positional =>
      have ih := @ih (offset + 1) (offset' + 1) (grown + 0) (by omega) (rank + 1)
      simp [Lexeme.rename, placeholdersFrom, renameFrom, Placeholder.rename, Placeholder.growth,
        h, ih]
    | named name =>
      have hlength : (r (String.ofList name)).toList.length = (r (String.ofList name)).length :=
        String.length_toList
      have ih := @ih (offset + (name.length + 1))
        (offset' + ((r (String.ofList name)).toList.length + 1))
        (grown + ((r (String.ofList name)).length - (String.ofList name).length))
        (by rw [hlength, String.length_ofList]; omega) (rank + 1)
      rw [List.map_cons, Lexeme.rename, placeholdersFrom, placeholdersFrom, ih,
        String.ofList_toList]
      simp [renameFrom, Placeholder.rename, Placeholder.growth, h]
    | _ => exact ih (by simp only [Lexeme.rename, width]; omega) rank

/-- As many bare colons as before. -/
theorem length_colonsFrom_rename (offset offset' : ℕ) (ls : List Lexeme) :
    (colonsFrom offset' (ls.map (Lexeme.rename r))).length = (colonsFrom offset ls).length := by
  rw [← length_colonsFrom_normal offset' (ls.map (Lexeme.rename r)) 0, map_normal_rename,
    length_colonsFrom_normal offset]

/-! ### The text with new names -/

/-- What follows an offset of a text, with the new names at the placeholders that follow. -/
def respell (cs : List Char) : ℕ → List Placeholder → List Char
  | offset, [] => cs.drop offset
  | offset, p :: ps =>
    match p.name with
    | none => respell cs offset ps
    | some name =>
      (cs.drop offset).take (p.position.toNat - offset) ++ ':' :: (r name).toList ++
        respell cs (p.position.toNat + 1 + name.length) ps

/-- The source with the new name in the place of each named token. -/
def respelled (t : Template) : String := String.ofList (respell r t.source.toList 0 t.placeholders)

/-- What is no name is kept, and a name comes after what was kept before it. -/
theorem respell_lexemes {before : List Char} {offset : ℕ} (h : offset ≤ before.length) (rank : ℕ)
    (ls : List Lexeme) :
    respell r (before ++ flatten ls) offset (placeholdersFrom before.length rank ls) =
      before.drop offset ++ flatten (ls.map (Lexeme.rename r)) := by
  -- what lies between `offset` and the lexemes has been passed and is not yet written
  induction ls generalizing before offset rank with
  | nil => simp [placeholdersFrom, respell]
  | cons l ls ih =>
    have hkeep (rank : ℕ) : respell r (before ++ flatten (l :: ls)) offset
        (placeholdersFrom (before.length + l.width) rank ls) =
          before.drop offset ++ (l.source ++ flatten (ls.map (Lexeme.rename r))) := by
      have ih := @ih (before ++ l.source) offset (by rw [List.length_append]; omega) rank
      rwa [List.length_append, length_source, List.append_assoc, ← flatten_cons,
        List.drop_append_of_le_length h, List.append_assoc] at ih
    rw [List.map_cons, flatten_cons]
    cases l with
    | positional => exact hkeep (rank + 1)
    | named name =>
      have hlength : (before ++ ':' :: name).length = before.length + (name.length + 1) := by simp
      have hrest := @ih (before ++ ':' :: name) (before ++ ':' :: name).length (Nat.le_refl _)
        (rank + 1)
      rw [List.drop_length, List.nil_append, List.append_assoc, hlength] at hrest
      have hbefore : ((before ++ flatten (named name :: ls)).drop offset).take
          ((before.length : ℤ).toNat - offset) = before.drop offset := by
        rw [List.drop_append_of_le_length h, Int.toNat_natCast]
        exact List.take_left' List.length_drop
      have hbehind : (before.length : ℤ).toNat + 1 + (String.ofList name).length =
          before.length + (name.length + 1) := by
        rw [Int.toNat_natCast, String.length_ofList]
        omega
      rw [placeholdersFrom, respell]
      simp only [hbehind]
      rw [← flatten_cons, hbefore, flatten_cons]
      exact (congrArg _ hrest).trans (List.append_assoc _ _ _)
    | _ => exact hkeep rank

/-! ### Reading the text with new names -/

variable {r}

/-- The second template is that of the text with new names. -/
structure Renamed (r : Renaming) (t u : Template) : Prop where
  source : u.source = t.respelled r
  normalized : u.normalized = t.normalized
  count : u.count = t.count
  placeholder : ∀ (i : ℕ) (p : Placeholder), t.placeholders[i]? = some p → u.placeholders[i]? =
    some (⟨p.kind, p.name.map r, p.index, p.position + growth r (t.placeholders.take i)⟩ :
      Placeholder)
  literals : u.literals.map (·.text u.source) = t.literals.map (·.text t.source)

variable (r)

theorem toList_respelled (sql : String) :
    ((ofLexemes sql (scan sql.toList)).respelled r).toList =
      flatten ((scan sql.toList).map (Lexeme.rename r)) := by
  have h := respell_lexemes r (Nat.le_refl [].length) 0 (scan sql.toList)
  rw [List.nil_append, flatten_scan] at h
  rw [respelled, String.toList_ofList]
  exact h

theorem scan_respelled (sql : String) :
    scan ((ofLexemes sql (scan sql.toList)).respelled r).toList =
      (scan sql.toList).map (Lexeme.rename r) := by
  rw [toList_respelled, scan_flatten_rename]

theorem renamed_ofLexemes (sql : String) :
    Renamed r (ofLexemes sql (scan sql.toList))
      (ofLexemes ((ofLexemes sql (scan sql.toList)).respelled r)
        ((scan sql.toList).map (Lexeme.rename r))) where
  source := rfl
  normalized := by rw [ofLexemes, map_normal_rename, ofLexemes]
  count := by
    rw [count, ofLexemes, placeholdersFrom_rename r (Int.add_zero 0).symm, length_renameFrom]
    rfl
  placeholder i p hp := by
    rw [ofLexemes, placeholdersFrom_rename r (Int.add_zero 0).symm, getElem?_renameFrom,
      Int.zero_add]
    rw [ofLexemes] at hp
    rw [hp]
    rfl
  literals := by
    have hnew := texts_ofLexemes ((ofLexemes sql (scan sql.toList)).respelled r)
      ((scan sql.toList).map (Lexeme.rename r))
    rw [hnew, scan_respelled, runsFrom_map_rename, texts_ofLexemes]

/-- What can be read can be read with new names, by the same rules. -/
theorem exists_parse_respelled {strict : Bool} {sql : String} {parsed : Parsed}
    (h : parse ⟨strict, none⟩ sql = .ok parsed) : ∃ again,
      parse ⟨strict, none⟩ (parsed.template.respelled r) = .ok again ∧
        Renamed r parsed.template again.template := by
  obtain ⟨-, hstrict, rfl⟩ := parse_eq_ok_iff.mp h
  refine ⟨_, parse_eq_ok_iff.mpr ⟨rfl, fun hs => ?_, rfl⟩, ?_⟩
  · have hcolons := length_colonsFrom_rename r 0 0 (scan sql.toList)
    rw [hstrict hs] at hcolons
    rw [scan_respelled]
    exact List.length_eq_zero_iff.mp hcolons
  · rw [scan_respelled]
    exact renamed_ofLexemes r sql

end Template

end QueryBinding
