import Mathlib.Data.String.Basic
import QueryBinding.Files

/-! Paths and their components. A text is cut at each slash, so a name without one is its own only
component and its own normal form, and a path from the root of all down is cut to the components
that it was put together from. Names over 255 bytes are not looked for in any tree. A path leads to
the same place of the tree as its absolute form does. -/

namespace QueryBinding

section Split

open String

/-- The loop of `String.splitOn` for a separator of one character, between two characters: `l`
has been cut off, `m` is the piece that is being read and `r` is still to come. -/
theorem splitOnAux_singleton (c : Char) (l m r : List Char) (acc : List String) :
    splitOnAux (ofList (l ++ m ++ r)) (singleton c) ⟨utf8Len l⟩ ⟨utf8Len l + utf8Len m⟩ 0 acc =
      acc.reverse ++ (List.splitOnPPrepend (· == c) r m.reverse).map ofList := by
  induction r generalizing l m acc with
  | nil =>
    have hend := atEnd_of_valid (l ++ m) []
    rw [utf8Len_append] at hend
    rw [splitOnAux, if_pos (hend.mpr rfl), extract_of_valid l m []]
    simp
  | cons d r ih =>
    have hend := atEnd_of_valid (l ++ m) (d :: r)
    have hget := get_of_valid (l ++ m) (d :: r)
    have hnext := next_of_valid (l ++ m) d r
    have hsep : (0 : Pos.Raw).get (singleton c) = c := get_of_valid [] [c]
    rw [utf8Len_append] at hend hget hnext
    rw [splitOnAux, if_neg (by simpa using hend), hget, hsep, hnext,
      List.splitOnPPrepend_cons_eq_if]
    by_cases hd : d = c
    · have hsepNext : (0 : Pos.Raw).next (singleton c) = ⟨d.utf8Size⟩ := by
        simpa [hd] using next_of_valid [] c []
      have hsepEnd : (⟨d.utf8Size⟩ : Pos.Raw).atEnd (singleton c) = true := by
        simpa [hd] using atEnd_of_valid [c] []
      have hback : (⟨utf8Len l + utf8Len m + d.utf8Size⟩ : Pos.Raw).unoffsetBy ⟨d.utf8Size⟩ =
          ⟨utf8Len l + utf8Len m⟩ := by simp [Pos.Raw.unoffsetBy]
      have ih := ih (l ++ m ++ [d]) [] (ofList m :: acc)
      rw [if_pos (by simpa using hd), hsepNext, if_pos hsepEnd, hback,
        extract_of_valid l m (d :: r), if_pos (by simpa using hd)]
      simpa [← Nat.add_assoc] using ih
    · have hback : (⟨utf8Len l + utf8Len m⟩ : Pos.Raw).unoffsetBy 0 =
          ⟨utf8Len l + utf8Len m⟩ := rfl
      have ih := ih l (m ++ [d]) acc
      rw [if_neg (by simpa using hd), if_neg (by simpa using hd), hback, hnext]
      simpa [← Nat.add_assoc] using ih

theorem splitOn_singleton (c : Char) (s : String) :
    s.splitOn (singleton c) = (s.toList.splitOnP (· == c)).map ofList := by
  have hsep : (singleton c == "") = false := by simp
  have hloop := splitOnAux_singleton c [] [] s.toList []
  rw [splitOn, if_neg (by simp [hsep])]
  simpa using hloop

end Split

namespace Path

variable {name : String}

/-- The components that say something, by the characters of the path. -/
theorem components_eq (path : String) : components path =
    ((path.toList.splitOn '/').map String.ofList).filter fun c => c ≠ "" && c ≠ "." := by
  rw [components, show ("/" : String) = String.singleton '/' from rfl, splitOn_singleton]
  rfl

/-- A name that can stand in a directory. -/
structure IsName (name : String) : Prop where
  not_mem_slash : '/' ∉ name.toList
  not_mem_null : '\x00' ∉ name.toList
  ne_empty : name ≠ ""
  ne_dots : name ≠ "." ∧ name ≠ ".."

theorem components_of_isName (h : IsName name) : components name = [name] := by
  rw [components_eq, List.splitOn_eq_singleton h.not_mem_slash, List.map_singleton,
    String.ofList_toList]
  simp [h.ne_empty, h.ne_dots.1]

theorem root_of_isName (h : IsName name) : root name = "" := by
  unfold root
  split
  case h_4 => rfl
  all_goals
    rename_i heq
    exact absurd (heq ▸ List.mem_cons_self) h.not_mem_slash

theorem normal_of_isName (h : IsName name) : normal name = name := by
  simp only [normal, root_of_isName h, components_of_isName h, String.intercalate_singleton,
    String.empty_append, if_neg h.ne_empty]

/-! ### Paths from the root of all down -/

/-- A component that says something. -/
def IsComponent (c : String) : Prop := '/' ∉ c.toList ∧ c ≠ "" ∧ c ≠ "."

theorem IsName.isComponent (h : IsName name) : IsComponent name :=
  ⟨h.not_mem_slash, h.ne_empty, h.ne_dots.1⟩

theorem not_mem_of_mem_splitOn {cs piece : List Char} (h : piece ∈ cs.splitOn '/') :
    '/' ∉ piece := by
  induction cs generalizing piece with
  | nil =>
    rw [List.splitOn_nil, List.mem_singleton] at h
    rw [h]
    exact List.not_mem_nil
  | cons c cs ih =>
    obtain ⟨first, rest, hsplit⟩ := List.exists_cons_of_ne_nil (List.splitOn_ne_nil '/' cs)
    rw [List.splitOn_cons_eq_if_modifyHead, hsplit] at h
    rw [hsplit] at ih
    split_ifs at h with hc
    · rcases List.mem_cons.mp h with rfl | h
      · exact List.not_mem_nil
      · exact ih h
    · rcases List.mem_cons.mp h with rfl | h
      · have hne : '/' ≠ c := fun heq => hc (beq_iff_eq.mpr heq.symm)
        exact List.not_mem_cons_of_ne_of_not_mem hne (ih List.mem_cons_self)
      · exact ih (List.mem_cons_of_mem _ h)

theorem isComponent_of_mem {path c : String} (h : c ∈ components path) : IsComponent c := by
  rw [components_eq, List.mem_filter, List.mem_map] at h
  obtain ⟨⟨piece, hpiece, rfl⟩, hne⟩ := h
  refine ⟨?_, by simpa using hne⟩
  rw [String.toList_ofList]
  exact not_mem_of_mem_splitOn hpiece

theorem components_rooted {names : List String} (h : ∀ c ∈ names, IsComponent c) :
    components ("/" ++ "/".intercalate names) = names := by
  have hfilter : names.filter (fun c => c ≠ "" && c ≠ ".") = names := by
    refine List.filter_eq_self.mpr fun c hc => ?_
    simpa using (h c hc).2
  have hrooted : ("/" ++ "/".intercalate names).toList.splitOn '/' =
      [] :: (['/'].intercalate (names.map String.toList)).splitOn '/' := by
    rw [String.toList_append, String.toList_intercalate]
    exact (List.splitOn_cons_eq_if_modifyHead '/' _).trans (if_pos rfl)
  rw [components_eq, hrooted]
  cases names with
  | nil => rfl
  | cons name names =>
    rw [List.splitOn_intercalate '/' ?_ (by simp)]
    · simpa using hfilter
    · intro l hl
      obtain ⟨c, hc, rfl⟩ := List.mem_map.mp hl
      exact (h c hc).1

theorem isAbsolute_rooted (path : String) : isAbsolute ("/" ++ path) = true := by
  have hslash : ("/" ++ path).toList = '/' :: path.toList := String.toList_append
  rw [isAbsolute, root, hslash]
  split <;> simp_all

end Path

namespace Files

variable {fs : Files} {name : String}

/-- A name is looked for in the directory at the root of the tree, unless it is too long. -/
theorem locate_of_isName (hroot : fs.isFile [] = false) (h : Path.IsName name) :
    fs.locate name =
      if Path.isLongName name then .error .tooLong else .ok (.inside [name]) := by
  have hnull : name.contains '\x00' = false := by
    rw [String.contains_char_eq]
    exact decide_eq_false h.not_mem_null
  have hdir : fs.isDir [] = true := rfl
  have hstart : fs.start name = .inside [] := by
    rw [start, Path.isAbsolute, Path.root_of_isName h]
    rfl
  rw [locate, hnull, hstart, Path.components_of_isName h]
  by_cases hlong : Path.isLong name = true
  · have hname : Path.isLongName name = true := by
      simp only [Path.isLong, Path.isLongName, decide_eq_true_eq] at *
      omega
    simp [hlong, hname]
  · simp [hlong, walk, hroot, hdir, h.ne_dots.2]

/-- The way down from the root of all leads to the tree. -/
theorem walk_onTheWay (hhome : ".." ∉ fs.home) {p rest : Place} (h : p ++ rest = fs.home)
    (cs : List String) : fs.walk (fs.onTheWay p) (rest ++ cs) = fs.walk (.inside []) cs := by
  induction rest generalizing p with
  | nil =>
    rw [List.append_nil] at h
    rw [onTheWay, if_pos h, List.nil_append]
  | cons c rest ih =>
    have hp : p ≠ fs.home := by
      rintro rfl
      simp at h
    have hup : c ≠ ".." := by
      rintro rfl
      exact hhome (h ▸ by simp)
    have hnext : (p ++ [c]) ++ rest = fs.home := by
      rw [← h, List.append_assoc]
      rfl
    have hway : (p ++ [c]).isPrefixOf fs.home = true :=
      List.isPrefixOf_iff_prefix.mpr ⟨rest, hnext⟩
    rw [onTheWay, if_neg hp, List.cons_append, walk, if_neg hup, if_pos hway]
    exact ih hnext

/-- From a directory of the tree a path leads to the same as its absolute form does. -/
theorem locate_absolute {dir : Place} {path : String} (hhome : ∀ c ∈ fs.home, Path.IsName c)
    (hdir : ∀ c ∈ dir, Path.IsName c) (hrelative : Path.isAbsolute path = false)
    (hnull : '\x00' ∉ (fs.absolute dir path).toList)
    (hlong : Path.isLong (fs.absolute dir path) = false) :
    fs.locate (fs.absolute dir path) = fs.walk (.inside []) (dir ++ Path.components path) := by
  have habsolute : fs.absolute dir path =
      "/" ++ "/".intercalate (fs.home ++ dir ++ Path.components path) := by
    rw [absolute, hrelative, if_neg Bool.false_ne_true]
  have hcomponents : Path.components (fs.absolute dir path) =
      fs.home ++ (dir ++ Path.components path) := by
    rw [habsolute, Path.components_rooted, List.append_assoc]
    intro c hc
    rw [List.mem_append, List.mem_append] at hc
    obtain (hc | hc) | hc := hc
    · exact (hhome c hc).isComponent
    · exact (hdir c hc).isComponent
    · exact Path.isComponent_of_mem hc
  have hstart : fs.start (fs.absolute dir path) = fs.onTheWay [] := by
    rw [start, habsolute, Path.isAbsolute_rooted, if_pos rfl]
  have hup : ".." ∉ fs.home := fun h => (hhome _ h).ne_dots.2 rfl
  rw [locate, String.contains_char_eq, decide_eq_false hnull, hlong, hstart, hcomponents]
  exact walk_onTheWay hup (List.nil_append _) _

end Files

end QueryBinding
