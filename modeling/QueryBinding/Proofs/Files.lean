import Mathlib.Tactic.Common
import QueryBinding.Files

/-! Files that are written. What was written to a path is what the path leads to afterwards,
whether a file was there before or not. -/

namespace QueryBinding

namespace Files

variable {fs : Files} {p q : Place} {bytes : List UInt8}

theorem isDir_put (fs : Files) (p q : Place) (bytes : List UInt8) :
    (fs.put p bytes).isDir q = fs.isDir q := by
  rw [put]
  split_ifs <;> rfl

theorem place_of_file? {f : StoredFile} (h : fs.file? p = some f) : f.place = p := by
  simpa using List.find?_some h

/-- In the place of a file its bytes are replaced, and all other files stay as they are. -/
theorem file?_put_of_isFile (h : fs.isFile p = true) (bytes : List UInt8) (q : Place) :
    (fs.put p bytes).file? q =
      (fs.file? q).map fun f => if f.place = p then { f with bytes } else f := by
  rw [put, if_pos h, file?, List.find?_map, file?]
  congr 2
  funext f
  simp only [Function.comp_apply]
  split_ifs <;> rfl

/-- In any other place there is a new file. -/
theorem file?_put_of_not_isFile (h : fs.isFile p = false) (bytes : List UInt8) (q : Place) :
    (fs.put p bytes).file? q =
      (fs.file? q).or (if p = q then some ⟨p, fs.next, bytes⟩ else none) := by
  rw [put, h, if_neg Bool.false_ne_true, file?, List.find?_append, file?, List.find?_singleton]
  simp only [decide_eq_true_eq]

theorem file?_put_of_ne (h : q ≠ p) (fs : Files) (bytes : List UInt8) :
    (fs.put p bytes).file? q = fs.file? q := by
  cases hp : fs.isFile p with
  | false => rw [file?_put_of_not_isFile hp, if_neg h.symm, Option.or_none]
  | true =>
    rw [file?_put_of_isFile hp]
    cases hq : fs.file? q with
    | none => rfl
    | some f => rw [Option.map_some, if_neg (by rwa [place_of_file? hq])]

theorem file?_put_self (fs : Files) (p : Place) (bytes : List UInt8) :
    ∃ f, (fs.put p bytes).file? p = some f ∧ f.bytes = bytes := by
  cases hp : fs.isFile p with
  | false =>
    have hnone : fs.file? p = none := by rwa [isFile, Option.isSome_eq_false_iff,
      Option.isNone_iff_eq_none] at hp
    exact ⟨_, by rw [file?_put_of_not_isFile hp, hnone, if_pos rfl, Option.none_or], rfl⟩
  | true =>
    obtain ⟨f, hf⟩ := Option.isSome_iff_exists.mp hp
    exact ⟨_, by rw [file?_put_of_isFile hp, hf, Option.map_some, if_pos (place_of_file? hf)],
      rfl⟩

theorem onTheWay_put (fs : Files) (p q : Place) (bytes : List UInt8) :
    (fs.put p bytes).onTheWay q = fs.onTheWay q := by
  rw [put]
  split_ifs <;> rfl

theorem home_put (fs : Files) (p : Place) (bytes : List UInt8) :
    (fs.put p bytes).home = fs.home := by
  rw [put]
  split_ifs <;> rfl

/-- A way through the tree is not barred by what is written to a place that is no directory. -/
theorem walk_put (hp : fs.isDir p = false) {here there : Spot} {cs : List String}
    (h : fs.walk here cs = .ok there) (bytes : List UInt8) :
    (fs.put p bytes).walk here cs = .ok there := by
  -- what is entered on the way is a directory, and so it is not the place that is written to
  have hfile' : ∀ {q}, ¬ fs.isFile q = true → ¬ (!fs.isDir q) = true →
      (fs.put p bytes).isFile q = false := by
    intro q hfile hdir
    have hne : q ≠ p := by
      rintro rfl
      simp [hp] at hdir
    rw [isFile, file?_put_of_ne hne, ← isFile]
    simpa using hfile
  fun_induction walk fs here cs with
  | case1 => exact h
  | case2 q cs ih =>
    rw [walk, if_pos rfl, onTheWay_put]
    exact ih h
  | case3 q c cs hup hway ih =>
    rw [walk, if_neg hup, home_put, if_pos hway, onTheWay_put]
    exact ih h
  | case4 => cases h
  | case5 => cases h
  | case6 => cases h
  | case7 here cs hfile hdir ih =>
    rw [walk, hfile' hfile hdir, isDir_put, if_neg Bool.false_ne_true, if_neg hdir, if_pos rfl,
      onTheWay_put, home_put]
    exact ih h
  | case8 => cases h
  | case9 here c cs hfile hdir hup hlong ih =>
    rw [walk, hfile' hfile hdir, isDir_put, if_neg Bool.false_ne_true, if_neg hdir, if_neg hup,
      if_neg hlong]
    exact ih h

theorem start_put (fs : Files) (p : Place) (bytes : List UInt8) (path : String) :
    (fs.put p bytes).start path = fs.start path := by
  rw [start, start, onTheWay_put]

theorem locate_put (hp : fs.isDir p = false) {path : String} {there : Spot}
    (h : fs.locate path = .ok there) (bytes : List UInt8) :
    (fs.put p bytes).locate path = .ok there := by
  unfold locate at h ⊢
  rw [start_put]
  by_cases hnull : path.contains '\x00' = true
  · rw [if_pos hnull] at h
    cases h
  by_cases hlong : Path.isLong path = true
  · rw [if_neg hnull, if_pos hlong] at h
    cases h
  · rw [if_neg hnull, if_neg hlong] at h ⊢
    exact walk_put hp h bytes

/-- A path is opened if it leads to a place with a file. -/
theorem open?_eq_ok_iff {path : String} {f : StoredFile} :
    fs.open? path = .ok f ↔ ∃ p, fs.locate path = .ok (.inside p) ∧ fs.file? p = some f := by
  unfold open?
  constructor
  · intro h
    split at h
    · cases h
    · cases h
    · next p hp =>
      split at h
      · next f' hf =>
        cases h
        exact ⟨p, hp, hf⟩
      · cases h
  · rintro ⟨p, hp, hf⟩
    simp only [hp, hf]

/-- The bytes that were written to a path are found there. -/
theorem open?_write {fs' : Files} {path : String} (h : fs.write path bytes = (fs', none)) :
    ∃ f, fs'.open? path = .ok f ∧ f.bytes = bytes := by
  rw [write] at h
  split at h
  · cases h
  · next made _ =>
    split at h
    · cases h
    · cases h
    · next p hp =>
      split_ifs at h with hdir
      · cases h
      obtain ⟨rfl, -⟩ := Prod.mk.inj h
      obtain ⟨f, hf, hbytes⟩ := file?_put_self made p bytes
      exact ⟨f, open?_eq_ok_iff.mpr ⟨p, locate_put (by simpa using hdir) hp bytes, hf⟩, hbytes⟩

end Files

end QueryBinding
