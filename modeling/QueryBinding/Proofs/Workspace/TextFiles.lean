import QueryBinding.Proofs.Encoding.Utf8
import QueryBinding.Proofs.Files
import QueryBinding.Proofs.Files.Path
import QueryBinding.Proofs.Text.Newline
import QueryBinding.Proofs.Workspace.Insulation
import QueryBinding.Proofs.Workspace.Strictness
import QueryBinding.Workspace.Sources

/-! Statements in text files. Loading gives the text that the bytes of the file spell in UTF-8,
with every line end as one line feed, and fails if they spell none or if there is no file. A
statement of a file is parsed as its text is, by the same rules and through the same caches. A
path that is too long is the one that the library has no report for. -/

namespace QueryBinding

namespace Workspace

variable {w : Workspace} {path : String} {bytes : List UInt8} {cs : List Char}

/-- The path leads to a file with these bytes. -/
def HasFile (w : Workspace) (path : String) (bytes : List UInt8) : Prop :=
  ∃ file, w.files.open? (Path.normal path) = .ok file ∧ file.bytes = bytes

/-- The path leads to no file: nothing is there, or a directory. -/
def NoFile (w : Workspace) (path : String) : Prop :=
  ∃ obstacle, w.files.open? (Path.normal path) = .error obstacle ∧ obstacle ≠ .tooLong

/-- The system does not look for what the path leads to. -/
def TooLong (w : Workspace) (path : String) : Prop :=
  w.files.open? (Path.normal path) = .error .tooLong

/-- Bytes that spell no text. -/
def Spelless (bytes : List UInt8) : Prop := ∀ cs, bytes ≠ Encoding.Utf8.encode cs

theorem file_cases (w : Workspace) (path : String) :
    (∃ cs, w.HasFile path (Encoding.Utf8.encode cs)) ∨
    (∃ bytes, w.HasFile path bytes ∧ Spelless bytes) ∨ w.NoFile path ∨ w.TooLong path := by
  cases hopen : w.files.open? (Path.normal path) with
  | ok file =>
    by_cases h : ∃ cs, file.bytes = Encoding.Utf8.encode cs
    · obtain ⟨cs, hcs⟩ := h
      exact Or.inl ⟨cs, file, hopen, hcs⟩
    · exact Or.inr (Or.inl ⟨file.bytes, ⟨file, hopen, rfl⟩, fun cs hcs => h ⟨cs, hcs⟩⟩)
  | error obstacle =>
    by_cases h : obstacle = .tooLong
    · rw [h] at hopen
      exact Or.inr (Or.inr (Or.inr hopen))
    · exact Or.inr (Or.inr (Or.inl ⟨obstacle, hopen, h⟩))

/-- In a tree of files a name of more than 255 bytes is too long, whatever there is. -/
theorem tooLong_iff_of_isName (hroot : w.files.isFile [] = false) (h : Path.IsName path) :
    w.TooLong path ↔ 255 < path.utf8ByteSize := by
  rw [TooLong, Path.normal_of_isName h, Files.open?, Files.locate_of_isName hroot h,
    Path.isLongName]
  split_ifs with hlong
  · simpa using hlong
  · simp only [decide_eq_true_eq] at hlong
    simp only [hlong, iff_false]
    cases w.files.file? [path] with
    | some file => simp
    | none =>
      simp only
      split_ifs <;> simp

/-- The note of a load. -/
def noted (w : Workspace) (path : String) (text : String) : Workspace :=
  w.deliver (Action.loadNotice .file "load_sql_text" (Path.normal path) text.length)

end Workspace

namespace Action

open Encoding

variable {w w' : Workspace} {path : String} {bytes : List UInt8} {cs : List Char} {text : String}

/-- Whatever further encodings there are, the default one is UTF-8. -/
theorem find?_defaultEncoding (codecs : Codec.Further) :
    Codec.find? codecs defaultEncoding = some (.text Codec.utf8.decode) :=
  Codec.find?_of_ofName? (by decide +kernel) (by decide +kernel) codecs

theorem decodeText_encode (codecs : Codec.Further) (medium : Medium) (place : String)
    (cs : List Char) : decodeText codecs medium place defaultEncoding (Utf8.encode cs) =
      .ok (String.ofList (Newline.fold cs)) := by
  rw [decodeText, find?_defaultEncoding]
  simp only [Codec.decode, Utf8.decode_eq_ok_iff.mpr rfl]
  rfl

theorem decodeText_spelless (h : Workspace.Spelless bytes) (codecs : Codec.Further)
    (medium : Medium) (place : String) :
    ∃ failure, decodeText codecs medium place defaultEncoding bytes =
      .error (.undecodable medium place failure) := by
  cases hdecode : Utf8.decode bytes with
  | ok cs => exact absurd (Utf8.decode_eq_ok_iff.mp hdecode) (h cs)
  | error failure =>
    refine ⟨failure, ?_⟩
    rw [decodeText, find?_defaultEncoding]
    simp only [Codec.decode, hdecode]
    rfl

theorem loadFile_hasFile (h : w.HasFile path (Utf8.encode cs)) :
    (loadFile path defaultEncoding).on w = (.ok (String.ofList (Newline.fold cs)),
      w.noted path (String.ofList (Newline.fold cs))) := by
  obtain ⟨file, hopen, hbytes⟩ := h
  rw [loadFile, on_bind_ok (on_get w)]
  simp only [hopen, hbytes, decodeText_encode]
  rfl

theorem loadFile_spelless (h : w.HasFile path bytes) (hbytes : Workspace.Spelless bytes) :
    ∃ failure, (loadFile path defaultEncoding).on w =
      (.error (.undecodable .file (Path.normal path) failure), w) := by
  obtain ⟨file, hopen, rfl⟩ := h
  obtain ⟨failure, hfailure⟩ := decodeText_spelless hbytes w.codecs .file (Path.normal path)
  refine ⟨failure, ?_⟩
  rw [loadFile, on_bind_ok (on_get w)]
  simp only [hopen, hfailure]
  rfl

theorem loadFile_noFile (h : w.NoFile path) : (loadFile path defaultEncoding).on w =
    (.error (.notFound (Path.normal path)), w) := by
  obtain ⟨obstacle, hopen, hlong⟩ := h
  rw [loadFile, on_bind_ok (on_get w)]
  simp only [hopen]
  cases obstacle with
  | tooLong => exact absurd rfl hlong
  | _ => rfl

theorem loadFile_tooLong (h : w.TooLong path) : (loadFile path defaultEncoding).on w =
    (.error (.ofObstacle .tooLong (Path.normal path)), w) := by
  rw [loadFile, on_bind_ok (on_get w)]
  simp only [show w.files.open? (Path.normal path) = .error .tooLong from h]
  rfl

/-- A file that was written has the bytes that were written to it. -/
theorem hasFile_of_writeFile (h : (writeFile path bytes).on w = (.ok (), w')) :
    w'.HasFile path bytes := by
  rw [writeFile, on_bind_ok (on_get w)] at h
  cases hwrite : w.files.write (Path.normal path) bytes with
  | mk files obstacle =>
    rw [hwrite] at h
    cases obstacle with
    | some obstacle => cases h
    | none =>
      cases h
      exact Files.open?_write hwrite

/-! ### Outcomes -/

/-- What becomes of a path that is loaded. -/
abbrev loaded (w : Workspace) (path : String) : Except Error String :=
  ((loadFile path defaultEncoding).on w).1

theorem loaded_eq_ok_iff : loaded w path = .ok text ↔
    ∃ cs, w.HasFile path (Utf8.encode cs) ∧ text = String.ofList (Newline.fold cs) := by
  constructor
  · intro h
    obtain ⟨cs, hfile⟩ | ⟨bytes, hfile, hbytes⟩ | hfile | hfile := w.file_cases path
    · rw [loaded, loadFile_hasFile hfile] at h
      exact ⟨cs, hfile, (Except.ok.inj h).symm⟩
    · obtain ⟨failure, hload⟩ := loadFile_spelless hfile hbytes
      rw [loaded, hload] at h
      cases h
    · rw [loaded, loadFile_noFile hfile] at h
      cases h
    · rw [loaded, loadFile_tooLong hfile] at h
      cases h
  · rintro ⟨cs, hfile, rfl⟩
    rw [loaded, loadFile_hasFile hfile]

theorem raises_loading_loaded_iff : Template.Raises .loading (loaded w path) ↔
    ∃ bytes, w.HasFile path bytes ∧ Workspace.Spelless bytes := by
  constructor
  · intro h
    obtain ⟨cs, hfile⟩ | hfile | hfile | hfile := w.file_cases path
    · rw [loaded, loadFile_hasFile hfile] at h
      exact absurd h Template.not_raises_ok
    · exact hfile
    · obtain ⟨f, hf, hcls, -⟩ := Error.fault?_notFound (Path.normal path)
      rw [loaded, loadFile_noFile hfile, Template.raises_error_iff hf, hcls] at h
      cases h
    · rw [loaded, loadFile_tooLong hfile] at h
      obtain ⟨e, f, ⟨⟩, ⟨⟩, -⟩ := h
  · rintro ⟨bytes, hfile, hbytes⟩
    obtain ⟨failure, hload⟩ := loadFile_spelless hfile hbytes
    obtain ⟨f, hf, hcls⟩ := Error.fault?_undecodable .file (Path.normal path) failure
    rw [loaded, hload]
    exact ⟨_, f, rfl, hf, hcls⟩

theorem raises_notFound_loaded_iff :
    Template.Raises .notFound (loaded w path) ↔ w.NoFile path := by
  constructor
  · intro h
    obtain ⟨cs, hfile⟩ | ⟨bytes, hfile, hbytes⟩ | hfile | hfile := w.file_cases path
    · rw [loaded, loadFile_hasFile hfile] at h
      exact absurd h Template.not_raises_ok
    · obtain ⟨failure, hload⟩ := loadFile_spelless hfile hbytes
      obtain ⟨f, hf, hcls⟩ := Error.fault?_undecodable .file (Path.normal path) failure
      rw [loaded, hload, Template.raises_error_iff hf, hcls] at h
      cases h
    · exact hfile
    · rw [loaded, loadFile_tooLong hfile] at h
      obtain ⟨e, f, ⟨⟩, ⟨⟩, -⟩ := h
  · intro hfile
    obtain ⟨f, hf, hcls, -⟩ := Error.fault?_notFound (Path.normal path)
    rw [loaded, loadFile_noFile hfile]
    exact ⟨_, f, rfl, hf, hcls⟩

/-- The library has no report for a path that is too long, and for no other. -/
theorem unreported_loaded_iff :
    (∃ e, loaded w path = .error e ∧ e.fault? = none) ↔ w.TooLong path := by
  constructor
  · rintro ⟨e, h, hfault⟩
    obtain ⟨cs, hfile⟩ | ⟨bytes, hfile, hbytes⟩ | hfile | hfile := w.file_cases path
    · rw [loaded, loadFile_hasFile hfile] at h
      cases h
    · obtain ⟨failure, hload⟩ := loadFile_spelless hfile hbytes
      rw [loaded, hload] at h
      cases h
      cases hfault
    · rw [loaded, loadFile_noFile hfile] at h
      cases h
      cases hfault
    · exact hfile
  · intro hfile
    rw [loaded, loadFile_tooLong hfile]
    exact ⟨_, rfl, rfl⟩

theorem loadFile_of_loaded_ok (h : loaded w path = .ok text) :
    (loadFile path defaultEncoding).on w = (.ok text, w.noted path text) := by
  obtain ⟨cs, hfile, rfl⟩ := loaded_eq_ok_iff.mp h
  exact loadFile_hasFile hfile

theorem loadFile_of_loaded_error {e : Error} (h : loaded w path = .error e) :
    (loadFile path defaultEncoding).on w = (.error e, w) := by
  suffices hstate : ((loadFile path defaultEncoding).on w).2 = w from Prod.ext h hstate
  obtain ⟨cs, hfile⟩ | ⟨bytes, hfile, hbytes⟩ | hfile | hfile := w.file_cases path
  · rw [loaded, loadFile_hasFile hfile] at h
    cases h
  · obtain ⟨failure, hload⟩ := loadFile_spelless hfile hbytes
    rw [hload]
  · rw [loadFile_noFile hfile]
  · rw [loadFile_tooLong hfile]

theorem not_mem_of_loaded (h : loaded w path = .ok text) : '\r' ∉ text.toList := by
  obtain ⟨cs, -, rfl⟩ := loaded_eq_ok_iff.mp h
  rw [String.toList_ofList]
  exact Newline.not_mem_fold cs

theorem loaded_of_writeFile (h : (writeFile path (Utf8.encode text.toList)).on w = (.ok (), w'))
    (htext : '\r' ∉ text.toList) : loaded w' path = .ok text :=
  loaded_eq_ok_iff.mpr ⟨text.toList, hasFile_of_writeFile h, by
    rw [Newline.fold_of_not_mem htext, String.ofList_toList]⟩

theorem statementOfFile_of_loaded_ok (h : loaded w path = .ok text) (cache : Option Nat) :
    (statementOfFile path cache).on w = (statement text cache).on (w.noted path text) :=
  on_bind_ok (loadFile_of_loaded_ok h) _

theorem statementOfFile_of_loaded_error {e : Error} (h : loaded w path = .error e)
    (cache : Option Nat) : (statementOfFile path cache).on w = (.error e, w) :=
  on_bind_error (loadFile_of_loaded_error h) _

/-! ### Text files as a whole -/

/-- What becomes of a path that is read as a text file, and of a statement in that file. -/
structure ReadsTextFile (w : Workspace) (path : String) : Prop where
  ok_iff : ∀ text, loaded w path = .ok text ↔
    ∃ cs, w.HasFile path (Utf8.encode cs) ∧ text = String.ofList (Newline.unified cs)
  loading_iff : Template.Raises .loading (loaded w path) ↔
    ∃ bytes, w.HasFile path bytes ∧ Workspace.Spelless bytes
  notFound_iff : Template.Raises .notFound (loaded w path) ↔ w.NoFile path
  unreported_iff : (∃ e, loaded w path = .error e ∧ e.fault? = none) ↔ w.TooLong path
  /-- A name is too long from 256 bytes on. -/
  long_name : w.files.isFile [] = false → Path.IsName path →
    (w.TooLong path ↔ 255 < path.utf8ByteSize)
  /-- A path is read in one of these four ways. -/
  exhausted : (∃ cs, w.HasFile path (Utf8.encode cs)) ∨
    (∃ bytes, w.HasFile path bytes ∧ Workspace.Spelless bytes) ∨ w.NoFile path ∨ w.TooLong path
  not_mem : ∀ text, loaded w path = .ok text → '\r' ∉ text.toList
  /-- What is written without carriage returns is what is loaded. -/
  written : ∀ text w', '\r' ∉ text.toList →
    (writeFile path (Utf8.encode text.toList)).on w = (.ok (), w') → loaded w' path = .ok text
  /-- A text that was loaded can be written anywhere and loaded again. -/
  rewritten : ∀ text, loaded w path = .ok text → ∀ v v' place,
    (writeFile place (Utf8.encode text.toList)).on v = (.ok (), v') → loaded v' place = .ok text
  /-- The statement of a file is that of its text, and all that the caches can tell. -/
  statement : ∀ text, loaded w path = .ok text → ∀ cache,
    (statementOfFile path cache).on w = (Action.statement text cache).on (w.noted path text) ∧
    ((statementOfFile path cache).on w).1 = ((Action.statement text cache).on w).1 ∧
    ((Action.statement text cache).on w).2.Alike ((statementOfFile path cache).on w).2
  /-- A file that cannot be loaded leaves everything as it is. -/
  untouched : ∀ e, loaded w path = .error e →
    (loadFile path defaultEncoding).on w = (.error e, w) ∧
      ∀ cache, (statementOfFile path cache).on w = (.error e, w)

theorem reads_text_file (w : Workspace) (path : String) : ReadsTextFile w path where
  ok_iff text := by simp only [loaded_eq_ok_iff, Newline.fold_eq_unified]
  loading_iff := raises_loading_loaded_iff
  notFound_iff := raises_notFound_loaded_iff
  unreported_iff := unreported_loaded_iff
  long_name := Workspace.tooLong_iff_of_isName
  exhausted := w.file_cases path
  not_mem _ := not_mem_of_loaded
  written _ _ htext h := loaded_of_writeFile h htext
  rewritten _ hload _ _ _ h := loaded_of_writeFile h (not_mem_of_loaded hload)
  statement text hload cache := by
    have hon := statementOfFile_of_loaded_ok hload cache
    have halike := insulated_statement text cache w (w.noted path text) (w.alike_deliver _)
    rw [hon]
    exact ⟨rfl, halike⟩
  untouched _ hload :=
    ⟨loadFile_of_loaded_error hload, statementOfFile_of_loaded_error hload⟩

/-- The length of its name decides how a missing file is reported: with 255 letters as missing,
and with 256 not at all, the load failing with an error from below. -/
theorem reads_text_file_letters :
    Template.Raises .notFound (loaded {} (String.ofList (List.replicate 255 'x'))) ∧
    ¬ Template.Raises .notFound (loaded {} (String.ofList (List.replicate 256 'x'))) ∧
    ∃ e, loaded {} (String.ofList (List.replicate 256 'x')) = .error e ∧ e.fault? = none := by
  have hname : ∀ n, 2 < n → Path.IsName (String.ofList (List.replicate n 'x')) := by
    intro n hn
    have hne : ∀ s : String, s.length ≤ 2 → String.ofList (List.replicate n 'x') ≠ s := by
      rintro s hs rfl
      rw [String.length_ofList, List.length_replicate] at hs
      omega
    exact ⟨by simp, by simp, hne "" (by decide), hne "." (by decide), hne ".." (by decide)⟩
  have hsize : ∀ n, (String.ofList (List.replicate n 'x')).utf8ByteSize = n := by
    intro n
    rw [String.utf8ByteSize_ofList]
    induction n with
    | zero => rfl
    | succ n ih => rw [List.replicate_succ, String.utf8Len_cons, ih]; rfl
  have hlong : Workspace.TooLong {} (String.ofList (List.replicate 256 'x')) :=
    ((reads_text_file {} _).long_name rfl (hname 256 (by decide))).mpr (by rw [hsize]; decide)
  have hshort : ¬ Workspace.TooLong {} (String.ofList (List.replicate 255 'x')) := by
    rw [(reads_text_file {} _).long_name rfl (hname 255 (by decide)), hsize]
    decide
  refine ⟨?_, ?_, (reads_text_file {} _).unreported_iff.mpr hlong⟩
  · -- there is no file of any name, and this name is looked for
    have hnone : ∀ path bytes, ¬ Workspace.HasFile {} path bytes := by
      rintro path bytes ⟨file, hopen, -⟩
      obtain ⟨p, -, ⟨⟩⟩ := Files.open?_eq_ok_iff.mp hopen
    obtain ⟨cs, h⟩ | ⟨bytes, h, -⟩ | h | h :=
      (reads_text_file {} (String.ofList (List.replicate 255 'x'))).exhausted
    · exact absurd h (hnone _ _)
    · exact absurd h (hnone _ _)
    · exact (reads_text_file {} _).notFound_iff.mpr h
    · exact absurd h hshort
  · rw [(reads_text_file {} _).notFound_iff]
    rintro ⟨obstacle, hopen, hne⟩
    rw [hlong] at hopen
    cases hopen
    exact hne rfl

end Action

end QueryBinding
