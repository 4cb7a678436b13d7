import QueryBinding.Proofs.Workspace.Strictness
import QueryBinding.Workspace.Sources

/-! One load of a resource. What is remembered is returned without a look at the files.
What is not is read as it is at the moment, and there are four ways for this to end: with
a text, with no file, with bytes that are no text, and with something that the library has
no report for. Only the first leaves more than the modules that were found on the way. -/

namespace QueryBinding

def ResourceKey.place (key : ResourceKey) : String := key.package ++ ":" ++ key.resource

namespace Workspace

variable {w : Workspace} {key : ResourceKey} {text : String} {e : Error}

/-! ### Resources as they are -/

/-- What a dotted name leads to at the moment. -/
def moduleOf (w : Workspace) (name : String) : Except Missing Module :=
  (Modules.find w.files w.modules name).1

/-- Knows the modules on the way of a dotted name. -/
def learn (w : Workspace) (name : String) : Workspace :=
  { w with modules := (Modules.find w.files w.modules name).2 }

/-- A name that can be looked up. -/
def Nameable (name : String) : Prop := name ≠ "" ∧ name.startsWith "." = false

/-- A package of this name lies in the directory. -/
def IsPackage (w : Workspace) (name : String) (dir : Place) : Prop :=
  Nameable name ∧ w.moduleOf name = .ok (.package dir)

/-- The package exists and the resource is a file in it with these bytes. -/
def Stores (w : Workspace) (key : ResourceKey) (bytes : List UInt8) : Prop :=
  ∃ dir file, w.IsPackage key.package dir ∧
    w.files.open? (w.files.absolute dir key.resource) = .ok file ∧ file.bytes = bytes

/-- The resource is a text, whatever its line ends. -/
def Holds (w : Workspace) (key : ResourceKey) (text : String) : Prop :=
  ∃ bytes decode cs, w.Stores key bytes ∧
    Codec.find? w.codecs key.encoding = some (.text decode) ∧ decode bytes = .ok cs ∧
      String.ofList (Newline.fold cs) = text

/-- There is no such package or no such file in it. -/
def Absent (w : Workspace) (key : ResourceKey) : Prop :=
  (Nameable key.package ∧ ∃ missing, w.moduleOf key.package = .error missing) ∨
    ∃ dir obstacle, w.IsPackage key.package dir ∧
      w.files.open? (w.files.absolute dir key.resource) = .error obstacle ∧ obstacle ≠ .tooLong

/-- The bytes of the resource are no text in its encoding, and it is known which of them are bad. -/
def Undecodable (w : Workspace) (key : ResourceKey) (failure : Encoding.Failure) : Prop :=
  ∃ bytes decode, w.Stores key bytes ∧
    Codec.find? w.codecs key.encoding = some (.text decode) ∧
      decode bytes = .error (.undecodable failure)

/-- What stands in the way of a resource without being reported by the library. -/
inductive Foreign (w : Workspace) (key : ResourceKey) : Error → Prop
  | empty : key.package = "" → Foreign w key .emptyPackage
  | relative : key.package ≠ "" → key.package.startsWith "." = true →
      Foreign w key (.relativeModule key.package)
  | plain : Nameable key.package → w.moduleOf key.package = .ok .plain →
      Foreign w key (.notPackage key.package)
  | tooLong {dir : Place} : w.IsPackage key.package dir →
      w.files.open? (w.files.absolute dir key.resource) = .error .tooLong →
      Foreign w key (.ofObstacle .tooLong (w.files.absolute dir key.resource))
  | illegalEncoding {bytes : List UInt8} : w.Stores key bytes →
      Codec.find? w.codecs key.encoding = none → key.encoding.contains '\x00' = true →
      Foreign w key .illegalEncoding
  | unknownEncoding {bytes : List UInt8} : w.Stores key bytes →
      Codec.find? w.codecs key.encoding = none → key.encoding.contains '\x00' = false →
      Foreign w key (.unknownEncoding key.encoding)
  | textlessEncoding {bytes : List UInt8} : w.Stores key bytes →
      Codec.find? w.codecs key.encoding = some .textless →
      Foreign w key (.textlessEncoding key.encoding)
  /-- The order of the bytes is not told. -/
  | missingMark {bytes : List UInt8} {decode : Codec.Decoder} : w.Stores key bytes →
      Codec.find? w.codecs key.encoding = some (.text decode) →
      decode bytes = .error .missingMark → Foreign w key .missingMark
  | unplaced {bytes : List UInt8} {decode : Codec.Decoder} {reason : String} :
      w.Stores key bytes → Codec.find? w.codecs key.encoding = some (.text decode) →
      decode bytes = .error (.unplaced reason) → Foreign w key (.unplaced reason)

theorem Foreign.fault?_eq_none (h : w.Foreign key e) : e.fault? = none := by
  cases h <;> rfl

/-- How reading the resource ends. -/
def reading (w : Workspace) (key : ResourceKey) : Except Error String :=
  if key.package = "" then .error .emptyPackage
  else if key.package.startsWith "." then .error (.relativeModule key.package)
  else match w.moduleOf key.package with
    | .error _ => .error (.notFound key.place)
    | .ok .plain => .error (.notPackage key.package)
    | .ok (.package dir) => Action.readResource w dir key

section Reading

variable {dir : Place} {bytes : List UInt8} {failure : Encoding.Failure}

theorem reading_of_nameable (h : Nameable key.package) : w.reading key =
    match w.moduleOf key.package with
    | .error _ => .error (.notFound key.place)
    | .ok .plain => .error (.notPackage key.package)
    | .ok (.package dir) => Action.readResource w dir key := by
  rw [reading, if_neg h.1, if_neg (by rw [h.2]; exact Bool.false_ne_true)]

theorem reading_of_isPackage (h : w.IsPackage key.package dir) :
    w.reading key = Action.readResource w dir key := by
  rw [reading_of_nameable h.1, h.2]

theorem reading_of_stores (h : w.Stores key bytes) :
    w.reading key = Action.decodeText w.codecs .resource key.place key.encoding bytes := by
  obtain ⟨dir, file, hdir, hopen, rfl⟩ := h
  rw [reading_of_isPackage hdir, Action.readResource]
  simp only [hopen]
  rfl

theorem reading_of_holds (h : w.Holds key text) : w.reading key = .ok text := by
  obtain ⟨bytes, decode, cs, hbytes, hname, hcs, rfl⟩ := h
  rw [reading_of_stores hbytes, Action.decodeText, hname]
  simp only [hcs]

theorem reading_of_absent (h : w.Absent key) : w.reading key = .error (.notFound key.place) := by
  rcases h with ⟨hname, missing, hmissing⟩ | ⟨dir, obstacle, hdir, hopen, hlong⟩
  · rw [reading_of_nameable hname, hmissing]
  · rw [reading_of_isPackage hdir, Action.readResource]
    simp only [hopen]
    rfl

theorem reading_of_undecodable (h : w.Undecodable key failure) :
    w.reading key = .error (.undecodable .resource key.place failure) := by
  obtain ⟨bytes, decode, hbytes, hname, hfailure⟩ := h
  rw [reading_of_stores hbytes, Action.decodeText, hname]
  simp only [hfailure]

theorem reading_of_foreign (h : w.Foreign key e) : w.reading key = .error e := by
  cases h with
  | empty h => rw [reading, if_pos h]
  | relative hne h => rw [reading, if_neg hne, if_pos h]
  | plain hname h => rw [reading_of_nameable hname, h]
  | tooLong hdir hopen =>
    rw [reading_of_isPackage hdir, Action.readResource]
    simp only [hopen]
  | illegalEncoding hbytes hname hnull =>
    rw [reading_of_stores hbytes, Action.decodeText, hname]
    simp only [hnull, if_true]
  | unknownEncoding hbytes hname hnull =>
    rw [reading_of_stores hbytes, Action.decodeText, hname]
    simp only [hnull, Bool.false_eq_true, if_false]
  | textlessEncoding hbytes hname =>
    rw [reading_of_stores hbytes, Action.decodeText, hname]
  | missingMark hbytes hname hmark =>
    rw [reading_of_stores hbytes, Action.decodeText, hname]
    simp only [hmark]
  | unplaced hbytes hname hreason =>
    rw [reading_of_stores hbytes, Action.decodeText, hname]
    simp only [hreason]

/-- The bytes of a resource are a text or not. -/
theorem decoding_cases (h : w.Stores key bytes) : (∃ text, w.Holds key text) ∨
    (∃ failure, w.Undecodable key failure) ∨ ∃ e, w.Foreign key e := by
  cases hname : Codec.find? w.codecs key.encoding with
  | none =>
    refine Or.inr (Or.inr ?_)
    cases hnull : key.encoding.contains '\x00' with
    | true => exact ⟨_, .illegalEncoding h hname hnull⟩
    | false => exact ⟨_, .unknownEncoding h hname hnull⟩
  | some meaning =>
    cases meaning with
    | textless => exact Or.inr (Or.inr ⟨_, .textlessEncoding h hname⟩)
    | text decode =>
      cases hcs : decode bytes with
      | ok cs => exact Or.inl ⟨_, bytes, decode, cs, h, hname, hcs, rfl⟩
      | error d =>
        cases d with
        | undecodable failure => exact Or.inr (Or.inl ⟨failure, bytes, decode, h, hname, hcs⟩)
        | missingMark => exact Or.inr (Or.inr ⟨_, .missingMark h hname hcs⟩)
        | unplaced reason => exact Or.inr (Or.inr ⟨_, .unplaced h hname hcs⟩)

/-- There is no other way for a reading to end. -/
theorem reading_cases (w : Workspace) (key : ResourceKey) :
    (∃ text, w.Holds key text) ∨ w.Absent key ∨ (∃ failure, w.Undecodable key failure) ∨
      ∃ e, w.Foreign key e := by
  by_cases hempty : key.package = ""
  · exact Or.inr (Or.inr (Or.inr ⟨_, .empty hempty⟩))
  cases hdot : key.package.startsWith "." with
  | true => exact Or.inr (Or.inr (Or.inr ⟨_, .relative hempty hdot⟩))
  | false =>
    cases hmodule : w.moduleOf key.package with
    | error missing => exact Or.inr (Or.inl (Or.inl ⟨⟨hempty, hdot⟩, missing, hmodule⟩))
    | ok m =>
      cases m with
      | plain => exact Or.inr (Or.inr (Or.inr ⟨_, .plain ⟨hempty, hdot⟩ hmodule⟩))
      | package dir =>
        have hdir : w.IsPackage key.package dir := ⟨⟨hempty, hdot⟩, hmodule⟩
        cases hopen : w.files.open? (w.files.absolute dir key.resource) with
        | ok file =>
          exact (decoding_cases ⟨dir, file, hdir, hopen, rfl⟩).imp_right Or.inr
        | error obstacle =>
          by_cases hlong : obstacle = .tooLong
          · exact Or.inr (Or.inr (Or.inr ⟨_, .tooLong hdir (hlong ▸ hopen)⟩))
          · exact Or.inr (Or.inl (Or.inr ⟨dir, obstacle, hdir, hopen, hlong⟩))

theorem reading_error_cases (h : w.reading key = .error e) :
    (w.Absent key ∧ e = .notFound key.place) ∨
      (∃ failure, w.Undecodable key failure ∧ e = .undecodable .resource key.place failure) ∨
        w.Foreign key e := by
  obtain ⟨text, ht⟩ | ha | ⟨failure, hu⟩ | ⟨e', hf⟩ := w.reading_cases key
  · rw [reading_of_holds ht] at h
    cases h
  · rw [reading_of_absent ha] at h
    cases h
    exact Or.inl ⟨ha, rfl⟩
  · rw [reading_of_undecodable hu] at h
    cases h
    exact Or.inr (Or.inl ⟨failure, hu, rfl⟩)
  · rw [reading_of_foreign hf] at h
    cases h
    exact Or.inr (Or.inr hf)

theorem reading_eq_ok_iff : w.reading key = .ok text ↔ w.Holds key text := by
  refine ⟨fun h => ?_, reading_of_holds⟩
  obtain ⟨text', ht⟩ | ha | ⟨failure, hu⟩ | ⟨e, hf⟩ := w.reading_cases key
  · rw [reading_of_holds ht] at h
    exact Except.ok.inj h ▸ ht
  · rw [reading_of_absent ha] at h
    cases h
  · rw [reading_of_undecodable hu] at h
    cases h
  · rw [reading_of_foreign hf] at h
    cases h

/-- The library has two reports for a resource that can not be read. -/
theorem raises_reading_cases {cls : FaultClass} (h : Template.Raises cls (w.reading key)) :
    (w.Absent key ∧ cls = .notFound) ∨ (∃ failure, w.Undecodable key failure) ∧ cls = .loading := by
  obtain ⟨e, f, he, hf, rfl⟩ := h
  obtain ⟨ha, rfl⟩ | ⟨failure, hu, rfl⟩ | hforeign := reading_error_cases he
  · obtain ⟨f', hf', hcls, -⟩ := Error.fault?_notFound key.place
    rw [hf'] at hf
    cases hf
    exact Or.inl ⟨ha, hcls⟩
  · obtain ⟨f', hf', hcls⟩ := Error.fault?_undecodable .resource key.place failure
    rw [hf'] at hf
    cases hf
    exact Or.inr ⟨⟨failure, hu⟩, hcls⟩
  · rw [hforeign.fault?_eq_none] at hf
    cases hf

theorem raises_notFound_reading_iff :
    Template.Raises .notFound (w.reading key) ↔ w.Absent key := by
  constructor
  · intro h
    obtain ⟨ha, -⟩ | ⟨-, hcls⟩ := raises_reading_cases h
    · exact ha
    · cases hcls
  · intro ha
    obtain ⟨f, hf, hcls, -⟩ := Error.fault?_notFound key.place
    exact ⟨_, f, reading_of_absent ha, hf, hcls⟩

theorem raises_loading_reading_iff :
    Template.Raises .loading (w.reading key) ↔ ∃ failure, w.Undecodable key failure := by
  constructor
  · intro h
    obtain ⟨-, hcls⟩ | ⟨hu, -⟩ := raises_reading_cases h
    · cases hcls
    · exact hu
  · rintro ⟨failure, hu⟩
    obtain ⟨f, hf, hcls⟩ := Error.fault?_undecodable .resource key.place failure
    exact ⟨_, f, reading_of_undecodable hu, hf, hcls⟩

/-- What the library has no report for. -/
theorem reading_foreign_iff :
    w.reading key = .error e ∧ e.fault? = none ↔ w.Foreign key e := by
  constructor
  · rintro ⟨he, hnone⟩
    obtain ⟨-, rfl⟩ | ⟨failure, -, rfl⟩ | hforeign := reading_error_cases he
    · obtain ⟨f, hf, -⟩ := Error.fault?_notFound key.place
      rw [hf] at hnone
      cases hnone
    · obtain ⟨f, hf, -⟩ := Error.fault?_undecodable .resource key.place failure
      rw [hf] at hnone
      cases hnone
    · exact hforeign
  · intro hforeign
    exact ⟨reading_of_foreign hforeign, hforeign.fault?_eq_none⟩

end Reading

/-! ### Workspaces behind a load -/

theorem resources_send (r : Record) (w : Workspace) (h : Handler) :
    (w.send r h).resources = w.resources := by
  unfold send
  cases h.sink <;> rfl

theorem resources_deliver (w : Workspace) (r : Record) :
    (w.deliver r).resources = w.resources := by
  rw [deliver]
  induction w.hub.targets r.logger r.level generalizing w with
  | nil => rfl
  | cons h hs ih => exact (ih (w.send r h)).trans (resources_send r w h)

/-- A remembered resource was used. -/
def reuse (w : Workspace) (key : ResourceKey) : Workspace :=
  { w with resources := w.resources.touch key }

/-- A resource was read to a text, which is noted in the logs and remembered. -/
def shelve (w : Workspace) (key : ResourceKey) (text : String) : Workspace :=
  { (w.learn key.package).deliver
      (Action.loadNotice .resource "_load_resource" key.place text.length) with
    resources := w.resources.insert key text }

end Workspace

namespace Action

variable {w : Workspace} {key : ResourceKey} {text : String} {e : Error}

theorem on_findModule {name : String} (h : Workspace.Nameable name) (w : Workspace) :
    (findModule name).on w = (.ok (w.moduleOf name), w.learn name) := by
  rw [findModule, if_neg h.1, if_neg (by rw [h.2]; exact Bool.false_ne_true)]
  rfl

theorem on_findModule_empty (w : Workspace) :
    (findModule "").on w = (.error .emptyPackage, w) := by
  rw [findModule, if_pos rfl]
  rfl

theorem on_findModule_relative {name : String} (hne : name ≠ "") (h : name.startsWith "." = true)
    (w : Workspace) : (findModule name).on w = (.error (.relativeModule name), w) := by
  rw [findModule, if_neg hne, if_pos h]
  rfl

theorem loadResource_remembered (h : w.resources.find? key = some text) :
    (loadResource key).on w = (.ok text, w.reuse key) := by
  rw [loadResource, on_bind_ok (on_get w), h]
  rfl

theorem loadResource_holds (h : w.resources.find? key = none) (ht : w.Holds key text) :
    (loadResource key).on w = (.ok text, w.shelve key text) := by
  have hreading := Workspace.reading_of_holds ht
  obtain ⟨-, -, -, ⟨dir, -, hdir, -, -⟩, -⟩ := ht
  rw [Workspace.reading_of_isPackage hdir] at hreading
  have hresources : ((w.learn key.package).deliver
      (loadNotice .resource "_load_resource" key.place text.length)).resources = w.resources :=
    Workspace.resources_deliver _ _
  rw [loadResource, on_bind_ok (on_get w), h]
  simp only
  rw [on_bind_ok (on_findModule hdir.1 w), hdir.2]
  simp only
  rw [hreading, on_bind_ok (on_lift _ _), on_bind_ok (on_emit _ _), Workspace.shelve, ← hresources]
  rfl

/-- A load that fails does so without a trace, but for the modules it found on its way. -/
theorem loadResource_failed (h : w.resources.find? key = none) (he : w.reading key = .error e) :
    ∃ modules, (loadResource key).on w = (.error e, { w with modules }) := by
  rw [loadResource, on_bind_ok (on_get w), h]
  simp only
  by_cases hempty : key.package = ""
  · rw [Workspace.reading_of_foreign (.empty hempty)] at he
    cases he
    rw [hempty, on_bind_error (on_findModule_empty w)]
    exact ⟨w.modules, rfl⟩
  cases hdot : key.package.startsWith "." with
  | true =>
    rw [Workspace.reading_of_foreign (.relative hempty hdot)] at he
    cases he
    rw [on_bind_error (on_findModule_relative hempty hdot w)]
    exact ⟨w.modules, rfl⟩
  | false =>
    have hname : Workspace.Nameable key.package := ⟨hempty, hdot⟩
    rw [Workspace.reading_of_nameable hname] at he
    rw [on_bind_ok (on_findModule hname w)]
    refine ⟨(w.learn key.package).modules, ?_⟩
    cases hmodule : w.moduleOf key.package with
    | error missing =>
      rw [hmodule] at he
      cases he
      rfl
    | ok m =>
      rw [hmodule] at he
      cases m with
      | plain =>
        cases he
        rfl
      | package dir =>
        simp only at he ⊢
        rw [he, on_bind_error (on_lift _ _)]
        rfl

/-- What a load that reads the resource gives. -/
theorem loadResource_fst (h : w.resources.find? key = none) :
    ((loadResource key).on w).1 = w.reading key := by
  cases hr : w.reading key with
  | ok text => rw [loadResource_holds h (Workspace.reading_eq_ok_iff.mp hr)]
  | error e =>
    obtain ⟨modules, hon⟩ := loadResource_failed h hr
    rw [hon]

/-- A load that reads the resource as it is at the moment. It ends in one of four ways, and
all but the first leave the remembered resources as they are. -/
structure ReadsAnew (w : Workspace) (key : ResourceKey) : Prop where
  ends : (∃ text, w.Holds key text) ∨ w.Absent key ∨ (∃ failure, w.Undecodable key failure) ∨
    ∃ e, w.Foreign key e
  returns_iff (text : String) : ((loadResource key).on w).1 = .ok text ↔ w.Holds key text
  notFound_iff : Template.Raises .notFound ((loadResource key).on w).1 ↔ w.Absent key
  loading_iff : Template.Raises .loading ((loadResource key).on w).1 ↔
    ∃ failure, w.Undecodable key failure
  /-- What is not reported by the library. -/
  foreign_iff (e : Error) :
    ((loadResource key).on w).1 = .error e ∧ e.fault? = none ↔ w.Foreign key e
  returned (text : String) : w.Holds key text →
    (loadResource key).on w = (.ok text, w.shelve key text)
  failed : (∀ text, ¬ w.Holds key text) →
    ∃ e modules, (loadResource key).on w = (.error e, { w with modules })

theorem readsAnew (h : w.resources.find? key = none) : ReadsAnew w key where
  ends := w.reading_cases key
  returns_iff text := by rw [loadResource_fst h, Workspace.reading_eq_ok_iff]
  notFound_iff := by rw [loadResource_fst h, Workspace.raises_notFound_reading_iff]
  loading_iff := by rw [loadResource_fst h, Workspace.raises_loading_reading_iff]
  foreign_iff e := by rw [loadResource_fst h, Workspace.reading_foreign_iff]
  returned text ht := loadResource_holds h ht
  failed hno := by
    cases hr : w.reading key with
    | ok text => exact absurd (Workspace.reading_eq_ok_iff.mp hr) (hno text)
    | error e => exact ⟨e, loadResource_failed h hr⟩

end Action

end QueryBinding
