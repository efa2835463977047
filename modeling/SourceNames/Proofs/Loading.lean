-- What is enough for a resolution to give a file. Where a name spells entries below a
-- directory and the last of them opens as a text with a date, each step answers, and the
-- record is the one of that text as the parser reads it.

import SourceNames.Proofs.Calendar
import SourceNames.Proofs.Resolution
import SourceNames.Proofs.Utf8

namespace SourceNames

/-! ## Texts on disk -/

/-- A path opens as a file of a text, last changed at a time that can be told. -/
structure Host.OpensAs (host : Host) (path : Path) (text : String) (changed : Int) : Prop where
  opens : host.openFile path = .ok (encodeUtf8 text, changed)
  dated : 1 ≤ yearOf changed ∧ yearOf changed ≤ 9999

theorem readTextFile_eq_ok_iff {host : Host} {path : Path} {text : String} {changed : Int} :
    readTextFile host path = .ok (text, changed) ↔
      host.openFile path = .ok (encodeUtf8 text, changed) := by
  unfold readTextFile
  cases hopen : host.openFile path with
  | error call => simp [onSystem]
  | ok opened =>
    obtain ⟨bytes, time⟩ := opened
    simp only [onSystem, Except.ok.injEq, Prod.mk.injEq]
    constructor
    · intro h
      split at h
      · simp at h
      · rename_i read hread
        simp only [Except.ok.injEq, Prod.mk.injEq] at h
        obtain ⟨rfl, rfl⟩ := h
        exact ⟨(decodeUtf8_eq_ok_iff.mp hread).symm, rfl⟩
    · rintro ⟨rfl, rfl⟩
      rw [decodeUtf8_eq_ok_iff.mpr rfl]

/-- The version that the members of a description give, none being empty. -/
def versionIn (members : List (String × JsonValue)) : String :=
  ((members.lookup "version").map JsonValue.plain).getD ""

theorem versionOf_eq_ok_iff {value : JsonValue} {version : String} :
    versionOf value = .ok version ↔
      ∃ members, value = .object members ∧ version = versionIn members := by
  unfold versionOf versionIn
  cases value <;> simp [eq_comm]

/-- A version is read just from a text that is an object. -/
theorem packageVersion_eq_ok_iff {host : Host} {file : Path} {version : String} :
    packageVersion host file = .ok version ↔ ∃ text changed members,
      host.openFile file = .ok (encodeUtf8 text, changed) ∧
        readJson (unifyNewlines text.toList) = .ok (.object members) ∧
        version = versionIn members := by
  simp only [← readTextFile_eq_ok_iff]
  unfold packageVersion
  cases hread : readTextFile host file with
  | error fault => simp
  | ok read =>
    obtain ⟨text, changed⟩ := read
    simp only [Except.ok.injEq, Prod.mk.injEq]
    cases hjson : readJson (unifyNewlines text.toList) with
    | error fault =>
      simp only [reduceCtorEq, false_iff, not_exists, not_and]
      rintro _ _ _ ⟨rfl, rfl⟩ hobject
      simp [hjson] at hobject
    | ok value =>
      simp only [versionOf_eq_ok_iff]
      constructor
      · rintro ⟨members, rfl, rfl⟩
        exact ⟨text, changed, members, ⟨rfl, rfl⟩, hjson, rfl⟩
      · rintro ⟨_, _, members, ⟨rfl, rfl⟩, hobject, rfl⟩
        rw [hjson] at hobject
        exact ⟨members, Except.ok.inj hobject, rfl⟩

theorem checkCasing_of_spells {host : Host} {name : String} {directory : Path}
    {notFound : String → Failure} (h : host.Spells directory name) :
    checkCasing host name directory notFound = .ok () := by
  unfold checkCasing
  simp [trueCaseName_of_spells h, onSystem]

namespace Resolver

variable {r : Resolver} {host : Host} {name text : String} {changed : Int}

/-- The record of a text under a name, as the parser reads the text. -/
def recordOf (r : Resolver) (memo : ScanMemo) (name : String) (path : Path) (text : String)
    (modified : Timestamp) (library : Option LibraryInfo) : ResolvedFile :=
  let found := (r.parser text path.text memo).1
  { sourceName := name
    absolutePath := path.text
    content := ⟨text, found.imports, found.versionPragmas⟩
    modified
    library }

theorem load_within {path : Path} (h : host.OpensAs path text changed)
    (library : Option LibraryInfo) (session : Session) :
    ∃ modified, modified.micros = changed ∧
      ((r.load host name path library).within session).1 =
        .ok (r.recordOf session.memo name path text modified library) := by
  obtain ⟨modified, hmodified⟩ : ∃ modified : Timestamp, modified.micros = changed :=
    ⟨⟨changed, ((yearOf_iff changed).mp h.dated).1, ((yearOf_iff changed).mp h.dated).2⟩, rfl⟩
  refine ⟨modified, hmodified, ?_⟩
  have hread := readTextFile_eq_ok_iff.mpr h.opens
  have hinstant := instantOf_eq_ok_iff.mpr ⟨hmodified, h.dated⟩
  unfold load
  rw [Run.within_answer_bind hread, Run.within_answer_bind hinstant]
  rfl

/-! ## Names of the project -/

/-- A name of the project needs to spell entries below the root, whatever libraries there
are. -/
theorem isLocal_of_spells (hmodules : modulesDirectory ∉ segments name)
    (h : host.Spells r.root name) : r.isLocal host name = .ok true := by
  have hsegment : ¬ hasSegment name modulesDirectory = true :=
    fun hs => hmodules (List.contains_iff_mem.mp hs)
  unfold isLocal
  rw [if_neg hsegment, trueCaseName_of_spells h]
  rfl

theorem resolveSourceName_of_project (hname : IsSourceName name)
    (hmodules : modulesDirectory ∉ segments name) (hspells : host.Spells r.root name)
    (hopens : host.OpensAs (r.root.below name) text changed) (session : Session) :
    ∃ modified, modified.micros = changed ∧
      ((r.resolveSourceName host name).within session).1 =
        .ok (r.recordOf session.memo name (r.root.below name) text modified none) := by
  unfold resolveSourceName resolveWith
  rw [Run.within_answer_bind (validate_eq_ok_iff.mpr hname),
    Run.within_answer_bind (isLocal_of_spells hmodules hspells), if_pos rfl,
    Run.within_record_bind]
  unfold resolveLocal
  rw [Run.within_answer_bind (checkCasing_of_spells hspells)]
  exact load_within hopens none _

/-! ## Names of libraries -/

theorem locatePackage_within {library : String} {description : Path}
    (h : r.PackageAt host library description) (session : Session) :
    ∃ events, (r.locatePackage host library).within session =
      (.ok description, { session with journal := session.journal ++ events }) := by
  unfold locatePackage
  rw [Run.within_record_bind]
  cases h with
  | @found package hfinder =>
    rw [Run.within_answer_bind hfinder]
    simp only
    split
    · rw [Run.within_record_bind]
      exact ⟨_, by simp only [List.append_assoc]; rfl⟩
    · exact ⟨_, rfl⟩
  | toolchain hfinder htoolchain =>
    rw [Run.within_answer_bind hfinder]
    simp only [htoolchain, if_true]
    rw [Run.within_record_bind]
    exact ⟨_, by simp only [List.append_assoc]; rfl⟩

theorem locatePackage_within_error {library : String}
    (hfinder : r.finder host library r.root = .ok none) (h : library ≠ toolchainLibrary)
    (session : Session) :
    ((r.locatePackage host library).within session).1 =
      .error (.of (.libraryNotInstalled library)) := by
  unfold locatePackage
  rw [Run.within_record_bind, Run.within_answer_bind hfinder]
  simp only [h, if_false]
  rfl

theorem resolveSourceName_of_not_local (hname : IsSourceName name)
    (hlocal : r.isLocal host name = .ok false) (session : Session) :
    (r.resolveSourceName host name).within session =
      (r.resolveFromLibrary host name).within
        { session with journal := session.journal ++ [.toLibrary name] } := by
  unfold resolveSourceName resolveWith
  rw [Run.within_answer_bind (validate_eq_ok_iff.mpr hname), Run.within_answer_bind hlocal]
  simp only [Bool.false_eq_true, if_false]
  rw [Run.within_record_bind]

/-- A name of a library needs to spell entries below the directory of the description that is
found, of which the version can be read. -/
theorem resolveFromLibrary_of_package {description : Path} {version : String}
    (hgoesOn : libraryName name ≠ name)
    (hpackage : r.PackageAt host (libraryName name) description)
    (hversion : packageVersion host description = .ok version)
    (hspells : host.Spells (libraryRoot description (libraryName name)) name)
    (hopens : host.OpensAs ((libraryRoot description (libraryName name)).below name) text changed)
    (session : Session) : ∃ file, ((r.resolveFromLibrary host name).within session).1 = .ok file := by
  unfold resolveFromLibrary
  simp only [hgoesOn, if_false]
  obtain ⟨events, hlocate⟩ := locatePackage_within hpackage session
  rw [Run.within_bind, hlocate]
  dsimp only
  rw [Run.within_answer_bind (checkCasing_of_spells hspells), Run.within_answer_bind hversion,
    Run.within_record_bind]
  obtain ⟨_, -, hfile⟩ := load_within hopens (some ⟨libraryName name, version⟩) _
  exact ⟨_, hfile⟩

theorem resolveSourceName_of_library {description : Path} {version : String}
    (hname : IsSourceName name) (hlocal : r.isLocal host name = .ok false)
    (hgoesOn : libraryName name ≠ name)
    (hpackage : r.PackageAt host (libraryName name) description)
    (hversion : packageVersion host description = .ok version)
    (hspells : host.Spells (libraryRoot description (libraryName name)) name)
    (hopens : host.OpensAs ((libraryRoot description (libraryName name)).below name) text changed)
    (session : Session) : ∃ file, ((r.resolveSourceName host name).within session).1 = .ok file := by
  rw [resolveSourceName_of_not_local hname hlocal]
  exact resolveFromLibrary_of_package hgoesOn hpackage hversion hspells hopens _

/-- A name of a library that is not installed fails, unless the toolchain has it. -/
theorem resolveSourceName_of_not_installed (hname : IsSourceName name)
    (hlocal : r.isLocal host name = .ok false) (hgoesOn : libraryName name ≠ name)
    (hfinder : r.finder host (libraryName name) r.root = .ok none)
    (htoolchain : libraryName name ≠ toolchainLibrary) (session : Session) :
    ((r.resolveSourceName host name).within session).1 =
      .error (.of (.libraryNotInstalled (libraryName name))) := by
  rw [resolveSourceName_of_not_local hname hlocal]
  unfold resolveFromLibrary
  simp only [hgoesOn, if_false]
  have hlocate := locatePackage_within_error hfinder htoolchain
    { session with journal := session.journal ++ [.toLibrary name] }
  rw [Run.within_bind]
  generalize (r.locatePackage host (libraryName name)).within _ = ended at hlocate ⊢
  obtain ⟨outcome, after⟩ := ended
  obtain rfl := hlocate
  rfl

end Resolver

end SourceNames
