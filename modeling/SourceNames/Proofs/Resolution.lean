-- What a resolution that gives a file has gone through. One statement for each function says
-- all that it did; the laws of names, imports and packages are read off from these.

import SourceNames.Proofs.LibraryNames
import SourceNames.Proofs.Runs
import SourceNames.Proofs.Spelling

namespace SourceNames

/-! ## Files found below a directory -/

/-- A file that was found below a directory with exactly the spelling of its name, and read
from there. -/
structure FoundBelow (host : Host) (base : Path) (name : String) (file : ResolvedFile) : Prop where
  sourceName : file.sourceName = name
  absolutePath : file.absolutePath = (base.below name).text
  spelling : trueCaseName host name base = .ok (some name)
  content : ∃ changed, readTextFile host (base.below name) = .ok (file.content.raw, changed) ∧
    instantOf changed = .ok file.modified

theorem trueCaseName_of_checkCasing {host : Host} {name : String} {directory : Path}
    {notFound : String → Failure} (h : checkCasing host name directory notFound = .ok ()) :
    trueCaseName host name directory = .ok (some name) := by
  unfold checkCasing at h
  cases ht : trueCaseName host name directory with
  | error call => simp [ht, onSystem] at h
  | ok found =>
    cases found with
    | none => simp [ht, onSystem] at h
    | some actual =>
      simp only [ht, onSystem] at h
      split at h
      · rename_i hactual
        rw [hactual]
      · simp at h

namespace Resolver

variable {r : Resolver} {host : Host} {name library : String} {file : ResolvedFile}

/-- A resolver is created just for a root that can be settled and is there. -/
theorem create_eq_ok_iff {root : String} {finder : PackageFinder} {parser : SourceParser} :
    create host root finder parser = .ok r ↔ ∃ settled,
      settledPath host (Path.ofText root) = .ok settled ∧ host.existsAt settled = .ok true ∧
        r = ⟨settled, finder, parser⟩ := by
  unfold create
  cases hsettled : settledPath host (Path.ofText root) with
  | error fault => simp
  | ok settled =>
    simp only [Except.ok.injEq, exists_eq_left']
    cases hexists : host.existsAt settled with
    | error call => simp [onSystem]
    | ok present => cases present <;> simp [onSystem, eq_comm]

theorem load_gives {path : Path} {info : Option LibraryInfo}
    (h : (r.load host name path info).Gives file) :
    file.sourceName = name ∧ file.absolutePath = path.text ∧ file.library = info ∧
      ∃ changed, readTextFile host path = .ok (file.content.raw, changed) ∧
        instantOf changed = .ok file.modified := by
  unfold load at h
  obtain ⟨⟨raw, changed⟩, hread, h⟩ := Run.gives_answer_bind h
  obtain ⟨modified, hmodified, h⟩ := Run.gives_answer_bind h
  obtain ⟨found, _, h⟩ := Run.gives_bind h
  rw [Run.gives_pure h]
  exact ⟨rfl, rfl, rfl, changed, hread, hmodified⟩

/-! ## Names of the project -/

/-- A file that a name was resolved to as one of the project. -/
structure ProjectFile (r : Resolver) (host : Host) (name : String) (file : ResolvedFile) :
    Prop where
  isLocal : r.isLocal host name = .ok true
  library : file.library = none
  found : FoundBelow host r.root name file

theorem resolveLocal_gives (h : (r.resolveLocal host name).Gives file) :
    file.library = none ∧ FoundBelow host r.root name file := by
  unfold resolveLocal at h
  obtain ⟨_, hcasing, h⟩ := Run.gives_answer_bind h
  obtain ⟨hname, hpath, hlibrary, hcontent⟩ := load_gives h
  exact ⟨hlibrary, hname, hpath, trueCaseName_of_checkCasing hcasing, hcontent⟩

/-! ## Names of libraries -/

/-- The description file that is taken for a library: the one that the finder comes upon, or
that of the toolchain's own library if there is none. -/
inductive PackageAt (r : Resolver) (host : Host) (library : String) : Path → Prop
  | found {package : FoundPackage} :
      r.finder host library r.root = .ok (some package) → PackageAt r host library package.file
  | toolchain :
      r.finder host library r.root = .ok none → library = toolchainLibrary →
      PackageAt r host library (packageIn (toolchainRoot host) toolchainLibrary)

/-- A library has one description file. -/
theorem PackageAt.unique {first second : Path} (h : r.PackageAt host library first)
    (h' : r.PackageAt host library second) : first = second := by
  cases h with
  | found hf =>
    cases h' with
    | found hf' => rw [hf] at hf'; cases hf'; rfl
    | toolchain hf' _ => rw [hf] at hf'; cases hf'
  | toolchain hf _ =>
    cases h' with
    | found hf' => rw [hf] at hf'; cases hf'
    | toolchain _ _ => rfl

theorem locatePackage_gives {description : Path}
    (h : (r.locatePackage host library).Gives description) :
    r.PackageAt host library description := by
  unfold locatePackage at h
  obtain ⟨_, _, h⟩ := Run.gives_bind h
  obtain ⟨found, hfinder, h⟩ := Run.gives_answer_bind h
  cases found with
  | some package =>
    simp only at h
    split at h
    · obtain ⟨_, _, h⟩ := Run.gives_bind h
      rw [Run.gives_pure h]
      exact .found hfinder
    · rw [Run.gives_pure h]
      exact .found hfinder
  | none =>
    simp only at h
    split at h
    · rename_i htoolchain
      obtain ⟨_, _, h⟩ := Run.gives_bind h
      rw [Run.gives_pure h]
      exact .toolchain hfinder htoolchain
    · exact absurd h Run.not_gives_throw

/-- A file that a name was resolved to as one of a library. -/
structure LibraryFile (r : Resolver) (host : Host) (name : String) (file : ResolvedFile) :
    Prop where
  notLocal : r.isLocal host name = .ok false
  goesOn : libraryName name ≠ name
  package : ∃ description version, r.PackageAt host (libraryName name) description ∧
    packageVersion host description = .ok version ∧
    file.library = some ⟨libraryName name, version⟩ ∧
    FoundBelow host (libraryRoot description (libraryName name)) name file

theorem resolveFromLibrary_gives (h : (r.resolveFromLibrary host name).Gives file) :
    libraryName name ≠ name ∧ ∃ description version,
      r.PackageAt host (libraryName name) description ∧
      packageVersion host description = .ok version ∧
      file.library = some ⟨libraryName name, version⟩ ∧
      FoundBelow host (libraryRoot description (libraryName name)) name file := by
  unfold resolveFromLibrary at h
  simp only at h
  split at h
  · obtain ⟨_, h, _⟩ := Run.gives_bind h
    exact absurd h Run.not_gives_throw
  · rename_i hne
    obtain ⟨description, hpackage, h⟩ := Run.gives_bind h
    obtain ⟨_, hcasing, h⟩ := Run.gives_answer_bind h
    obtain ⟨version, hversion, h⟩ := Run.gives_answer_bind h
    obtain ⟨_, _, h⟩ := Run.gives_bind h
    obtain ⟨hname, hpath, hlibrary, hcontent⟩ := load_gives h
    exact ⟨hne, description, version, locatePackage_gives hpackage, hversion, hlibrary,
      hname, hpath, trueCaseName_of_checkCasing hcasing, hcontent⟩

/-! ## Source names and imports -/

/-- A name that is resolved is well formed, and is one of the project or one of a library. -/
theorem resolveSourceName_gives (h : (r.resolveSourceName host name).Gives file) :
    IsSourceName name ∧ (r.ProjectFile host name file ∨ r.LibraryFile host name file) := by
  unfold resolveSourceName resolveWith at h
  obtain ⟨_, hvalid, h⟩ := Run.gives_answer_bind h
  refine ⟨isSourceName_of_validate hvalid, ?_⟩
  obtain ⟨isLocal, hlocal, h⟩ := Run.gives_answer_bind h
  cases isLocal with
  | true =>
    obtain ⟨_, _, h⟩ := Run.gives_bind h
    obtain ⟨hlibrary, hfound⟩ := resolveLocal_gives h
    exact Or.inl ⟨hlocal, hlibrary, hfound⟩
  | false =>
    obtain ⟨_, _, h⟩ := Run.gives_bind h
    obtain ⟨hne, hpackage⟩ := resolveFromLibrary_gives h
    exact Or.inr ⟨hlocal, hne, hpackage⟩

theorem within_nameImport_of_ok {importer : ResolvedFile} {imported : String}
    {meant : ImportedName} (h : importedName importer imported = .ok meant) (session : Session) :
    (nameImport importer imported).within session =
      (.ok meant.name, { session with journal := session.journal ++
        [.importNamed imported importer.sourceName meant.name meant.throughModules] }) := by
  unfold nameImport
  rw [h]
  exact Run.within_record_bind _ _ _

/-- An import that means no name stops before anything is done. -/
theorem within_resolveImport_of_error {importer : ResolvedFile} {imported : String} {f : Failure}
    (h : importedName importer imported = .error f) (session : Session) :
    (r.resolveImport host importer imported).within session = (.error (.of f), session) := by
  unfold resolveImport importWith nameImport
  rw [h, Run.within_bind, Run.within_throw]

/-- An import that is resolved is the name that it means, resolved. -/
theorem resolveImport_gives {importer : ResolvedFile} {imported : String}
    (h : (r.resolveImport host importer imported).Gives file) :
    ∃ meant, importedName importer imported = .ok meant ∧
      (r.resolveSourceName host meant.name).Gives file := by
  unfold resolveImport importWith at h
  obtain ⟨target, htarget, h⟩ := Run.gives_bind h
  have hname : ∃ meant, importedName importer imported = .ok meant ∧ meant.name = target := by
    unfold nameImport at htarget
    cases hmeant : importedName importer imported with
    | error f => rw [hmeant] at htarget; exact absurd htarget Run.not_gives_throw
    | ok meant =>
      rw [hmeant] at htarget
      obtain ⟨_, _, htarget⟩ := Run.gives_bind htarget
      exact ⟨meant, rfl, (Run.gives_pure htarget).symm⟩
  obtain ⟨meant, hmeant, rfl⟩ := hname
  refine ⟨meant, hmeant, Run.gives_of_tryCatch ?_ h⟩
  intro fault hfault
  -- Every fault that is caught is thrown on, at most told another way.
  split at hfault
  · split at hfault
    · obtain ⟨_, _, hfault⟩ := Run.gives_bind hfault
      exact Run.not_gives_throw hfault
    · exact Run.not_gives_throw hfault
  · exact Run.not_gives_throw hfault

end Resolver

end SourceNames
