-- How the failures of an import are told. A name that is not there, or is spelled otherwise,
-- becomes a failure of the import with the failure of the name as its cause; whatever else
-- stops the name comes out as it is.

import SourceNames.Proofs.Containment
import SourceNames.Proofs.Settling
import SourceNames.Proofs.Stopping

namespace SourceNames

/-! ## The failures of names and imports -/

/-- What is wrong with the form of a name is one of four failures of that name. -/
theorem eq_of_nameFailure? {name : String} {f : Failure} (h : nameFailure? name = some f) :
    f = .absolutePath name ∨ f = .relativePath name ∨ f = .backslashes name ∨
      f = .notNormalized name := by
  unfold nameFailure? at h
  split_ifs at h <;> simp_all

/-- An import that means no name is malformed in one of five ways. -/
theorem eq_of_importedName_error {importer : ResolvedFile} {imported : String} {f : Failure}
    (h : importedName importer imported = .error f) :
    (∃ protocol, f = .importProtocol importer.sourceName imported protocol) ∨
      f = .importBackslashes importer.sourceName imported ∨
      f = .importAbsolutePath importer.sourceName imported ∨
      f = .importOutsideProject importer.sourceName imported ∨
      f = .importIllegal importer.sourceName imported := by
  unfold importedName at h
  split at h
  · rename_i protocol _
    exact Or.inl ⟨protocol, (Except.error.inj h).symm⟩
  · split_ifs at h
    · simp_all
    · simp_all
    · dsimp only at h
      split at h
      · split at h
        · simp at h
        · split_ifs at h
          simp_all
      · split_ifs at h
        simp_all

/-- Whether a failure is one to find a file under a name, told of the name or of an import. -/
def Failure.isOfFile : Failure → Bool
  | .sourceNotFound _ | .libraryFileNotFound _ | .wrongCasing _ _ => true
  | .importNotFound _ _ | .importWrongCasing _ _ => true
  | _ => false

theorem isOfFile_of_nameFailure? {name : String} {f : Failure} (h : nameFailure? name = some f) :
    f.isOfFile = false := by
  rcases eq_of_nameFailure? h with rfl | rfl | rfl | rfl <;> rfl

theorem isOfFile_of_importedName_error {importer : ResolvedFile} {imported : String} {f : Failure}
    (h : importedName importer imported = .error f) : f.isOfFile = false := by
  rcases eq_of_importedName_error h with ⟨_, rfl⟩ | rfl | rfl | rfl | rfl <;> rfl

/-! ## Faults that are no failures to find a file -/

/-- Whether a fault is a failure to find a file. -/
def Fault.isOfFile : Fault → Bool
  | .failed f _ => f.isOfFile
  | _ => false

theorem isOfFile_of_class {fault : Fault} (h : fault.class ≠ .resolution) :
    fault.isOfFile = false := by
  cases fault with
  | failed f cause => exact absurd rfl h
  | _ => rfl

/-- A finder looks for packages. Whatever stops it, it does not claim that a file is not there
or is spelled otherwise. -/
def PackageFinder.TellsOfNoFile (finder : PackageFinder) : Prop :=
  ∀ host library directory fault, finder host library directory = .error fault →
    fault.isOfFile = false

section Faults

variable {host : Host} {path : Path} {library : String} {fault : Fault}

theorem class_of_settledPath (h : settledPath host path = .error fault) :
    fault.class = .unforeseen := by
  unfold settledPath at h
  split at h <;> cases h
  rfl

/-- A description that is found is no loop of links, so that only the machine can stop the
search. -/
theorem class_of_firstPackage {directories : List Path}
    (h : firstPackage host library directories = .error fault) : fault.class = .environment := by
  induction directories with
  | nil => cases h
  | cons directory rest ih =>
    unfold firstPackage at h
    dsimp only at h
    cases hasked : host.isFile (packageIn directory library) with
    | error call =>
      rw [hasked] at h
      cases h
      rfl
    | ok isFile =>
      cases isFile with
      | false =>
        rw [hasked] at h
        exact ih h
      | true =>
        obtain ⟨bytes, changed, hnode⟩ := Host.isFile_eq_true_iff.mp hasked
        obtain ⟨place, -, hsettled⟩ := Host.settled_of_node hnode
        rw [hasked] at h
        unfold settledPath at h
        rw [hsettled] at h
        cases h

/-- The search among installation directories meets no failure at all. -/
theorem class_of_searchModules {extra : List Path} {directory : Path}
    (h : modulesFinder extra host library directory = .error fault) :
    fault.class ≠ .resolution := by
  unfold modulesFinder searchDirectories at h
  split at h
  · rename_i hsearch
    split at hsearch <;> cases hsearch
    cases h
    rename_i hsettled
    simp [class_of_settledPath hsettled]
  · simp [class_of_firstPackage h]

theorem modulesFinder_tellsOfNoFile (extra : List Path) :
    (modulesFinder extra).TellsOfNoFile :=
  fun _ _ _ _ h => isOfFile_of_class (class_of_searchModules h)

theorem class_of_readTextFile (h : readTextFile host path = .error fault) :
    fault.class = .environment := by
  rcases fault_of_readTextFile h with ⟨_, rfl⟩ | ⟨_, rfl⟩ <;> rfl

theorem class_of_unreadable (h : host.Unreadable path fault) : fault.class = .environment := by
  rcases Host.fault_of_unreadable h with ⟨_, rfl⟩ | ⟨_, rfl⟩ | ⟨_, rfl⟩ <;> rfl

theorem class_of_packageVersion (h : packageVersion host path = .error fault) :
    fault.class ≠ .resolution := by
  cases packageVersion_error_iff.mp h with
  | unreadable hread => simp [class_of_readTextFile hread]
  | notJson => simp [Fault.class]
  | notObject => simp [Fault.class]

end Faults

namespace Resolver

variable {r : Resolver} {host : Host} {name imported : String} {importer : ResolvedFile}
variable {fault : Fault}

/-! ## The failures of one name -/

/-- The kinds of faults that a name can be stopped by: a failure of its form, a file or a library
that is not there, another spelling, whatever the finder is stopped by, and what is no failed
resolution at all. -/
inductive NameFault (r : Resolver) (host : Host) (name : String) : Fault → Prop
  | malformed {f : Failure} : nameFailure? name = some f → NameFault r host name (.of f)
  | notThere : NameFault r host name (.of (.libraryFileNotFound name))
  | misspelled (actual : String) : NameFault r host name (.of (.wrongCasing name actual))
  | notInstalled : NameFault r host name (.of (.libraryNotInstalled (libraryName name)))
  | finder {fault : Fault} : r.finder host (libraryName name) r.root = .error fault →
      NameFault r host name fault
  | other {fault : Fault} : fault.class ≠ .resolution → NameFault r host name fault

theorem StoppedBy.nameFault (h : r.StoppedBy host name fault) : r.NameFault host name fault := by
  cases h with
  | malformed hf => exact .malformed hf
  | unclassified => exact .other (by simp [Fault.class])
  | misspelled => exact .misspelled _
  | unreadable _ _ _ hread => exact .other (by simp [class_of_unreadable hread])
  | bare => exact .notThere
  | unlocated _ _ _ hlocate =>
    cases hlocate with
    | finder hfind => exact .finder hfind
    | notInstalled => exact .notInstalled
  | ofLibrary _ _ _ _ hstops =>
    cases hstops with
    | missed hmisses =>
      cases hmisses with
      | unlisted => exact .other (by simp [Fault.class])
      | absent => exact .notThere
      | misspelled => exact .misspelled _
    | undescribed _ hversion => exact .other (class_of_packageVersion hversion)
    | unreadable _ _ hread => exact .other (by simp [class_of_unreadable hread])

/-- What stops a name is that it is not found in its library, that it is misspelled, or no
failure to find a file. -/
theorem StoppedBy.ofFile (hfinder : r.finder.TellsOfNoFile) (h : r.StoppedBy host name fault) :
    fault = .of (.libraryFileNotFound name) ∨ (∃ actual, fault = .of (.wrongCasing name actual)) ∨
      fault.isOfFile = false := by
  cases h.nameFault with
  | malformed hf => exact Or.inr (Or.inr (isOfFile_of_nameFailure? hf))
  | notThere => exact Or.inl rfl
  | misspelled actual => exact Or.inr (Or.inl ⟨actual, rfl⟩)
  | notInstalled => exact Or.inr (Or.inr rfl)
  | finder hfind => exact Or.inr (Or.inr (hfinder _ _ _ _ hfind))
  | other hclass => exact Or.inr (Or.inr (isOfFile_of_class hclass))

/-! ## The faults of an import -/

/-- How a fault of a name comes out of an import that means the name. -/
def toldOfImport (importer : ResolvedFile) (imported : String) : Fault → Fault
  | .failed f cause =>
    match importFailure? importer.sourceName imported f with
    | some told => .failed told (some f)
    | none => .failed f cause
  | other => other

/-- What stops an import: it means no name, or the name that it means is stopped. -/
inductive ImportStoppedBy (r : Resolver) (host : Host) (importer : ResolvedFile)
    (imported : String) : Fault → Prop
  | untranslated {f : Failure} : importedName importer imported = .error f →
      ImportStoppedBy r host importer imported (.of f)
  | stopped {meant : ImportedName} {met : Fault} : importedName importer imported = .ok meant →
      r.StoppedBy host meant.name met →
      ImportStoppedBy r host importer imported (toldOfImport importer imported met)

theorem resolveImport_error_iff (session : Session) :
    ((r.resolveImport host importer imported).within session).1 = .error fault ↔
      r.ImportStoppedBy host importer imported fault := by
  cases hmeant : importedName importer imported with
  | error f =>
    rw [within_resolveImport_of_error hmeant]
    constructor
    · intro h
      cases h
      exact .untranslated hmeant
    · intro h
      cases h with
      | untranslated h => rw [hmeant] at h; cases h; rfl
      | stopped h => rw [hmeant] at h; cases h
  | ok meant =>
    unfold resolveImport importWith
    rw [Run.within_bind, within_nameImport_of_ok hmeant, Run.within_tryCatch_error_iff]
    -- Whatever is caught is thrown on, as it is told of an import.
    refine Iff.trans (exists_congr fun caught => and_congr_right fun _ =>
      (?_ : _ ↔ toldOfImport importer imported caught = fault)) ?_
    · unfold toldOfImport
      split
      · split
        · rw [Run.within_record_bind, Run.within_throw]
          simp [*]
        · rw [Run.within_throw]
          simp [*]
      · rw [Run.within_throw]
        simp
    · have hstopped : ∀ met after,
          ((r.resolveWith host (r.isLocal host) meant.name).within after).1 = .error met ↔
            r.StoppedBy host meant.name met := fun _ after => resolveSourceName_error_iff after
      simp only [hstopped]
      constructor
      · rintro ⟨met, hmet, rfl⟩
        exact .stopped hmeant hmet
      · intro h
        cases h with
        | untranslated h => rw [hmeant] at h; cases h
        | stopped h hmet => rw [hmeant] at h; cases h; exact ⟨_, hmet, rfl⟩

/-- A fault of a name, and how it comes out of an import that means the name. -/
inductive Retold (importer imported name : String) : Fault → Fault → Prop
  | notThere : Retold importer imported name (.of (.libraryFileNotFound name))
      (.failed (.importNotFound importer imported) (some (.libraryFileNotFound name)))
  | misspelled (actual : String) : Retold importer imported name (.of (.wrongCasing name actual))
      (.failed (.importWrongCasing importer imported) (some (.wrongCasing name actual)))
  | otherwise {fault : Fault} : fault.isOfFile = false →
      Retold importer imported name fault fault

section Retold

variable {met : Fault} {a b : String} {cause : Option Failure}

/-- No import is told of as a source file. -/
theorem Retold.ne_ofName {importer : String} {f : Failure}
    (h : Retold importer imported name met (.failed f cause)) :
    (∀ file, f ≠ .sourceNotFound file) ∧ (∀ file, f ≠ .libraryFileNotFound file) ∧
      ∀ requested actual, f ≠ .wrongCasing requested actual := by
  cases h with
  | notThere | misspelled => simp
  | otherwise hnot =>
    refine ⟨?_, ?_, ?_⟩
    · rintro file rfl
      cases hnot
    · rintro file rfl
      cases hnot
    · rintro requested actual rfl
      cases hnot

theorem retold_notFound_iff {importer : String} :
    Retold importer imported name met (.failed (.importNotFound a b) cause) ↔
      a = importer ∧ b = imported ∧ met = .of (.libraryFileNotFound name) ∧
        cause = some (.libraryFileNotFound name) := by
  constructor
  · intro h
    cases h with
    | notThere => exact ⟨rfl, rfl, rfl, rfl⟩
    | otherwise hnot => cases hnot
  · rintro ⟨rfl, rfl, rfl, rfl⟩
    exact .notThere

theorem retold_wrongCasing_iff {importer : String} :
    Retold importer imported name met (.failed (.importWrongCasing a b) cause) ↔
      a = importer ∧ b = imported ∧ ∃ actual, met = .of (.wrongCasing name actual) ∧
        cause = some (.wrongCasing name actual) := by
  constructor
  · intro h
    cases h with
    | misspelled actual => exact ⟨rfl, rfl, actual, rfl, rfl⟩
    | otherwise hnot => cases hnot
  · rintro ⟨rfl, rfl, actual, rfl, rfl⟩
    exact .misspelled actual

theorem Retold.refl_of_ne {importer : String} {told : Fault}
    (h : Retold importer imported name met told) (hfile : met ≠ .of (.libraryFileNotFound name))
    (hcasing : ∀ actual, met ≠ .of (.wrongCasing name actual)) : told = met := by
  cases h with
  | notThere => exact absurd rfl hfile
  | misspelled actual => exact absurd rfl (hcasing actual)
  | otherwise => rfl

end Retold

theorem class_toldOfImport (fault : Fault) :
    (toldOfImport importer imported fault).class = fault.class := by
  cases fault with
  | failed f cause =>
    unfold toldOfImport
    dsimp only
    split <;> rfl
  | _ => rfl

theorem toldOfImport_of_isOfFile (h : fault.isOfFile = false) :
    toldOfImport importer imported fault = fault := by
  cases fault with
  | failed f cause => cases f <;> first | rfl | cases h
  | _ => rfl

theorem StoppedBy.retold_iff (hfinder : r.finder.TellsOfNoFile) (importer : ResolvedFile)
    (imported : String) {told : Fault} (h : r.StoppedBy host name fault) :
    Retold importer.sourceName imported name fault told ↔
      toldOfImport importer imported fault = told := by
  constructor
  · intro hretold
    cases hretold with
    | notThere => rfl
    | misspelled actual => rfl
    | otherwise hnot => exact toldOfImport_of_isOfFile hnot
  · rintro rfl
    rcases h.ofFile hfinder with rfl | ⟨actual, rfl⟩ | hnot
    · exact .notThere
    · exact .misspelled actual
    · rw [toldOfImport_of_isOfFile hnot]
      exact .otherwise hnot

/-- An import ends with a fault just if it means no name and this is why, or the fault is how
one of the name is told. -/
theorem resolveImport_error_iff_retold (hfinder : r.finder.TellsOfNoFile) (host : Host)
    (importer : ResolvedFile) (imported : String) (fault : Fault) (session later : Session) :
    ((r.resolveImport host importer imported).within session).1 = .error fault ↔
      (∃ f, importedName importer imported = .error f ∧ fault = .of f) ∨
        ∃ meant met, importedName importer imported = .ok meant ∧
          ((r.resolveSourceName host meant.name).within later).1 = .error met ∧
          Retold importer.sourceName imported meant.name met fault := by
  rw [resolveImport_error_iff]
  constructor
  · intro h
    cases h with
    | untranslated hf => exact Or.inl ⟨_, hf, rfl⟩
    | stopped hmeant hmet =>
      exact Or.inr ⟨_, _, hmeant, (resolveSourceName_error_iff later).mpr hmet,
        (hmet.retold_iff hfinder importer imported).mpr rfl⟩
  · rintro (⟨f, hf, rfl⟩ | ⟨meant, met, hmeant, hmet, hretold⟩)
    · exact .untranslated hf
    · have hstopped := (resolveSourceName_error_iff later).mp hmet
      rw [← (hstopped.retold_iff hfinder importer imported).mp hretold]
      exact .stopped hmeant hstopped

/-! ## The law -/

/-- What an import may end with, told from what the name that it means ends with. -/
structure TellsFaults (importer : ResolvedFile) (imported : String)
    (ofName : String → Except Fault ResolvedFile) (outcome : Except Fault ResolvedFile) :
    Prop where
  ofImport : ∀ f cause, outcome = .error (.failed f cause) →
    (∀ file, f ≠ .sourceNotFound file) ∧ (∀ file, f ≠ .libraryFileNotFound file) ∧
      ∀ requested actual, f ≠ .wrongCasing requested actual
  notFound : ∀ a b cause, outcome = .error (.failed (.importNotFound a b) cause) ↔
    a = importer.sourceName ∧ b = imported ∧ ∃ meant, importedName importer imported = .ok meant ∧
      ofName meant.name = .error (.of (.libraryFileNotFound meant.name)) ∧
      cause = some (.libraryFileNotFound meant.name)
  wrongCasing : ∀ a b cause, outcome = .error (.failed (.importWrongCasing a b) cause) ↔
    a = importer.sourceName ∧ b = imported ∧ ∃ meant actual,
      importedName importer imported = .ok meant ∧
      ofName meant.name = .error (.of (.wrongCasing meant.name actual)) ∧
      cause = some (.wrongCasing meant.name actual)
  untranslated : ∀ f, importedName importer imported = .error f → outcome = .error (.of f)
  unchanged : ∀ meant fault, importedName importer imported = .ok meant →
    ofName meant.name = .error fault → fault ≠ .of (.libraryFileNotFound meant.name) →
    (∀ actual, fault ≠ .of (.wrongCasing meant.name actual)) → outcome = .error fault
  noOther : ∀ fault, outcome = .error fault →
    (∃ f, importedName importer imported = .error f ∧ fault = .of f) ∨
      ∃ meant met, importedName importer imported = .ok meant ∧ ofName meant.name = .error met

/-- With a finder that tells of no file, a name never fails as a file of the project that is not
there, and an import tells a failure of its own just where its name is not found or is
misspelled. -/
theorem an_import_retells_only_a_name_not_found_or_misspelled (r : Resolver)
    (hfinder : r.finder.TellsOfNoFile) (host : Host) (session later : Session) :
    (∀ name file cause, ((r.resolveSourceName host name).within session).1 ≠
      .error (.failed (.sourceNotFound file) cause)) ∧
      ∀ importer imported, TellsFaults importer imported
        (fun name => ((r.resolveSourceName host name).within later).1)
        ((r.resolveImport host importer imported).within session).1 := by
  refine ⟨?_, fun importer imported => ?_⟩
  · intro name file cause h
    have hstopped := (resolveSourceName_error_iff session).mp h
    rcases hstopped.ofFile hfinder with h | ⟨actual, h⟩ | h <;> cases h
  · have hends := fun fault =>
      resolveImport_error_iff_retold hfinder host importer imported fault session later
    refine ⟨?_, ?_, ?_, ?_, ?_, ?_⟩
    · intro f cause h
      rcases (hends _).mp h with ⟨f', hf, heq⟩ | ⟨meant, met, -, -, hretold⟩
      · cases heq
        rcases eq_of_importedName_error hf with ⟨_, rfl⟩ | rfl | rfl | rfl | rfl <;> simp
      · exact hretold.ne_ofName
    · intro a b cause
      rw [hends]
      constructor
      · rintro (⟨f, hf, heq⟩ | ⟨meant, met, hmeant, hmet, hretold⟩)
        · cases heq
          cases isOfFile_of_importedName_error hf
        · obtain ⟨ha, hb, rfl, hcause⟩ := retold_notFound_iff.mp hretold
          exact ⟨ha, hb, meant, hmeant, hmet, hcause⟩
      · rintro ⟨ha, hb, meant, hmeant, hmet, hcause⟩
        exact Or.inr ⟨meant, _, hmeant, hmet, retold_notFound_iff.mpr ⟨ha, hb, rfl, hcause⟩⟩
    · intro a b cause
      rw [hends]
      constructor
      · rintro (⟨f, hf, heq⟩ | ⟨meant, met, hmeant, hmet, hretold⟩)
        · cases heq
          cases isOfFile_of_importedName_error hf
        · obtain ⟨ha, hb, actual, rfl, hcause⟩ := retold_wrongCasing_iff.mp hretold
          exact ⟨ha, hb, meant, actual, hmeant, hmet, hcause⟩
      · rintro ⟨ha, hb, meant, actual, hmeant, hmet, hcause⟩
        exact Or.inr ⟨meant, _, hmeant, hmet,
          retold_wrongCasing_iff.mpr ⟨ha, hb, actual, rfl, hcause⟩⟩
    · intro f hf
      exact (hends _).mpr (Or.inl ⟨f, hf, rfl⟩)
    · intro meant fault hmeant hmet hfile hcasing
      have hstopped := (resolveSourceName_error_iff later).mp hmet
      have hretold := (hstopped.retold_iff hfinder importer imported).mpr rfl
      have hsame := hretold.refl_of_ne hfile hcasing
      rw [hsame] at hretold
      exact (hends _).mpr (Or.inr ⟨meant, fault, hmeant, hmet, hretold⟩)
    · intro fault h
      rcases (hends fault).mp h with h | ⟨meant, met, hmeant, hmet, -⟩
      · exact Or.inl h
      · exact Or.inr ⟨meant, met, hmeant, hmet⟩

/-- A file that imports its neighbour by another spelling, and a file that its library does not
have. -/
theorem two_imports_of_a_file_are_told_as_its_own_failures :
    let importer := emptyFile "a.sol" "/project/a.sol" none
    let ended (imported : String) :=
      ((searchingResolver.resolveImport shadowedHost importer imported).within (.start .usual)).1
    searchingResolver.finder.TellsOfNoFile ∧
      ended "./lib/Y.sol" = .error (.failed (.importWrongCasing "a.sol" "./lib/Y.sol")
        (some (.wrongCasing "lib/Y.sol" "lib/y.sol"))) ∧
      ended "lib/z.sol" = .error (.failed (.importNotFound "a.sol" "lib/z.sol")
        (some (.libraryFileNotFound "lib/z.sol"))) := by
  intro importer ended
  have hfinder : searchingResolver.finder.TellsOfNoFile := modulesFinder_tellsOfNoFile []
  have htells := (an_import_retells_only_a_name_not_found_or_misspelled searchingResolver hfinder
    shadowedHost (.start .usual) (.start .usual)).2 importer
  refine ⟨hfinder, ?_, ?_⟩
  · exact ((htells _).wrongCasing _ _ _).mpr ⟨rfl, rfl, ⟨"lib/Y.sol", false⟩, "lib/y.sol",
      eq_ok_of_toOption (by decide +kernel), by decide +kernel, rfl⟩
  · exact ((htells _).notFound _ _ _).mpr ⟨rfl, rfl, ⟨"lib/z.sol", false⟩,
      eq_ok_of_toOption (by decide +kernel), by decide +kernel, rfl⟩

end Resolver

end SourceNames
