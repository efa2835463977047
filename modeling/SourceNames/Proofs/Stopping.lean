-- What stops a resolution. A name that gives no file is malformed, is told of no kind, has no
-- package, is not found with exactly its spelling, or is found and cannot be read. Each of
-- these is a case of one relation, which holds whatever was resolved before.

import SourceNames.Proofs.Boundary
import SourceNames.Proofs.Loading

namespace SourceNames

/-! ## Files that are not found or cannot be read -/

/-- Why a file cannot be read from a path: its text cannot, or its date cannot be told. -/
inductive Host.Unreadable (host : Host) (path : Path) : Fault → Prop
  | text {fault : Fault} : readTextFile host path = .error fault → Host.Unreadable host path fault
  | date {raw : String} {changed : Int} {fault : Fault} :
      readTextFile host path = .ok (raw, changed) → instantOf changed = .error fault →
      Host.Unreadable host path fault

theorem fault_of_readTextFile {host : Host} {path : Path} {fault : Fault}
    (h : readTextFile host path = .error fault) :
    (∃ call, fault = .system call) ∨ ∃ met, fault = .notUtf8 met := by
  unfold readTextFile at h
  cases hopen : host.openFile path with
  | error call =>
    simp only [hopen, onSystem, Except.error.injEq] at h
    exact Or.inl ⟨call, h.symm⟩
  | ok opened =>
    simp only [hopen, onSystem] at h
    cases hdecode : decodeUtf8 opened.1 with
    | error met =>
      simp only [hdecode, Except.error.injEq] at h
      exact Or.inr ⟨met, h.symm⟩
    | ok text =>
      rw [hdecode] at h
      cases h

theorem Host.fault_of_unreadable {host : Host} {path : Path} {fault : Fault}
    (h : host.Unreadable path fault) :
    (∃ call, fault = .system call) ∨ (∃ met, fault = .notUtf8 met) ∨
      ∃ year, fault = .yearOutOfRange year := by
  cases h with
  | text hread =>
    rcases fault_of_readTextFile hread with hcall | hmet
    · exact Or.inl hcall
    · exact Or.inr (Or.inl hmet)
  | @date _ changed _ _ hdate =>
    unfold instantOf at hdate
    cases hyear : Timestamp.ofMicros changed with
    | error year =>
      simp only [hyear, Except.error.injEq] at hdate
      exact Or.inr (Or.inr ⟨year, hdate.symm⟩)
    | ok instant =>
      rw [hyear] at hdate
      cases hdate

/-- Why no version can be read from a description file: its text cannot be read, is not JSON, or
is JSON but not an object. -/
inductive Host.Undescribed (host : Host) (file : Path) : Fault → Prop
  | unreadable {fault : Fault} : readTextFile host file = .error fault →
      Host.Undescribed host file fault
  | notJson {text : String} {changed : Int} {fault : JsonFault} :
      readTextFile host file = .ok (text, changed) →
      readJson (unifyNewlines text.toList) = .error fault →
      Host.Undescribed host file (.notJson fault)
  | notObject {text : String} {changed : Int} {value : JsonValue} :
      readTextFile host file = .ok (text, changed) →
      readJson (unifyNewlines text.toList) = .ok value →
      (∀ members, value ≠ .object members) → Host.Undescribed host file (.notObject value.kind)

theorem packageVersion_error_iff {host : Host} {file : Path} {fault : Fault} :
    packageVersion host file = .error fault ↔ host.Undescribed file fault := by
  unfold packageVersion
  constructor
  · intro h
    cases hread : readTextFile host file with
    | error met =>
      rw [hread] at h
      cases h
      exact .unreadable hread
    | ok read =>
      obtain ⟨text, changed⟩ := read
      simp only [hread] at h
      cases hjson : readJson (unifyNewlines text.toList) with
      | error met =>
        rw [hjson] at h
        cases h
        exact .notJson hread hjson
      | ok value =>
        rw [hjson] at h
        cases value with
        | object members => cases h
        | _ => cases h; exact .notObject hread hjson (by simp)
  · intro h
    cases h with
    | unreadable hread => rw [hread]
    | notJson hread hjson => simp only [hread, hjson]
    | @notObject text changed value hread hjson hvalue =>
      simp only [hread, hjson]
      cases value with
      | object members => exact absurd rfl (hvalue members)
      | _ => rfl

/-- Why a name is not found below a directory with exactly its spelling. -/
inductive Host.Misses (host : Host) (directory : Path) (name : String)
    (notFound : String → Failure) : Fault → Prop
  | unlisted {call : CallFault} : trueCaseName host name directory = .error call →
      Host.Misses host directory name notFound (.system call)
  | absent : trueCaseName host name directory = .ok none →
      Host.Misses host directory name notFound (.of (notFound name))
  | misspelled {actual : String} : trueCaseName host name directory = .ok (some actual) →
      actual ≠ name → Host.Misses host directory name notFound (.of (.wrongCasing name actual))

section Casing

variable {host : Host} {directory : Path} {name : String} {notFound : String → Failure}

theorem checkCasing_error_iff {fault : Fault} :
    checkCasing host name directory notFound = .error fault ↔
      host.Misses directory name notFound fault := by
  unfold checkCasing
  constructor
  · intro h
    cases ht : trueCaseName host name directory with
    | error call =>
      simp only [ht, onSystem, Except.error.injEq] at h
      exact h ▸ .unlisted ht
    | ok found =>
      cases found with
      | none =>
        simp only [ht, onSystem, Except.error.injEq] at h
        exact h ▸ .absent ht
      | some actual =>
        simp only [ht, onSystem] at h
        by_cases hactual : actual = name
        · simp [hactual] at h
        · simp only [hactual, if_false, Except.error.injEq] at h
          exact h ▸ .misspelled ht hactual
  · intro h
    cases h with
    | unlisted ht => simp [ht, onSystem]
    | absent ht => simp [ht, onSystem]
    | misspelled ht hactual => simp [ht, onSystem, hactual]

theorem checkCasing_ok_iff : checkCasing host name directory notFound = .ok () ↔
    trueCaseName host name directory = .ok (some name) := by
  constructor
  · exact trueCaseName_of_checkCasing
  · intro h
    unfold checkCasing
    simp [h, onSystem]

end Casing

theorem validate_error_iff {name : String} {fault : Fault} :
    validate name = .error fault ↔ ∃ f, nameFailure? name = some f ∧ fault = .of f := by
  unfold validate
  cases nameFailure? name <;> simp [eq_comm]

namespace Resolver

variable {r : Resolver} {host : Host} {name library : String} {fault : Fault}

theorem load_error_iff {path : Path} {info : Option LibraryInfo} (session : Session) :
    ((r.load host name path info).within session).1 = .error fault ↔
      host.Unreadable path fault := by
  unfold load
  simp only [Run.within_answer_bind_error_iff]
  simp only [Run.within_bind, Run.within_parseWith, Run.within_pure, reduceCtorEq, and_false,
    exists_false, or_false]
  constructor
  · rintro (h | ⟨⟨raw, changed⟩, hread, hdate⟩)
    · exact .text h
    · exact .date hread hdate
  · intro h
    cases h with
    | text h => exact Or.inl h
    | date hread hdate => exact Or.inr ⟨_, hread, hdate⟩

theorem resolveLocal_error_iff (session : Session) :
    ((r.resolveLocal host name).within session).1 = .error fault ↔
      host.Misses r.root name .sourceNotFound fault ∨
        trueCaseName host name r.root = .ok (some name) ∧
          host.Unreadable (r.root.below name) fault := by
  unfold resolveLocal
  rw [Run.within_check_error_iff, checkCasing_error_iff, checkCasing_ok_iff, load_error_iff]

/-! ## Names of libraries -/

/-- Why there is no description file to take for a library: the finder is stopped, or comes
upon none. -/
inductive Unlocated (r : Resolver) (host : Host) (library : String) : Fault → Prop
  | finder {fault : Fault} : r.finder host library r.root = .error fault →
      Unlocated r host library fault
  | notInstalled : r.finder host library r.root = .ok none → library ≠ toolchainLibrary →
      Unlocated r host library (.of (.libraryNotInstalled library))

theorem locatePackage_ok_iff {description : Path} (session : Session) :
    ((r.locatePackage host library).within session).1 = .ok description ↔
      r.PackageAt host library description := by
  constructor
  · intro h
    exact locatePackage_gives ⟨session, h⟩
  · intro h
    obtain ⟨events, hlocate⟩ := locatePackage_within h session
    rw [hlocate]

theorem locatePackage_error_iff (session : Session) :
    ((r.locatePackage host library).within session).1 = .error fault ↔
      r.Unlocated host library fault := by
  constructor
  · intro h
    unfold locatePackage at h
    rw [Run.within_record_bind, Run.within_answer_bind_error_iff] at h
    obtain h | ⟨found, hfinder, h⟩ := h
    · exact .finder h
    · cases found with
      | some package =>
        simp only at h
        split at h
        · rw [Run.within_record_bind, Run.within_pure] at h
          cases h
        · rw [Run.within_pure] at h
          cases h
      | none =>
        simp only at h
        by_cases htoolchain : library = toolchainLibrary
        · rw [if_pos htoolchain, Run.within_record_bind, Run.within_pure] at h
          cases h
        · rw [if_neg htoolchain, Run.within_throw] at h
          cases h
          exact .notInstalled hfinder htoolchain
  · intro h
    cases h with
    | finder hfinder =>
      unfold locatePackage
      rw [Run.within_record_bind, Run.within_answer_bind_error_iff]
      exact Or.inl hfinder
    | notInstalled hfinder htoolchain => exact locatePackage_within_error hfinder htoolchain session

/-- Why a library's file is not read below the directory of its description. -/
inductive LibraryStops (host : Host) (description : Path) (name : String) : Fault → Prop
  | missed {fault : Fault} :
      host.Misses (libraryRoot description (libraryName name)) name .libraryFileNotFound fault →
      LibraryStops host description name fault
  | undescribed {fault : Fault} :
      trueCaseName host name (libraryRoot description (libraryName name)) = .ok (some name) →
      packageVersion host description = .error fault → LibraryStops host description name fault
  | unreadable {version : String} {fault : Fault} :
      trueCaseName host name (libraryRoot description (libraryName name)) = .ok (some name) →
      packageVersion host description = .ok version →
      host.Unreadable ((libraryRoot description (libraryName name)).below name) fault →
      LibraryStops host description name fault

theorem resolveFromLibrary_error_iff (session : Session) :
    ((r.resolveFromLibrary host name).within session).1 = .error fault ↔
      libraryName name = name ∧ fault = .of (.libraryFileNotFound name) ∨
        libraryName name ≠ name ∧ (r.Unlocated host (libraryName name) fault ∨
          ∃ description, r.PackageAt host (libraryName name) description ∧
            LibraryStops host description name fault) := by
  unfold resolveFromLibrary
  by_cases hname : libraryName name = name
  · simp only [hname, if_true]
    rw [Run.within_bind, Run.within_throw]
    simp [eq_comm]
  · simp only [hname, if_false, ne_eq, not_false_eq_true, false_and, true_and, false_or]
    rw [Run.within_bind_error_iff, locatePackage_error_iff]
    simp only [locatePackage_ok_iff]
    refine or_congr_right (exists_congr fun description => and_congr_right fun _ => ?_)
    rw [Run.within_check_error_iff, checkCasing_error_iff, checkCasing_ok_iff]
    simp only [Run.within_answer_bind_error_iff, Run.within_record_bind, load_error_iff]
    constructor
    · rintro (h | ⟨hcasing, h | ⟨version, hversion, h⟩⟩)
      · exact .missed h
      · exact .undescribed hcasing h
      · exact .unreadable hcasing hversion h
    · intro h
      cases h with
      | missed h => exact Or.inl h
      | undescribed hcasing h => exact Or.inr ⟨hcasing, Or.inl h⟩
      | unreadable hcasing hversion h => exact Or.inr ⟨hcasing, Or.inr ⟨_, hversion, h⟩⟩

/-! ## Source names -/

/-- What stops the resolution of a name. A name of the project was found up to case when it
was told to be one, so there it can only be spelled otherwise. -/
inductive StoppedBy (r : Resolver) (host : Host) (name : String) : Fault → Prop
  | malformed {f : Failure} : nameFailure? name = some f → StoppedBy r host name (.of f)
  | unclassified {call : CallFault} : IsSourceName name → modulesDirectory ∉ segments name →
      trueCaseName host name r.root = .error call → StoppedBy r host name (.system call)
  | misspelled {actual : String} : IsSourceName name → modulesDirectory ∉ segments name →
      trueCaseName host name r.root = .ok (some actual) → actual ≠ name →
      StoppedBy r host name (.of (.wrongCasing name actual))
  | unreadable {fault : Fault} : IsSourceName name → modulesDirectory ∉ segments name →
      trueCaseName host name r.root = .ok (some name) →
      host.Unreadable (r.root.below name) fault → StoppedBy r host name fault
  | bare : IsSourceName name → r.isLocal host name = .ok false → libraryName name = name →
      StoppedBy r host name (.of (.libraryFileNotFound name))
  | unlocated {fault : Fault} : IsSourceName name → r.isLocal host name = .ok false →
      libraryName name ≠ name → r.Unlocated host (libraryName name) fault →
      StoppedBy r host name fault
  | ofLibrary {description : Path} {fault : Fault} : IsSourceName name →
      r.isLocal host name = .ok false → libraryName name ≠ name →
      r.PackageAt host (libraryName name) description →
      LibraryStops host description name fault → StoppedBy r host name fault

theorem isLocal_error_iff : r.isLocal host name = .error fault ↔
    modulesDirectory ∉ segments name ∧
      ∃ call, trueCaseName host name r.root = .error call ∧ fault = .system call := by
  unfold isLocal
  by_cases hm : modulesDirectory ∈ segments name
  · have hsegment : hasSegment name modulesDirectory = true := List.contains_iff_mem.mpr hm
    simp [hsegment, hm]
  · have hsegment : ¬ hasSegment name modulesDirectory = true :=
      fun hs => hm (List.contains_iff_mem.mp hs)
    rw [if_neg hsegment]
    cases ht : trueCaseName host name r.root <;> simp [onSystem, hm, eq_comm]

/-- A resolution ends with a fault just if that is what stops the name, in any session. -/
theorem resolveSourceName_error_iff (session : Session) :
    ((r.resolveSourceName host name).within session).1 = .error fault ↔
      r.StoppedBy host name fault := by
  unfold resolveSourceName resolveWith
  rw [Run.within_check_error_iff, validate_error_iff, validate_eq_ok_iff,
    Run.within_answer_bind_error_iff]
  constructor
  · rintro (⟨f, hf, rfl⟩ | ⟨hname, h | ⟨isLocal, hlocal, h⟩⟩)
    · exact .malformed hf
    · obtain ⟨hmodules, call, ht, rfl⟩ := isLocal_error_iff.mp h
      exact .unclassified hname hmodules ht
    · cases isLocal with
      | true =>
        obtain ⟨hmodules, spelling, hspelling⟩ := isLocal_eq_true_iff.mp hlocal
        rw [if_pos rfl, Run.within_record_bind, resolveLocal_error_iff] at h
        rcases h with h | ⟨hcasing, h⟩
        · cases h with
          | unlisted ht => rw [hspelling] at ht; cases ht
          | absent ht => rw [hspelling] at ht; cases ht
          | misspelled ht hactual => exact .misspelled hname hmodules ht hactual
        · exact .unreadable hname hmodules hcasing h
      | false =>
        rw [if_neg (by decide), Run.within_record_bind, resolveFromLibrary_error_iff] at h
        rcases h with ⟨hbare, rfl⟩ | ⟨hgoesOn, h | ⟨description, hpackage, h⟩⟩
        · exact .bare hname hlocal hbare
        · exact .unlocated hname hlocal hgoesOn h
        · exact .ofLibrary hname hlocal hgoesOn hpackage h
  · intro h
    have hproject : ∀ spelling, modulesDirectory ∉ segments name →
        trueCaseName host name r.root = .ok (some spelling) → r.isLocal host name = .ok true :=
      fun spelling hmodules ht => isLocal_eq_true_iff.mpr ⟨hmodules, spelling, ht⟩
    cases h with
    | malformed hf => exact Or.inl ⟨_, hf, rfl⟩
    | unclassified hname hmodules ht =>
      exact Or.inr ⟨hname, Or.inl (isLocal_error_iff.mpr ⟨hmodules, _, ht, rfl⟩)⟩
    | misspelled hname hmodules ht hactual =>
      refine Or.inr ⟨hname, Or.inr ⟨true, hproject _ hmodules ht, ?_⟩⟩
      rw [if_pos rfl, Run.within_record_bind, resolveLocal_error_iff]
      exact Or.inl (.misspelled ht hactual)
    | unreadable hname hmodules ht h =>
      refine Or.inr ⟨hname, Or.inr ⟨true, hproject _ hmodules ht, ?_⟩⟩
      rw [if_pos rfl, Run.within_record_bind, resolveLocal_error_iff]
      exact Or.inr ⟨ht, h⟩
    | bare hname hlocal hbare =>
      refine Or.inr ⟨hname, Or.inr ⟨false, hlocal, ?_⟩⟩
      rw [if_neg (by decide), Run.within_record_bind, resolveFromLibrary_error_iff]
      exact Or.inl ⟨hbare, rfl⟩
    | unlocated hname hlocal hgoesOn h =>
      refine Or.inr ⟨hname, Or.inr ⟨false, hlocal, ?_⟩⟩
      rw [if_neg (by decide), Run.within_record_bind, resolveFromLibrary_error_iff]
      exact Or.inr ⟨hgoesOn, Or.inl h⟩
    | ofLibrary hname hlocal hgoesOn hpackage h =>
      refine Or.inr ⟨hname, Or.inr ⟨false, hlocal, ?_⟩⟩
      rw [if_neg (by decide), Run.within_record_bind, resolveFromLibrary_error_iff]
      exact Or.inr ⟨hgoesOn, Or.inr ⟨_, hpackage, h⟩⟩

end Resolver

end SourceNames
