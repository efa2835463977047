-- The spelling that a misspelled name is advised to take. It is the name segment by segment
-- up to case and well formed itself. Whether it can be followed depends on where it is looked
-- for: an advised name may be told to be of another kind, or of another library.

import SourceNames.Proofs.FoundSpellings
import SourceNames.Proofs.ImportFailures
import SourceNames.Proofs.NormalForms

namespace SourceNames

/-! ## The spelling on disk -/

theorem exists_of_mem_forall₂ {α β : Type} {rel : α → β → Prop} {front : List α} {back : List β}
    (h : List.Forall₂ rel front back) {a : α} (ha : a ∈ front) : ∃ b ∈ back, rel a b := by
  induction h with
  | nil => simp at ha
  | @cons first other _ _ hfirst _ ih =>
    rcases List.mem_cons.mp ha with rfl | ha
    · exact ⟨other, List.mem_cons_self, hfirst⟩
    · obtain ⟨b, hb, hab⟩ := ih ha
      exact ⟨b, List.mem_cons_of_mem _ hb, hab⟩

/-- Entries that are the segments of a well-formed name up to case make a well-formed name. -/
theorem isSourceName_of_sameFolding {parts : List String} {name : String}
    (hname : IsSourceName name) (hentries : ∀ part ∈ parts, IsEntryName part)
    (h : List.Forall₂ (fun a b => sameFolding a b = true) parts (segments name)) :
    segments (joinSegments parts) = parts ∧ IsSourceName (joinSegments parts) := by
  have hne : parts ≠ [] := by
    rintro rfl
    exact segments_ne_nil name (List.forall₂_nil_left_iff.mp h)
  have hcut : segments (joinSegments parts) = parts :=
    segments_joinSegments hne fun part hpart => (hentries part hpart).2.2.2.1
  have hwritten : Path.Written parts := fun part hpart =>
    ⟨(hentries part hpart).isName, (hentries part hpart).2.2.2.1⟩
  refine ⟨hcut, ?_, Path.not_beginsWith_slash_of_written hwritten, ?_, ?_, ?_⟩
  · intro hempty
    have hmem : "" ∈ parts := by
      rw [← hcut, hempty]
      decide
    exact (hentries "" hmem).1 rfl
  · -- A dot at the beginning is one at the beginning of the first segment, on either side.
    obtain ⟨first, rest, rfl⟩ := List.exists_cons_of_ne_nil hne
    obtain ⟨other, others, hfirst, -, hsegments⟩ := List.forall₂_cons_left_iff.mp h
    have hrelative := hname.not_relative
    rw [Bool.eq_false_iff, ne_eq, beginsWith_char_iff (c := '.') rfl] at hrelative ⊢
    rw [← joinSegments_segments name, hsegments, head?_joinSegments (by decide)] at hrelative
    rw [head?_joinSegments (by decide)]
    intro hdot
    exact hrelative (sign_head_of_sameFolding (by decide) hfirst hdot)
  · intro hbackslash
    rw [mem_toList_iff (by decide), hcut] at hbackslash
    obtain ⟨part, hpart, hmem⟩ := hbackslash
    obtain ⟨segment, hsegment, hsame⟩ := exists_of_mem_forall₂ h hpart
    exact hname.no_backslash ((mem_toList_iff (by decide) name).mpr
      ⟨segment, hsegment, sign_mem_of_sameFolding (by decide) hsame hmem⟩)
  · intro part hpart
    rw [hcut] at hpart
    exact ⟨(hentries part hpart).1, (hentries part hpart).2.1, (hentries part hpart).2.2.1⟩

/-- What is found for a well-formed name is a well-formed name, the same up to case. -/
theorem respelled_of_trueCaseName {host : Host} {folder : Path} {name actual : String}
    (hname : IsSourceName name) (h : trueCaseName host name folder = .ok (some actual)) :
    IsRespelling actual name ∧ IsSourceName actual := by
  obtain ⟨entries, hprefers, rfl⟩ := trueCaseName_eq_some_iff.mp h
  have hall : namedSegments name = segments name :=
    List.filter_eq_self.mpr fun segment hm => (Path.written_segments hname segment hm).1
  have hsame := hprefers.same
  rw [hall] at hsame
  obtain ⟨hcut, hactual⟩ :=
    isSourceName_of_sameFolding hname (isEntryName_of_mem_texts entries) hsame
  refine ⟨?_, hactual⟩
  unfold IsRespelling
  rw [hcut]
  exact hsame

namespace Resolver

variable {r : Resolver} {host : Host} {name requested actual : String} {cause : Option Failure}

/-! ## Names that fail -/

/-- Something of the project is at a name, but spelled otherwise. -/
def MisspellsProject (r : Resolver) (host : Host) (name : String) : Prop :=
  modulesDirectory ∉ segments name ∧
    ∃ spelling, trueCaseName host name r.root = .ok (some spelling) ∧ spelling ≠ name

/-- The library of a name has no file of exactly that spelling, is not there at all, or is one
that the finder refuses to look for. -/
inductive Lacks (r : Resolver) (host : Host) (name : String) : Prop
  | bare : libraryName name = name → Lacks r host name
  | refused {f : Failure} {cause : Option Failure} :
      r.finder host (libraryName name) r.root = .error (.failed f cause) → Lacks r host name
  | notInstalled : r.finder host (libraryName name) r.root = .ok none →
      libraryName name ≠ toolchainLibrary → Lacks r host name
  | missed {description : Path} {found : Option String} :
      r.PackageAt host (libraryName name) description →
      trueCaseName host name (libraryRoot description (libraryName name)) = .ok found →
      found ≠ some name → Lacks r host name

/-- A well-formed name fails just if the project misspells it, or it is no name of the project
and its library lacks it. -/
theorem fails_iff (hname : IsSourceName name) (session : Session) :
    (∃ f cause, ((r.resolveSourceName host name).within session).1 = .error (.failed f cause)) ↔
      r.MisspellsProject host name ∨ r.isLocal host name = .ok false ∧ r.Lacks host name := by
  simp only [resolveSourceName_error_iff]
  constructor
  · rintro ⟨f, cause, h⟩
    generalize hfault : Fault.failed f cause = fault at h
    have hclass : fault.class = .resolution := by rw [← hfault]; rfl
    cases h with
    | malformed hf =>
      have hvalid := validate_eq_ok_iff.mpr hname
      rw [validate_error_iff.mpr ⟨_, hf, rfl⟩] at hvalid
      cases hvalid
    | unclassified => cases hfault
    | misspelled _ hmodules ht hactual => exact Or.inl ⟨hmodules, _, ht, hactual⟩
    | unreadable _ _ _ hread => simp [class_of_unreadable hread] at hclass
    | bare _ hlocal hbare => exact Or.inr ⟨hlocal, .bare hbare⟩
    | unlocated _ hlocal _ hlocate =>
      cases hlocate with
      | finder hfind => exact Or.inr ⟨hlocal, .refused (hfault ▸ hfind)⟩
      | notInstalled hfind htoolchain => exact Or.inr ⟨hlocal, .notInstalled hfind htoolchain⟩
    | ofLibrary _ hlocal _ hpackage hstops =>
      cases hstops with
      | missed hmisses =>
        cases hmisses with
        | unlisted => cases hfault
        | absent ht => exact Or.inr ⟨hlocal, .missed hpackage ht (by simp)⟩
        | misspelled ht hactual =>
          exact Or.inr ⟨hlocal, .missed hpackage ht (by simpa using hactual)⟩
      | undescribed _ hversion => exact absurd hclass (class_of_packageVersion hversion)
      | unreadable _ _ hread => simp [class_of_unreadable hread] at hclass
  · rintro (⟨hmodules, spelling, ht, hne⟩ | ⟨hlocal, hlacks⟩)
    · exact ⟨_, none, .misspelled hname hmodules ht hne⟩
    · by_cases hbare : libraryName name = name
      · exact ⟨_, none, .bare hname hlocal hbare⟩
      · cases hlacks with
        | bare h => exact absurd h hbare
        | refused hfind => exact ⟨_, _, .unlocated hname hlocal hbare (.finder hfind)⟩
        | notInstalled hfind htoolchain =>
          exact ⟨_, none, .unlocated hname hlocal hbare (.notInstalled hfind htoolchain)⟩
        | @missed description found hpackage ht hne =>
          cases found with
          | none =>
            exact ⟨_, none, .ofLibrary hname hlocal hbare hpackage (.missed (.absent ht))⟩
          | some spelling =>
            have hspelling : spelling ≠ name := by simpa using hne
            exact ⟨_, none,
              .ofLibrary hname hlocal hbare hpackage (.missed (.misspelled ht hspelling))⟩

/-! ## Names that are misspelled -/

/-- The spelling that is found for a name where it is looked for, below the root or below the
directory of its library. -/
inductive SpelledAs (r : Resolver) (host : Host) (name actual : String) : Prop
  | inProject : r.InProject host name → trueCaseName host name r.root = .ok (some actual) →
      SpelledAs r host name actual
  | inLibrary {description : Path} : r.isLocal host name = .ok false → libraryName name ≠ name →
      r.PackageAt host (libraryName name) description →
      trueCaseName host name (libraryRoot description (libraryName name)) = .ok (some actual) →
      SpelledAs r host name actual

theorem spelledAs_of_wrongCasing (hfinder : r.finder.TellsOfNoFile) {session : Session}
    (h : ((r.resolveSourceName host name).within session).1 =
      .error (.failed (.wrongCasing requested actual) cause)) :
    requested = name ∧ actual ≠ name ∧ IsSourceName name ∧ r.SpelledAs host name actual := by
  rw [resolveSourceName_error_iff] at h
  generalize hfault : Fault.failed (.wrongCasing requested actual) cause = fault at h
  have hfile : fault.isOfFile = true := by rw [← hfault]; rfl
  have hclass : fault.class = .resolution := by rw [← hfault]; rfl
  cases h with
  | malformed hf => cases (isOfFile_of_nameFailure? hf).symm.trans hfile
  | misspelled hname hmodules ht hactual =>
    cases hfault
    exact ⟨rfl, hactual, hname, .inProject ⟨hmodules, _, ht⟩ ht⟩
  | unclassified | bare => cases hfault
  | unreadable _ _ _ hread => simp [class_of_unreadable hread] at hclass
  | unlocated _ _ _ hlocate =>
    cases hlocate with
    | finder hfind => cases (hfinder _ _ _ _ hfind).symm.trans hfile
    | notInstalled => cases hfault
  | ofLibrary hname hlocal hgoesOn hpackage hstops =>
    cases hstops with
    | missed hmisses =>
      cases hmisses with
      | unlisted | absent => cases hfault
      | misspelled ht hactual =>
        cases hfault
        exact ⟨rfl, hactual, hname, .inLibrary hlocal hgoesOn hpackage ht⟩
    | undescribed _ hversion => exact absurd hclass (class_of_packageVersion hversion)
    | unreadable _ _ hread => simp [class_of_unreadable hread] at hclass

/-- Why an advised name fails in turn: it is looked for elsewhere than the name it is advised
for, among the libraries, in the project or in another library, and is not found there. -/
inductive Misleads (r : Resolver) (host : Host) (name actual : String) : Prop
  | throughModules : r.InProject host name → modulesDirectory ∈ segments actual →
      r.Lacks host actual → Misleads r host name actual
  | inProject : ¬ r.InProject host name → r.MisspellsProject host actual →
      Misleads r host name actual
  | inLibrary : ¬ r.InProject host name → r.isLocal host actual = .ok false →
      libraryName actual ≠ libraryName name → r.Lacks host actual → Misleads r host name actual

theorem isLocal_of_throughModules (h : modulesDirectory ∈ segments name) :
    r.isLocal host name = .ok false := by
  have hsegment : hasSegment name modulesDirectory = true := List.contains_iff_mem.mpr h
  unfold isLocal
  rw [if_pos hsegment]

theorem not_inProject (h : r.isLocal host name = .ok false) : ¬ r.InProject host name := by
  rw [← isLocal_eq_true_iff, h]
  simp

/-- What is found by its own spelling is not misspelled. -/
theorem not_misspellsProject (h : trueCaseName host name r.root = .ok (some name)) :
    ¬ r.MisspellsProject host name := by
  rintro ⟨-, other, hother, hne⟩
  rw [h] at hother
  cases hother
  exact hne rfl

theorem not_lacks {description : Path} (hgoesOn : libraryName name ≠ name)
    (hpackage : r.PackageAt host (libraryName name) description)
    (ht : trueCaseName host name (libraryRoot description (libraryName name)) = .ok (some name)) :
    ¬ r.Lacks host name := by
  intro h
  cases h with
  | bare hbare => exact hgoesOn hbare
  | refused hfind => cases hpackage with | found h | toolchain h => rw [hfind] at h; cases h
  | notInstalled hfind htoolchain =>
    cases hpackage with
    | found hfound => rw [hfind] at hfound; cases hfound
    | toolchain _ hsame => exact htoolchain hsame
  | missed hpackage' ht' hne =>
    obtain rfl := hpackage.unique hpackage'
    rw [ht] at ht'
    cases ht'
    exact hne rfl

/-- With the segments of a name that goes on after its library's name, a name of the same
library goes on too. -/
theorem goesOn_of_respelling (h : IsRespelling actual name) (hgoesOn : libraryName name ≠ name)
    (hsame : libraryName actual = libraryName name) : libraryName actual ≠ actual := by
  intro hbare
  have hlength := h.length_eq
  have hmore := mt List.drop_eq_nil_iff.mpr (drop_scopeDepth_ne_nil hgoesOn)
  rw [← hbare, hsame, length_segments_libraryName hgoesOn] at hlength
  omega

/-! ## The law -/

/-- A name that is misspelled is advised to take the spelling on disk, which is the same up to
case, segment by segment. The advised name fails in turn just if it is looked for elsewhere and
is not found there. -/
theorem an_advised_name_fails_only_where_it_misleads (r : Resolver)
    (hfinder : r.finder.TellsOfNoFile) (host : Host) (name requested actual : String)
    (cause : Option Failure) (session later : Session)
    (h : ((r.resolveSourceName host name).within session).1 =
      .error (.failed (.wrongCasing requested actual) cause)) :
    requested = name ∧ actual ≠ name ∧ IsRespelling actual name ∧
      ((∃ f cause, ((r.resolveSourceName host actual).within later).1 =
        .error (.failed f cause)) ↔ r.Misleads host name actual) := by
  obtain ⟨hrequested, hne, hname, hspelled⟩ := spelledAs_of_wrongCasing hfinder h
  cases hspelled with
  | inProject hproject ht =>
    obtain ⟨hrespelling, hactual⟩ := respelled_of_trueCaseName hname ht
    have hagain := trueCaseName_again ht
    refine ⟨hrequested, hne, hrespelling, (fails_iff hactual later).trans ?_⟩
    constructor
    · rintro (hmisspelled | ⟨hlocal, hlacks⟩)
      · exact absurd hmisspelled (not_misspellsProject hagain)
      · by_cases hmodules : modulesDirectory ∈ segments actual
        · exact .throughModules hproject hmodules hlacks
        · exact absurd ⟨hmodules, actual, hagain⟩ (not_inProject hlocal)
    · intro hmisleads
      cases hmisleads with
      | throughModules _ hmodules hlacks =>
        exact Or.inr ⟨isLocal_of_throughModules hmodules, hlacks⟩
      | inProject hother => exact absurd hproject hother
      | inLibrary hother => exact absurd hproject hother
  | inLibrary hlocal hgoesOn hpackage ht =>
    obtain ⟨hrespelling, hactual⟩ := respelled_of_trueCaseName hname ht
    have hagain := trueCaseName_again ht
    have hother := not_inProject hlocal
    refine ⟨hrequested, hne, hrespelling, (fails_iff hactual later).trans ?_⟩
    constructor
    · rintro (hmisspelled | ⟨hlocal', hlacks⟩)
      · exact .inProject hother hmisspelled
      · refine .inLibrary hother hlocal' (fun hsame => ?_) hlacks
        -- In the same library the advised name is found where it was read off.
        rw [← hsame] at hpackage hagain
        exact not_lacks (goesOn_of_respelling hrespelling hgoesOn hsame) hpackage hagain hlacks
    · intro hmisleads
      cases hmisleads with
      | throughModules hproject => exact absurd hproject hother
      | inProject _ hmisspelled => exact Or.inl hmisspelled
      | inLibrary _ hlocal' _ hlacks => exact Or.inr ⟨hlocal', hlacks⟩

theorem a_misspelled_neighbour_can_be_followed :
    let ended (name : String) :=
      ((searchingResolver.resolveSourceName shadowedHost name).within (.start .usual)).1
    searchingResolver.finder.TellsOfNoFile ∧
      ended "lib/Y.sol" = .error (.of (.wrongCasing "lib/Y.sol" "lib/y.sol")) ∧
      IsRespelling "lib/y.sol" "lib/Y.sol" ∧
      ((∃ f cause, ended "lib/y.sol" = .error (.failed f cause)) ↔
        searchingResolver.Misleads shadowedHost "lib/Y.sol" "lib/y.sol") := by
  intro ended
  have hfinder : searchingResolver.finder.TellsOfNoFile := modulesFinder_tellsOfNoFile []
  have hended : ended "lib/Y.sol" = .error (.of (.wrongCasing "lib/Y.sol" "lib/y.sol")) := by
    decide +kernel
  have hlaw := an_advised_name_fails_only_where_it_misleads searchingResolver hfinder shadowedHost
    "lib/Y.sol" "lib/Y.sol" "lib/y.sol" none (.start .usual) (.start .usual) hended
  exact ⟨hfinder, hended, hlaw.2.2.1, hlaw.2.2.2⟩

/-- A project with a file of its own right in the installation directory. -/
def looseHost : Host := hostWith [(["project", "node_modules", "x.sol"], .file [] 0)] []

/-- The file is found up to case as one of the project. By the advised name it is looked for
in a library. -/
theorem a_file_in_the_installation_directory_is_advised_in_vain :
    let ended (name : String) :=
      ((searchingResolver.resolveSourceName looseHost name).within (.start .usual)).1
    ended "Node_modules/x.sol" =
        .error (.of (.wrongCasing "Node_modules/x.sol" "node_modules/x.sol")) ∧
      ended "node_modules/x.sol" = .error (.of (.libraryNotInstalled "node_modules")) := by
  decide +kernel

end Resolver

end SourceNames
