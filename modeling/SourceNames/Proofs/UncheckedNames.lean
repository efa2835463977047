-- Names of the project that nobody checked. A name is read only if it is the spelling that was
-- found on disk for it. The walk that finds the spelling passes over empty segments and dots, and
-- no entry is called by two dots, so a name that has any of these is never its own spelling, and
-- what is read lies below the root without a check of the name.

import SourceNames.Proofs.PackageRoots
import SourceNames.Proofs.Stopping

namespace SourceNames

/-! ## Names that spell entries -/

section Spelled

variable {host : Host} {folder : Path} {name : String}

theorem isEntryName_of_spells (h : host.Spells folder name) :
    ∀ segment ∈ segments name, IsEntryName segment := by
  obtain ⟨entries, -, hnames⟩ := h
  rw [← hnames]
  exact isEntryName_of_mem_texts entries

theorem not_absolute_of_spells (h : host.Spells folder name) : beginsWith "/" name = false := by
  have hwritten : Path.Written (segments name) := fun segment hs =>
    ⟨(isEntryName_of_spells h segment hs).isName, no_slash_of_mem_segments hs⟩
  have hnot := Path.not_beginsWith_slash_of_written hwritten
  rwa [joinSegments_segments] at hnot

theorem below_of_spells (h : host.Spells folder name) :
    folder.below name = { folder with parts := folder.parts ++ segments name } :=
  folder.below_of_names fun segment hs => (isEntryName_of_spells h segment hs).isName

theorem Path.holds_append_segments (directory : Path) (name : String) :
    directory.Holds { directory with parts := directory.parts ++ segments name } :=
  ⟨segments name, segments_ne_nil name, rfl⟩

end Spelled

namespace Resolver

variable {r : Resolver} {host : Host} {name : String} {file : ResolvedFile} {fault : Fault}

/-! ## What an unchecked name can come to -/

/-- A file that does not escape the project though its name was never checked: the name is a
plain one, and the file lies strictly below the root, where the entries that the name spells
lead. -/
structure Confined (r : Resolver) (host : Host) (name : String) (file : ResolvedFile) : Prop where
  sourceName : file.sourceName = name
  ofProject : file.library = none
  notAbsolute : beginsWith "/" name = false
  proper : ∀ segment ∈ segments name, segment ≠ "" ∧ segment ≠ "." ∧ segment ≠ ".."
  placed : file.absolutePath = (Path.mk r.root.anchor (r.root.parts ++ segments name)).text
  inside : r.root.Holds ⟨r.root.anchor, r.root.parts ++ segments name⟩
  spelled : host.Spells r.root name

/-- What can stop an unchecked name: no file of it, a file that is spelled another way, a call
that fails, a text that is not UTF-8, or a change in a year that cannot be written. -/
inductive UncheckedStop (name : String) : Fault → Prop
  | notFound : UncheckedStop name (.of (.sourceNotFound name))
  | misspelled {actual : String} : actual ≠ name →
      UncheckedStop name (.of (.wrongCasing name actual))
  | system (call : CallFault) : UncheckedStop name (.system call)
  | notUtf8 (met : Utf8Fault) : UncheckedStop name (.notUtf8 met)
  | yearOutOfRange (year : Int) : UncheckedStop name (.yearOutOfRange year)

theorem confined_of_resolveLocal (hne : name ≠ "") (h : (r.resolveLocal host name).Gives file) :
    r.Confined host name file := by
  obtain ⟨hlibrary, hfound⟩ := resolveLocal_gives h
  have hspells := spells_of_trueCaseName hfound.spelling hne
  refine ⟨hfound.sourceName, hlibrary, not_absolute_of_spells hspells, ?_, ?_,
    r.root.holds_append_segments name, hspells⟩
  · intro segment hs
    obtain ⟨hempty, hdot, hdots, -⟩ := isEntryName_of_spells hspells segment hs
    exact ⟨hempty, hdot, hdots⟩
  · rw [hfound.absolutePath, below_of_spells hspells]

theorem uncheckedStop_of_unreadable {path : Path} (h : host.Unreadable path fault) :
    UncheckedStop name fault := by
  rcases Host.fault_of_unreadable h with ⟨call, rfl⟩ | ⟨met, rfl⟩ | ⟨year, rfl⟩
  · exact .system call
  · exact .notUtf8 met
  · exact .yearOutOfRange year

theorem uncheckedStop_of_misses (h : host.Misses r.root name .sourceNotFound fault) :
    UncheckedStop name fault := by
  cases h with
  | unlisted _ => exact .system _
  | absent _ => exact .notFound
  | misspelled _ hactual => exact .misspelled hactual

/-! ## The law -/

/-- Reading a name as one of the project needs no check of the name to stay below the root. Any
name but the empty one gives a file that is confined, or else is stopped. -/
theorem an_unchecked_name_stays_below_the_root (r : Resolver) (host : Host) (session : Session)
    (name : String) (h : name ≠ "") :
    match ((r.resolveLocal host name).within session).1 with
    | .ok file => r.Confined host name file
    | .error fault => UncheckedStop name fault := by
  cases hends : ((r.resolveLocal host name).within session).1 with
  | ok file => exact confined_of_resolveLocal h ⟨session, hends⟩
  | error fault =>
    rcases (resolveLocal_error_iff session).mp hends with hmisses | ⟨-, hunreadable⟩
    · exact uncheckedStop_of_misses hmisses
    · exact uncheckedStop_of_unreadable hunreadable

/-- A name that goes down by the entries of the project, and one that makes a detour to the same
file. -/
theorem a_detour_below_the_root_is_told_its_spelling :
    let file := emptyFile "lib/y.sol" "/project/lib/y.sol" none
    ((searchingResolver.resolveLocal shadowedHost "lib/y.sol").within (.start .usual)).1 =
        .ok file ∧
      searchingResolver.Confined shadowedHost "lib/y.sol" file ∧
      ((searchingResolver.resolveLocal shadowedHost "/lib/.//y.sol").within (.start .usual)).1 =
        .error (.of (.wrongCasing "/lib/.//y.sol" "lib/y.sol")) ∧
      UncheckedStop "/lib/.//y.sol" (.of (.wrongCasing "/lib/.//y.sol" "lib/y.sol")) := by
  intro file
  have hplain : ((searchingResolver.resolveLocal shadowedHost "lib/y.sol").within
      (.start .usual)).1 = .ok file := by decide +kernel
  have hdetour : ((searchingResolver.resolveLocal shadowedHost "/lib/.//y.sol").within
      (.start .usual)).1 = .error (.of (.wrongCasing "/lib/.//y.sol" "lib/y.sol")) := by
    decide +kernel
  have hconfined := an_unchecked_name_stays_below_the_root searchingResolver shadowedHost
    (.start .usual) "lib/y.sol" (by decide)
  have hstops := an_unchecked_name_stays_below_the_root searchingResolver shadowedHost
    (.start .usual) "/lib/.//y.sol" (by decide)
  rw [hplain] at hconfined
  rw [hdetour] at hstops
  exact ⟨hplain, hconfined, hdetour, hstops⟩

/-- The empty name is its own spelling everywhere, and it leads to the root itself. -/
example :
    let r : Resolver := { searchingResolver with root := Path.ofText "/project/a.sol" }
    ((r.resolveLocal shadowedHost "").within (.start .usual)).1 =
      .ok (emptyFile "" "/project/a.sol" none) := by
  decide +kernel

end Resolver

end SourceNames
