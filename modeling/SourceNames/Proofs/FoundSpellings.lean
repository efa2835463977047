-- What the lookup of a name finds. It is read off a chain of entries on disk, one for each
-- segment that names something and the same as it up to case, and it is its own spelling.

import SourceNames.Proofs.Containment
import SourceNames.Proofs.Preference

namespace SourceNames

open Resolver (hostWith searchingResolver)

variable {host : Host} {folder : Path} {parts : List String} {entries : List EntryName}
variable {name actual : String}

/-! ## Preferred entries -/

theorem Host.Prefers.descends (h : host.Prefers folder parts entries) :
    host.Descends folder entries := by
  induction h with
  | stay folder => exact .stay folder
  | enter hlist hentry _ ih => exact .enter hlist hentry.mem ih

theorem Host.Prefers.same (h : host.Prefers folder parts entries) :
    List.Forall₂ (fun entry part => sameFolding entry part = true)
      (entries.map (·.text)) parts := by
  induction h with
  | stay folder => exact .nil
  | enter _ hentry _ ih => exact .cons hentry.same ih

/-! ## Names of entries -/

theorem namedSegments_joinSegments (entries : List EntryName) :
    namedSegments (joinSegments (entries.map (·.text))) = entries.map (·.text) := by
  by_cases hempty : entries = []
  · subst hempty
    decide
  · unfold namedSegments
    rw [segments_joinSegments_texts hempty, List.filter_eq_self]
    exact fun part hpart => (isEntryName_of_mem_texts entries part hpart).isName

/-- Entries that lead down from a folder are found by their names, whatever empty segments and
dots are put between them. -/
theorem trueCaseName_of_descends (h : host.Descends folder entries)
    (hname : entries.map (·.text) = namedSegments name) :
    trueCaseName host name folder = .ok (some (joinSegments (namedSegments name))) := by
  rw [trueCaseName_eq, ← hname, trueCase_of_descends h]
  rfl

/-- What is found is found again, by itself. -/
theorem trueCaseName_again (h : trueCaseName host name folder = .ok (some actual)) :
    trueCaseName host actual folder = .ok (some actual) := by
  obtain ⟨entries, hprefers, rfl⟩ := trueCaseName_eq_some_iff.mp h
  have hnamed := namedSegments_joinSegments entries
  rw [trueCaseName_of_descends hprefers.descends hnamed.symm, hnamed]

/-! ## The law -/

/-- A spelling of a name as it is on disk. The empty text stands for no entries at all. -/
structure Host.TrueSpelling (host : Host) (folder : Path) (name actual : String) : Prop where
  listed : ∃ entries, host.Descends folder entries ∧ namedSegments actual = entries.map (·.text)
  clean : actual = "" ∨ segments actual = namedSegments actual
  same : List.Forall₂ (fun entry segment => sameFolding entry segment = true)
    (namedSegments actual) (namedSegments name)
  no_dots : ".." ∉ segments actual
  again : trueCaseName host actual folder = .ok (some actual)

/-- Whatever is found for a name is spelled as on disk and is its own spelling. A name whose
segments are entries that lead down is found, as just these entries. -/
theorem what_is_found_is_spelled_as_on_disk (host : Host) (folder : Path) (name : String) :
    (∀ actual, trueCaseName host name folder = .ok (some actual) →
      host.TrueSpelling folder name actual) ∧
      ∀ entries, host.Descends folder entries → entries.map (·.text) = namedSegments name →
        trueCaseName host name folder = .ok (some (joinSegments (namedSegments name))) := by
  refine ⟨fun actual h => ?_, fun entries => trueCaseName_of_descends⟩
  have hagain := trueCaseName_again h
  obtain ⟨entries, hprefers, rfl⟩ := trueCaseName_eq_some_iff.mp h
  have hnamed := namedSegments_joinSegments entries
  have hclean : joinSegments (entries.map (·.text)) = "" ∨
      segments (joinSegments (entries.map (·.text))) = entries.map (·.text) := by
    by_cases hempty : entries = []
    · exact Or.inl (by rw [hempty]; rfl)
    · exact Or.inr (segments_joinSegments_texts hempty)
  refine ⟨⟨entries, hprefers.descends, hnamed⟩, ?_, ?_, ?_, hagain⟩
  · rw [hnamed]
    exact hclean
  · rw [hnamed]
    exact hprefers.same
  · rcases hclean with hempty | hcut
    · rw [hempty]
      decide
    · rw [hcut]
      exact fun hdots => (isEntryName_of_mem_texts entries ".." hdots).2.2.1 rfl

/-- A project with a link to a folder that holds two files called the same up to case. -/
def streetHost : Host :=
  hostWith
    [(["project", "Straße"], .link "/store"),
     (["store", "Lib.sol"], .file [] 0),
     (["store", "LIB.sol"], .file [] 0)] []

/-- Neither file is spelled like the name, so the one that comes first is found. The other is
found by its own name. -/
theorem a_file_below_a_link_is_found_in_either_spelling :
    let entries : List EntryName := [⟨"Straße", by decide⟩, ⟨"Lib.sol", by decide⟩]
    let found := fun name => trueCaseName streetHost name searchingResolver.root
    (found "./STRASSE//lib.sol" = .ok (some "Straße/LIB.sol") ∧
        streetHost.TrueSpelling searchingResolver.root "./STRASSE//lib.sol" "Straße/LIB.sol") ∧
      streetHost.Descends searchingResolver.root entries ∧
      entries.map (·.text) = namedSegments "Straße/./Lib.sol" ∧
      found "Straße/./Lib.sol" = .ok (some "Straße/Lib.sol") := by
  intro entries found
  have hfound : found "./STRASSE//lib.sol" = .ok (some "Straße/LIB.sol") :=
    eq_ok_of_toOption (by decide +kernel)
  have hentries : trueCase streetHost searchingResolver.root ["Straße", "Lib.sol"] =
      .ok (some entries) := eq_ok_of_toOption (by decide +kernel)
  have hdescends : streetHost.Descends searchingResolver.root entries :=
    descends_of_trueCase hentries
  have hnamed : entries.map (·.text) = namedSegments "Straße/./Lib.sol" := by decide +kernel
  have hjoined : joinSegments (namedSegments "Straße/./Lib.sol") = "Straße/Lib.sol" := by
    decide +kernel
  have hlaw := what_is_found_is_spelled_as_on_disk streetHost searchingResolver.root
  refine ⟨⟨hfound, (hlaw _).1 _ hfound⟩, hdescends, hnamed, ?_⟩
  rw [← hjoined]
  exact (hlaw _).2 entries hdescends hnamed

end SourceNames
