-- What the lookup of a name misses. It takes one entry in each folder and does not come back, so
-- a chain of entries that is the name up to case is not found where another entry is preferred
-- to one of them and nothing is found below that.

import SourceNames.Proofs.FoundSpellings

namespace SourceNames

open Resolver (hostWith searchingResolver)

/-! ## Chains of entries that a name matches -/

/-- Entries that lead down from a folder and are the segments of a name up to case. -/
structure Host.Matches (host : Host) (folder : Path) (name : String)
    (entries : List EntryName) : Prop where
  descends : host.Descends folder entries
  same : List.Forall₂ (fun entry segment => sameFolding entry segment = true)
    (entries.map (·.text)) (namedSegments name)

/-- The lookup leaves a chain of entries: in one of its folders another entry, the same up to
case, is preferred to the one of the chain, and the lookup is stranded below it. -/
inductive Host.TurnsAside (host : Host) : Path → List String → List EntryName → Prop
  | here {folder : Path} {names : List EntryName} {segment : String} {entry other : EntryName}
      {rest : List String} {more : List EntryName} :
      host.list? folder = .ok (some names) → entry ∈ names → Preferred names segment other →
      other ≠ entry → sameFolding other.text entry.text = true →
      host.Strands { folder with parts := folder.parts ++ [other.text] } rest →
      Host.TurnsAside host folder (segment :: rest) (entry :: more)
  | onward {folder : Path} {names : List EntryName} {segment : String} {entry : EntryName}
      {rest : List String} {more : List EntryName} :
      host.list? folder = .ok (some names) → Preferred names segment entry →
      Host.TurnsAside host { folder with parts := folder.parts ++ [entry.text] } rest more →
      Host.TurnsAside host folder (segment :: rest) (entry :: more)

variable {host : Host} {folder : Path} {parts : List String} {entries : List EntryName}

/-- Along a chain the lookup is stranded just if it turns aside. -/
theorem strands_iff_turnsAside (hdescends : host.Descends folder entries)
    (hsame : List.Forall₂ (fun entry part => sameFolding entry part = true)
      (entries.map (·.text)) parts) :
    host.Strands folder parts ↔ host.TurnsAside folder parts entries := by
  induction hdescends generalizing parts with
  | stay folder =>
    cases hsame
    constructor
    · intro h
      cases h
    · intro h
      cases h
  | @enter folder names entry more hlist hentry _ ih =>
    rw [List.map_cons, List.forall₂_cons_left_iff] at hsame
    obtain ⟨segment, rest, hsegment, hrest, rfl⟩ := hsame
    obtain ⟨other, hother⟩ := exists_preferred hentry hsegment
    constructor
    · intro h
      cases h with
      | unlisted hlist' =>
        rw [hlist] at hlist'
        cases hlist'
      | unmatched hlist' hnone =>
        rw [hlist] at hlist'
        cases hlist'
        cases (hnone entry hentry).symm.trans hsegment
      | onward hlist' hpreferred hstrands =>
        rw [hlist] at hlist'
        cases hlist'
        obtain rfl := hother.unique hpreferred
        -- The chain is left here or further down.
        by_cases hchain : other = entry
        · subst hchain
          exact .onward hlist hother ((ih hrest).mp hstrands)
        · exact .here hlist hentry hother hchain
            (sameFolding_trans hother.same (sameFolding_symm hsegment)) hstrands
    · intro h
      cases h with
      | here hlist' _ hpreferred _ _ hstrands => exact .onward hlist' hpreferred hstrands
      | onward hlist' hpreferred haside =>
        exact .onward hlist' hpreferred ((ih hrest).mpr haside)

/-! ## The law -/

/-- A name that matches entries on disk up to case is not found just if the lookup turns aside
from them. -/
theorem a_match_is_missed_just_if_the_lookup_turns_aside (host : Host) (folder : Path)
    (name : String) (entries : List EntryName) (h : host.Matches folder name entries) :
    trueCaseName host name folder = .ok none ↔
      host.TurnsAside folder (namedSegments name) entries := by
  rw [trueCaseName_eq_none_iff]
  exact strands_iff_turnsAside h.descends h.same

/-- A project with a file in a folder, and with an empty folder beside it that is called the same
up to case and comes first. -/
def twinHost : Host :=
  hostWith [(["project", "LIB"], .emptyFolder), (["project", "Lib", "x.sol"], .file [] 0)] []

/-- The entries that lead to the file. -/
def twinEntries : List EntryName := [⟨"Lib", by decide⟩, ⟨"x.sol", by decide⟩]

theorem twinHost_matches {name : String} (h : IsRespelling "Lib/x.sol" name) :
    twinHost.Matches searchingResolver.root name twinEntries := by
  have hfound : trueCase twinHost searchingResolver.root ["Lib", "x.sol"] =
      .ok (some twinEntries) := eq_ok_of_toOption (by decide +kernel)
  have hnamed : namedSegments "Lib/x.sol" = twinEntries.map (·.text) := by decide +kernel
  refine ⟨descends_of_trueCase hfound, ?_⟩
  rw [← hnamed]
  exact h.named

theorem a_folder_is_passed_over_for_an_empty_namesake :
    twinHost.Matches searchingResolver.root "lib/x.sol" twinEntries ∧
      (trueCaseName twinHost "lib/x.sol" searchingResolver.root = .ok none ↔
        twinHost.TurnsAside searchingResolver.root (namedSegments "lib/x.sol") twinEntries) := by
  have hmatches : twinHost.Matches searchingResolver.root "lib/x.sol" twinEntries :=
    twinHost_matches (by decide +kernel)
  exact ⟨hmatches, a_match_is_missed_just_if_the_lookup_turns_aside twinHost
    searchingResolver.root "lib/x.sol" twinEntries hmatches⟩

/-- The file is not found by the name in small letters, nor by the name that spells the empty
folder, though both are its own name up to case. The name is taken for one of a library. -/
theorem an_empty_namesake_hides_a_file :
    (twinHost.Matches searchingResolver.root "lib/x.sol" twinEntries ∧
        trueCaseName twinHost "lib/x.sol" searchingResolver.root = .ok none) ∧
      (twinHost.Matches searchingResolver.root "LIB/x.sol" twinEntries ∧
        trueCaseName twinHost "LIB/x.sol" searchingResolver.root = .ok none) ∧
      searchingResolver.isLocal twinHost "lib/x.sol" = .ok false := by
  refine ⟨⟨twinHost_matches (by decide +kernel), ?_⟩,
    ⟨twinHost_matches (by decide +kernel), ?_⟩, ?_⟩
  · exact eq_ok_of_toOption (by decide +kernel)
  · exact eq_ok_of_toOption (by decide +kernel)
  · exact eq_ok_of_toOption (by decide +kernel)

end SourceNames
