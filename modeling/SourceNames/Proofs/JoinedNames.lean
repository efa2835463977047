-- Names read from a directory. The directory may be brought to its normal form before a name is
-- read from it or after, so how the directories of an importing file are written does not show in
-- what its imports mean.

import SourceNames.Proofs.ImportedNames

namespace SourceNames

namespace Path

/-! ## What is collapsed already -/

/-- The names on a stack make the same stack again. -/
theorem foldl_push_again (anchored : Bool) (parts : List String) :
    (parts.foldl (push anchored) []).reverse.foldl (push anchored) [] =
      parts.foldl (push anchored) [] := by
  cases anchored with
  | false => exact foldl_push_collapsed [] parts
  | true =>
    -- At a root no two dots are left over, so the names are just put back.
    have hdots : ".." ∉ (parts.foldl (push true) []).reverse := by
      rw [List.mem_reverse]
      exact dots_not_mem_foldl_push parts (by simp)
    rw [foldl_push_names hdots, List.reverse_reverse, List.append_nil]

/-- A path may be collapsed before more names come after it or only then. -/
theorem collapse_collapse_append (p : Path) (more : List String) :
    (Path.mk p.anchor (p.collapse.parts ++ more)).collapse =
      (Path.mk p.anchor (p.parts ++ more)).collapse := by
  unfold collapse
  simp only [List.foldl_append, foldl_push_again]

theorem collapse_collapse (p : Path) : p.collapse.collapse = p.collapse := by
  have h := collapse_collapse_append p []
  rw [List.append_nil, List.append_nil] at h
  exact h

/-! ## Reading a normal form -/

/-- A path of names that can be read back is read back from its text. -/
theorem ofText_text_of_written {p : Path} (h : Written p.parts) : ofText p.text = p := by
  obtain ⟨anchor, names⟩ := p
  have hread : ofText (anchor.text ++ joinSegments names) = ⟨anchor, names⟩ := by
    rw [ofText_anchored anchor (not_beginsWith_slash_of_written h), ofText_joinSegments h]
  unfold text
  by_cases hempty : anchor.text ++ joinSegments names = ""
  · -- Only the relative path without names is written as a dot.
    rw [if_pos hempty, ← hread, hempty]
    decide
  · rw [if_neg hempty, hread]

/-- A normal form is read as the collapsed path that it is written from. -/
theorem ofText_normalize (name : String) : ofText (normalize name) = (ofText name).collapse :=
  ofText_text_of_written fun _ hpart => mem_parts_ofText (mem_of_mem_collapse hpart)

end Path

/-! ## Names read from a directory in normal form -/

theorem normalize_normalize (name : String) : normalize (normalize name) = normalize name := by
  have h := Path.ofText_normalize name
  unfold normalize at h ⊢
  rw [h, Path.collapse_collapse]

theorem normalize_joinNames_normalize (directory name : String) :
    normalize (joinNames (normalize directory) name) = normalize (joinNames directory name) := by
  by_cases hname : beginsWith "/" name = true
  · unfold joinNames
    rw [if_pos hname, if_pos hname]
  · rw [Bool.not_eq_true] at hname
    have hjoined : ∀ start : String, normalize (joinNames start name) =
        (Path.mk (Path.ofText start).anchor
          ((Path.ofText start).parts ++ (Path.ofText name).parts)).collapse.text := by
      intro start
      unfold normalize
      rw [Path.ofText_joinNames start hname]
    rw [hjoined, hjoined, Path.ofText_normalize]
    exact congrArg Path.text (Path.collapse_collapse_append (Path.ofText directory) _)

/-- What an import means is read from the directory of its importer and the library alone. -/
theorem importedName_toOption_congr {importer other : ResolvedFile} (imported : String)
    (hlibrary : importer.library = other.library)
    (hname : normalize (joinNames (directoryOf importer.sourceName) imported) =
      normalize (joinNames (directoryOf other.sourceName) imported)) :
    (importedName importer imported).toOption = (importedName other imported).toOption := by
  unfold importedName
  dsimp only
  rw [hlibrary, hname]
  generalize normalize (joinNames (directoryOf other.sourceName) imported) = name
  -- Only the failures tell the importer, and they are no names.
  cases scheme? imported with
  | some protocol => rfl
  | none =>
    dsimp only
    cases other.library with
    | none =>
      cases throughModules? name with
      | none => split_ifs <;> rfl
      | some direct => split_ifs <;> rfl
    | some library =>
      dsimp only
      split_ifs <;> rfl

/-- A directory may be brought to its normal form before a name is read from it or after, and
once is enough. So an import means the same from all directories of one normal form. -/
theorem names_may_be_normalized_before_or_after_joining :
    (∀ directory name : String,
      normalize (joinNames (normalize directory) name) = normalize (joinNames directory name)) ∧
    (∀ name : String, normalize (normalize name) = normalize name) ∧
    ∀ (importer other : ResolvedFile) (imported : String), importer.library = other.library →
      normalize (directoryOf importer.sourceName) = normalize (directoryOf other.sourceName) →
      (importedName importer imported).toOption = (importedName other imported).toOption := by
  refine ⟨normalize_joinNames_normalize, normalize_normalize, ?_⟩
  intro importer other imported hlibrary hdirectory
  refine importedName_toOption_congr imported hlibrary ?_
  rw [← normalize_joinNames_normalize, hdirectory, normalize_joinNames_normalize]

/-- Two slashes at the start stay under the law, and two dots there do not climb out of them.
A file of a library that is named with a detour imports what it imports without. -/
theorem a_detour_in_a_directory_changes_no_import :
    let plain := Resolver.emptyFile "lib/src/a.sol" "" (some ⟨"lib", ""⟩)
    let detour := Resolver.emptyFile "lib//src/x/./../a.sol" "" (some ⟨"lib", ""⟩)
    normalize (joinNames (normalize "//x/../..") "../y//z/.") = "//y/z" ∧
      normalize (joinNames "//x/../.." "../y//z/.") = "//y/z" ∧
      (importedName detour "../b.sol").toOption = (importedName plain "../b.sol").toOption ∧
      (importedName plain "../b.sol").toOption = some ⟨"lib/b.sol", false⟩ := by
  intro plain detour
  obtain ⟨hjoined, -, hmeans⟩ := names_may_be_normalized_before_or_after_joining
  have hplace : normalize (joinNames "//x/../.." "../y//z/.") = "//y/z" := by decide +kernel
  refine ⟨?_, hplace, ?_, by decide +kernel⟩
  · rw [hjoined, hplace]
  · exact hmeans detour plain "../b.sol" rfl (by decide +kernel)

end SourceNames
