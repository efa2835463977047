-- What a versioned name tells apart. Files of one library have one version, and names that begin
-- alike as far as their libraries go are of one library, so the versioned names of libraries'
-- files differ as the names do. A file of the project has its name for its versioned name, and
-- that may be the versioned name of a library's file.

import SourceNames.Proofs.OneName

namespace SourceNames

/-! ## Names that one text begins with -/

/-- Of two texts that begin one text, one goes on from the other. -/
theorem goes_on_of_append_eq {a b x y : String} (h : a ++ x = b ++ y) :
    (∃ more, b = a ++ more) ∨ ∃ more, a = b ++ more := by
  have hchars : a.toList ++ x.toList = b.toList ++ y.toList := by
    rw [← String.toList_append, h, String.toList_append]
  rcases List.append_eq_append_iff.mp hchars with ⟨more, hb, -⟩ | ⟨more, ha, -⟩
  · exact Or.inl ⟨String.ofList more, String.toList_injective (by simp [hb])⟩
  · exact Or.inr ⟨String.ofList more, String.toList_injective (by simp [ha])⟩

/-- A text that goes on from the name of a library's file is the name of one of that library. -/
theorem libraryName_append_text {name : String} (h : libraryName name ≠ name) (more : String) :
    libraryName (name ++ more) = libraryName name := by
  apply libraryName_of_beginsWith h
  rw [beginsWith_iff]
  refine ⟨joinSegments ((segments name).drop (scopeDepth name)) ++ more, ?_⟩
  rw [← String.append_assoc, ← libraryName_append h]

/-! ## Versioned names -/

namespace ResolvedFile

variable {f g : ResolvedFile}

theorem versionedName_of_project (h : f.library = none) : f.versionedName = f.sourceName := by
  unfold versionedName
  rw [h]

theorem versionedName_of_library {library : LibraryInfo} (h : f.library = some library) :
    f.versionedName = f.sourceName ++ ("@v" ++ library.version) := by
  unfold versionedName
  rw [h]
  simp [toString, String.append_assoc]

/-- A file of the project whose name is the versioned name of a library's file. -/
def NamedAsVersion (f g : ResolvedFile) : Prop :=
  f.library = none ∧ ∃ library, g.library = some library ∧
    f.sourceName = g.sourceName ++ ("@v" ++ library.version)

theorem versionedName_eq_of_namedAsVersion (h : f.NamedAsVersion g) :
    f.versionedName = g.versionedName := by
  obtain ⟨hproject, library, hlibrary, hname⟩ := h
  rw [versionedName_of_project hproject, versionedName_of_library hlibrary, hname]

end ResolvedFile

namespace Resolver

variable {r : Resolver} {host : Host} {a b : String} {f g : ResolvedFile}

/-- Files of libraries with one versioned name have one name and one library. -/
theorem LibraryFile.eq_of_versionedName_eq (hf : r.LibraryFile host a f)
    (hg : r.LibraryFile host b g) (h : f.versionedName = g.versionedName) :
    f.sourceName = g.sourceName ∧ f.library = g.library := by
  obtain ⟨version, hsome⟩ := hf.library_some
  obtain ⟨version', hsome'⟩ := hg.library_some
  obtain ⟨_, _, _, _, _, hfound⟩ := hf.package
  obtain ⟨_, _, _, _, _, hfound'⟩ := hg.package
  rw [ResolvedFile.versionedName_of_library hsome, ResolvedFile.versionedName_of_library hsome',
    hfound.sourceName, hfound'.sourceName] at h
  have hlibraryName : libraryName b = libraryName a := by
    rcases goes_on_of_append_eq h with ⟨more, rfl⟩ | ⟨more, rfl⟩
    · exact libraryName_append_text hf.goesOn more
    · exact (libraryName_append_text hg.goesOn more).symm
  -- The library is one, so its version is, and what stands before it is the name.
  have hlibrary := hf.library_eq hg hlibraryName
  rw [hsome, hsome', hlibraryName] at hlibrary
  cases hlibrary
  rw [hfound.sourceName, hfound'.sourceName, hsome, hsome', hlibraryName]
  exact ⟨(String.append_left_inj _).mp h, rfl⟩

/-! ## The law -/

/-- A versioned name tells the name and the library of a file, unless it is that of a file of
the project that is named as the version of a library's file. -/
theorem a_versioned_name_tells_the_file_unless_a_project_file_bears_it (r : Resolver)
    (host : Host) (a b : String) (f g : ResolvedFile)
    (hf : (r.resolveSourceName host a).Gives f) (hg : (r.resolveSourceName host b).Gives g) :
    f.versionedName = g.versionedName ↔
      (f.sourceName = g.sourceName ∧ f.library = g.library) ∨
        f.NamedAsVersion g ∨ g.NamedAsVersion f := by
  constructor
  · intro h
    obtain ⟨-, hproject | hlibrary⟩ := resolveSourceName_gives hf
    · obtain ⟨-, hproject' | hlibrary'⟩ := resolveSourceName_gives hg
      · rw [ResolvedFile.versionedName_of_project hproject.library,
          ResolvedFile.versionedName_of_project hproject'.library] at h
        exact Or.inl ⟨h, by rw [hproject.library, hproject'.library]⟩
      · obtain ⟨version, hsome⟩ := hlibrary'.library_some
        rw [ResolvedFile.versionedName_of_project hproject.library,
          ResolvedFile.versionedName_of_library hsome] at h
        exact Or.inr (Or.inl ⟨hproject.library, _, hsome, h⟩)
    · obtain ⟨-, hproject' | hlibrary'⟩ := resolveSourceName_gives hg
      · obtain ⟨version, hsome⟩ := hlibrary.library_some
        rw [ResolvedFile.versionedName_of_library hsome,
          ResolvedFile.versionedName_of_project hproject'.library] at h
        exact Or.inr (Or.inr ⟨hproject'.library, _, hsome, h.symm⟩)
      · exact Or.inl (hlibrary.eq_of_versionedName_eq hlibrary' h)
  · rintro (⟨hname, hlibrary⟩ | h | h)
    · unfold ResolvedFile.versionedName
      rw [hname, hlibrary]
    · exact ResolvedFile.versionedName_eq_of_namedAsVersion h
    · exact (ResolvedFile.versionedName_eq_of_namedAsVersion h).symm

/-- An installed library, and a folder of the project that is called like it and holds a copy of
its file with the version written after the name. -/
def copiedHost : Host :=
  hostWith
    [(["project", "lib", "x.sol@v1.2.3"], .file [] 0),
     (["project", "node_modules", "lib", "package.json"],
       .file "\x7b\"version\": \"1.2.3\"\x7d".toUTF8.data.toList 0),
     (["project", "node_modules", "lib", "x.sol"], .file [] 0)] []

/-- The copy, a file of the project. -/
def copiedFile : ResolvedFile :=
  emptyFile "lib/x.sol@v1.2.3" "/project/lib/x.sol@v1.2.3" none

/-- The file of the library. -/
def versionedFile : ResolvedFile :=
  emptyFile "lib/x.sol" "/project/node_modules/lib/x.sol" (some ⟨"lib", "1.2.3"⟩)

theorem a_copy_named_as_a_version_bears_its_versioned_name :
    (searchingResolver.resolveSourceName copiedHost "lib/x.sol@v1.2.3").Gives copiedFile ∧
      (searchingResolver.resolveSourceName copiedHost "lib/x.sol").Gives versionedFile ∧
      copiedFile.NamedAsVersion versionedFile ∧
      copiedFile.versionedName = versionedFile.versionedName := by
  have hf : (searchingResolver.resolveSourceName copiedHost "lib/x.sol@v1.2.3").Gives
      copiedFile := Run.gives_of_within (.start .usual) (by decide +kernel)
  have hg : (searchingResolver.resolveSourceName copiedHost "lib/x.sol").Gives versionedFile :=
    Run.gives_of_within (.start .usual) (by decide +kernel)
  have hnamed : copiedFile.NamedAsVersion versionedFile := ⟨rfl, _, rfl, by decide⟩
  exact ⟨hf, hg, hnamed, (a_versioned_name_tells_the_file_unless_a_project_file_bears_it
    searchingResolver copiedHost "lib/x.sol@v1.2.3" "lib/x.sol" copiedFile versionedFile hf
    hg).mpr (Or.inr (Or.inl hnamed))⟩

/-- Two files of one tree with one versioned name, of the project and of a library. -/
theorem a_versioned_name_can_stand_for_two_files :
    (searchingResolver.resolveSourceName copiedHost "lib/x.sol@v1.2.3").Gives copiedFile ∧
      (searchingResolver.resolveSourceName copiedHost "lib/x.sol").Gives versionedFile ∧
      copiedFile.versionedName = versionedFile.versionedName ∧
      copiedFile.sourceName ≠ versionedFile.sourceName ∧
      copiedFile.library ≠ versionedFile.library :=
  ⟨Run.gives_of_within (.start .usual) (by decide +kernel),
    Run.gives_of_within (.start .usual) (by decide +kernel), by decide +kernel, by decide,
    by decide⟩

end Resolver

end SourceNames
