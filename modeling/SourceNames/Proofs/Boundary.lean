-- The boundary between a project and its libraries. A relative import stays on its side of
-- it unless names coincide: a file of the project is asked for that only a library has, or a
-- file of a library that the project has under the same name.

import SourceNames.Proofs.ImportedNames

namespace SourceNames

namespace Resolver

variable {r : Resolver} {host : Host} {name target : String} {f g : ResolvedFile}

/-! ## The side that a name is on -/

/-- A name of something in the project: it does not go through an installation directory,
and there is a spelling of it below the root. -/
def InProject (r : Resolver) (host : Host) (name : String) : Prop :=
  modulesDirectory ∉ segments name ∧
    ∃ spelling, trueCaseName host name r.root = .ok (some spelling)

theorem isLocal_eq_true_iff : r.isLocal host name = .ok true ↔ r.InProject host name := by
  unfold isLocal InProject
  by_cases hm : modulesDirectory ∈ segments name
  · have hsegment : hasSegment name modulesDirectory = true := List.contains_iff_mem.mpr hm
    simp [hsegment, hm]
  · have hsegment : ¬ hasSegment name modulesDirectory = true :=
      fun hs => hm (List.contains_iff_mem.mp hs)
    rw [if_neg hsegment]
    cases ht : trueCaseName host name r.root with
    | error call => simp [onSystem]
    | ok found => cases found <;> simp [onSystem, hm]

/-- A library's file tells the library of its name. -/
theorem LibraryFile.library_some (h : r.LibraryFile host name f) :
    ∃ version, f.library = some ⟨libraryName name, version⟩ := by
  obtain ⟨_, version, _, _, hsome, _⟩ := h.package
  exact ⟨version, hsome⟩

/-- A file is one of the project just if its name is. -/
theorem library_eq_none_iff (h : (r.resolveSourceName host name).Gives f) :
    f.library = none ↔ r.InProject host name := by
  rw [← isLocal_eq_true_iff]
  obtain ⟨-, hproject | hlibrary⟩ := resolveSourceName_gives h
  · simp [hproject.library, hproject.isLocal]
  · obtain ⟨version, hsome⟩ := hlibrary.library_some
    simp [hsome, hlibrary.notLocal]

theorem sourceName_of_gives (h : (r.resolveSourceName host name).Gives f) :
    f.sourceName = name := by
  obtain ⟨-, hproject | hlibrary⟩ := resolveSourceName_gives h
  · exact hproject.found.sourceName
  · obtain ⟨_, _, _, _, _, hfound⟩ := hlibrary.package
    exact hfound.sourceName

/-- Files of libraries of one name are of one library, version included. -/
theorem LibraryFile.library_eq (hf : r.LibraryFile host name f)
    (hg : r.LibraryFile host target g) (h : libraryName target = libraryName name) :
    g.library = f.library := by
  obtain ⟨description, version, hpackage, hversion, hlibrary, -⟩ := hf.package
  obtain ⟨description', version', hpackage', hversion', hlibrary', -⟩ := hg.package
  rw [h] at hpackage'
  obtain rfl := hpackage'.unique hpackage
  rw [hversion] at hversion'
  cases hversion'
  rw [hlibrary, hlibrary', h]

/-! ## The law -/

/-- A relative import gives a file of the same library, or of the project as well, just if
the name it means is one of the project exactly when the importing file is. -/
theorem a_relative_import_crosses_only_at_coinciding_names (r : Resolver) (host : Host)
    (name imported : String) (f g : ResolvedFile)
    (hf : (r.resolveSourceName host name).Gives f) (hrelative : isRelative imported = true)
    (hg : (r.resolveImport host f imported).Gives g) :
    (g.library = f.library ↔ (r.InProject host g.sourceName ↔ f.library = none)) ∧
      (g.library = none ↔ r.InProject host g.sourceName) := by
  obtain ⟨meant, hmeant, hg⟩ := resolveImport_gives hg
  have hside : g.library = none ↔ r.InProject host g.sourceName := by
    rw [sourceName_of_gives hg]
    exact library_eq_none_iff hg
  refine ⟨?_, hside⟩
  rw [← hside]
  obtain ⟨-, hproject | hlibrary⟩ := resolveSourceName_gives hf
  · simp [hproject.library]
  · obtain ⟨version, hsome⟩ := hlibrary.library_some
    obtain ⟨-, hinside⟩ := importedName_of_library hrelative hsome hmeant
    have hsame := libraryName_of_beginsWith hlibrary.goesOn hinside
    -- The name stays in the library, but which side it is on is asked of the disk again.
    obtain ⟨-, hproject' | hlibrary'⟩ := resolveSourceName_gives hg
    · simp [hproject'.library, hsome]
    · have heq := hlibrary.library_eq hlibrary' hsame
      simp [heq, hsome]

theorem a_relative_import_can_enter_a_library :
    let f := emptyFile "a.sol" "/project/a.sol" none
    let g := emptyFile "lib/x.sol" "/project/node_modules/lib/x.sol" (some ⟨"lib", ""⟩)
    (searchingResolver.resolveSourceName shadowedHost "a.sol").Gives f ∧
      (searchingResolver.resolveImport shadowedHost f "./lib/x.sol").Gives g ∧
      (g.library = f.library ↔
        (searchingResolver.InProject shadowedHost g.sourceName ↔ f.library = none)) := by
  intro f g
  have hf : (searchingResolver.resolveSourceName shadowedHost "a.sol").Gives f :=
    Run.gives_of_within (.start .usual) (by decide +kernel)
  have hg : (searchingResolver.resolveImport shadowedHost f "./lib/x.sol").Gives g :=
    Run.gives_of_within (.start .usual) (by decide +kernel)
  exact ⟨hf, hg, (a_relative_import_crosses_only_at_coinciding_names searchingResolver shadowedHost
    "a.sol" "./lib/x.sol" f g hf (by decide) hg).1⟩

/-- A file of a library that imports its neighbour is given the project's file of the same
name. -/
theorem a_relative_import_can_leave_its_library :
    let f := emptyFile "lib/x.sol" "/project/node_modules/lib/x.sol" (some ⟨"lib", ""⟩)
    let g := emptyFile "lib/y.sol" "/project/lib/y.sol" none
    (searchingResolver.resolveSourceName shadowedHost "lib/x.sol").Gives f ∧
      isRelative "./y.sol" = true ∧
      (importedName f "./y.sol").toOption = some ⟨"lib/y.sol", false⟩ ∧
      (searchingResolver.resolveImport shadowedHost f "./y.sol").Gives g ∧
      g.library ≠ f.library := by
  intro f g
  exact ⟨Run.gives_of_within (.start .usual) (by decide +kernel), by decide, by decide +kernel,
    Run.gives_of_within (.start .usual) (by decide +kernel), by simp [f, g, emptyFile]⟩

end Resolver

end SourceNames
