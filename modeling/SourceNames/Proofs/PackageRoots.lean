-- Where a library's file lies beside the description that its version is read from. The
-- description's own directory is climbed by the segments of the library's name, and the name
-- is read from there, so the file lies in that directory just if the directory is still
-- called by the library's name.

import SourceNames.Proofs.Containment

namespace SourceNames

namespace Path

/-- Whether a path lies inside a directory, going on below it by at least one name. -/
def Holds (directory path : Path) : Prop :=
  ∃ more, more ≠ [] ∧ path = { directory with parts := directory.parts ++ more }

/-- The last names of a path, all of them if there are fewer. -/
def lastNames (p : Path) (count : Nat) : List String :=
  p.parts.drop (p.parts.length - count)

theorem length_lastNames_le (p : Path) (count : Nat) : (p.lastNames count).length ≤ count := by
  unfold lastNames
  rw [List.length_drop]
  omega

end Path

/-! ## Climbing and joining -/

theorem foldl_parent {α : Type} (steps : List α) (p : Path) :
    steps.foldl (fun p _ => p.parent) p =
      { p with parts := p.parts.take (p.parts.length - steps.length) } := by
  induction steps generalizing p with
  | nil => simp
  | cons step rest ih =>
    rw [List.foldl_cons, ih]
    unfold Path.parent
    simp only [List.dropLast_eq_take, List.take_take, List.length_take, List.length_cons]
    congr 2
    omega

/-- Climbing takes away the last names. -/
theorem climb_append_lastNames (p : Path) (name : String) :
    (climb p name).anchor = p.anchor ∧
      (climb p name).parts ++ p.lastNames (segments name).length = p.parts := by
  unfold climb Path.lastNames
  rw [foldl_parent]
  exact ⟨rfl, List.take_append_drop _ _⟩

/-- A description below a directory, in a folder of the library's name, has the directory as its
library's root. -/
theorem libraryRoot_of_parts (directory : Path) (library last : String) :
    libraryRoot { directory with parts := directory.parts ++ segments library ++ [last] } library =
      directory := by
  unfold libraryRoot climb
  rw [foldl_parent]
  simp [Path.parent]

/-! ## The file and the description's directory -/

/-- What names lead to from where a directory's last names are left out lies inside the
directory just if the names start with the ones left out. -/
theorem holds_append_iff {directory root : Path} {last names : List String}
    (hanchor : root.anchor = directory.anchor) (hparts : root.parts ++ last = directory.parts) :
    directory.Holds { root with parts := root.parts ++ names } ↔
      ∃ more, more ≠ [] ∧ names = last ++ more := by
  unfold Path.Holds
  rw [← hanchor, ← hparts]
  simp only [Path.mk.injEq, true_and, List.append_assoc, List.append_cancel_left_eq]

/-- A library's names, followed by others, go on after a few names just if those begin the
library's. -/
theorem goes_on_iff_prefix {last library rest : List String} (hrest : rest ≠ [])
    (hshort : last.length ≤ library.length) :
    (∃ more, more ≠ [] ∧ library ++ rest = last ++ more) ↔ last <+: library := by
  constructor
  · rintro ⟨more, -, hmore⟩
    have hprefix : last <+: library ++ rest := ⟨more, hmore.symm⟩
    exact List.prefix_of_prefix_length_le hprefix (List.prefix_append _ _) hshort
  · rintro ⟨more, rfl⟩
    exact ⟨more ++ rest, by simp [hrest], List.append_assoc _ _ _⟩

/-- A library's file lies inside the description's directory just if the last names of that
directory begin the library's name. -/
theorem holds_libraryRoot_below_iff {description : Path} {name : String}
    (hname : IsSourceName name) (hne : libraryName name ≠ name) :
    description.parent.Holds ((libraryRoot description (libraryName name)).below name) ↔
      description.parent.lastNames (segments (libraryName name)).length <+:
        segments (libraryName name) := by
  obtain ⟨hanchor, hparts⟩ := climb_append_lastNames description.parent (libraryName name)
  have hsplit : segments (libraryName name) ++ (segments name).drop (scopeDepth name) =
      segments name := by
    rw [segments_libraryName, List.take_append_drop]
  have hrest := drop_scopeDepth_ne_nil hne
  have hshort := description.parent.length_lastNames_le (segments (libraryName name)).length
  rw [Path.below_eq _ hname, ← goes_on_iff_prefix hrest hshort, hsplit]
  exact holds_append_iff hanchor hparts

namespace Resolver

/-! ## The law -/

/-- The version of a library's file is read from one description, and the file lies inside
that description's directory just if the directory's last names begin the library's name. -/
theorem a_library_file_lies_in_its_package_just_if_named_so (r : Resolver) (host : Host)
    (name : String) (file : ResolvedFile) (library : LibraryInfo)
    (h : (r.resolveSourceName host name).Gives file) (hlibrary : file.library = some library) :
    ∃ description, r.PackageAt host library.name description ∧
      packageVersion host description = .ok library.version ∧
      file.absolutePath =
        ((libraryRoot description library.name).below file.sourceName).text ∧
      (description.parent.Holds
          ((libraryRoot description library.name).below file.sourceName) ↔
        description.parent.lastNames (segments library.name).length <+:
          segments library.name) := by
  obtain ⟨hname, hproject | hfrom⟩ := resolveSourceName_gives h
  · rw [hproject.library] at hlibrary
    cases hlibrary
  · obtain ⟨description, version, hpackage, hversion, hsome, hfound⟩ := hfrom.package
    rw [hsome] at hlibrary
    cases hlibrary
    refine ⟨description, hpackage, hversion, ?_, ?_⟩
    · rw [hfound.sourceName]
      exact hfound.absolutePath
    · rw [hfound.sourceName]
      exact holds_libraryRoot_below_iff hname hfrom.goesOn

/-- A library installed as a link to a folder that is called otherwise, and beside that folder
an older copy under the library's name. -/
def linkedHost : Host :=
  hostWith
    [(["project", "node_modules", "lib"], .link "/store/lib-2"),
     (["store", "lib", "x.sol"], .file [] 0),
     (["store", "lib-2", "package.json"],
       .file "\x7b\"version\": \"2.0.0\"\x7d".toUTF8.data.toList 0),
     (["store", "lib-2", "x.sol"], .file [] 0)] []

/-- The file of the older copy, with the version of the other. -/
def misversionedFile : ResolvedFile :=
  emptyFile "lib/x.sol" "/store/lib/x.sol" (some ⟨"lib", "2.0.0"⟩)

theorem a_linked_package_is_named_otherwise :
    (searchingResolver.resolveSourceName linkedHost "lib/x.sol").Gives misversionedFile ∧
      misversionedFile.library = some ⟨"lib", "2.0.0"⟩ ∧
      ∃ description, searchingResolver.PackageAt linkedHost "lib" description ∧
        (description.parent.Holds ((libraryRoot description "lib").below "lib/x.sol") ↔
          description.parent.lastNames (segments "lib").length <+: segments "lib") := by
  have h : (searchingResolver.resolveSourceName linkedHost "lib/x.sol").Gives misversionedFile :=
    Run.gives_of_within (.start .usual) (by decide +kernel)
  obtain ⟨description, hpackage, -, -, hinside⟩ :=
    a_library_file_lies_in_its_package_just_if_named_so searchingResolver linkedHost "lib/x.sol"
      misversionedFile ⟨"lib", "2.0.0"⟩ h rfl
  exact ⟨h, rfl, description, hpackage, hinside⟩

/-- The version is that of the linked package, and the file is one of the copy beside it. -/
theorem a_linked_package_lends_its_version_to_another :
    let description : Path := ⟨.root, ["store", "lib-2", "package.json"]⟩
    let path : Path := ⟨.root, ["store", "lib", "x.sol"]⟩
    (searchingResolver.resolveSourceName linkedHost "lib/x.sol").Gives misversionedFile ∧
      misversionedFile.library = some ⟨"lib", "2.0.0"⟩ ∧
      searchingResolver.PackageAt linkedHost "lib" description ∧
      packageVersion linkedHost description = .ok "2.0.0" ∧
      misversionedFile.absolutePath = path.text ∧
      ¬ description.parent.Holds path := by
  intro description path
  have hfinder : searchingResolver.finder linkedHost "lib" searchingResolver.root =
      .ok (some ⟨description, some (Path.ofText "/project/node_modules/lib/package.json")⟩) :=
    eq_ok_of_toOption (by decide +kernel)
  refine ⟨Run.gives_of_within (.start .usual) (by decide +kernel), rfl, .found hfinder,
    eq_ok_of_toOption (by decide +kernel), by decide +kernel, ?_⟩
  rintro ⟨more, -, hpath⟩
  simp [description, path, Path.parent] at hpath

end Resolver

end SourceNames
