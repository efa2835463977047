-- Where resolved files can lie. Whatever the tree, the finder, the importing file and the
-- text of the import, a file that is found lies below the project root or below the directory
-- of its library, down a chain of entries that its name spells out.

import SourceNames.Disk.Change
import SourceNames.Proofs.Resolution

namespace SourceNames

namespace Resolver

variable {r : Resolver} {host : Host} {name : String} {file : ResolvedFile}

/-- The directory that the name of a file is read from: the root for a file of the project,
and for one of a library the directory that the library's names start from. -/
def BaseOf (r : Resolver) (host : Host) (file : ResolvedFile) (base : Path) : Prop :=
  match file.library with
  | none => base = r.root
  | some library => ∃ description, r.PackageAt host library.name description ∧
    base = libraryRoot description library.name

/-- A file that does not escape: its name is well formed and tells its library, and its path
goes on below its base by just the segments of its name, each an entry of the folder before. -/
structure Contained (r : Resolver) (host : Host) (file : ResolvedFile) : Prop where
  wellFormed : IsSourceName file.sourceName
  ofProject : file.library = none → modulesDirectory ∉ segments file.sourceName
  ofLibrary : ∀ library, file.library = some library →
    library.name = libraryName file.sourceName ∧
      ∃ rest, rest ≠ "" ∧ file.sourceName = library.name ++ "/" ++ rest
  placed : ∃ base, r.BaseOf host file base ∧
    file.absolutePath = (Path.mk base.anchor (base.parts ++ segments file.sourceName)).text ∧
    host.Spells base file.sourceName

/-! ## The two kinds of files -/

theorem modulesDirectory_not_mem_of_isLocal (h : r.isLocal host name = .ok true) :
    modulesDirectory ∉ segments name := by
  intro hm
  have hsegment : hasSegment name modulesDirectory = true := List.contains_iff_mem.mpr hm
  simp [isLocal, hsegment] at h

/-- A file found below a directory lies where its name leads from there. -/
theorem placed_of_foundBelow {base : Path} (hname : IsSourceName name)
    (h : FoundBelow host base name file) :
    file.absolutePath = (Path.mk base.anchor (base.parts ++ segments file.sourceName)).text ∧
      host.Spells base file.sourceName := by
  rw [h.sourceName, ← Path.below_eq base hname]
  exact ⟨h.absolutePath, spells_of_trueCaseName h.spelling hname.not_empty⟩

theorem ProjectFile.contained (hname : IsSourceName name) (h : r.ProjectFile host name file) :
    r.Contained host file := by
  have hsource := h.found.sourceName
  refine ⟨hsource ▸ hname, ?_, ?_, ?_⟩
  · intro _
    rw [hsource]
    exact modulesDirectory_not_mem_of_isLocal h.isLocal
  · intro library hlibrary
    rw [h.library] at hlibrary
    cases hlibrary
  · refine ⟨r.root, ?_, placed_of_foundBelow hname h.found⟩
    unfold BaseOf
    rw [h.library]

theorem LibraryFile.contained (hname : IsSourceName name) (h : r.LibraryFile host name file) :
    r.Contained host file := by
  obtain ⟨description, version, hpackage, -, hlibrary, hfound⟩ := h.package
  have hsource := hfound.sourceName
  refine ⟨hsource ▸ hname, ?_, ?_, ?_⟩
  · intro hnone
    rw [hlibrary] at hnone
    cases hnone
  · intro library hsome
    rw [hlibrary] at hsome
    cases hsome
    rw [hsource]
    exact ⟨rfl, _, rest_ne_empty hname h.goesOn, libraryName_append h.goesOn⟩
  · refine ⟨_, ?_, placed_of_foundBelow hname hfound⟩
    unfold BaseOf
    rw [hlibrary]
    exact ⟨description, hpackage, rfl⟩

theorem contained_of_resolveSourceName (h : (r.resolveSourceName host name).Gives file) :
    r.Contained host file := by
  obtain ⟨hname, hproject | hlibrary⟩ := resolveSourceName_gives h
  · exact hproject.contained hname
  · exact hlibrary.contained hname

/-! ## The law -/

/-- No file that a source name or an import is resolved to escapes its base. -/
theorem a_resolved_file_never_escapes (r : Resolver) (host : Host) (file : ResolvedFile)
    (h : (∃ name, (r.resolveSourceName host name).Gives file) ∨
      ∃ importer imported, (r.resolveImport host importer imported).Gives file) :
    r.Contained host file := by
  rcases h with ⟨name, h⟩ | ⟨importer, imported, h⟩
  · exact contained_of_resolveSourceName h
  · obtain ⟨meant, -, h⟩ := resolveImport_gives h
    exact contained_of_resolveSourceName h

/-- The host whose disk holds just the nodes put at their places. -/
def hostWith (nodes : List (Place × Node)) (env : Environment) : Host :=
  .ofTree (nodes.foldl (fun top placed => Node.put placed.2 placed.1 top) .emptyFolder) env

/-- A project with a library installed in it, and a folder of its own that is called like the
library and has one file of the same name. -/
def shadowedHost : Host :=
  hostWith
    [(["project", "a.sol"], .file [] 0),
     (["project", "lib", "y.sol"], .file [] 0),
     (["project", "node_modules", "lib", "package.json"], .file [0x7b, 0x7d] 0),
     (["project", "node_modules", "lib", "x.sol"], .file [] 0),
     (["project", "node_modules", "lib", "y.sol"], .file [] 0)] []

/-- A resolver for a project that searches installation directories. -/
def searchingResolver : Resolver :=
  ⟨Path.ofText "/project", modulesFinder [], fixedParser ⟨[], []⟩⟩

/-- The record of an empty file. -/
def emptyFile (name path : String) (library : Option LibraryInfo) : ResolvedFile :=
  ⟨name, path, ⟨"", [], []⟩, ⟨0, by decide, by decide⟩, library⟩

/-- What a file imports that was never resolved is contained too. -/
theorem an_import_of_a_forged_file_is_contained :
    let importer := emptyFile "lib/away/z.sol" "" (some ⟨"lib", ""⟩)
    let file := emptyFile "lib/x.sol" "/project/node_modules/lib/x.sol" (some ⟨"lib", ""⟩)
    (searchingResolver.resolveImport shadowedHost importer "../x.sol").Gives file ∧
      searchingResolver.Contained shadowedHost file := by
  intro importer file
  have h : (searchingResolver.resolveImport shadowedHost importer "../x.sol").Gives file :=
    Run.gives_of_within (.start .usual) (by decide +kernel)
  exact ⟨h, a_resolved_file_never_escapes searchingResolver shadowedHost file
    (Or.inr ⟨importer, "../x.sol", h⟩)⟩

end Resolver

end SourceNames
