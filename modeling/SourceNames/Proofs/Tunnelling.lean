-- Imports that go through an installation directory. Such an import means the library name
-- after that directory, wherever the directory lies. So it gives the file that it points at
-- just if the library is looked up in the very directory that it goes through.

import SourceNames.Proofs.ImportedNames
import SourceNames.Proofs.NearestLibrary
import SourceNames.Proofs.OneName

namespace SourceNames

namespace Path

/-! ## The same import read from a name and from a path -/

/-- Below a root, a relative path may be collapsed first. -/
theorem collapse_root_append {place : List String} (hplace : ".." ∉ place)
    (parts : List String) :
    (Path.mk .root (place ++ parts)).collapse = ⟨.root,
      ((Path.mk .relative parts).collapse.parts.foldl (push true) place.reverse).reverse⟩ := by
  rw [collapse_root, collapse_relative, List.foldl_append, foldl_push_names hplace,
    List.append_nil, foldl_push_collapsed]

/-- The name after the installation directory that a collapsed path goes through. -/
theorem split_of_throughModules {p : Path} {direct : String} (hanchor : p.anchor = .relative)
    (hparts : Written p.parts) (h : throughModules? p.collapse.text = some direct) :
    ∃ front rest, p.collapse.parts = front ++ modulesDirectory :: rest ∧
      direct = joinSegments rest ∧ rest ≠ [] := by
  have htext : p.collapse.text = (Path.mk .relative p.collapse.parts).text := by
    rw [← hanchor]
    rfl
  have hcollapsed : Written p.collapse.parts := fun part hm => hparts part (mem_of_mem_collapse hm)
  rw [htext, text_of_relative] at h
  split at h
  · have hnone : throughModules? "." = none := by decide
    rw [hnone] at h
    cases h
  · rename_i hne
    have hparts : p.collapse.parts ≠ [] := by
      intro hnil
      rw [hnil] at hne
      exact hne rfl
    unfold throughModules? at h
    rw [segments_joinSegments hparts fun part hm => (hcollapsed part hm).2] at h
    obtain ⟨rest, hrest, rfl⟩ := Option.map_eq_some_iff.mp h
    obtain ⟨hrestne, front, -, hfront⟩ := afterModules_eq_some_iff.mp hrest
    exact ⟨front, rest, hfront, rfl, hrestne⟩

theorem written_foldl_push {parts stack : List String} (hparts : Written parts)
    (hstack : Written stack) : Written (parts.foldl (push true) stack) := by
  intro part hm
  rcases mem_foldl_push hm with hm | hm
  · exact hparts part hm
  · exact hstack part hm

/-- What names go on from tells the directory of the names. -/
theorem lead_eq_iff (p : Path) {names : List String} (h : Written names) (hne : names ≠ []) :
    p.lead = (Path.mk .root names).lead ↔ p.text = (Path.mk .root names).text := by
  obtain ⟨front, c, hc, hslash⟩ := exists_last_of_written h hne
  have hlead : (Path.mk .root names).lead.toList = '/' :: (front ++ [c]) ++ ['/'] := by
    simp [lead, hne, Anchor.text, hc]
  have htext : (Path.mk .root names).text.toList = '/' :: (front ++ [c]) := by
    simp [text, Anchor.text, hc]
  rw [← String.toList_inj, ← String.toList_inj, hlead, htext]
  by_cases hparts : p.parts = []
  · -- An anchor alone is written with slashes only.
    unfold lead text
    rw [hparts]
    cases p.anchor <;> cases front <;> simp [Anchor.text, joinSegments, glue, Ne.symm hslash]
  · have hlead' : p.lead.toList = (p.anchor.text ++ joinSegments p.parts).toList ++ ['/'] := by
      simp [lead, hparts]
    rw [hlead', List.append_left_inj]
    unfold text
    by_cases hbody : p.anchor.text ++ joinSegments p.parts = ""
    · simp [hbody]
    · simp only [hbody, if_false]

theorem text_root (names : List String) :
    (Path.mk .root names).text = Anchor.root.text ++ joinSegments names := by
  unfold text
  exact if_neg (by simp [Anchor.text])

/-- The path of an import that goes through an installation directory: that directory, and
below it the name that comes after. -/
theorem target_of_throughModules {place front : List String} {last imported direct : String}
    (hplace : Written place) (hdots : ".." ∉ place) (hfront : Written (front ++ [last]))
    (himported : beginsWith "/" imported = false) (hdirect : IsSourceName direct)
    (h : throughModules?
      (normalize (joinNames (directoryOf (joinSegments (front ++ [last]))) imported)) =
        some direct) :
    ∃ modules, Written modules ∧ modules.getLast? = some modulesDirectory ∧
      normalize (joinNames (directoryOf (Path.mk .root (place ++ (front ++ [last]))).text) imported) =
        ((Path.mk .root modules).below direct).text := by
  have hparts : Written (front ++ (ofText imported).parts) := fun part hm =>
    (List.mem_append.mp hm).elim (hfront.left part) mem_parts_ofText
  have hname := normalize_joinNames .relative hfront himported
  rw [Anchor.text, String.empty_append] at hname
  rw [hname] at h
  obtain ⟨before, rest, hsplit, rfl, hrest⟩ := split_of_throughModules rfl hparts h
  have hcollapsed : Written (before ++ modulesDirectory :: rest) := fun part hm =>
    hparts part (mem_of_mem_collapse (hsplit ▸ hm))
  have hafter : segments (joinSegments rest) = rest :=
    segments_joinSegments hrest fun part hm => (hcollapsed part (by simp [hm])).2
  have hclimb : ".." ∉ rest := fun hm => (hdirect.proper ".." (hafter.symm ▸ hm)).2.2 rfl
  have hpath : Written ((place ++ front) ++ [last]) := by
    rw [List.append_assoc]
    exact fun part hm => (List.mem_append.mp hm).elim (hplace part) (hfront part)
  have hcollapse : (Path.mk .root (place ++ front ++ (ofText imported).parts)).collapse =
      ⟨.root, (before.foldl (push true) place.reverse).reverse ++ [modulesDirectory] ++ rest⟩ := by
    rw [List.append_assoc, collapse_root_append hdots, hsplit, List.foldl_append,
      List.foldl_cons, push_of_ne_dots true _ (by decide), foldl_push_names hclimb]
    simp
  refine ⟨(before.foldl (push true) place.reverse).reverse ++ [modulesDirectory], ?_, by simp, ?_⟩
  · have hstack : Written place.reverse := fun part hm => hplace part (List.mem_reverse.mp hm)
    have hbefore := written_foldl_push hcollapsed.left hstack
    intro part hm
    rcases List.mem_append.mp hm with hm | hm
    · exact hbefore part (List.mem_reverse.mp hm)
    · rw [List.mem_singleton.mp hm]
      decide
  · rw [← List.append_assoc, text_root, normalize_joinNames .root hpath himported, hcollapse,
      below_eq _ hdirect, hafter]

end Path

namespace Resolver

variable {r : Resolver} {host : Host} {place : Place} {name imported direct : String}
variable {f g : ResolvedFile}

/-! ## The law -/

theorem importedName_of_throughModules {importer : ResolvedFile}
    (hproject : importer.library = none) (hrelative : isRelative imported = true)
    (hthrough : throughModules?
      (normalize (joinNames (directoryOf importer.sourceName) imported)) = some direct)
    {meant : ImportedName} (h : importedName importer imported = .ok meant) :
    meant = ⟨direct, true⟩ := by
  unfold importedName at h
  simp only [hrelative, hproject, hthrough, Bool.not_true, Bool.false_eq_true, if_false] at h
  split at h
  · cases h
  · split_ifs at h
    cases h
    rfl

/-- Where an import of a project's file points at that goes through an installation
directory. -/
theorem target_of_project (hroot : r.root = ⟨.root, place⟩) (hplace : (host.top.at? place).isSome)
    (hf : (r.resolveSourceName host name).Gives f) (hproject : f.library = none)
    (hrelative : isRelative imported = true)
    (hthrough : throughModules?
      (normalize (joinNames (directoryOf f.sourceName) imported)) = some direct)
    (hdirect : IsSourceName direct) :
    ∃ modules, Path.Written modules ∧ modules.getLast? = some modulesDirectory ∧
      normalize (joinNames (directoryOf f.absolutePath) imported) =
        ((Path.mk .root modules).below direct).text := by
  obtain ⟨hname, hfile⟩ := resolveSourceName_gives hf
  have hfound : FoundBelow host r.root name f := by
    rcases hfile with hfile | hfile
    · exact hfile.found
    · obtain ⟨version, hsome⟩ := hfile.library_some
      rw [hsome] at hproject
      cases hproject
  have hwritten : Path.Written place := fun part hm =>
    have hentry := Node.isEntryName_of_at? hplace part hm
    ⟨by simp [Path.isName, hentry.1, hentry.2.1], hentry.2.2.2.1⟩
  obtain ⟨front, last, hsegments⟩ :=
    (List.eq_nil_or_concat (segments name)).resolve_left (segments_ne_nil name)
  rw [List.concat_eq_append] at hsegments
  have hfront : Path.Written (front ++ [last]) := hsegments ▸ Path.written_segments hname
  rw [hfound.sourceName, ← joinSegments_segments name, hsegments] at hthrough
  rw [hfound.absolutePath, hroot, Path.below_eq _ hname, hsegments]
  exact Path.target_of_throughModules hwritten (Node.namesOnly_of_at? hplace).not_dots hfront
    (isRelative_not_absolute hrelative) hdirect hthrough

/-- On a disk without links, the base of a library's file is where the library is looked up. -/
theorem nearest_of_baseOf {base : Path} {extra : List Path} {library : LibraryInfo}
    (hlinks : host.LinkFree) (hroot : r.root = ⟨.root, place⟩) (hplace : NamesOnly place)
    (hfinder : r.finder = modulesFinder extra) (hg : (r.resolveSourceName host name).Gives g)
    (hlibrary : g.library = some library) (hbase : r.BaseOf host g base) :
    ∃ nearest, base = ⟨.root, nearest⟩ ∧
      host.LooksIn (lookupOrder host place extra) library.name nearest := by
  obtain ⟨hname, hfile | hfile⟩ := resolveSourceName_gives hg
  · rw [hfile.library] at hlibrary
    cases hlibrary
  · obtain ⟨version, hsome⟩ := hfile.library_some
    obtain rfl := Option.some.inj (hsome.symm.trans hlibrary)
    unfold BaseOf at hbase
    rw [hsome] at hbase
    obtain ⟨description, hpackage, rfl⟩ := hbase
    have hlibraryName := isSourceName_libraryName hname hfile.goesOn
    obtain ⟨nearest, hnearest, rfl⟩ :=
      looksIn_of_packageAt hlinks hroot hplace hfinder hlibraryName hpackage
    exact ⟨nearest, libraryRoot_description nearest _, hnearest⟩

/-- An import of a project's file that goes through an installation directory means the name
after that directory, and gives just what that name is resolved to. It gives the file that it
points at just if the base of that name is the very directory it goes through; on a disk
without links the base is the root, or the first directory of the search order that the
library is installed in. -/
theorem a_tunnelling_import_means_the_direct_name (r : Resolver) (host : Host) (place : Place)
    (name imported direct : String) (f g : ResolvedFile) (hroot : r.root = ⟨.root, place⟩)
    (hplace : (host.top.at? place).isSome) (hf : (r.resolveSourceName host name).Gives f)
    (hproject : f.library = none) (hrelative : isRelative imported = true)
    (hthrough : throughModules?
      (normalize (joinNames (directoryOf f.sourceName) imported)) = some direct)
    (hg : (r.resolveImport host f imported).Gives g) :
    let target := normalize (joinNames (directoryOf f.absolutePath) imported)
    (r.resolveSourceName host direct).Gives g ∧
      ∃ base modules, r.BaseOf host g base ∧ modules.getLast? = some modulesDirectory ∧
        g.absolutePath = (base.below direct).text ∧
        target = ((Path.mk .root modules).below direct).text ∧
        (g.absolutePath = target ↔ base.text = (Path.mk .root modules).text) ∧
        (host.LinkFree → ∀ extra, r.finder = modulesFinder extra →
          ∀ library, g.library = some library →
            ∃ nearest, base = ⟨.root, nearest⟩ ∧
              host.LooksIn (lookupOrder host place extra) library.name nearest) := by
  intro target
  obtain ⟨meant, hmeant, hresolved⟩ := resolveImport_gives hg
  obtain rfl := importedName_of_throughModules hproject hrelative hthrough hmeant
  have hdirect := (resolveSourceName_gives hresolved).1
  obtain ⟨base, hbase, hpath⟩ := absolutePath_eq hresolved
  obtain ⟨modules, hwritten, hlast, htarget⟩ : ∃ modules, Path.Written modules ∧
      modules.getLast? = some modulesDirectory ∧
      target = ((Path.mk .root modules).below direct).text :=
    target_of_project hroot hplace hf hproject hrelative hthrough hdirect
  have hmodules : modules ≠ [] := by
    rintro rfl
    simp at hlast
  refine ⟨hresolved, base, modules, hbase, hlast, ?_, htarget, ?_, ?_⟩
  · rw [hpath, Path.text_below base hdirect]
  · rw [hpath, htarget, Path.text_below _ hdirect, String.append_left_inj,
      Path.lead_eq_iff base hwritten hmodules]
  · intro hlinks extra hfinder library hlibrary
    have hnames := Node.namesOnly_of_at? hplace
    exact nearest_of_baseOf hlinks hroot hnames hfinder hresolved hlibrary hbase

/-- A project with a library installed in it, and once more in a folder of it. -/
def twiceInstalledHost : Host :=
  hostWith
    [(["project", "sub", "a.sol"], .file [] 0),
     (["project", "node_modules", "lib", "package.json"], .file [0x7b, 0x7d] 0),
     (["project", "node_modules", "lib", "x.sol"], .file [] 0),
     (["project", "sub", "node_modules", "lib", "package.json"], .file [0x7b, 0x7d] 0),
     (["project", "sub", "node_modules", "lib", "x.sol"], .file [] 0)] []

theorem an_import_through_the_installation_of_the_root :
    let f := emptyFile "sub/a.sol" "/project/sub/a.sol" none
    let g := emptyFile "lib/x.sol" "/project/node_modules/lib/x.sol" (some ⟨"lib", ""⟩)
    let imported := "../node_modules/lib/x.sol"
    let target := normalize (joinNames (directoryOf f.absolutePath) imported)
    searchingResolver.root = ⟨.root, ["project"]⟩ ∧
      (twiceInstalledHost.top.at? ["project"]).isSome = true ∧
      (searchingResolver.resolveSourceName twiceInstalledHost "sub/a.sol").Gives f ∧
      f.library = none ∧ isRelative imported = true ∧
      throughModules? (normalize (joinNames (directoryOf f.sourceName) imported)) =
        some "lib/x.sol" ∧
      (searchingResolver.resolveImport twiceInstalledHost f imported).Gives g ∧
      g.absolutePath = target ∧
      ∃ base modules, searchingResolver.BaseOf twiceInstalledHost g base ∧
        target = ((Path.mk .root modules).below "lib/x.sol").text ∧
        base.text = (Path.mk .root modules).text := by
  intro f g imported target
  have hroot : searchingResolver.root = ⟨.root, ["project"]⟩ := by decide +kernel
  have hplace : (twiceInstalledHost.top.at? ["project"]).isSome = true := by decide +kernel
  have hf : (searchingResolver.resolveSourceName twiceInstalledHost "sub/a.sol").Gives f :=
    Run.gives_of_within (.start .usual) (by decide +kernel)
  have hrelative : isRelative imported = true := by decide +kernel
  have hthrough : throughModules? (normalize (joinNames (directoryOf f.sourceName) imported)) =
      some "lib/x.sol" := by decide +kernel
  have hg : (searchingResolver.resolveImport twiceInstalledHost f imported).Gives g :=
    Run.gives_of_within (.start .usual) (by decide +kernel)
  have htarget : g.absolutePath = target := by decide +kernel
  obtain ⟨-, base, modules, hbase, -, -, hmodules, hsame, -⟩ :=
    a_tunnelling_import_means_the_direct_name searchingResolver twiceInstalledHost ["project"]
      "sub/a.sol" imported "lib/x.sol" f g hroot hplace hf rfl hrelative hthrough hg
  exact ⟨hroot, hplace, hf, rfl, hrelative, hthrough, hg, htarget, base, modules, hbase,
    hmodules, hsame.mp htarget⟩

/-- An import that points at the library in the folder gives the one at the root. -/
theorem an_import_passes_over_a_nested_installation :
    let f := emptyFile "sub/a.sol" "/project/sub/a.sol" none
    let g := emptyFile "lib/x.sol" "/project/node_modules/lib/x.sol" (some ⟨"lib", ""⟩)
    let imported := "./node_modules/lib/x.sol"
    twiceInstalledHost.LinkFree ∧
      (searchingResolver.resolveSourceName twiceInstalledHost "sub/a.sol").Gives f ∧
      f.library = none ∧ isRelative imported = true ∧
      throughModules? (normalize (joinNames (directoryOf f.sourceName) imported)) =
        some "lib/x.sol" ∧
      (searchingResolver.resolveImport twiceInstalledHost f imported).Gives g ∧
      normalize (joinNames (directoryOf f.absolutePath) imported) =
        "/project/sub/node_modules/lib/x.sol" ∧
      g.absolutePath ≠ normalize (joinNames (directoryOf f.absolutePath) imported) := by
  intro f g imported
  exact ⟨by decide +kernel, Run.gives_of_within (.start .usual) (by decide +kernel), rfl,
    by decide +kernel, by decide +kernel, Run.gives_of_within (.start .usual) (by decide +kernel),
    by decide +kernel, by decide +kernel⟩

end Resolver

end SourceNames
