-- The directory that a library's names are read from, and the package that they lead into. The
-- name of a library's file goes on after the library's name, so climbing from a description by
-- that name and joining the whole name is the same as going on below the package by the rest, and
-- a file is found so just if it is found in the package.

import SourceNames.Proofs.JoinedNames
import SourceNames.Proofs.NearestLibrary
import SourceNames.Proofs.UncheckedNames

namespace SourceNames

/-! ## Chains of entries -/

namespace Host

variable {host : Host} {folder : Path} {entry : EntryName} {front back : List EntryName}

theorem descends_cons_iff : host.Descends folder (entry :: back) ↔
    (∃ names, host.list? folder = .ok (some names) ∧ entry ∈ names) ∧
      host.Descends { folder with parts := folder.parts ++ [entry.text] } back := by
  constructor
  · intro h
    cases h with
    | enter hlist hentry hrest => exact ⟨⟨_, hlist, hentry⟩, hrest⟩
  · rintro ⟨⟨names, hlist, hentry⟩, hrest⟩
    exact .enter hlist hentry hrest

/-- Entries lead down one after the other just if the later ones lead down from where the
earlier ones lead to. -/
theorem descends_append_iff : host.Descends folder (front ++ back) ↔
    host.Descends folder front ∧
      host.Descends { folder with parts := folder.parts ++ front.map (·.text) } back := by
  induction front generalizing folder with
  | nil => simp [Descends.stay folder]
  | cons entry rest ih =>
    rw [List.cons_append, descends_cons_iff, descends_cons_iff, ih, and_assoc]
    simp only [List.map_cons, List.append_assoc, List.singleton_append]

end Host

/-! ## Names in two pieces -/

namespace Path

theorem below_append_slash (p : Path) (front back : String) :
    p.below (front ++ "/" ++ back) = (p.below front).below back := by
  unfold below
  rw [segments_append_slash, List.filter_append, List.append_assoc]

theorem join_eq_below (p : Path) {name : String} (h : IsSourceName name) :
    p.join name = p.below name := by
  unfold join
  rw [ofText_of_isSourceName h, p.below_eq h]

end Path

/-- A name spells entries just if its first piece does and the rest does so from there. -/
theorem Host.spells_append_slash_iff {host : Host} {folder : Path} {front back : String} :
    host.Spells folder (front ++ "/" ++ back) ↔
      host.Spells folder front ∧ host.Spells (folder.below front) back := by
  constructor
  · rintro ⟨entries, hdescends, htexts⟩
    rw [segments_append_slash] at htexts
    obtain ⟨first, last, rfl, hfirst, hlast⟩ := List.map_eq_append_iff.mp htexts
    obtain ⟨hfront, hback⟩ := descends_append_iff.mp hdescends
    have hspells : host.Spells folder front := ⟨first, hfront, hfirst⟩
    rw [hfirst, ← below_of_spells hspells] at hback
    exact ⟨hspells, last, hback, hlast⟩
  · rintro ⟨⟨first, hfront, hfirst⟩, last, hback, hlast⟩
    have hspells : host.Spells folder front := ⟨first, hfront, hfirst⟩
    rw [below_of_spells hspells, ← hfirst] at hback
    refine ⟨first ++ last, descends_append_iff.mpr ⟨hfront, hback⟩, ?_⟩
    rw [List.map_append, hfirst, hlast, segments_append_slash]

/-! ## Climbing from a package -/

section Climbing

variable {directory : Path} {library : String}

theorem libraryRoot_packageIn (directory : Path) (h : IsSourceName library) :
    libraryRoot (packageIn directory library) library = directory := by
  rw [Host.packageIn_eq directory h, ← List.append_assoc]
  exact libraryRoot_of_parts directory library packageFile

theorem ofText_text_packageIn (h : IsSourceName library)
    (hdirectory : Path.Written directory.parts) :
    Path.ofText (packageIn directory library).text = packageIn directory library := by
  have hfile : Path.Written [packageFile] := by
    unfold Path.Written
    decide
  apply Path.ofText_text_of_written
  rw [Host.packageIn_eq directory h]
  exact hdirectory.append ((Path.written_segments h).append hfile)

/-- What is joined to a directory by a whole name is joined to the package by the rest. -/
theorem below_library (directory : Path) (h : IsSourceName library) (rest : String) :
    directory.below (library ++ "/" ++ rest) = (directory.join library).below rest := by
  rw [Path.below_append_slash, Path.join_eq_below directory h]

end Climbing

/-- A file of a package: it is called by the library and the rest, it lies where the rest leads
below the package's folder and was read from there, and its version is the one that the package
declares. -/
structure Host.FileOfPackage (host : Host) (package : Path) (library rest : String)
    (file : ResolvedFile) : Prop where
  sourceName : file.sourceName = library ++ "/" ++ rest
  absolutePath : file.absolutePath = (package.below rest).text
  inside : package.Holds (package.below rest)
  spelled : host.Spells package rest
  read : host.OpensAs (package.below rest) file.content.raw file.modified.micros
  described : ∃ version, packageVersion host (package.join packageFile) = .ok version ∧
    file.library = some ⟨library, version⟩

namespace Resolver

variable {r : Resolver} {host : Host} {directory : Path} {name library rest : String}
variable {file : ResolvedFile}

/-- With its description in a directory, a library's files are found below that directory. -/
theorem foundBelow_directory (hlibrary : IsSourceName (libraryName name))
    (hpackage : r.PackageAt host (libraryName name) (packageIn directory (libraryName name)))
    (h : (r.resolveFromLibrary host name).Gives file) :
    FoundBelow host directory name file ∧
      ∃ version, packageVersion host (packageIn directory (libraryName name)) = .ok version ∧
        file.library = some ⟨libraryName name, version⟩ := by
  obtain ⟨-, description, version, hdescription, hversion, hinfo, hfound⟩ :=
    resolveFromLibrary_gives h
  obtain rfl := hdescription.unique hpackage
  rw [libraryRoot_packageIn directory hlibrary] at hfound
  exact ⟨hfound, version, hversion, hinfo⟩

/-- What is found under a name of two pieces is found under the second, in the folder that the
first one leads to. -/
theorem fileOfPackage_of_foundBelow (hlibrary : IsSourceName library)
    (h : FoundBelow host directory (library ++ "/" ++ rest) file)
    (hversion : ∃ version, packageVersion host (packageIn directory library) = .ok version ∧
      file.library = some ⟨library, version⟩) :
    host.Spells directory library ∧
      host.FileOfPackage (directory.join library) library rest file := by
  have hspells := spells_of_trueCaseName h.spelling (by simp)
  rw [Host.spells_append_slash_iff, ← Path.join_eq_below directory hlibrary] at hspells
  obtain ⟨hfolder, hrest⟩ := hspells
  obtain ⟨changed, hread, hinstant⟩ := h.content
  obtain ⟨rfl, hdated⟩ := instantOf_eq_ok_iff.mp hinstant
  have hpath := h.absolutePath
  rw [below_library directory hlibrary] at hread hpath
  have hinside := Path.holds_append_segments (directory.join library) rest
  rw [← below_of_spells hrest] at hinside
  exact ⟨hfolder, h.sourceName, hpath, hinside, hrest,
    ⟨readTextFile_eq_ok_iff.mp hread, hdated⟩, hversion⟩

/-! ## The law -/

/-- Climbing undoes joining. The name of a library's file is the library's name, a slash and more.
From a description in the folder of that name, climbing leads back to the directory of the folder,
and to join the whole name to the directory is to join the rest to the folder. So where the
library is described there, its files are those of that very package. -/
theorem climbing_from_a_package_undoes_joining (directory : Path) (name : String)
    (hname : validate name = .ok ()) (hgoesOn : libraryName name ≠ name) :
    let library := libraryName name
    let package := directory.join library
    let description := packageIn directory library
    ∃ rest, rest ≠ "" ∧ name = library ++ "/" ++ rest ∧
      libraryRoot description library = directory ∧
      (Path.Written directory.parts → Path.ofText description.text = description) ∧
      directory.below name = package.below rest ∧
      ∀ (r : Resolver) (host : Host) (session : Session), r.PackageAt host library description →
        let ended := ((r.resolveFromLibrary host name).within session).1
        (∀ file, ended = .ok file → host.FileOfPackage package library rest file) ∧
        ((∃ file, ended = .ok file) ↔
          host.Spells directory library ∧ host.Spells package rest ∧
            (∃ version, packageVersion host description = .ok version) ∧
            ∃ text changed, host.OpensAs (package.below rest) text changed) := by
  intro library package description
  have hsource := isSourceName_of_validate hname
  have hlibrary : IsSourceName library := isSourceName_libraryName hsource hgoesOn
  obtain ⟨rest, hrest, hsplit⟩ : ∃ rest, rest ≠ "" ∧ name = library ++ "/" ++ rest :=
    ⟨_, rest_ne_empty hsource hgoesOn, libraryName_append hgoesOn⟩
  have hbelow : directory.below name = package.below rest := by
    rw [← below_library directory hlibrary, ← hsplit]
  refine ⟨rest, hrest, hsplit, libraryRoot_packageIn directory hlibrary,
    ofText_text_packageIn hlibrary, hbelow, fun r host session hpackage => ?_⟩
  have hfile : ∀ file, ((r.resolveFromLibrary host name).within session).1 = .ok file →
      host.Spells directory library ∧ host.FileOfPackage package library rest file := by
    intro file hfile
    obtain ⟨hfound, hversion⟩ := foundBelow_directory hlibrary hpackage ⟨session, hfile⟩
    rw [hsplit] at hfound
    exact fileOfPackage_of_foundBelow hlibrary hfound hversion
  refine ⟨fun file h => (hfile file h).2, ?_, ?_⟩
  · rintro ⟨file, h⟩
    obtain ⟨hfolder, hof⟩ := hfile file h
    obtain ⟨version, hversion, -⟩ := hof.described
    exact ⟨hfolder, hof.spelled, ⟨version, hversion⟩, _, _, hof.read⟩
  · rintro ⟨hfolder, hspelled, ⟨version, hversion⟩, text, changed, hopens⟩
    have hspells : host.Spells directory name := by
      rw [hsplit, Host.spells_append_slash_iff, ← Path.join_eq_below directory hlibrary]
      exact ⟨hfolder, hspelled⟩
    rw [← hbelow] at hopens
    rw [← libraryRoot_packageIn directory hlibrary] at hspells hopens
    exact resolveFromLibrary_of_package hgoesOn hpackage hversion hspells hopens session

/-- A scoped library that is installed right below the root of the disk, where nothing is left to
climb. What its file is called in the package starts with a dot. -/
def rootInstalledHost : Host :=
  hostWith
    [(["project", "a.sol"], .file [] 0),
     (["@scope", "lib", "package.json"],
       .file "\x7b\"version\": \"1.0.0\"\x7d".toUTF8.data.toList 0),
     (["@scope", "lib", ".src", "x.sol"], .file [] 0)] [("NODE_PATH", "/")]

theorem a_package_at_the_top_of_the_disk_holds_its_files :
    let name := "@scope/lib/.src/x.sol"
    let description := Path.ofText "/@scope/lib/package.json"
    let file := emptyFile name "/@scope/lib/.src/x.sol" (some ⟨"@scope/lib", "1.0.0"⟩)
    validate name = .ok () ∧ libraryName name = "@scope/lib" ∧
      libraryRoot description "@scope/lib" = ⟨.root, []⟩ ∧
      Path.ofText description.text = description ∧
      searchingResolver.PackageAt rootInstalledHost "@scope/lib" description ∧
      ((searchingResolver.resolveFromLibrary rootInstalledHost name).within (.start .usual)).1 =
        .ok file ∧
      rootInstalledHost.FileOfPackage (Path.ofText "/@scope/lib") "@scope/lib" ".src/x.sol" file := by
  intro name description file
  have hname : validate name = .ok () := eq_ok_of_toOption (by decide +kernel)
  have hlibrary : libraryName name = "@scope/lib" := by decide +kernel
  have hplace : packageIn ⟨.root, []⟩ "@scope/lib" = description := by decide +kernel
  have hfinder : searchingResolver.finder rootInstalledHost "@scope/lib" searchingResolver.root =
      .ok (some ⟨description, some description⟩) := eq_ok_of_toOption (by decide +kernel)
  have hfile : ((searchingResolver.resolveFromLibrary rootInstalledHost name).within
      (.start .usual)).1 = .ok file := eq_ok_of_toOption (by decide +kernel)
  obtain ⟨rest, -, hsplit, hroot, hread, -, hfiles⟩ :=
    climbing_from_a_package_undoes_joining ⟨.root, []⟩ name hname (by decide +kernel)
  rw [hlibrary] at hsplit hroot hread hfiles
  obtain rfl : rest = ".src/x.sol" := (String.append_right_inj _).mp hsplit.symm
  rw [hplace] at hroot hread
  obtain ⟨hof, -⟩ := hfiles searchingResolver rootInstalledHost (.start .usual) (by
    rw [hplace]
    exact .found hfinder)
  have hwritten : Path.Written [] := fun _ hpart => absurd hpart List.not_mem_nil
  exact ⟨hname, hlibrary, hroot, hread hwritten, .found hfinder, hfile, hof file hfile⟩

end Resolver

end SourceNames
