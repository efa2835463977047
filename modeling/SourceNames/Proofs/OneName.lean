-- How many names a file has. Names of the project do not share a path, nor do names of one
-- library; a path has two names only where a library's files lie inside the project, or
-- inside another library, and then the one name is the other with directories before it.

import Mathlib.Data.List.Basic
import SourceNames.Proofs.Boundary

namespace SourceNames

/-! ## Two names at the end of one text -/

/-- What is left of a lead after a part of it ends, as the lead does, with a slash. -/
theorem exists_slash_of_getLast? {front rest : List Char} (hne : rest ≠ [])
    (h : front ++ rest = [] ∨ (front ++ rest).getLast? = some '/') :
    ∃ more, rest = more ++ ['/'] := by
  rcases h with h | h
  · simp [hne] at h
  · rw [List.getLast?_append_of_ne_nil _ hne] at h
    obtain ⟨more, hmore⟩ := List.getLast?_eq_some_iff.mp h
    exact ⟨more, hmore⟩

/-- Of two names at the end of one text, each led by directories, one is the other or goes
on to it. -/
theorem eq_or_goes_on_of_append_eq {front front' a b : List Char}
    (hf : front = [] ∨ front.getLast? = some '/') (hf' : front' = [] ∨ front'.getLast? = some '/')
    (h : front ++ a = front' ++ b) :
    a = b ∨ (∃ more, a = more ++ '/' :: b) ∨ ∃ more, b = more ++ '/' :: a := by
  rcases List.append_eq_append_iff.mp h with ⟨rest, rfl, rfl⟩ | ⟨rest, rfl, rfl⟩
  · by_cases hr : rest = []
    · exact Or.inl (by simp [hr])
    · obtain ⟨more, rfl⟩ := exists_slash_of_getLast? hr hf'
      exact Or.inr (Or.inl ⟨more, by simp⟩)
  · by_cases hr : rest = []
    · exact Or.inl (by simp [hr])
    · obtain ⟨more, rfl⟩ := exists_slash_of_getLast? hr hf
      exact Or.inr (Or.inr ⟨more, by simp⟩)

theorem Path.lead_ends_with_slash (p : Path) :
    p.lead.toList = [] ∨ p.lead.toList.getLast? = some '/' := by
  unfold Path.lead
  split
  · rcases p.anchor <;> simp [Anchor.text]
  · exact Or.inr (by simp)

namespace Resolver

variable {r : Resolver} {host : Host} {a b : String} {f g : ResolvedFile}

/-! ## The base of a name -/

/-- A file's path is its name led by the base that its library gives it. -/
theorem absolutePath_eq (h : (r.resolveSourceName host a).Gives f) :
    ∃ base, r.BaseOf host f base ∧ f.absolutePath = base.lead ++ a := by
  have hname := (resolveSourceName_gives h).1
  obtain ⟨-, -, -, base, hbase, hpath, -⟩ := contained_of_resolveSourceName h
  refine ⟨base, hbase, ?_⟩
  rw [hpath, sourceName_of_gives h, ← Path.below_eq base hname, Path.text_below base hname]

/-- Files of one library, or of the project, have one base. -/
theorem BaseOf.unique {base base' : Path} (hf : r.BaseOf host f base)
    (hg : r.BaseOf host g base') (h : f.library = g.library) : base = base' := by
  unfold BaseOf at hf hg
  rw [← h] at hg
  cases hlibrary : f.library with
  | none =>
    simp only [hlibrary] at hf hg
    rw [hf, hg]
  | some library =>
    simp only [hlibrary] at hf hg
    obtain ⟨description, hpackage, rfl⟩ := hf
    obtain ⟨description', hpackage', rfl⟩ := hg
    rw [hpackage.unique hpackage']

/-- A name is resolved to files of one library, or of the project. -/
theorem library_unique (hf : (r.resolveSourceName host a).Gives f)
    (hg : (r.resolveSourceName host a).Gives g) : f.library = g.library := by
  by_cases hproject : r.InProject host a
  · rw [(library_eq_none_iff hf).mpr hproject, (library_eq_none_iff hg).mpr hproject]
  · obtain ⟨-, hf' | hf'⟩ := resolveSourceName_gives hf
    · exact absurd (isLocal_eq_true_iff.mp hf'.isLocal) hproject
    · obtain ⟨-, hg' | hg'⟩ := resolveSourceName_gives hg
      · exact absurd (isLocal_eq_true_iff.mp hg'.isLocal) hproject
      · exact hg'.library_eq hf' rfl

/-! ## The law -/

/-- Two names of one path are the same name just if the files are of the same library, or
both of the project; and if they are not, one of them goes on to the other. -/
theorem names_of_one_path_differ_only_across_libraries (r : Resolver) (host : Host)
    (a b : String) (f g : ResolvedFile) (hf : (r.resolveSourceName host a).Gives f)
    (hg : (r.resolveSourceName host b).Gives g) (h : f.absolutePath = g.absolutePath) :
    (a = b ↔ f.library = g.library) ∧
      (a = b ∨ (∃ more, a = more ++ "/" ++ b) ∨ ∃ more, b = more ++ "/" ++ a) := by
  obtain ⟨base, hbase, hpath⟩ := absolutePath_eq hf
  obtain ⟨base', hbase', hpath'⟩ := absolutePath_eq hg
  rw [hpath, hpath'] at h
  refine ⟨⟨?_, ?_⟩, ?_⟩
  · rintro rfl
    exact library_unique hf hg
  · intro hlibrary
    obtain rfl := hbase.unique hbase' hlibrary
    exact (String.append_right_inj _).mp h
  · -- Both paths end with their names, and what stands before each ends with a slash.
    have hchars : base.lead.toList ++ a.toList = base'.lead.toList ++ b.toList := by
      rw [← String.toList_append, h, String.toList_append]
    rcases eq_or_goes_on_of_append_eq base.lead_ends_with_slash base'.lead_ends_with_slash
        hchars with heq | ⟨more, hmore⟩ | ⟨more, hmore⟩
    · exact Or.inl (String.toList_injective heq)
    · exact Or.inr (Or.inl ⟨String.ofList more, String.toList_injective (by simp [hmore])⟩)
    · exact Or.inr (Or.inr ⟨String.ofList more, String.toList_injective (by simp [hmore])⟩)

/-- A project that lists a folder of its own as one to look for libraries in. -/
def listedHost : Host :=
  hostWith
    [(["project", "vendor", "lib", "package.json"], .file [0x7b, 0x7d] 0),
     (["project", "vendor", "lib", "x.sol"], .file [] 0)] [("NODE_PATH", "/project/vendor")]

/-- The one file, under a name and with a library. -/
def listedFile (name : String) (library : Option LibraryInfo) : ResolvedFile :=
  emptyFile name "/project/vendor/lib/x.sol" library

theorem a_listed_folder_names_its_files_otherwise :
    let f := listedFile "vendor/lib/x.sol" none
    let g := listedFile "lib/x.sol" (some ⟨"lib", ""⟩)
    (searchingResolver.resolveSourceName listedHost "vendor/lib/x.sol").Gives f ∧
      (searchingResolver.resolveSourceName listedHost "lib/x.sol").Gives g ∧
      f.absolutePath = g.absolutePath ∧
      ("vendor/lib/x.sol" = "lib/x.sol" ↔ f.library = g.library) := by
  intro f g
  have hf : (searchingResolver.resolveSourceName listedHost "vendor/lib/x.sol").Gives f :=
    Run.gives_of_within (.start .usual) (by decide +kernel)
  have hg : (searchingResolver.resolveSourceName listedHost "lib/x.sol").Gives g :=
    Run.gives_of_within (.start .usual) (by decide +kernel)
  exact ⟨hf, hg, rfl, (names_of_one_path_differ_only_across_libraries searchingResolver listedHost
    "vendor/lib/x.sol" "lib/x.sol" f g hf hg rfl).1⟩

/-- The file of a listed folder in the project has a name of the project and one of a
library. -/
theorem a_file_of_a_listed_folder_has_two_names :
    let f := listedFile "vendor/lib/x.sol" none
    let g := listedFile "lib/x.sol" (some ⟨"lib", ""⟩)
    (searchingResolver.resolveSourceName listedHost "vendor/lib/x.sol").Gives f ∧
      (searchingResolver.resolveSourceName listedHost "lib/x.sol").Gives g ∧
      f.absolutePath = g.absolutePath ∧ f.sourceName ≠ g.sourceName ∧ f.library ≠ g.library := by
  intro f g
  exact ⟨Run.gives_of_within (.start .usual) (by decide +kernel),
    Run.gives_of_within (.start .usual) (by decide +kernel), rfl, by decide, by decide⟩

end Resolver

end SourceNames
