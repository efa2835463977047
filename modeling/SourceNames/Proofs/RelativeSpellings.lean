-- The relative spelling of a source name. From any directory that a file shares with another
-- file of its tree, climbing to that directory and going down from there names the other file,
-- whether the climb stops at the nearest such directory or goes on above it.

import SourceNames.Proofs.ImportedNames

namespace SourceNames

/-! ## Spellings -/

/-- What a climb over directories is spelled with: two dots for each of them, or one dot if
there are none. -/
def climbSpelling (climbs : Nat) : List String :=
  if climbs = 0 then ["."] else List.replicate climbs ".."

/-- The import that names a target from a source file, by way of the directories that they
share, or the first few of them. -/
def relativeSpelling (source target : String) (shared : Nat) : String :=
  joinSegments (climbSpelling ((directories source).length - shared) ++
    (segments target).drop shared)

example : relativeSpelling "a/b/c.sol" "a/d.sol" 1 = "../d.sol" := by decide +kernel

theorem mem_climbSpelling {climbs : Nat} {part : String} (h : part ∈ climbSpelling climbs) :
    part = "." ∨ part = ".." := by
  unfold climbSpelling at h
  split_ifs at h
  · exact Or.inl (List.mem_singleton.mp h)
  · exact Or.inr (List.eq_of_mem_replicate h)

theorem joinSegments_cons (first : String) {rest : List String} (h : rest ≠ []) :
    joinSegments (first :: rest) = first ++ "/" ++ joinSegments rest := by
  rw [← List.singleton_append, joinSegments_append (by simp) h, joinSegments_singleton]

/-- What a climb leads to is a relative import. -/
theorem isRelative_climbSpelling (climbs : Nat) {rest : List String} (h : rest ≠ []) :
    isRelative (joinSegments (climbSpelling climbs ++ rest)) = true := by
  unfold isRelative climbSpelling
  rw [Bool.or_eq_true]
  split_ifs with hclimbs
  · rw [List.singleton_append, joinSegments_cons "." h]
    exact Or.inl (beginsWith_iff.mpr ⟨joinSegments rest, rfl⟩)
  · obtain ⟨more, rfl⟩ := Nat.exists_eq_succ_of_ne_zero hclimbs
    rw [List.replicate_succ, List.cons_append, joinSegments_cons ".." (by simp [h])]
    exact Or.inr (beginsWith_iff.mpr ⟨_, rfl⟩)

/-- A text without empty segments has no scheme. -/
theorem scheme?_eq_none_of_segments {text : String} (h : "" ∉ segments text) :
    scheme? text = none := by
  rw [scheme?_eq_none_iff]
  rintro front back rfl
  apply h
  have hcut : front ++ "://" ++ back = (front ++ ":") ++ "/" ++ ("" ++ "/" ++ back) := by
    simp only [String.append_assoc]
    rfl
  rw [hcut, segments_append_slash, segments_append_slash]
  simp [show segments "" = [""] from by decide]

/-! ## The walk along a spelling -/

section Walks

variable {importer : ResolvedFile} {target : String} {common : List String}

theorem goesBelow_of_mem_segments {name part : String} (hname : IsSourceName name)
    (h : part ∈ segments name) : goesBelow part = true := by
  have hproper := hname.proper part h
  unfold goesBelow
  simp_all

/-- A climb takes back as many names. -/
theorem foldl_step_climbSpelling (climbs : Nat) (names more : List String) :
    (climbSpelling more.length).foldl Trail.step ⟨climbs, names ++ more⟩ = ⟨climbs, names⟩ := by
  unfold climbSpelling
  split_ifs with hnil
  · rw [List.length_eq_zero_iff.mp hnil, List.append_nil]
    rfl
  · exact Trail.foldl_step_climbs climbs names more

theorem drop_length_ne_nil (h : common <+: directories target) :
    (segments target).drop common.length ≠ [] := by
  have hle := h.length_le
  have hpos := List.length_pos_iff.mpr (segments_ne_nil target)
  unfold directories at hle
  rw [List.length_dropLast] at hle
  rw [Ne, List.drop_eq_nil_iff]
  omega

theorem segments_relativeSpelling {source : String} (h : common <+: directories target) :
    segments (relativeSpelling source target common.length) =
      climbSpelling ((directories source).length - common.length) ++
        (segments target).drop common.length := by
  unfold relativeSpelling
  apply segments_joinSegments
  · simp [drop_length_ne_nil h]
  · intro part hm
    rcases List.mem_append.mp hm with hm | hm
    · rcases mem_climbSpelling hm with rfl | rfl <;> decide
    · exact no_slash_of_mem_segments (List.mem_of_mem_drop hm)

/-- The walk along a spelling ends at the target. -/
theorem along_relativeSpelling (hname : IsSourceName importer.sourceName)
    (htarget : IsSourceName target) (hsource : common <+: directories importer.sourceName)
    (hshared : common <+: directories target) :
    Trail.along (importWalk importer
      (relativeSpelling importer.sourceName target common.length)) = ⟨0, segments target⟩ := by
  obtain ⟨more, hmore⟩ := hsource
  obtain ⟨rest, hrest⟩ := hshared.trans (List.dropLast_prefix (segments target))
  have hclimbs : (directories importer.sourceName).length - common.length = more.length := by
    rw [← hmore, List.length_append, Nat.add_sub_cancel_left]
  have hbelow : ∀ part ∈ directories importer.sourceName, goesBelow part = true :=
    fun part hm => goesBelow_of_mem_segments hname (mem_segments_of_mem_directories hm)
  have hdown : ∀ part ∈ (segments target).drop common.length, goesBelow part = true :=
    fun part hm => goesBelow_of_mem_segments htarget (List.mem_of_mem_drop hm)
  -- Down the directories of the importing file, up the climb, and down to the target.
  unfold Trail.along importWalk
  rw [segments_relativeSpelling hshared, hclimbs, List.foldl_append, List.foldl_append,
    Trail.foldl_step_names hbelow, List.nil_append, ← hmore, foldl_step_climbSpelling,
    Trail.foldl_step_names hdown, ← hrest, List.drop_left]

theorem readable_relativeSpelling {source : String} (htarget : IsSourceName target)
    (hshared : common <+: directories target) :
    Readable (relativeSpelling source target common.length) := by
  have hparts : ∀ part ∈ segments (relativeSpelling source target common.length),
      part ≠ "" ∧ '\\' ∉ part.toList := by
    rw [segments_relativeSpelling hshared]
    intro part hm
    rcases List.mem_append.mp hm with hm | hm
    · rcases mem_climbSpelling hm with rfl | rfl <;> decide
    · have htail := List.mem_of_mem_drop hm
      exact ⟨(htarget.proper part htail).1,
        no_backslash_of_mem_segments htarget.no_backslash htail⟩
  constructor
  · exact scheme?_eq_none_of_segments fun hm => (hparts "" hm).1 rfl
  · rw [mem_toList_iff (by decide)]
    rintro ⟨part, hm, hin⟩
    exact (hparts part hm).2 hin

end Walks

/-! ## Files of one tree -/

/-- A name of the tree that a file is in: its project's, if the name goes through no
installation directory, or its library's. -/
inductive InTreeOf (importer : ResolvedFile) (target : String) : Prop
  | ofProject (hproject : importer.library = none)
      (houtside : modulesDirectory ∉ directories target)
  | ofLibrary (library : LibraryInfo) (hlibrary : importer.library = some library)
      (hinside : beginsWith (library.name ++ "/") target = true)

theorem not_goesThrough_of_not_mem {target : String} (h : modulesDirectory ∉ directories target) :
    ¬ ∃ rest, GoesThrough (segments target) rest := by
  rintro ⟨rest, hrest, front, -, hsplit⟩
  apply h
  unfold directories
  rw [hsplit, List.dropLast_append_of_ne_nil (List.cons_ne_nil _ _),
    List.dropLast_cons_of_ne_nil hrest]
  simp

/-- Every file can name every other file of its tree relatively, by way of any directory that
they share. -/
theorem a_relative_spelling_means_its_target (importer : ResolvedFile) (target : String)
    (common : List String) (hname : validate importer.sourceName = .ok ())
    (htarget : validate target = .ok ()) (hsource : common <+: directories importer.sourceName)
    (hshared : common <+: directories target) (htree : InTreeOf importer target) :
    importedName importer (relativeSpelling importer.sourceName target common.length) =
      .ok ⟨target, false⟩ := by
  have hsourceName := validate_eq_ok_iff.mp hname
  have htargetName := validate_eq_ok_iff.mp htarget
  have hrelative :
      isRelative (relativeSpelling importer.sourceName target common.length) = true :=
    isRelative_climbSpelling _ (drop_length_ne_nil hshared)
  have hreadable : Readable (relativeSpelling importer.sourceName target common.length) :=
    readable_relativeSpelling htargetName hshared
  have halong := along_relativeSpelling hsourceName htargetName hsource hshared
  have hnames : (Trail.mk 0 (segments target)).OfNames := fun part hm =>
    ⟨goesBelow_of_mem_segments htargetName hm, no_slash_of_mem_segments hm⟩
  have htext : (Trail.mk 0 (segments target)).text = target := by
    rw [Trail.text_eq hnames, Trail.parts_of_no_climb rfl, if_neg (segments_ne_nil target),
      joinSegments_segments]
  rcases htree with ⟨hproject, houtside⟩ | ⟨library, hlibrary, hinside⟩
  · have hnone := afterModules_eq_none_iff.mpr (not_goesThrough_of_not_mem houtside)
    rw [relative_import_of_project hsourceName hproject hrelative hreadable, halong, hnone, htext]
    rfl
  · rw [relative_import_of_library hsourceName hlibrary hrelative hreadable, halong, htext]
    exact if_pos hinside

/-- A file of a library names another file of it by way of the directory above the library. -/
theorem a_spelling_that_leaves_the_library_and_comes_back :
    let importer := Resolver.emptyFile "@scope/lib/a/b.sol" "" (some ⟨"@scope/lib", ""⟩)
    relativeSpelling importer.sourceName "@scope/lib/c.sol" 0 = "../../../@scope/lib/c.sol" ∧
      importedName importer "../../../@scope/lib/c.sol" = .ok ⟨"@scope/lib/c.sol", false⟩ := by
  intro importer
  have hspelled :
      relativeSpelling importer.sourceName "@scope/lib/c.sol" 0 = "../../../@scope/lib/c.sol" := by
    decide +kernel
  have hmeans := a_relative_spelling_means_its_target importer "@scope/lib/c.sol" []
    (eq_ok_of_toOption (by decide +kernel)) (eq_ok_of_toOption (by decide +kernel))
    List.nil_prefix List.nil_prefix (.ofLibrary _ rfl (by decide))
  rw [List.length_nil, hspelled] at hmeans
  exact ⟨hspelled, hmeans⟩

end SourceNames
