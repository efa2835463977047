-- What an import means. A relative import is a walk from the directory of the importing file,
-- and means the name that the walk leads to, or what comes after the first installation
-- directory on its way. Every name that an import can mean is well formed, unless it starts
-- with a dot.

import SourceNames.Proofs.Containment
import SourceNames.Proofs.Trails

namespace SourceNames

/-! ## Schemes and separators in a text -/

/-- There is a scheme in a text just if `://` is in it. -/
theorem schemeFrom_eq_none_iff (run text : List Char) :
    schemeFrom run text = none ↔ ¬ "://".toList <:+: text := by
  induction text generalizing run with
  | nil =>
    unfold schemeFrom
    simp
  | cons c rest ih =>
    unfold schemeFrom
    rw [List.infix_cons_iff, ← List.isPrefixOf_iff_prefix]
    by_cases hprefix : "://".toList.isPrefixOf (c :: rest) = true
    · rw [if_pos hprefix]
      exact iff_of_false (Option.some_ne_none _) (not_not_intro (Or.inl hprefix))
    · rw [if_neg hprefix, ih, or_iff_right hprefix]

theorem scheme?_eq_none_iff_unmarked (text : String) :
    scheme? text = none ↔ ¬ "://".toList <:+: text.toList := by
  unfold scheme?
  rw [Option.map_eq_none_iff, schemeFrom_eq_none_iff]

theorem scheme?_eq_none_iff (text : String) :
    scheme? text = none ↔ ∀ front back, text ≠ front ++ "://" ++ back := by
  rw [scheme?_eq_none_iff_unmarked]
  constructor
  · rintro h front back rfl
    exact h ⟨front.toList, back.toList, by simp⟩
  · rintro h ⟨front, back, hsplit⟩
    apply h (String.ofList front) (String.ofList back)
    apply String.toList_injective
    simpa using hsplit.symm

theorem isRelative_not_absolute {imported : String} (h : isRelative imported = true) :
    beginsWith "/" imported = false := by
  unfold isRelative beginsWith at h
  unfold beginsWith
  cases ht : imported.toList with
  | nil => rfl
  | cons c rest =>
    have hc : c ≠ '/' := by
      rintro rfl
      simp [ht, List.isPrefixOf] at h
    simp [List.isPrefixOf, Ne.symm hc]

/-- The first segment of a text is two dots just if the text is two dots, or starts with them
and a slash. -/
theorem head?_segments_eq_dots_iff (text : String) :
    (segments text).head? = some ".." ↔ text = ".." ∨ beginsWith "../" text = true := by
  constructor
  · intro h
    obtain ⟨rest, hrest⟩ := List.head?_eq_some_iff.mp h
    rw [← joinSegments_segments text, hrest]
    by_cases hnil : rest = []
    · exact Or.inl (by rw [hnil, joinSegments_singleton])
    · rw [← List.singleton_append, joinSegments_append (by simp) hnil, joinSegments_singleton]
      exact Or.inr (beginsWith_iff.mpr ⟨joinSegments rest, rfl⟩)
  · rintro (rfl | h)
    · decide
    · obtain ⟨rest, rfl⟩ := beginsWith_iff.mp h
      have hcut := segments_append_slash ".." rest
      rw [show ".." ++ "/" ++ rest = "../" ++ rest from rfl] at hcut
      rw [hcut]
      rfl

/-! ## What lies after an installation directory -/

/-- A path of names goes through an installation directory: the rest after the first one that
is not its last name. -/
def GoesThrough (names rest : List String) : Prop :=
  rest ≠ [] ∧ ∃ front, modulesDirectory ∉ front ∧ names = front ++ modulesDirectory :: rest

theorem afterModules_cons_of_ne {segment : String} (h : segment ≠ modulesDirectory)
    (rest : List String) : afterModules (segment :: rest) = afterModules rest := by
  cases rest with
  | nil => rfl
  | cons next more => rw [afterModules, if_neg h]

theorem afterModules_append {front : List String} (h : modulesDirectory ∉ front)
    (rest : List String) : afterModules (front ++ rest) = afterModules rest := by
  induction front with
  | nil => rfl
  | cons segment more ih =>
    rw [List.mem_cons, not_or] at h
    rw [List.cons_append, afterModules_cons_of_ne (Ne.symm h.1), ih h.2]

theorem afterModules_eq_some_iff {names rest : List String} :
    afterModules names = some rest ↔ GoesThrough names rest := by
  constructor
  · intro h
    induction names with
    | nil => simp [afterModules] at h
    | cons segment more ih =>
      by_cases hsegment : segment = modulesDirectory
      · cases more with
        | nil => simp [afterModules] at h
        | cons next below =>
          rw [afterModules, if_pos hsegment] at h
          cases h
          exact ⟨List.cons_ne_nil _ _, [], by simp, by rw [hsegment, List.nil_append]⟩
      · rw [afterModules_cons_of_ne hsegment] at h
        obtain ⟨hrest, front, hfront, hsplit⟩ := ih h
        refine ⟨hrest, segment :: front, ?_, by rw [hsplit, List.cons_append]⟩
        rw [List.mem_cons, not_or]
        exact ⟨Ne.symm hsegment, hfront⟩
  · rintro ⟨hrest, front, hfront, rfl⟩
    rw [afterModules_append hfront]
    cases rest with
    | nil => exact absurd rfl hrest
    | cons next below => rw [afterModules, if_pos rfl]

theorem afterModules_eq_none_iff {names : List String} :
    afterModules names = none ↔ ¬ ∃ rest, GoesThrough names rest := by
  rw [Option.eq_none_iff_forall_ne_some, not_exists]
  exact forall_congr' fun rest => not_congr afterModules_eq_some_iff

/-! ## Names that trails are written as -/

namespace Trail

variable {trail : Trail}

/-- The name that a trail is written as. -/
def text (trail : Trail) : String := (Path.mk .relative trail.parts).text

/-- Every name of the trail is one that can be gone below and read back. -/
def OfNames (trail : Trail) : Prop :=
  ∀ name ∈ trail.names, goesBelow name = true ∧ '/' ∉ name.toList

theorem ofNames_along {walked : List String} (h : ∀ segment ∈ walked, '/' ∉ segment.toList) :
    (along walked).OfNames := by
  intro name hm
  obtain ⟨hwalked, hbelow⟩ := mem_names_along hm
  exact ⟨hbelow, h name hwalked⟩

theorem written_parts (h : trail.OfNames) : Path.Written trail.parts := by
  intro part hm
  rcases List.mem_append.mp hm with hm | hm
  · rw [List.eq_of_mem_replicate hm]
    decide
  · exact ⟨isName_of_goesBelow (h part hm).1, (h part hm).2⟩

theorem joinSegments_ne_empty {names : List String} (h : Path.Written names) (hne : names ≠ []) :
    joinSegments names ≠ "" := by
  intro hempty
  obtain ⟨front, c, hc, -⟩ := Path.exists_last_of_written h hne
  simp [hempty] at hc

theorem text_eq (h : trail.OfNames) :
    trail.text = if trail.parts = [] then "." else joinSegments trail.parts := by
  unfold text
  rw [Path.text_of_relative]
  by_cases hparts : trail.parts = []
  · rw [hparts]
    decide
  · rw [if_neg hparts, if_neg (joinSegments_ne_empty (written_parts h) hparts)]

theorem segments_text (h : trail.OfNames) (hparts : trail.parts ≠ []) :
    segments trail.text = trail.parts := by
  rw [text_eq h, if_neg hparts]
  exact segments_joinSegments hparts fun part hm => (written_parts h part hm).2

theorem parts_eq_nil_iff : trail.parts = [] ↔ trail.climbs = 0 ∧ trail.names = [] := by
  unfold parts
  rw [List.append_eq_nil_iff, List.replicate_eq_nil_iff]

theorem parts_of_no_climb (h : trail.climbs = 0) : trail.parts = trail.names := by
  unfold parts
  rw [h, List.replicate_zero, List.nil_append]

/-- The name of a trail leads out just if the trail climbed. -/
theorem text_leads_out_iff (h : trail.OfNames) :
    (trail.text = ".." ∨ beginsWith "../" trail.text = true) ↔ 0 < trail.climbs := by
  rw [← head?_segments_eq_dots_iff]
  by_cases hparts : trail.parts = []
  · rw [text_eq h, if_pos hparts, (parts_eq_nil_iff.mp hparts).1]
    decide
  · rw [segments_text h hparts]
    by_cases hclimbs : trail.climbs = 0
    · rw [parts_of_no_climb hclimbs, hclimbs]
      refine ⟨fun hhead => ?_, fun hlt => absurd hlt (Nat.lt_irrefl 0)⟩
      have hdots := (h ".." (List.mem_of_head? hhead)).1
      exact absurd hdots (by decide)
    · obtain ⟨climbs, hclimbs⟩ := Nat.exists_eq_succ_of_ne_zero hclimbs
      unfold parts
      rw [hclimbs, List.replicate_succ]
      simp

theorem throughModules?_text (h : trail.OfNames) :
    throughModules? trail.text = (afterModules trail.names).map joinSegments := by
  unfold throughModules?
  by_cases hparts : trail.parts = []
  · rw [text_eq h, if_pos hparts, (parts_eq_nil_iff.mp hparts).2]
    decide
  · have hclimbs : modulesDirectory ∉ List.replicate trail.climbs ".." := by
      intro hm
      exact absurd (List.eq_of_mem_replicate hm) (by decide)
    rw [segments_text h hparts, parts, afterModules_append hclimbs]

end Trail

/-! ## The walk of a relative import -/

/-- The directories that a name goes through. -/
def directories (name : String) : List String := (segments name).dropLast

/-- What a relative import walks along: the directories of the importing file, and then its own
segments. -/
def importWalk (importer : ResolvedFile) (imported : String) : List String :=
  directories importer.sourceName ++ segments imported

section Walks

variable {importer : ResolvedFile} {source imported : String}

theorem mem_segments_of_mem_directories {name part : String} (h : part ∈ directories name) :
    part ∈ segments name := List.dropLast_subset _ h

theorem normalize_eq_text (h : beginsWith "/" imported = false) :
    normalize imported = (Trail.along (segments imported)).text := by
  unfold normalize Trail.text
  rw [← Trail.collapse_eq, ← Path.ofText_anchor h]
  rfl

theorem normalize_joinNames_eq_text (hname : IsSourceName source)
    (h : beginsWith "/" imported = false) :
    normalize (joinNames (directoryOf source) imported) =
      (Trail.along (directories source ++ segments imported)).text := by
  obtain ⟨front, last, hsegments⟩ :=
    (List.eq_nil_or_concat (segments source)).resolve_left (segments_ne_nil source)
  rw [List.concat_eq_append] at hsegments
  have hwritten : Path.Written (front ++ [last]) := hsegments ▸ Path.written_segments hname
  have hfront : front.filter Path.isName = front :=
    List.filter_eq_self.mpr fun part hm => (hwritten.left part hm).1
  have hparts : front ++ (Path.ofText imported).parts =
      (front ++ segments imported).filter Path.isName := by
    rw [List.filter_append, hfront]
    rfl
  have hjoined := Path.normalize_joinNames .relative hwritten h
  rw [← hsegments, joinSegments_segments, Anchor.text, String.empty_append, hparts,
    Trail.collapse_eq] at hjoined
  unfold directories Trail.text
  rw [hjoined, hsegments, List.dropLast_concat]

theorem no_slash_of_mem_importWalk {part : String} (h : part ∈ importWalk importer imported) :
    '/' ∉ part.toList := by
  rcases List.mem_append.mp h with h | h
  · exact no_slash_of_mem_segments (mem_segments_of_mem_directories h)
  · exact no_slash_of_mem_segments h

/-- What a text needs for an import of it to be read at all. -/
structure Readable (imported : String) : Prop where
  noScheme : scheme? imported = none
  noBackslash : '\\' ∉ imported.toList

theorem readable_of_importedName {meant : ImportedName}
    (h : importedName importer imported = .ok meant) :
    Readable imported ∧ beginsWith "/" imported = false := by
  unfold importedName at h
  split at h
  · cases h
  · rename_i hscheme
    split_ifs at h with hbackslash habsolute
    all_goals
      rw [Bool.not_eq_true] at habsolute
      exact ⟨⟨hscheme, by simpa using hbackslash⟩, habsolute⟩

theorem direct_import (hreadable : Readable imported)
    (habsolute : beginsWith "/" imported = false) (hrelative : isRelative imported = false) :
    importedName importer imported = .ok ⟨normalize imported, false⟩ := by
  obtain ⟨hscheme, hbackslash⟩ := hreadable
  unfold importedName
  simp [hscheme, hbackslash, habsolute, hrelative]

/-- What a relative import of a project's file means. -/
theorem relative_import_of_project (hname : IsSourceName importer.sourceName)
    (hproject : importer.library = none) (hrelative : isRelative imported = true)
    (hreadable : Readable imported) :
    let trail := Trail.along (importWalk importer imported)
    importedName importer imported =
      match afterModules trail.names with
      | some rest => .ok ⟨joinSegments rest, true⟩
      | none =>
        if 0 < trail.climbs then .error (.importOutsideProject importer.sourceName imported)
        else .ok ⟨trail.text, false⟩ := by
  intro trail
  obtain ⟨hscheme, hbackslash⟩ := hreadable
  have habsolute := isRelative_not_absolute hrelative
  have hnames : trail.OfNames := Trail.ofNames_along fun part => no_slash_of_mem_importWalk
  have htext : normalize (joinNames (directoryOf importer.sourceName) imported) = trail.text :=
    normalize_joinNames_eq_text hname habsolute
  unfold importedName
  simp only [hscheme, habsolute, hrelative, hproject, htext, List.contains_iff_mem, hbackslash,
    Bool.false_eq_true, Bool.not_true, if_false, Trail.throughModules?_text hnames,
    Trail.text_leads_out_iff hnames]
  cases afterModules trail.names <;> rfl

/-- What a relative import of a library's file means. -/
theorem relative_import_of_library {library : LibraryInfo}
    (hname : IsSourceName importer.sourceName) (hlibrary : importer.library = some library)
    (hrelative : isRelative imported = true) (hreadable : Readable imported) :
    let trail := Trail.along (importWalk importer imported)
    importedName importer imported =
      if beginsWith (library.name ++ "/") trail.text = true then .ok ⟨trail.text, false⟩
      else .error (.importIllegal importer.sourceName imported) := by
  intro trail
  obtain ⟨hscheme, hbackslash⟩ := hreadable
  have habsolute := isRelative_not_absolute hrelative
  have htext : normalize (joinNames (directoryOf importer.sourceName) imported) = trail.text :=
    normalize_joinNames_eq_text hname habsolute
  unfold importedName
  simp only [hscheme, habsolute, hrelative, hlibrary, htext, List.contains_iff_mem, hbackslash,
    Bool.false_eq_true, Bool.not_true, if_false]

end Walks

/-! ## Where the walk of an import ends -/

/-- What a relative import of a project's file comes to, told by where its walk ends: what is
left after an installation directory on the way, or else a failure if the walk climbed, or else
the name that the walk is at. So it fails just if the walk was above the root of the project
and ends on a way that goes through no installation directory. -/
structure EndsWithWalk (importer : ResolvedFile) (imported : String)
    (outcome : Except Failure ImportedName) : Prop where
  through : ∀ rest, GoesThrough (Trail.along (importWalk importer imported)).names rest →
    outcome = .ok ⟨joinSegments rest, true⟩
  outside : (¬ ∃ rest, GoesThrough (Trail.along (importWalk importer imported)).names rest) →
    0 < (Trail.along (importWalk importer imported)).climbs →
    outcome = .error (.importOutsideProject importer.sourceName imported)
  inside : (¬ ∃ rest, GoesThrough (Trail.along (importWalk importer imported)).names rest) →
    (Trail.along (importWalk importer imported)).climbs = 0 →
    outcome = .ok ⟨if (Trail.along (importWalk importer imported)).names = [] then "."
      else joinSegments (Trail.along (importWalk importer imported)).names, false⟩
  fails_iff : ∀ f, outcome = .error f ↔
    f = .importOutsideProject importer.sourceName imported ∧
      Trail.LeavesStart (importWalk importer imported) ∧
      ¬ ∃ rest, GoesThrough (Trail.along (importWalk importer imported)).names rest

/-- A relative import of a project's file comes to where the walk through the directories of
the file and the segments of the import ends. -/
theorem a_relative_import_ends_where_its_walk_ends (importer : ResolvedFile) (imported : String)
    (hname : validate importer.sourceName = .ok ()) (hproject : importer.library = none)
    (hrelative : isRelative imported = true)
    (hscheme : ∀ front back, imported ≠ front ++ "://" ++ back)
    (hbackslash : '\\' ∉ imported.toList) :
    EndsWithWalk importer imported (importedName importer imported) := by
  have hreadable : Readable imported := ⟨(scheme?_eq_none_iff imported).mpr hscheme, hbackslash⟩
  have hnames : (Trail.along (importWalk importer imported)).OfNames :=
    Trail.ofNames_along fun part => no_slash_of_mem_importWalk
  have heq := relative_import_of_project (validate_eq_ok_iff.mp hname) hproject hrelative hreadable
  dsimp only at heq
  constructor
  · intro rest hrest
    rw [heq, afterModules_eq_some_iff.mpr hrest]
  · intro hnone hclimbs
    rw [heq, afterModules_eq_none_iff.mpr hnone]
    exact if_pos hclimbs
  · intro hnone hclimbs
    rw [heq, afterModules_eq_none_iff.mpr hnone, Trail.text_eq hnames,
      Trail.parts_of_no_climb hclimbs]
    exact if_neg (by omega)
  · intro f
    rw [heq, ← Trail.climbs_pos_iff, ← afterModules_eq_none_iff]
    cases afterModules (Trail.along (importWalk importer imported)).names with
    | some rest => simp
    | none =>
      by_cases hclimbs : 0 < (Trail.along (importWalk importer imported)).climbs
      · simp [hclimbs, eq_comm]
      · simp [hclimbs]

/-- A walk that climbs out of the project and then into an installation directory. -/
theorem a_walk_through_the_installation_above :
    let importer := Resolver.emptyFile "a/b.sol" "/work/project/a/b.sol" none
    let imported := "../../x/../node_modules//lib/./y.sol"
    Trail.LeavesStart (importWalk importer imported) ∧
      importedName importer imported = .ok ⟨"lib/y.sol", true⟩ := by
  intro importer imported
  have hends : EndsWithWalk importer imported (importedName importer imported) :=
    a_relative_import_ends_where_its_walk_ends importer imported
      (eq_ok_of_toOption (by decide +kernel)) rfl (by decide)
      ((scheme?_eq_none_iff imported).mp (by decide +kernel)) (by decide)
  have hleaves : Trail.LeavesStart (importWalk importer imported) :=
    (Trail.climbs_pos_iff _).mp (by decide +kernel)
  have hthrough : GoesThrough (Trail.along (importWalk importer imported)).names ["lib", "y.sol"] :=
    afterModules_eq_some_iff.mp (by decide +kernel)
  exact ⟨hleaves, hends.through _ hthrough⟩

/-! ## The form of the name -/

/-- A file whose name is well formed, and tells the library if the file has one. -/
structure ResolvedFile.WellNamed (f : ResolvedFile) : Prop where
  name : validate f.sourceName = .ok ()
  library : ∀ library, f.library = some library →
    library.name = libraryName f.sourceName ∧ library.name ≠ f.sourceName

/-- A file that was found is well named. -/
theorem Resolver.Contained.wellNamed {r : Resolver} {host : Host} {f : ResolvedFile}
    (h : r.Contained host f) : f.WellNamed := by
  refine ⟨validate_eq_ok_iff.mpr h.wellFormed, fun library hlibrary => ?_⟩
  obtain ⟨hname, rest, -, hsplit⟩ := h.ofLibrary library hlibrary
  refine ⟨hname, fun heq => ?_⟩
  have hlength := congrArg (fun name => name.toList.length) hsplit
  simp only [heq, String.toList_append, List.length_append] at hlength
  have hslash : "/".toList.length = 1 := rfl
  omega

theorem validate_of_leading_dot {name : String} (h : beginsWith "." name = true) :
    validate name = .error (.of (.relativePath name)) := by
  have hslash : ¬ beginsWith "/" name = true := by
    rw [beginsWith_char_iff (by rfl)] at h ⊢
    rw [h]
    decide
  unfold validate nameFailure?
  rw [if_neg hslash, if_pos h]

/-- Names without slashes and backslashes are joined to a well-formed name, unless a dot comes
first. -/
theorem isSourceName_joinSegments {names : List String} (hne : names ≠ [])
    (hnames : ∀ name ∈ names, goesBelow name = true ∧ '/' ∉ name.toList)
    (hbackslash : ∀ name ∈ names, '\\' ∉ name.toList)
    (hdot : beginsWith "." (joinSegments names) = false) : IsSourceName (joinSegments names) := by
  have hwritten : Path.Written names :=
    fun name hm => ⟨isName_of_goesBelow (hnames name hm).1, (hnames name hm).2⟩
  have hsegments : segments (joinSegments names) = names :=
    segments_joinSegments hne fun name hm => (hnames name hm).2
  refine ⟨Trail.joinSegments_ne_empty hwritten hne, Path.not_beginsWith_slash_of_written hwritten,
    hdot, ?_, ?_⟩
  · rw [mem_toList_iff (by decide), hsegments]
    rintro ⟨name, hm, hin⟩
    exact hbackslash name hm hin
  · rw [hsegments]
    intro name hm
    have hbelow := (hnames name hm).1
    unfold goesBelow at hbelow
    simp_all

theorem Trail.isSourceName_text {trail : Trail} (h : trail.OfNames)
    (hbackslash : ∀ name ∈ trail.names, '\\' ∉ name.toList)
    (hdot : beginsWith "." trail.text = false) : IsSourceName trail.text := by
  have hclimbs : trail.climbs = 0 := by
    by_contra hclimbs
    have hout := (text_leads_out_iff h).mpr (Nat.pos_of_ne_zero hclimbs)
    rw [← head?_segments_eq_dots_iff] at hout
    rw [beginsWith_dot_of_climb hout] at hdot
    cases hdot
  rw [text_eq h, parts_of_no_climb hclimbs] at hdot ⊢
  by_cases hnames : trail.names = []
  · rw [if_pos hnames] at hdot
    exact absurd hdot (by decide)
  · rw [if_neg hnames] at hdot ⊢
    exact isSourceName_joinSegments hnames h hbackslash hdot

section Form

variable {importer : ResolvedFile} {imported : String} {meant : ImportedName}

theorem no_backslash_of_mem_segments {text part : String} (htext : '\\' ∉ text.toList)
    (h : part ∈ segments text) : '\\' ∉ part.toList :=
  fun hin => htext ((mem_toList_iff (by decide) text).mpr ⟨part, h, hin⟩)

/-- The names of the walk of an import have no backslash. -/
theorem no_backslash_of_mem_walk (hname : IsSourceName importer.sourceName)
    (hreadable : Readable imported) {part : String}
    (h : part ∈ (Trail.along (importWalk importer imported)).names) : '\\' ∉ part.toList := by
  rcases List.mem_append.mp (Trail.mem_names_along h).1 with hm | hm
  · exact no_backslash_of_mem_segments hname.no_backslash (mem_segments_of_mem_directories hm)
  · exact no_backslash_of_mem_segments hreadable.noBackslash hm

/-- What lies after an installation directory of a trail is a well-formed name, unless it starts
with a dot. -/
theorem isSourceName_of_goesThrough {names rest : List String} (h : GoesThrough names rest)
    (hnames : ∀ name ∈ names, goesBelow name = true ∧ '/' ∉ name.toList)
    (hbackslash : ∀ name ∈ names, '\\' ∉ name.toList)
    (hdot : beginsWith "." (joinSegments rest) = false) : IsSourceName (joinSegments rest) := by
  obtain ⟨hne, front, -, rfl⟩ := h
  have hmem : ∀ part ∈ rest, part ∈ front ++ modulesDirectory :: rest :=
    fun part hm => List.mem_append_right front (List.mem_cons_of_mem _ hm)
  exact isSourceName_joinSegments hne (fun part hm => hnames part (hmem part hm))
    (fun part hm => hbackslash part (hmem part hm)) hdot

/-- A relative import means the name of its walk, or what lies after an installation directory
of the walk. -/
theorem relative_import_cases (hname : IsSourceName importer.sourceName)
    (hrelative : isRelative imported = true) (h : importedName importer imported = .ok meant) :
    (∃ rest, GoesThrough (Trail.along (importWalk importer imported)).names rest ∧
      meant = ⟨joinSegments rest, true⟩) ∨
    meant = ⟨(Trail.along (importWalk importer imported)).text, false⟩ := by
  have hreadable := (readable_of_importedName h).1
  cases hlibrary : importer.library with
  | none =>
    rw [relative_import_of_project hname hlibrary hrelative hreadable] at h
    generalize Trail.along (importWalk importer imported) = trail at h ⊢
    cases hthrough : afterModules trail.names with
    | some rest =>
      rw [hthrough] at h
      exact Or.inl ⟨rest, afterModules_eq_some_iff.mp hthrough, (Except.ok.inj h).symm⟩
    | none =>
      rw [hthrough] at h
      dsimp only at h
      split_ifs at h
      exact Or.inr (Except.ok.inj h).symm
  | some library =>
    rw [relative_import_of_library hname hlibrary hrelative hreadable] at h
    generalize Trail.along (importWalk importer imported) = trail at h ⊢
    split_ifs at h
    exact Or.inr (Except.ok.inj h).symm

/-- The name that an import means is well formed, unless it starts with a dot. -/
theorem isSourceName_of_importedName (hname : IsSourceName importer.sourceName)
    (h : importedName importer imported = .ok meant) (hdot : beginsWith "." meant.name = false) :
    IsSourceName meant.name := by
  obtain ⟨hreadable, habsolute⟩ := readable_of_importedName h
  by_cases hrelative : isRelative imported = true
  · have hnames : (Trail.along (importWalk importer imported)).OfNames :=
      Trail.ofNames_along fun part => no_slash_of_mem_importWalk
    have hbackslash : ∀ part ∈ (Trail.along (importWalk importer imported)).names,
        '\\' ∉ part.toList := fun part => no_backslash_of_mem_walk hname hreadable
    rcases relative_import_cases hname hrelative h with ⟨rest, hthrough, rfl⟩ | rfl
    · exact isSourceName_of_goesThrough hthrough hnames hbackslash hdot
    · dsimp only at hdot ⊢
      exact Trail.isSourceName_text hnames hbackslash hdot
  · rw [Bool.not_eq_true] at hrelative
    rw [direct_import hreadable habsolute hrelative] at h
    obtain rfl := Except.ok.inj h
    dsimp only at hdot ⊢
    rw [normalize_eq_text habsolute] at hdot ⊢
    apply Trail.isSourceName_text (Trail.ofNames_along fun part => no_slash_of_mem_segments) _ hdot
    intro part hm
    exact no_backslash_of_mem_segments hreadable.noBackslash (Trail.mem_names_along hm).1

/-- A relative import of a library's file means a name that goes on after the library's. -/
theorem importedName_of_library {importer : ResolvedFile} {imported : String}
    {meant : ImportedName} {library : LibraryInfo} (hrelative : isRelative imported = true)
    (hlibrary : importer.library = some library)
    (h : importedName importer imported = .ok meant) :
    meant.throughModules = false ∧ beginsWith (library.name ++ "/") meant.name = true := by
  unfold importedName at h
  simp only [hrelative, hlibrary, Bool.not_true, Bool.false_eq_true, if_false] at h
  split at h
  · simp at h
  · split_ifs at h with _ _ hinside
    obtain rfl := Except.ok.inj h
    dsimp only
    exact ⟨rfl, hinside⟩

end Form

/-- The check of a name refuses what an import means just for a dot that it starts with, and so
never what a relative import of a library's file means, which is a name of the same library. -/
theorem what_an_import_means_is_refused_only_for_a_leading_dot (importer : ResolvedFile)
    (imported : String) (meant : ImportedName) (hwell : importer.WellNamed)
    (h : importedName importer imported = .ok meant) :
    validate meant.name =
        (if beginsWith "." meant.name then .error (.of (.relativePath meant.name)) else .ok ()) ∧
      ∀ library, importer.library = some library → isRelative imported = true →
        beginsWith "." meant.name = false ∧ libraryName meant.name = library.name := by
  have hname := validate_eq_ok_iff.mp hwell.name
  refine ⟨?_, fun library hlibrary hrelative => ?_⟩
  · by_cases hdot : beginsWith "." meant.name = true
    · rw [if_pos hdot, validate_of_leading_dot hdot]
    · rw [if_neg hdot, validate_eq_ok_iff]
      rw [Bool.not_eq_true] at hdot
      exact isSourceName_of_importedName hname h hdot
  · obtain ⟨hlibraryName, hgoesOn⟩ := hwell.library library hlibrary
    rw [hlibraryName] at hgoesOn
    have hbegins := (importedName_of_library hrelative hlibrary h).2
    rw [hlibraryName] at hbegins ⊢
    refine ⟨?_, libraryName_of_beginsWith hgoesOn hbegins⟩
    -- The first character of either name is that of the library's name.
    have hfirst : beginsWith "." (libraryName importer.sourceName) = false := by
      rw [← beginsWith_append_slash _ _ '.' (by rfl) (by decide), ← libraryName_append hgoesOn]
      exact hname.not_relative
    obtain ⟨rest, hsplit⟩ := beginsWith_iff.mp hbegins
    rw [hsplit, beginsWith_append_slash _ _ '.' (by rfl) (by decide), hfirst]

/-- A project with a scoped library installed in it. -/
def scopedHost : Host :=
  Resolver.hostWith
    [(["project", "a.sol"], .file [] 0),
     (["project", "node_modules", "@scope", "lib", "package.json"], .file [0x7b, 0x7d] 0),
     (["project", "node_modules", "@scope", "lib", "a", "b.sol"], .file [] 0)] []

/-- A file of a scoped library, as it is found there, that imports another file of it. -/
theorem an_import_in_a_scoped_library_is_accepted :
    let importer := Resolver.emptyFile "@scope/lib/a/b.sol"
      "/project/node_modules/@scope/lib/a/b.sol" (some ⟨"@scope/lib", ""⟩)
    (Resolver.searchingResolver.resolveSourceName scopedHost "@scope/lib/a/b.sol").Gives importer ∧
      importer.WellNamed ∧ importedName importer "../c.sol" = .ok ⟨"@scope/lib/c.sol", false⟩ ∧
      validate "@scope/lib/c.sol" = .ok () ∧ libraryName "@scope/lib/c.sol" = "@scope/lib" := by
  intro importer
  have hgives : (Resolver.searchingResolver.resolveSourceName scopedHost
      "@scope/lib/a/b.sol").Gives importer :=
    Run.gives_of_within (.start .usual) (by decide +kernel)
  have hwell : importer.WellNamed := (Resolver.contained_of_resolveSourceName hgives).wellNamed
  have hmeant : importedName importer "../c.sol" = .ok ⟨"@scope/lib/c.sol", false⟩ :=
    eq_ok_of_toOption (by decide +kernel)
  have hlaw := what_an_import_means_is_refused_only_for_a_leading_dot importer "../c.sol"
    ⟨"@scope/lib/c.sol", false⟩ hwell hmeant
  exact ⟨hgives, hwell, hmeant, hlaw.1, (hlaw.2 _ rfl (by decide)).2⟩

end SourceNames
