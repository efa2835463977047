-- The library that a source name belongs to, and the paths that source names stand for. A
-- name goes on after the name of its library, and every name that goes on after it the same
-- way belongs to the same library.

import SourceNames.Proofs.CanonicalNames

namespace SourceNames

/-! ## The segments of a library's name -/

/-- How many segments of a name its library's name takes: two if the name starts with a
scope. -/
def scopeDepth (name : String) : Nat :=
  if beginsWith "@" name then 2 else 1

theorem scopeDepth_pos (name : String) : 0 < scopeDepth name := by
  unfold scopeDepth; split <;> decide

theorem scopeDepth_append_slash (front back : String) :
    scopeDepth (front ++ "/" ++ back) = scopeDepth front := by
  unfold scopeDepth
  rw [beginsWith_append_slash front back '@' rfl (by decide)]

theorem libraryName_eq (name : String) :
    libraryName name = joinSegments ((segments name).take (scopeDepth name)) := by
  unfold libraryName scopeDepth
  split
  · rfl
  · cases hs : segments name with
    | nil => exact absurd hs (segments_ne_nil name)
    | cons first rest => simp

theorem segments_libraryName (name : String) :
    segments (libraryName name) = (segments name).take (scopeDepth name) := by
  rw [libraryName_eq, segments_joinSegments]
  · have := scopeDepth_pos name
    simp [segments_ne_nil]
    omega
  · intro part hp
    exact no_slash_of_mem_segments (List.mem_of_mem_take hp)

/-- A name that is not just its library's name has segments after it. -/
theorem drop_scopeDepth_ne_nil {name : String} (h : libraryName name ≠ name) :
    (segments name).drop (scopeDepth name) ≠ [] := by
  intro hnil
  apply h
  rw [libraryName_eq, List.take_of_length_le (List.drop_eq_nil_iff.mp hnil),
    joinSegments_segments]

/-- The name of a file of a library: that of the library, a slash, and the rest. -/
theorem libraryName_append {name : String} (h : libraryName name ≠ name) :
    name = libraryName name ++ "/" ++ joinSegments ((segments name).drop (scopeDepth name)) := by
  rw [← joinSegments_segments (libraryName name), segments_libraryName, ← joinSegments_append,
    List.take_append_drop, joinSegments_segments]
  · rw [← segments_libraryName]
    exact segments_ne_nil _
  · exact drop_scopeDepth_ne_nil h

theorem length_segments_libraryName {name : String} (h : libraryName name ≠ name) :
    (segments (libraryName name)).length = scopeDepth name := by
  have hlt : scopeDepth name < (segments name).length := by
    rw [← Nat.not_le, ← List.drop_eq_nil_iff]
    exact drop_scopeDepth_ne_nil h
  rw [segments_libraryName, List.length_take]
  omega

/-- A name that goes on after a library's name belongs to that library. -/
theorem libraryName_of_beginsWith {name target : String} (hname : libraryName name ≠ name)
    (h : beginsWith (libraryName name ++ "/") target = true) :
    libraryName target = libraryName name := by
  obtain ⟨rest, rfl⟩ := beginsWith_iff.mp h
  have hdepth : scopeDepth (libraryName name ++ "/" ++ rest) = scopeDepth name := by
    rw [scopeDepth_append_slash, libraryName_append hname, scopeDepth_append_slash,
      ← libraryName_append hname]
  rw [libraryName_eq, hdepth, segments_append_slash, ← length_segments_libraryName hname,
    List.take_left, joinSegments_segments]

/-- What goes on after the library's name in a well-formed name is not empty. -/
theorem rest_ne_empty {name : String} (hname : IsSourceName name) (h : libraryName name ≠ name) :
    joinSegments ((segments name).drop (scopeDepth name)) ≠ "" := by
  intro hempty
  have hcut := segments_joinSegments (drop_scopeDepth_ne_nil h) fun part hp =>
    no_slash_of_mem_segments (List.mem_of_mem_drop hp)
  rw [hempty] at hcut
  have hmem : "" ∈ (segments name).drop (scopeDepth name) := by
    rw [← hcut]
    exact List.mem_singleton.mpr rfl
  exact (hname.proper "" (List.mem_of_mem_drop hmem)).1 rfl

/-! ## Paths below a directory -/

namespace Path

/-- What the path of a name below a directory is written with before the name. -/
def lead (p : Path) : String :=
  p.anchor.text ++ if p.parts = [] then "" else joinSegments p.parts ++ "/"

/-- The path of a name whose segments are all names goes on below the directory by exactly
these. -/
theorem below_of_names (p : Path) {name : String}
    (h : ∀ segment ∈ segments name, isName segment = true) :
    p.below name = { p with parts := p.parts ++ segments name } := by
  unfold below
  rw [List.filter_eq_self.mpr h]

theorem below_eq (p : Path) {name : String} (h : IsSourceName name) :
    p.below name = { p with parts := p.parts ++ segments name } := by
  apply below_of_names
  intro segment hs
  have hproper := h.proper segment hs
  simp [isName, hproper.1, hproper.2.1]

theorem text_below (p : Path) {name : String} (h : IsSourceName name) :
    (p.below name).text = p.lead ++ name := by
  have hbody : p.anchor.text ++ joinSegments (p.parts ++ segments name) = p.lead ++ name := by
    unfold lead
    split
    · rename_i hp
      simp [hp, joinSegments_segments]
    · rename_i hp
      rw [joinSegments_append hp (segments_ne_nil name), joinSegments_segments]
      simp only [String.append_assoc]
  rw [below_eq p h]
  unfold text
  simp only [hbody]
  rw [if_neg]
  intro hempty
  exact h.not_empty (String.append_eq_empty_iff.mp hempty).2

end Path

end SourceNames
