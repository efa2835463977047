-- What the check of a source name admits. A name equal to its canonical form, which starts
-- with neither a slash nor a dot, is cut into segments that all name something, so a path
-- goes on below a directory by exactly these segments.

import Mathlib.Tactic.SplitIfs
import SourceNames.Proofs.Segments
import SourceNames.Resolver

namespace SourceNames

/-- A well-formed source name. -/
structure IsSourceName (name : String) : Prop where
  not_empty : name ≠ ""
  not_absolute : beginsWith "/" name = false
  not_relative : beginsWith "." name = false
  no_backslash : '\\' ∉ name.toList
  proper : ∀ segment ∈ segments name, segment ≠ "" ∧ segment ≠ "." ∧ segment ≠ ".."

/-! ## The stack of names -/

namespace Path

/-- Two dots on a stack of names lie at its bottom. -/
def ClimbsFirst (stack : List String) : Prop :=
  ".." ∈ stack → stack.getLast? = some ".."

theorem climbsFirst_cons {stack : List String} {part : String} (h : ClimbsFirst stack)
    (hpart : part = ".." → ".." ∈ stack) : ClimbsFirst (part :: stack) := by
  intro hm
  have hstack : ".." ∈ stack := by
    rcases List.mem_cons.mp hm with hm | hm
    · exact hpart hm.symm
    · exact hm
  have hlast := h hstack
  cases stack with
  | nil => simp at hstack
  | cons next more => rwa [List.getLast?_cons_cons]

theorem climbsFirst_of_cons {top : String} {more : List String} (h : ClimbsFirst (top :: more)) :
    ClimbsFirst more := by
  intro hm
  have hlast := h (List.mem_cons_of_mem _ hm)
  cases more with
  | nil => simp at hm
  | cons next more => rwa [List.getLast?_cons_cons] at hlast

/-- Two dots are pushed only on two dots or on the bottom; else they take a name away. -/
theorem climbsFirst_push {anchored : Bool} {stack : List String} (part : String)
    (h : ClimbsFirst stack) : ClimbsFirst (push anchored stack part) := by
  unfold push
  split
  · split
    · split
      · intro hm; simp at hm
      · intro _; rfl
    · split
      · rename_i htop
        exact climbsFirst_cons h fun _ => by simp [htop]
      · exact climbsFirst_of_cons h
  · rename_i hpart
    exact climbsFirst_cons h fun hdots => absurd hdots hpart

theorem climbsFirst_foldl {anchored : Bool} (parts : List String) {stack : List String}
    (h : ClimbsFirst stack) : ClimbsFirst (parts.foldl (push anchored) stack) := by
  induction parts generalizing stack with
  | nil => exact h
  | cons part rest ih => exact ih (climbsFirst_push part h)

theorem mem_push {anchored : Bool} {stack : List String} {part x : String}
    (h : x ∈ push anchored stack part) : x = part ∨ x ∈ stack := by
  unfold push at h
  split at h
  · rename_i hpart
    split at h
    · split at h
      · simp at h
      · exact Or.inl (by rw [hpart]; simpa using h)
    · split at h
      · rcases List.mem_cons.mp h with h | h
        · exact Or.inl (by rw [hpart]; exact h)
        · exact Or.inr h
      · exact Or.inr (List.mem_cons_of_mem _ h)
  · exact List.mem_cons.mp h

theorem mem_foldl_push {anchored : Bool} {parts stack : List String} {x : String}
    (h : x ∈ parts.foldl (push anchored) stack) : x ∈ parts ∨ x ∈ stack := by
  induction parts generalizing stack with
  | nil => exact Or.inr h
  | cons part rest ih =>
    rcases ih h with h | h
    · exact Or.inl (List.mem_cons_of_mem _ h)
    · rcases mem_push h with h | h
      · exact Or.inl (by simp [h])
      · exact Or.inr h

/-- A collapsed path has no parts of its own. -/
theorem mem_of_mem_collapse {p : Path} {part : String} (h : part ∈ p.collapse.parts) :
    part ∈ p.parts := by
  unfold collapse at h
  simp only [List.mem_reverse] at h
  rcases mem_foldl_push h with h | h
  · exact h
  · simp at h

/-- If a collapsed path climbs anywhere, it climbs first. -/
theorem head?_of_climb_mem_collapse {p : Path} (h : ".." ∈ p.collapse.parts) :
    p.collapse.parts.head? = some ".." := by
  unfold collapse at h ⊢
  rw [List.head?_reverse]
  exact climbsFirst_foldl p.parts (by simp [ClimbsFirst]) (List.mem_reverse.mp h)

/-- Names without two dots are just put on the stack. -/
theorem foldl_push_names {anchored : Bool} {parts : List String} (h : ".." ∉ parts)
    (stack : List String) : parts.foldl (push anchored) stack = parts.reverse ++ stack := by
  induction parts generalizing stack with
  | nil => rfl
  | cons part rest ih =>
    simp only [List.mem_cons, not_or] at h
    have hpush : push anchored stack part = part :: stack := by
      unfold push
      rw [if_neg (Ne.symm h.1)]
    rw [List.foldl_cons, hpush, ih h.2, List.reverse_cons, List.append_assoc,
      List.singleton_append]

theorem collapse_of_names {p : Path} (h : ".." ∉ p.parts) : p.collapse = p := by
  unfold collapse
  rw [foldl_push_names h, List.append_nil, List.reverse_reverse]

/-! ## Reading and writing a path -/

theorem mem_ofText {text part : String} (h : part ∈ (ofText text).parts) :
    part ∈ segments text ∧ part ≠ "" ∧ part ≠ "." := by
  unfold ofText isName at h
  simpa using h

theorem ofText_anchor {text : String} (h : beginsWith "/" text = false) :
    (ofText text).anchor = .relative := by
  unfold ofText
  unfold beginsWith at h
  cases ht : text.toList with
  | nil => rfl
  | cons c rest =>
    have hc : c ≠ '/' := by
      rintro rfl
      simp [ht, List.isPrefixOf] at h
    simp [hc, Anchor.ofSlashes]

theorem text_of_relative (parts : List String) :
    (Path.mk .relative parts).text = if joinSegments parts = "" then "." else joinSegments parts := by
  simp [text, Anchor.text]

end Path

/-! ## Names in canonical form -/

/-- The segments of a canonical name are the parts that its canonical form is written from. -/
theorem segments_of_canonical {name : String} (habsolute : beginsWith "/" name = false)
    (hrelative : beginsWith "." name = false) (h : normalize name = name) :
    name ≠ "" ∧ segments name = (Path.ofText name).collapse.parts := by
  have hanchor : (Path.ofText name).collapse.anchor = .relative := Path.ofText_anchor habsolute
  have htext : normalize name = (Path.mk .relative (Path.ofText name).collapse.parts).text := by
    rw [← hanchor]; rfl
  rw [htext, Path.text_of_relative] at h
  split at h
  · rw [← h] at hrelative
    exact absurd hrelative (by decide)
  · rename_i hne
    refine ⟨by rwa [h] at hne, ?_⟩
    have hparts : (Path.ofText name).collapse.parts ≠ [] := by
      intro hnil
      rw [hnil] at hne
      exact hne rfl
    have hcut := segments_joinSegments hparts fun part hp =>
      no_slash_of_mem_segments (Path.mem_ofText (Path.mem_of_mem_collapse hp)).1
    rwa [h] at hcut

/-- A name whose first segment is two dots begins with a dot. -/
theorem beginsWith_dot_of_climb {name : String} (h : (segments name).head? = some "..") :
    beginsWith "." name = true := by
  rw [← joinSegments_segments name]
  cases hs : segments name with
  | nil => simp [hs] at h
  | cons first rest =>
    obtain rfl : first = ".." := by simpa [hs] using h
    rw [beginsWith_iff]
    by_cases hr : rest = []
    · exact ⟨".", by subst hr; rfl⟩
    · exact ⟨"./" ++ joinSegments rest, by
        rw [← List.singleton_append, joinSegments_append (by simp) hr, joinSegments_singleton]
        apply String.toList_injective
        simp⟩

/-- The check of a name admits only well-formed source names. -/
theorem isSourceName_of_validate {name : String} (h : validate name = .ok ()) :
    IsSourceName name := by
  unfold validate nameFailure? at h
  split at h
  · simp at h
  · rename_i hnone
    split_ifs at hnone with habsolute hrelative hbackslash hcanonical
    rw [Bool.not_eq_true] at habsolute hrelative
    obtain ⟨hne, hsegments⟩ :=
      segments_of_canonical habsolute hrelative (Decidable.not_not.mp hcanonical)
    refine ⟨hne, habsolute, hrelative, by simpa using hbackslash, ?_⟩
    intro segment hm
    rw [hsegments] at hm
    have hname := (Path.mem_ofText (Path.mem_of_mem_collapse hm)).2
    refine ⟨hname.1, hname.2, ?_⟩
    -- A canonical name that climbs does so first, and then it starts with a dot.
    rintro rfl
    have hfirst := Path.head?_of_climb_mem_collapse hm
    rw [← hsegments] at hfirst
    rw [beginsWith_dot_of_climb hfirst] at hrelative
    simp at hrelative

/-! ## Well-formed names -/

/-- A well-formed name is read as the relative path of its segments. -/
theorem ofText_of_isSourceName {name : String} (h : IsSourceName name) :
    Path.ofText name = ⟨.relative, segments name⟩ := by
  have hparts : (Path.ofText name).parts = segments name := by
    unfold Path.ofText
    refine List.filter_eq_self.mpr fun segment hm => ?_
    have hproper := h.proper segment hm
    simp [Path.isName, hproper.1, hproper.2.1]
  rw [← hparts, ← Path.ofText_anchor h.not_absolute]

theorem normalize_of_isSourceName {name : String} (h : IsSourceName name) :
    normalize name = name := by
  have hclimb : ".." ∉ segments name := fun hm => (h.proper ".." hm).2.2 rfl
  unfold normalize
  rw [ofText_of_isSourceName h, Path.collapse_of_names hclimb, Path.text_of_relative,
    joinSegments_segments, if_neg h.not_empty]

/-- The check of a name admits just the well-formed source names. -/
theorem validate_eq_ok_iff {name : String} : validate name = .ok () ↔ IsSourceName name := by
  refine ⟨isSourceName_of_validate, fun h => ?_⟩
  have hbackslash : ¬ name.toList.contains '\\' = true := by simpa using h.no_backslash
  unfold validate nameFailure?
  simp only [h.not_absolute, h.not_relative, hbackslash, normalize_of_isSourceName h,
    Bool.false_eq_true, if_false, ne_eq, not_true_eq_false]

end SourceNames
