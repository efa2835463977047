-- The laws of cutting and gluing. A text cut at slashes gives pieces without slashes, and
-- such pieces glued together are cut into themselves again. A name below a directory is the
-- text of the directory with the name put after it.

import SourceNames.Path

namespace SourceNames

/-! ## Pieces of a list of characters -/

theorem cutAt_ne_nil (separator : Char) (text : List Char) : cutAt separator text ≠ [] := by
  simp [cutAt, cutWhere]

theorem cutAt_cons_of_ne {separator c : Char} (h : c ≠ separator) {rest piece : List Char}
    {more : List (List Char)} (hcut : cutAt separator rest = piece :: more) :
    cutAt separator (c :: rest) = (c :: piece) :: more := by
  simp only [cutAt, cutWhere, cutFirst, List.cons.injEq] at hcut ⊢
  obtain ⟨rfl, rfl⟩ := hcut
  simp [h]

theorem cutAt_append_separator {separator : Char} {piece : List Char} (h : separator ∉ piece)
    (rest : List Char) :
    cutAt separator (piece ++ separator :: rest) = piece :: cutAt separator rest := by
  induction piece with
  | nil => exact cutAt_separator separator rest
  | cons c piece ih =>
    simp only [List.mem_cons, not_or] at h
    exact cutAt_cons_of_ne (Ne.symm h.1) (ih h.2)

theorem cutAt_of_not_mem {separator : Char} {text : List Char} (h : separator ∉ text) :
    cutAt separator text = [text] := by
  induction text with
  | nil => rfl
  | cons c rest ih =>
    simp only [List.mem_cons, not_or] at h
    exact cutAt_cons_of_ne (Ne.symm h.1) (ih h.2)

/-- No piece of a cut holds the separator. -/
theorem not_mem_of_mem_cutAt {separator : Char} {text : List Char} :
    ∀ piece ∈ cutAt separator text, separator ∉ piece := by
  induction text with
  | nil => simp [cutAt_nil]
  | cons c rest ih =>
    by_cases h : c = separator
    · subst h
      rw [cutAt_separator]
      simpa using ih
    · rcases hcut : cutAt separator rest with _ | ⟨piece, more⟩
      · exact absurd hcut (cutAt_ne_nil separator rest)
      · rw [cutAt_cons_of_ne h hcut]
        rw [hcut] at ih
        simp only [List.forall_mem_cons] at ih ⊢
        exact ⟨by simpa [Ne.symm h] using ih.1, ih.2⟩

theorem glue_cons (separator : Char) (piece : List Char) {more : List (List Char)}
    (h : more ≠ []) :
    glue separator (piece :: more) = piece ++ separator :: glue separator more := by
  cases more with
  | nil => exact absurd rfl h
  | cons next more => rfl

theorem glue_append (separator : Char) {front back : List (List Char)} (hf : front ≠ [])
    (hb : back ≠ []) :
    glue separator (front ++ back) =
      glue separator front ++ separator :: glue separator back := by
  induction front with
  | nil => exact absurd rfl hf
  | cons piece front ih =>
    rw [List.cons_append, glue_cons _ _ (by simp [hb])]
    by_cases h : front = []
    · subst h; rfl
    · rw [ih h, glue_cons _ _ h, List.append_assoc, List.cons_append]

/-- Glued pieces without separators are cut into the same pieces. -/
theorem cutAt_glue {separator : Char} {pieces : List (List Char)} (hne : pieces ≠ [])
    (h : ∀ piece ∈ pieces, separator ∉ piece) :
    cutAt separator (glue separator pieces) = pieces := by
  induction pieces with
  | nil => exact absurd rfl hne
  | cons piece more ih =>
    simp only [List.forall_mem_cons] at h
    by_cases hm : more = []
    · subst hm
      exact cutAt_of_not_mem h.1
    · rw [glue_cons _ _ hm, cutAt_append_separator h.1, ih hm h.2]

/-! ## Segments of a text -/

theorem segments_ne_nil (text : String) : segments text ≠ [] := by
  simp [segments, cutAt_ne_nil]

/-- No segment holds a slash. -/
theorem no_slash_of_mem_segments {text part : String} (h : part ∈ segments text) :
    '/' ∉ part.toList := by
  simp only [segments, List.mem_map] at h
  obtain ⟨piece, hp, rfl⟩ := h
  simpa using not_mem_of_mem_cutAt piece hp

/-- Joined segments are cut into the same segments. -/
theorem segments_joinSegments {parts : List String} (hne : parts ≠ [])
    (h : ∀ part ∈ parts, '/' ∉ part.toList) : segments (joinSegments parts) = parts := by
  unfold segments joinSegments
  rw [String.toList_ofList, cutAt_glue (by simpa using hne) (by simpa using h)]
  simp [Function.comp_def]

@[simp]
theorem joinSegments_singleton (part : String) : joinSegments [part] = part := by
  simp [joinSegments, glue]

theorem joinSegments_append {front back : List String} (hf : front ≠ []) (hb : back ≠ []) :
    joinSegments (front ++ back) = joinSegments front ++ "/" ++ joinSegments back := by
  unfold joinSegments
  rw [List.map_append, glue_append _ (by simpa using hf) (by simpa using hb)]
  apply String.toList_injective
  simp

theorem segments_append_slash (front back : String) :
    segments (front ++ "/" ++ back) = segments front ++ segments back := by
  rw [← joinSegments_segments front, ← joinSegments_segments back,
    ← joinSegments_append (segments_ne_nil _) (segments_ne_nil _), segments_joinSegments]
  · simp only [joinSegments_segments]
  · simp [segments_ne_nil]
  · intro part hp
    rcases List.mem_append.mp hp with h | h
    · exact no_slash_of_mem_segments h
    · exact no_slash_of_mem_segments h

/-! ## Characters of a text -/

theorem mem_glue_iff {separator c : Char} (h : c ≠ separator) (pieces : List (List Char)) :
    c ∈ glue separator pieces ↔ ∃ piece ∈ pieces, c ∈ piece := by
  induction pieces with
  | nil => simp [glue]
  | cons piece more ih =>
    by_cases hm : more = []
    · subst hm
      simp [glue]
    · rw [glue_cons _ _ hm]
      simp [h, ih]

/-- A character other than the slash is in a text just if it is in one of its segments. -/
theorem mem_toList_iff {c : Char} (h : c ≠ '/') (text : String) :
    c ∈ text.toList ↔ ∃ part ∈ segments text, c ∈ part.toList := by
  have hglue := mem_glue_iff h (cutAt '/' text.toList)
  rw [glue_cutAt] at hglue
  rw [hglue]
  unfold segments
  constructor
  · rintro ⟨piece, hpiece, hc⟩
    exact ⟨_, List.mem_map_of_mem hpiece, by simpa using hc⟩
  · rintro ⟨part, hpart, hc⟩
    obtain ⟨piece, hpiece, rfl⟩ := List.mem_map.mp hpart
    exact ⟨piece, hpiece, by simpa using hc⟩

/-- A text begins with a character other than the slash just if its first segment does. -/
theorem head?_joinSegments {c : Char} (h : c ≠ '/') (first : String) (rest : List String) :
    (joinSegments (first :: rest)).toList.head? = some c ↔ first.toList.head? = some c := by
  by_cases hr : rest = []
  · subst hr
    simp
  · rw [← List.singleton_append, joinSegments_append (by simp) hr, joinSegments_singleton]
    cases hf : first.toList with
    | nil => simp [hf, Ne.symm h]
    | cons d more => simp [hf]

/-! ## How a text begins -/

theorem beginsWith_iff {lead text : String} :
    beginsWith lead text = true ↔ ∃ rest, text = lead ++ rest := by
  unfold beginsWith
  rw [List.isPrefixOf_iff_prefix]
  constructor
  · rintro ⟨rest, h⟩
    exact ⟨String.ofList rest, String.toList_injective (by simp [h])⟩
  · rintro ⟨rest, rfl⟩
    simp

theorem beginsWith_char_iff {lead text : String} {c : Char} (hlead : lead.toList = [c]) :
    beginsWith lead text = true ↔ text.toList.head? = some c := by
  unfold beginsWith
  rw [hlead]
  cases text.toList with
  | nil => simp [List.isPrefixOf]
  | cons d rest =>
    simp only [List.isPrefixOf, Bool.and_true, beq_iff_eq, List.head?_cons, Option.some.injEq]
    exact eq_comm

/-- Whether a text begins with a character other than the slash is settled by its first
segment. -/
theorem beginsWith_append_slash {lead : String} (front back : String) (c : Char)
    (hlead : lead.toList = [c]) (hc : c ≠ '/') :
    beginsWith lead (front ++ "/" ++ back) = beginsWith lead front := by
  unfold beginsWith
  rw [hlead]
  cases hf : front.toList with
  | nil => simp [hf, List.isPrefixOf, hc]
  | cons d rest => simp [hf, List.isPrefixOf]

end SourceNames
