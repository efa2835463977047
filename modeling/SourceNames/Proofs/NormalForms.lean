-- Normal forms of paths. Names read below a root leave no two dots, and a relative path may
-- be brought to its normal form before it is read below another path or after.

import SourceNames.Proofs.CanonicalNames

namespace SourceNames

namespace Path

/-! ## Stacks of names at a root -/

theorem push_dots {stack : List String} (h : ".." ∉ stack) :
    push true stack ".." = stack.tail := by
  cases stack with
  | nil => rfl
  | cons top more =>
    simp only [List.mem_cons, not_or] at h
    simp [push, Ne.symm h.1]

theorem push_of_ne_dots (anchored : Bool) (stack : List String) {part : String}
    (h : part ≠ "..") : push anchored stack part = part :: stack := if_neg h

theorem dots_not_mem_push {stack : List String} (part : String) (h : ".." ∉ stack) :
    ".." ∉ push true stack part := by
  by_cases hpart : part = ".."
  · rw [hpart, push_dots h]
    exact fun hm => h (List.mem_of_mem_tail hm)
  · rw [push_of_ne_dots true stack hpart]
    simp only [List.mem_cons, not_or]
    exact ⟨Ne.symm hpart, h⟩

theorem dots_not_mem_foldl_push (parts : List String) {stack : List String} (h : ".." ∉ stack) :
    ".." ∉ parts.foldl (push true) stack := by
  induction parts generalizing stack with
  | nil => exact h
  | cons part rest ih => exact ih (dots_not_mem_push part h)

/-! ## Collapsing in two steps -/

/-- A part pushed on a relative stack has the same effect on another stack as it has after the
relative one was put on that. -/
theorem foldl_push_of_push {anchored : Bool} (stack relative : List String) (part : String) :
    (push false relative part).reverse.foldl (push anchored) stack =
      push anchored (relative.reverse.foldl (push anchored) stack) part := by
  by_cases hpart : part = ".."
  · subst hpart
    cases relative with
    | nil => simp [push]
    | cons top more =>
      by_cases htop : top = ".."
      · subst htop
        simp [push]
      · -- The two dots take back the name on top, on either stack.
        have hrelative : push false (top :: more) ".." = more := by simp [push, htop]
        rw [hrelative, List.reverse_cons, List.foldl_append, List.foldl_cons, List.foldl_nil,
          push_of_ne_dots anchored _ htop]
        simp [push, htop]
  · rw [push_of_ne_dots false _ hpart, List.reverse_cons, List.foldl_append, List.foldl_cons,
      List.foldl_nil]

theorem foldl_push_collapsed {anchored : Bool} (stack parts : List String) :
    (parts.foldl (push false) []).reverse.foldl (push anchored) stack =
      parts.foldl (push anchored) stack := by
  suffices h : ∀ relative : List String,
      (parts.foldl (push false) relative).reverse.foldl (push anchored) stack =
        parts.foldl (push anchored) (relative.reverse.foldl (push anchored) stack) by
    exact h []
  intro relative
  induction parts generalizing relative with
  | nil => rfl
  | cons part rest ih => rw [List.foldl_cons, ih, foldl_push_of_push, List.foldl_cons]

theorem collapse_root (names : List String) :
    (Path.mk .root names).collapse = ⟨.root, (names.foldl (push true) []).reverse⟩ := rfl

theorem collapse_relative (names : List String) :
    (Path.mk .relative names).collapse = ⟨.relative, (names.foldl (push false) []).reverse⟩ := rfl

theorem dots_not_mem_collapse_root (names : List String) :
    ".." ∉ (Path.mk .root names).collapse.parts := by
  rw [collapse_root, List.mem_reverse]
  exact dots_not_mem_foldl_push names (by simp)

theorem foldl_step (p : Path) (parts : List String) :
    parts.foldl step p =
      { p with parts := (parts.foldl (push (p.anchor != .relative)) p.parts.reverse).reverse } := by
  induction parts generalizing p with
  | nil => simp
  | cons part rest ih =>
    rw [List.foldl_cons, ih]
    simp [step]

/-! ## Texts of paths -/

/-- Names that can be read back when they are written with slashes between them. -/
def Written (names : List String) : Prop :=
  ∀ name ∈ names, isName name = true ∧ '/' ∉ name.toList

theorem Written.left {front back : List String} (h : Written (front ++ back)) : Written front :=
  fun name hm => h name (List.mem_append_left _ hm)

theorem Written.right {front back : List String} (h : Written (front ++ back)) : Written back :=
  fun name hm => h name (List.mem_append_right _ hm)

theorem Written.append {front back : List String} (h : Written front) (h' : Written back) :
    Written (front ++ back) :=
  List.forall_mem_append.mpr ⟨h, h'⟩

theorem written_segments {name : String} (h : IsSourceName name) : Written (segments name) := by
  intro segment hm
  have hproper := h.proper segment hm
  exact ⟨by simp [isName, hproper.1, hproper.2.1], no_slash_of_mem_segments hm⟩

theorem toList_ne_nil_of_isName {name : String} (h : isName name = true) : name.toList ≠ [] := by
  intro hnil
  rw [String.toList_eq_nil_iff] at hnil
  rw [hnil] at h
  exact absurd h (by decide)

/-- Names that are written end with a character of the last name. -/
theorem exists_last_of_written {names : List String} (h : Written names) (hne : names ≠ []) :
    ∃ front c, (joinSegments names).toList = front ++ [c] ∧ c ≠ '/' := by
  obtain ⟨front, last, rfl⟩ := (List.eq_nil_or_concat names).resolve_left hne
  have hlast := h last (by simp)
  obtain ⟨more, c, hc⟩ :=
    (List.eq_nil_or_concat last.toList).resolve_left (toList_ne_nil_of_isName hlast.1)
  have hslash : c ≠ '/' := by
    rintro rfl
    exact hlast.2 (by simp [hc])
  by_cases hfront : front = []
  · exact ⟨more, c, by simp [hfront, hc], hslash⟩
  · refine ⟨(joinSegments front ++ "/").toList ++ more, c, ?_, hslash⟩
    rw [List.concat_eq_append, joinSegments_append hfront (by simp), joinSegments_singleton,
      String.toList_append, hc]
    simp

theorem not_beginsWith_slash_of_written {names : List String} (h : Written names) :
    beginsWith "/" (joinSegments names) = false := by
  rw [Bool.eq_false_iff]
  intro hbegins
  obtain ⟨rest, hrest⟩ := beginsWith_iff.mp hbegins
  have hne : names ≠ [] := by
    rintro rfl
    simp [joinSegments, glue] at hrest
  -- What a slash starts with is an empty name.
  have hempty : "" ∈ names := by
    rw [← segments_joinSegments hne fun name hm => (h name hm).2, hrest,
      ← String.empty_append (s := "/"), segments_append_slash]
    exact List.mem_append_left _ (by decide)
  exact absurd (h "" hempty).1 (by decide)

theorem parts_anchored (anchor : Anchor) (text : String) :
    (ofText (anchor.text ++ text)).parts = (ofText text).parts := by
  cases anchor with
  | relative => rw [Anchor.text, String.empty_append]
  | root =>
    have hcut := segments_append_slash "" text
    rw [String.empty_append] at hcut
    unfold ofText Anchor.text
    simp only [hcut]
    rfl
  | doubleRoot =>
    have hcut := segments_append_slash "/" text
    unfold ofText Anchor.text
    have hslashes : "//" = "/" ++ "/" := by decide
    simp only [hslashes, hcut]
    rfl

theorem takeWhile_slash_eq_nil {text : String} (h : beginsWith "/" text = false) :
    text.toList.takeWhile (· == '/') = [] := by
  unfold beginsWith at h
  cases ht : text.toList with
  | nil => rfl
  | cons c rest =>
    have hc : c ≠ '/' := by
      rintro rfl
      simp [ht, List.isPrefixOf] at h
    simp [hc]

/-- Where a path starts is told from its slashes if none comes after them. -/
theorem ofText_anchored (anchor : Anchor) {text : String} (h : beginsWith "/" text = false) :
    ofText (anchor.text ++ text) = ⟨anchor, (ofText text).parts⟩ := by
  have hslashes := takeWhile_slash_eq_nil h
  have hanchor : (ofText (anchor.text ++ text)).anchor = anchor := by
    unfold ofText
    rw [String.toList_append]
    cases anchor <;> simp [Anchor.text, hslashes, Anchor.ofSlashes]
  rw [← parts_anchored anchor text]
  exact congrArg (Path.mk · (ofText (anchor.text ++ text)).parts) hanchor

theorem ofText_joinSegments {names : List String} (h : Written names) :
    (ofText (joinSegments names)).parts = names := by
  by_cases hne : names = []
  · subst hne
    decide
  · unfold ofText
    rw [segments_joinSegments hne fun name hm => (h name hm).2]
    exact List.filter_eq_self.mpr fun name hm => (h name hm).1

/-! ## The directory of a path and what is read from there -/

theorem dropWhile_last_name {front last : List Char} (hlast : '/' ∉ last)
    (hfront : front = [] ∨ front.getLast? = some '/') :
    ((front ++ last).reverse.dropWhile (· != '/')).reverse = front := by
  have hall : ∀ c ∈ last.reverse, (c != '/') = true := by
    intro c hc
    rw [bne_iff_ne]
    rintro rfl
    exact hlast (List.mem_reverse.mp hc)
  rw [List.reverse_append, List.dropWhile_append_of_pos hall]
  rcases hfront with rfl | hfront
  · rfl
  · obtain ⟨more, rfl⟩ := List.getLast?_eq_some_iff.mp hfront
    simp

/-- The directory of a path of names is written with the names before the last. -/
theorem directoryOf_written (anchor : Anchor) {front : List String} {last : String}
    (h : Written (front ++ [last])) :
    directoryOf (anchor.text ++ joinSegments (front ++ [last])) =
      anchor.text ++ joinSegments front := by
  have hlast : '/' ∉ last.toList := (h last (by simp)).2
  unfold directoryOf
  by_cases hfront : front = []
  · subst hfront
    have hanchor : anchor.text.toList = [] ∨ anchor.text.toList.getLast? = some '/' := by
      cases anchor <;> simp [Anchor.text]
    have hslashes : anchor.text.toList.all (· == '/') = true := by
      cases anchor <;> decide
    rw [List.nil_append, joinSegments_singleton, String.toList_append]
    simp only [dropWhile_last_name hlast hanchor, hslashes, if_true]
    simp [joinSegments, glue]
  · obtain ⟨more, c, hc, hslash⟩ := exists_last_of_written h.left hfront
    have hsplit : (anchor.text ++ joinSegments (front ++ [last])).toList =
        (anchor.text.toList ++ more ++ [c, '/']) ++ last.toList := by
      rw [joinSegments_append hfront (by simp), joinSegments_singleton]
      simp [hc]
    have hends : (anchor.text.toList ++ more ++ [c, '/']).getLast? = some '/' := by simp
    rw [hsplit]
    simp only [dropWhile_last_name hlast (Or.inr hends)]
    rw [if_neg (by simp [hslash])]
    apply String.toList_injective
    simp [hslash, hc]

/-- What does not go on with a slash adds none to the slashes that a text starts with. -/
theorem takeWhile_append_of_stop {p : Char → Bool} (front : List Char) {back : List Char}
    (h : back.takeWhile p = []) : (front ++ back).takeWhile p = front.takeWhile p := by
  rw [List.takeWhile_append, h, List.append_nil]
  split
  · rename_i hall
    exact (List.IsPrefix.eq_of_length (List.takeWhile_prefix p) hall).symm
  · rfl

/-- Nor does anything that comes after a character of another kind. -/
theorem takeWhile_append_of_mem {p : Char → Bool} {front : List Char} {c : Char}
    (hmem : c ∈ front) (hc : p c = false) (back : List Char) :
    (front ++ back).takeWhile p = front.takeWhile p := by
  rw [List.takeWhile_append, if_neg]
  intro hall
  have hfront := List.IsPrefix.eq_of_length (List.takeWhile_prefix p) hall
  have hp := List.all_eq_true.mp (List.all_takeWhile (p := p) (l := front)) c (by rwa [hfront])
  rw [hc] at hp
  cases hp

theorem parts_ofText_append_slash (front back : String) :
    (ofText (front ++ "/" ++ back)).parts = (ofText front).parts ++ (ofText back).parts := by
  unfold ofText
  simp only [segments_append_slash, List.filter_append]

/-- A name that does not start with a slash goes on after the parts of its directory. -/
theorem ofText_joinNames (directory : String) {name : String} (h : beginsWith "/" name = false) :
    ofText (joinNames directory name) =
      ⟨(ofText directory).anchor, (ofText directory).parts ++ (ofText name).parts⟩ := by
  have hstop := takeWhile_slash_eq_nil h
  -- Where the joined path starts is settled by the slashes that its text starts with.
  have hanchor : ∀ text : String, text.toList.takeWhile (· == '/') =
      directory.toList.takeWhile (· == '/') → (ofText text).anchor = (ofText directory).anchor := by
    intro text hslashes
    unfold ofText
    rw [hslashes]
  have hjoined : ∀ text : String, (ofText text).anchor = (ofText directory).anchor →
      (ofText text).parts = (ofText directory).parts ++ (ofText name).parts →
      ofText text = ⟨(ofText directory).anchor, (ofText directory).parts ++ (ofText name).parts⟩ :=
    fun text hstart hparts => by rw [← hstart, ← hparts]
  unfold joinNames
  rw [if_neg (by simp [h])]
  rcases List.eq_nil_or_concat directory.toList with hempty | ⟨front, c, hfront⟩
  · obtain rfl : directory = "" := String.toList_eq_nil_iff.mp hempty
    rw [if_pos (by decide), String.empty_append]
    exact hjoined name (hanchor name hstop) rfl
  · rw [List.concat_eq_append] at hfront
    by_cases hc : c = '/'
    · subst hc
      have hsplit : directory = String.ofList front ++ "/" ++ "" :=
        String.toList_injective (by simp [hfront])
      rw [if_pos (by simp [hfront])]
      refine hjoined _ (hanchor _ ?_) ?_
      · rw [String.toList_append]
        exact takeWhile_append_of_stop _ hstop
      · have hnothing : (ofText "").parts = [] := by decide
        rw [hsplit, parts_ofText_append_slash, hnothing, List.append_nil, String.append_empty,
          parts_ofText_append_slash]
    · have hne : directory ≠ "" := by
        rintro rfl
        simp at hfront
      rw [if_neg (by simp [hfront, hc, hne])]
      refine hjoined _ (hanchor _ ?_) (parts_ofText_append_slash _ _)
      rw [String.toList_append, String.toList_append, List.append_assoc]
      exact takeWhile_append_of_mem (c := c) (by simp [hfront]) (by simp [hc]) _

theorem mem_parts_ofText {text part : String} (h : part ∈ (ofText text).parts) :
    isName part = true ∧ '/' ∉ part.toList := by
  obtain ⟨hsegment, hne, hdot⟩ := mem_ofText h
  exact ⟨by simp [isName, hne, hdot], no_slash_of_mem_segments hsegment⟩

theorem normalize_joinNames (anchor : Anchor) {front : List String} {last imported : String}
    (h : Written (front ++ [last])) (himported : beginsWith "/" imported = false) :
    normalize (joinNames (directoryOf (anchor.text ++ joinSegments (front ++ [last]))) imported) =
      (Path.mk anchor (front ++ (ofText imported).parts)).collapse.text := by
  unfold normalize
  rw [directoryOf_written anchor h, ofText_joinNames _ himported,
    ofText_anchored anchor (not_beginsWith_slash_of_written h.left), ofText_joinSegments h.left]

end Path

end SourceNames
