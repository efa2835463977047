-- Texts cut into pieces at a separator, and pieces glued back into a text. Source
-- names, paths and link targets are all read through this cut, which keeps empty
-- pieces, so that nothing of a text is lost.

namespace SourceNames

/-! ## Cutting and gluing lists of characters -/

/-- The piece before the first character that separates, and the pieces after it. -/
def cutFirst (separates : Char → Bool) : List Char → List Char × List (List Char)
  | [] => ([], [])
  | c :: rest =>
    match cutFirst separates rest with
    | (piece, more) => if separates c then ([], piece :: more) else (c :: piece, more)

/-- The pieces of a text between the characters that separate, empty ones included. -/
def cutWhere (separates : Char → Bool) (text : List Char) : List (List Char) :=
  match cutFirst separates text with
  | (piece, more) => piece :: more

/-- The pieces of a text between occurrences of one separator. -/
def cutAt (separator : Char) (text : List Char) : List (List Char) :=
  cutWhere (· == separator) text

/-- Pieces written one after the other with a separator between each two. -/
def glue (separator : Char) : List (List Char) → List Char
  | [] => []
  | [piece] => piece
  | piece :: next :: more => piece ++ separator :: glue separator (next :: more)

theorem cutAt_nil (separator : Char) : cutAt separator [] = [[]] := rfl

theorem cutAt_separator (separator : Char) (rest : List Char) :
    cutAt separator (separator :: rest) = [] :: cutAt separator rest := by
  simp [cutAt, cutWhere, cutFirst]

/-- Nothing is lost by a cut. -/
theorem glue_cutAt (separator : Char) (text : List Char) :
    glue separator (cutAt separator text) = text := by
  induction text with
  | nil => rfl
  | cons c rest ih =>
    simp only [cutAt, cutWhere, cutFirst] at ih ⊢
    generalize cutFirst (· == separator) rest = cut at ih ⊢
    obtain ⟨piece, more⟩ := cut
    simp only at ih ⊢
    by_cases h : c = separator
    · simp [h, glue, ih]
    · cases more with
      | nil => simpa [h, glue] using ih
      | cons next more => simpa [h, glue] using ih

/-! ## Slash-separated texts -/

/-- The segments of a slash-separated text, empty ones included. -/
def segments (text : String) : List String :=
  (cutAt '/' text.toList).map String.ofList

/-- Segments written with a slash between each two. -/
def joinSegments (parts : List String) : String :=
  String.ofList (glue '/' (parts.map String.toList))

/-- Segments joined again give the text they were cut from. -/
theorem joinSegments_segments (text : String) : joinSegments (segments text) = text := by
  simp [joinSegments, segments, Function.comp_def, glue_cutAt]

/-! ## Beginnings and replacements -/

def beginsWith (lead text : String) : Bool :=
  lead.toList.isPrefixOf text.toList

/-- Every occurrence of a pattern, from the left, replaced; `skip` characters still belong
to an occurrence already replaced. -/
def replaceFrom (pattern new : List Char) : Nat → List Char → List Char
  | _, [] => []
  | skip + 1, _ :: rest => replaceFrom pattern new skip rest
  | 0, c :: rest =>
    if pattern.isPrefixOf (c :: rest) then
      new ++ replaceFrom pattern new (pattern.length - 1) rest
    else c :: replaceFrom pattern new 0 rest

/-- Every occurrence of a pattern replaced, from left to right. The empty pattern occurs
before each character and at the end. -/
def replaceAll (pattern new text : String) : String :=
  if pattern = "" then
    String.ofList (text.toList.flatMap (fun c => new.toList ++ [c]) ++ new.toList)
  else String.ofList (replaceFrom pattern.toList new.toList 0 text.toList)

end SourceNames
