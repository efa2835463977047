-- What the exported members of a file tell of it. Every part of the record but the version that
-- is added to its name stands under a name of its own, so all of it can be read back. Where the
-- text of the file is left out, nothing but that text is lost.

import SourceNames.Proofs.InstantTexts

namespace SourceNames

/-- Members that hold the same values under the same names, in whatever order. -/
def SameMembers (members others : List (String × JsonValue)) : Prop :=
  ∀ name, members.lookup name = others.lookup name

namespace ResolvedFile

variable {f g : ResolvedFile} {withContent : Bool}

/-- Two files whose records agree in all but their texts. -/
structure AlikeButForText (f g : ResolvedFile) : Prop where
  sourceName : f.sourceName = g.sourceName
  absolutePath : f.absolutePath = g.absolutePath
  imports : f.content.imports = g.content.imports
  versionPragmas : f.content.versionPragmas = g.content.versionPragmas
  modified : f.modified = g.modified
  library : f.library = g.library

theorem eq_iff_alikeButForText : f = g ↔ f.AlikeButForText g ∧ f.content.raw = g.content.raw := by
  constructor
  · rintro rfl
    exact ⟨⟨rfl, rfl, rfl, rfl, rfl, rfl⟩, rfl⟩
  · rintro ⟨⟨hname, hpath, himports, hpragmas, hmodified, hlibrary⟩, hraw⟩
    obtain ⟨name, path, ⟨raw, imports, pragmas⟩, modified, library⟩ := f
    obtain ⟨name', path', ⟨raw', imports', pragmas'⟩, modified', library'⟩ := g
    dsimp only at *
    rw [hname, hpath, hraw, himports, hpragmas, hmodified, hlibrary]

/-! ## What the members tell -/

/-- The value that the library of a file is exported as. -/
def libraryValue : Option LibraryInfo → JsonValue
  | none => .null
  | some library => .object [("name", .text library.name), ("version", .text library.version)]

theorem libraryValue_injective {library other : Option LibraryInfo}
    (h : libraryValue library = libraryValue other) : library = other := by
  cases library with
  | none =>
    cases other with
    | none => rfl
    | some info => cases h
  | some info =>
    cases other with
    | none => cases h
    | some info' =>
      obtain ⟨name, version⟩ := info
      obtain ⟨name', version'⟩ := info'
      cases h
      rfl

theorem lookup_library (f : ResolvedFile) (withContent : Bool) :
    (f.members withContent).lookup "library" = some (libraryValue f.library) := by
  unfold members libraryValue
  simp only [List.cons_append, List.lookup_cons]
  rfl

theorem eq_of_map_text {texts others : List String}
    (h : texts.map JsonValue.text = others.map JsonValue.text) : texts = others :=
  (List.map_inj_right fun _ _ => JsonValue.text.inj).mp h

/-- The members tell all of a record but its text, whether they hold the text or not. -/
theorem alikeButForText_of_sameMembers
    (h : SameMembers (f.members withContent) (g.members withContent)) : f.AlikeButForText g := by
  have hlibrary := h "library"
  rw [lookup_library, lookup_library, Option.some.injEq] at hlibrary
  have hmodified : f.modified.text = g.modified.text := by
    simpa [members, List.lookup_cons] using h "last_modification_date"
  have himports : f.content.imports.map JsonValue.text = g.content.imports.map .text := by
    simpa [members, List.lookup_cons] using h "imports"
  have hpragmas : f.content.versionPragmas.map JsonValue.text =
      g.content.versionPragmas.map .text := by
    simpa [members, List.lookup_cons] using h "version_pragmas"
  exact {
    sourceName := by simpa [members, List.lookup_cons] using h "source_name"
    absolutePath := by simpa [members, List.lookup_cons] using h "absolute_path"
    imports := eq_of_map_text himports
    versionPragmas := eq_of_map_text hpragmas
    modified := Timestamp.text_injective hmodified
    library := libraryValue_injective hlibrary }

theorem raw_of_sameMembers (h : SameMembers (f.members true) (g.members true)) :
    f.content.raw = g.content.raw := by
  simpa [members, List.lookup_cons] using h "raw_content"

theorem members_false_of_alike (h : f.AlikeButForText g) : f.members false = g.members false := by
  unfold members versionedName
  rw [h.sourceName, h.absolutePath, h.imports, h.versionPragmas, h.modified, h.library]
  rfl

/-! ## The law -/

/-- Files whose exported members are the same, in order or under each name, are the same file.
Without their texts they are the same in all but these. -/
theorem an_export_loses_nothing_but_a_text_left_out (f g : ResolvedFile) :
    (f.members true = g.members true ↔ f = g) ∧
      (SameMembers (f.members true) (g.members true) ↔ f = g) ∧
      (SameMembers (f.members false) (g.members false) ↔ f.AlikeButForText g) := by
  have hsame : SameMembers (f.members true) (g.members true) → f = g := fun h =>
    eq_iff_alikeButForText.mpr ⟨alikeButForText_of_sameMembers h, raw_of_sameMembers h⟩
  refine ⟨⟨?_, ?_⟩, ⟨hsame, ?_⟩, ⟨alikeButForText_of_sameMembers, ?_⟩⟩
  · intro h
    exact hsame fun name => by rw [h]
  · rintro rfl
    rfl
  · rintro rfl name
    rfl
  · intro h name
    rw [members_false_of_alike h]

end ResolvedFile

end SourceNames
