-- What the commands print: a resolved file, the imports of a file, and failures, as text
-- for a reader or as JSON for a program.

import SourceNames.Cli.Options
import SourceNames.Fault
import SourceNames.Json.Writer
import SourceNames.Palette
import SourceNames.ResolvedFile

namespace SourceNames

/-! ## Text -/

/-- Where a file comes from: the project, or a library with its version. -/
def originText (p : Palette) (f : ResolvedFile) : String :=
  match f.library with
  | none => p.paint .dim "(project)"
  | some library => p.paint .yellow s!"{library.name}@{library.version}"

/-- A name that stands out. -/
def headline (p : Palette) (name : String) : String :=
  p.paint .bold (p.paint .green name)

def describe (p : Palette) (f : ResolvedFile) : List String :=
  [headline p f.sourceName,
   "  path:     " ++ p.paint .cyan f.absolutePath,
   "  library:  " ++ originText p f,
   "  modified: " ++ f.modified.text]
  ++ (if f.content.versionPragmas.isEmpty then []
      else ["  pragmas:  " ++ String.intercalate ", " f.content.versionPragmas])
  ++ [s!"  imports:  {f.content.imports.length}"]

/-- A failure on one line. -/
def failureText (p : Palette) (f : Failure) : String :=
  p.paint .magenta s!"[{f.code}]" ++ " " ++ p.paint .error f.title ++ ": " ++ f.message

/-! ## JSON -/

/-- The members under which a failure is exported. -/
def failureMembers (report : FailureReport) : List (String × JsonValue) :=
  [("code", .integer report.code), ("error", .text report.label),
   ("message", .text report.message)]
  ++ report.fields.map fun (name, value) => (name, .text value)

def Settings.layout (settings : Settings) : JsonLayout :=
  if settings.compact then compactLayout else prettyLayout

/-- A value written as the settings ask. -/
def dump (settings : Settings) (value : JsonValue) : String :=
  value.write settings.layout

/-! ## Rows of imports -/

/-- What became of one import of a file. -/
structure ImportRow where
  imported : String
  outcome : Except Failure ResolvedFile

def ImportRow.failed (row : ImportRow) : Bool :=
  match row.outcome with
  | .ok _ => false
  | .error _ => true

def ImportRow.text (p : Palette) (row : ImportRow) : String :=
  let imported := "  " ++ p.paint .cyan row.imported
  match row.outcome with
  | .error f => imported ++ " " ++ failureText p f
  | .ok f => imported ++ " -> " ++ p.paint .green f.sourceName ++ " " ++ originText p f

def ImportRow.json (row : ImportRow) : JsonValue :=
  match row.outcome with
  | .error f =>
    .object [("imported", .text row.imported), ("error", .object (failureMembers f.report))]
  | .ok f => .object (("imported", .text row.imported) :: f.members false)

/-- An entry names its import, and holds an error just if the import failed. -/
theorem ImportRow.json_eq_object (row : ImportRow) : ∃ members, row.json = .object members ∧
    members.lookup "imported" = some (.text row.imported) ∧
    (members.lookup "error").isSome = row.failed := by
  obtain ⟨imported, outcome⟩ := row
  cases outcome with
  | ok f => exact ⟨_, rfl, rfl, rfl⟩
  | error f => exact ⟨_, rfl, rfl, rfl⟩

def importLines (p : Palette) (f : ResolvedFile) (rows : List ImportRow) : List String :=
  [headline p f.sourceName ++ " " ++ originText p f]
  ++ (if rows.isEmpty then [p.paint .dim "  (no imports)"] else [])
  ++ rows.map (·.text p)

/-- After the line of the file each row has a line of its own, in order. -/
theorem importLines_eq_cons (p : Palette) (f : ResolvedFile) {rows : List ImportRow}
    (h : rows ≠ []) : ∃ first, importLines p f rows = first :: rows.map (·.text p) := by
  refine ⟨headline p f.sourceName ++ " " ++ originText p f, ?_⟩
  cases rows with
  | nil => exact absurd rfl h
  | cons row rest => rfl

def importsJson (f : ResolvedFile) (rows : List ImportRow) : JsonValue :=
  .object
    [("source_name", .text f.sourceName),
     ("versioned_name", .text f.versionedName),
     ("imports", .list (rows.map ImportRow.json))]

/-- Among the members there is one entry for each row, in order. -/
theorem importsJson_eq_object (f : ResolvedFile) (rows : List ImportRow) : ∃ members,
    importsJson f rows = .object members ∧
      members.lookup "imports" = some (.list (rows.map ImportRow.json)) :=
  ⟨_, rfl, rfl⟩

end SourceNames
