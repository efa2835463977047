-- The record of a source file that was found: its name, where it lies, what it holds, when
-- it last changed, and the library it belongs to.

import SourceNames.Json.Value
import SourceNames.Timestamp

namespace SourceNames

/-- The library a file came from, with the version it declares. -/
structure LibraryInfo where
  name : String
  version : String
  deriving DecidableEq, Repr

/-- The text of a file and what was found in it. -/
structure FileContent where
  raw : String
  imports : List String
  versionPragmas : List String
  deriving DecidableEq, Repr

/-- A source file that was found. A file of the project has no library. -/
structure ResolvedFile where
  sourceName : String
  absolutePath : String
  content : FileContent
  modified : Timestamp
  library : Option LibraryInfo
  deriving DecidableEq, Repr

namespace ResolvedFile

/-- The source name, with the version of the library added if there is one. -/
def versionedName (f : ResolvedFile) : String :=
  match f.library with
  | none => f.sourceName
  | some library => s!"{f.sourceName}@v{library.version}"

def isLibrary (f : ResolvedFile) : Bool := f.library.isSome

/-- The members under which a file is exported, in their order; the text of the file comes
last, and only if it is asked for. -/
def members (f : ResolvedFile) (withContent : Bool) : List (String × JsonValue) :=
  [("source_name", .text f.sourceName),
   ("versioned_name", .text f.versionedName),
   ("absolute_path", .text f.absolutePath),
   ("last_modification_date", .text f.modified.text),
   ("library",
    match f.library with
    | none => .null
    | some library =>
      .object [("name", .text library.name), ("version", .text library.version)]),
   ("imports", .list (f.content.imports.map .text)),
   ("version_pragmas", .list (f.content.versionPragmas.map .text))]
  ++ (if withContent then [("raw_content", .text f.content.raw)] else [])

end ResolvedFile

end SourceNames
