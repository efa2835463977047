-- Source names and imports resolved to files. A name is checked, told to be of the project
-- or of a library, found on disk with exactly its spelling, and read; an import is first
-- taken to the source name it means.

import SourceNames.Disk.Casing
import SourceNames.Package
import SourceNames.ResolvedFile
import SourceNames.Session

namespace SourceNames

/-- A project root, settled and present, with the finder and the parser to use. -/
structure Resolver where
  root : Path
  finder : PackageFinder
  parser : SourceParser

namespace Resolver

/-- A resolver for a root, which must exist. -/
def create (host : Host) (root : String) (finder : PackageFinder) (parser : SourceParser) :
    Except Fault Resolver :=
  match settledPath host (Path.ofText root) with
  | .error fault => .error fault
  | .ok settled =>
    match onSystem (host.existsAt settled) with
    | .error fault => .error fault
    | .ok false => .error (.rootMissing settled)
    | .ok true => .ok ⟨settled, finder, parser⟩

def text (r : Resolver) : String := s!"Resolver({r.root.text})"

end Resolver

/-! ## Source names -/

/-- What is wrong with the form of a source name, if anything is: an absolute path, a leading
dot, a backslash, or a form that is not canonical, in this order. -/
def nameFailure? (name : String) : Option Failure :=
  if beginsWith "/" name then some (.absolutePath name)
  else if beginsWith "." name then some (.relativePath name)
  else if name.toList.contains '\\' then some (.backslashes name)
  else if normalize name ≠ name then some (.notNormalized name)
  else none

/-- Accepts a well-formed source name. -/
def validate (name : String) : Except Fault Unit :=
  match nameFailure? name with
  | some f => .error (.of f)
  | none => .ok ()

/-- A way to tell the names of the project from those of libraries. -/
abbrev Classifier := (name : String) → Except Fault Bool

namespace Resolver

/-- Whether a name is one of the project: it does not go through an installation directory,
and something is at it below the root, up to case. -/
def isLocal (r : Resolver) (host : Host) : Classifier := fun name =>
  if hasSegment name modulesDirectory then .ok false
  else match onSystem (trueCaseName host name r.root) with
    | .error fault => .error fault
    | .ok found => .ok found.isSome

end Resolver

/-! ## Loading -/

/-- Checks that a name is found below a directory, and with its exact spelling. -/
def checkCasing (host : Host) (name : String) (directory : Path) (notFound : String → Failure) :
    Except Fault Unit :=
  match onSystem (trueCaseName host name directory) with
  | .error fault => .error fault
  | .ok none => .error (.of (notFound name))
  | .ok (some actual) =>
    if actual = name then .ok () else .error (.of (.wrongCasing name actual))

/-- The instant of a status change, which must lie in a year that can be written. -/
def instantOf (changed : Int) : Except Fault Timestamp :=
  match Timestamp.ofMicros changed with
  | .ok instant => .ok instant
  | .error year => .error (.yearOutOfRange year)

namespace Resolver

/-- Reads a file that is known to be there, and has its text parsed. -/
def load (r : Resolver) (host : Host) (name : String) (path : Path)
    (library : Option LibraryInfo) : Run ResolvedFile := do
  let (raw, changed) ← answer (readTextFile host path)
  let modified ← answer (instantOf changed)
  let found ← parseWith r.parser raw path.text
  pure
    { sourceName := name
      absolutePath := path.text
      content := ⟨raw, found.imports, found.versionPragmas⟩
      modified
      library }

def resolveLocal (r : Resolver) (host : Host) (name : String) : Run ResolvedFile := do
  answer (checkCasing host name r.root .sourceNotFound)
  r.load host name (r.root.below name) none

/-- Finds the package of a library; that of the toolchain need not be installed. -/
def locatePackage (r : Resolver) (host : Host) (library : String) : Run Path := do
  record (.askedFinder library r.root)
  match ← answer (r.finder host library r.root) with
  | some found =>
    match found.candidate with
    | some candidate => record (.foundPackage library candidate)
    | none => pure ()
    pure found.file
  | none =>
    if library = toolchainLibrary then
      let file := packageIn (toolchainRoot host) toolchainLibrary
      record (.usedToolchain library file)
      pure file
    else throw (.of (.libraryNotInstalled library))

def resolveFromLibrary (r : Resolver) (host : Host) (name : String) : Run ResolvedFile := do
  let library := libraryName name
  if library = name then throw (.of (.libraryFileNotFound name))
  let file ← r.locatePackage host library
  let directory := libraryRoot file library
  answer (checkCasing host name directory .libraryFileNotFound)
  let version ← answer (packageVersion host file)
  record (.libraryAt library version directory)
  r.load host name (directory.below name) (some ⟨library, version⟩)

/-- Resolves a source name, its kind told by the classifier. -/
def resolveWith (r : Resolver) (host : Host) (classify : Classifier) (name : String) :
    Run ResolvedFile := do
  answer (validate name)
  if ← answer (classify name) then
    record (.toProject name)
    r.resolveLocal host name
  else
    record (.toLibrary name)
    r.resolveFromLibrary host name

def resolveSourceName (r : Resolver) (host : Host) (name : String) : Run ResolvedFile :=
  r.resolveWith host (r.isLocal host) name

end Resolver

/-! ## Imports -/

/-- The name that an import means, and whether it was shortened at an installation
directory. -/
structure ImportedName where
  name : String
  throughModules : Bool
  deriving DecidableEq, Repr

/-- The source name that an import means, as far as its text and the importing file tell.
An import that is not relative is a source name already. A relative one is read from the
directory of the importing file; from a file of the project it may go through an installation
directory but not above the root, and from a library it has to stay in that library. -/
def importedName (importer : ResolvedFile) (imported : String) : Except Failure ImportedName :=
  let source := importer.sourceName
  match scheme? imported with
  | some protocol => .error (.importProtocol source imported protocol)
  | none =>
    if imported.toList.contains '\\' then .error (.importBackslashes source imported)
    else if beginsWith "/" imported then .error (.importAbsolutePath source imported)
    else if !isRelative imported then .ok ⟨normalize imported, false⟩
    else
      let name := normalize (joinNames (directoryOf source) imported)
      match importer.library with
      | none =>
        match throughModules? name with
        | some direct => .ok ⟨direct, true⟩
        | none =>
          if name = ".." ∨ beginsWith "../" name then
            .error (.importOutsideProject source imported)
          else .ok ⟨name, false⟩
      | some library =>
        if beginsWith (library.name ++ "/") name then .ok ⟨name, false⟩
        else .error (.importIllegal source imported)

/-- Names the source that an import means and writes down the result. -/
def nameImport (importer : ResolvedFile) (imported : String) : Run String := do
  match importedName importer imported with
  | .error f => throw (.of f)
  | .ok t =>
    record (.importNamed imported importer.sourceName t.name t.throughModules)
    pure t.name

/-- How a failure is told of an import: a file that is not there, or is spelled another way,
is a failure of the import, and the failure of the name becomes its cause. -/
def importFailure? (importer imported : String) : Failure → Option Failure
  | .sourceNotFound _ | .libraryFileNotFound _ => some (.importNotFound importer imported)
  | .wrongCasing _ _ => some (.importWrongCasing importer imported)
  | _ => none

namespace Resolver

/-- Resolves an import of a file, the kind of its source name told by the classifier. -/
def importWith (r : Resolver) (host : Host) (classify : Classifier) (importer : ResolvedFile)
    (imported : String) : Run ResolvedFile := do
  let name ← nameImport importer imported
  tryCatch (r.resolveWith host classify name) fun fault =>
    match fault with
    | .failed f cause =>
      match importFailure? importer.sourceName imported f with
      | some told => do
        record (.importFailed imported importer.sourceName f.title)
        throw (.failed told (some f))
      | none => throw (.failed f cause)
    | other => throw other

def resolveImport (r : Resolver) (host : Host) (importer : ResolvedFile) (imported : String) :
    Run ResolvedFile :=
  r.importWith host (r.isLocal host) importer imported

/-- Resolves imports of a file one after the other, up to the first that fails. -/
def importAllWith (r : Resolver) (host : Host) (classify : Classifier)
    (importer : ResolvedFile) : List String → Run (List ResolvedFile)
  | [] => pure []
  | imported :: rest => do
    let file ← r.importWith host classify importer imported
    let files ← r.importAllWith host classify importer rest
    pure (file :: files)

/-- Resolves all imports of a file, in source order, up to the first that fails. -/
def resolveImports (r : Resolver) (host : Host) (importer : ResolvedFile) :
    Run (List ResolvedFile) :=
  r.importAllWith host (r.isLocal host) importer importer.content.imports

end Resolver

end SourceNames
