-- The ways in which resolving a source name or an import can fail. Each failure keeps the
-- names it is about; its code, title and message are derived in one place.

namespace SourceNames

/-! ## Failures -/

/-- A failed resolution. -/
inductive Failure
  | absolutePath (name : String)
  | relativePath (name : String)
  | backslashes (name : String)
  | notNormalized (name : String)
  | sourceNotFound (file : String)
  | libraryFileNotFound (file : String)
  | wrongCasing (requested actual : String)
  | libraryNotInstalled (library : String)
  | importProtocol (importer imported protocol : String)
  | importBackslashes (importer imported : String)
  | importAbsolutePath (importer imported : String)
  | importOutsideProject (importer imported : String)
  | importIllegal (importer imported : String)
  | importWrongCasing (importer imported : String)
  | importNotFound (importer imported : String)
  deriving DecidableEq, Repr

/-! ## Families -/

/-- The three families of failures: malformed names, imports that cannot be followed, and
all others. -/
inductive FailureFamily
  | sourceName
  | importEdge
  | other
  deriving DecidableEq, Repr

/-- The class names above a failure of the family, nearest first. -/
def FailureFamily.ancestors : FailureFamily → List String
  | .sourceName => ["InvalidSourceNameError", "ResolverError"]
  | .importEdge => ["InvalidImportError", "ResolverError"]
  | .other => ["ResolverError"]

def Failure.family : Failure → FailureFamily
  | .absolutePath _ | .relativePath _ | .backslashes _ | .notNormalized _ => .sourceName
  | .sourceNotFound _ | .libraryFileNotFound _ | .wrongCasing _ _ | .libraryNotInstalled _ =>
    .other
  | _ => .importEdge

/-! ## Wording -/

/-- The stable number of a failure. -/
def Failure.code : Failure → Nat
  | .absolutePath _ => 413
  | .relativePath _ => 414
  | .backslashes _ => 415
  | .notNormalized _ => 416
  | .sourceNotFound _ => 400
  | .libraryFileNotFound _ => 402
  | .wrongCasing _ _ => 411
  | .libraryNotInstalled _ => 401
  | .importProtocol _ _ _ => 406
  | .importBackslashes _ _ => 407
  | .importAbsolutePath _ _ => 408
  | .importOutsideProject _ _ => 409
  | .importIllegal _ _ => 403
  | .importWrongCasing _ _ => 410
  | .importNotFound _ _ => 412

def Failure.label : Failure → String
  | .absolutePath _ => "AbsolutePathNotAllowedError"
  | .relativePath _ => "RelativePathNotAllowedError"
  | .backslashes _ => "BackslashesNotAllowedError"
  | .notNormalized _ => "NotNormalizedError"
  | .sourceNotFound _ => "SourceFileNotFoundError"
  | .libraryFileNotFound _ => "LibraryFileNotFoundError"
  | .wrongCasing _ _ => "WrongCasingError"
  | .libraryNotInstalled _ => "LibraryNotInstalledError"
  | .importProtocol _ _ _ => "InvalidImportProtocolError"
  | .importBackslashes _ _ => "InvalidImportBackslashError"
  | .importAbsolutePath _ _ => "InvalidImportAbsolutePathError"
  | .importOutsideProject _ _ => "InvalidImportOutsideOfProjectError"
  | .importIllegal _ _ => "IllegalImportError"
  | .importWrongCasing _ _ => "InvalidImportWrongCasingError"
  | .importNotFound _ _ => "ImportedFileNotFoundError"

/-- The short name of a failure. -/
def Failure.title : Failure → String
  | .absolutePath _ => "Invalid source name: absolute path"
  | .relativePath _ => "Invalid source name: relative path"
  | .backslashes _ => "Invalid source name: backslashes"
  | .notNormalized _ => "Invalid source name: not normalized"
  | .sourceNotFound _ => "File not found"
  | .libraryFileNotFound _ => "Library file not found"
  | .wrongCasing _ _ => "Wrong source name casing"
  | .libraryNotInstalled _ => "Library not installed"
  | .importProtocol _ _ _ => "Invalid import protocol"
  | .importBackslashes _ _ => "Invalid import: backslashes"
  | .importAbsolutePath _ _ => "Invalid import: absolute path"
  | .importOutsideProject _ _ => "Import outside of the project"
  | .importIllegal _ _ => "Illegal import"
  | .importWrongCasing _ _ => "Import with wrong casing"
  | .importNotFound _ _ => "Imported file not found"

def Failure.message : Failure → String
  | .absolutePath name =>
    s!"Invalid source name {name}. Expected a source name but found an absolute path."
  | .relativePath name => s!"Invalid source name {name}. Source names can't be relative paths."
  | .backslashes name =>
    s!"Invalid source name {name}. Source names must use / instead of \\, even on Windows."
  | .notNormalized name =>
    s!"Invalid source name {name}. Source names must be normalized (no '.' or '..' segments, "
      ++ "no repeated slashes)."
  | .sourceNotFound file => s!"File {file} doesn't exist. Check that the path is correct."
  | .libraryFileNotFound file =>
    s!"File {file} doesn't exist in its library. "
      ++ "Check that the installed library version contains it."
  | .wrongCasing requested actual =>
    s!"Trying to resolve the file {requested} but its correct case-sensitive name is {actual}"
  | .libraryNotInstalled library =>
    s!"Library {library} is not installed. Try installing it using npm."
  | .importProtocol importer imported protocol =>
    s!"Invalid import {imported} from {importer}. "
      ++ s!"Imports via {protocol}:// are not supported."
  | .importBackslashes importer imported =>
    s!"Invalid import {imported} from {importer}. "
      ++ "Imports must use / instead of \\, even on Windows."
  | .importAbsolutePath importer imported =>
    s!"Invalid import {imported} from {importer}. "
      ++ "Imports with absolute paths are not supported."
  | .importOutsideProject importer imported =>
    s!"Invalid import {imported} from {importer}. "
      ++ "The file being imported is outside of the project."
  | .importIllegal importer imported =>
    s!"Illegal import {imported} from {importer}. "
      ++ "Libraries can only import other libraries by their source name, not by relative path."
  | .importWrongCasing importer imported =>
    s!"Trying to import {imported} from {importer}, but it has an incorrect casing."
  | .importNotFound importer imported => s!"File {imported}, imported from {importer}, not found."

/-- The names a failure keeps, each under its own name. -/
def Failure.fields : Failure → List (String × String)
  | .absolutePath name | .relativePath name | .backslashes name | .notNormalized name =>
    [("name", name)]
  | .sourceNotFound file | .libraryFileNotFound file => [("file", file)]
  | .wrongCasing requested actual => [("requested", requested), ("actual", actual)]
  | .libraryNotInstalled library => [("library", library)]
  | .importProtocol importer imported protocol =>
    [("protocol", protocol), ("importer", importer), ("imported", imported)]
  | .importBackslashes importer imported | .importAbsolutePath importer imported
  | .importOutsideProject importer imported | .importIllegal importer imported
  | .importWrongCasing importer imported | .importNotFound importer imported =>
    [("importer", importer), ("imported", imported)]

/-! ## Reports -/

/-- Everything that is shown of a failure. -/
structure FailureReport where
  code : Nat
  label : String
  title : String
  message : String
  fields : List (String × String)
  ancestors : List String
  deriving DecidableEq, Repr

def Failure.report (f : Failure) : FailureReport :=
  { code := f.code
    label := f.label
    title := f.title
    message := f.message
    fields := f.fields
    ancestors := f.family.ancestors }

/-- The report of a failure of no kind in particular, which only has a family and words of
its own. -/
def FailureFamily.report (family : FailureFamily) (message : String)
    (fields : List (String × String)) : FailureReport :=
  { code := 0
    label := family.ancestors.headD ""
    title := "Resolver error"
    message
    fields
    ancestors := family.ancestors.drop 1 }

end SourceNames
