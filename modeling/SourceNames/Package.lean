-- Installed libraries: where a library is looked for, which directory its files are named
-- from, and the version it declares.

import SourceNames.Fault
import SourceNames.ImportString

namespace SourceNames

/-- The file that describes an installed package. -/
def packageFile : String := "package.json"

/-- The library that comes with the toolchain. -/
def toolchainLibrary : String := "@nomiclabs/buidler"

/-- Where the toolchain keeps its own library: in a folder beside the program. -/
def toolchainRoot (host : Host) : Path :=
  ⟨.root, host.program.map (·.text) ++ ["builtin"]⟩

/-! ## Finders -/

/-- A package that was found: its description file, and the path under which a search came
upon it, if it was searched for. -/
structure FoundPackage where
  file : Path
  candidate : Option Path
  deriving DecidableEq, Repr

/-- A way to find the package of a given name from a directory. -/
abbrev PackageFinder := Host → (name : String) → (directory : Path) →
  Except Fault (Option FoundPackage)

/-- A finder that only knows what a table tells. -/
def tableFinder (table : List (String × Path)) : PackageFinder := fun _ name _ =>
  .ok ((table.lookup name).map fun file => ⟨file, none⟩)

/-! ## The search among installation directories -/

/-- The settled form of a path, unless a link loops. -/
def settledPath (host : Host) (path : Path) : Except Fault Path :=
  match host.settled path with
  | .ok settled => .ok settled
  | .error loop => .error (.linkLoop loop)

/-- The installation directories of a directory and of those above it, nearest first; a
directory that is itself an installation directory holds none. -/
def ancestorModules (directory : Path) : List Path :=
  (directory.withAncestors.filter (·.name ≠ modulesDirectory)).map
    fun p => { p with parts := p.parts ++ [modulesDirectory] }

/-- The directories that a path variable lists between colons. -/
def listedPaths (value : String) : List Path :=
  (((cutAt ':' value.toList).map String.ofList).filter (· ≠ "")).map Path.ofText

/-- All directories a package is looked for in, in order: those above the start, those the
environment lists, and further ones. -/
def searchDirectories (extra : List Path) (host : Host) (start : Path) :
    Except Fault (List Path) :=
  match settledPath host start with
  | .error fault => .error fault
  | .ok settled =>
    .ok (ancestorModules settled ++ listedPaths (host.env.value "NODE_PATH") ++ extra)

/-- The description file of a package in an installation directory. -/
def packageIn (directory : Path) (name : String) : Path :=
  (directory.join name).join packageFile

/-- The first directory that holds the package's description file. -/
def firstPackage (host : Host) (name : String) : List Path → Except Fault (Option FoundPackage)
  | [] => .ok none
  | directory :: rest =>
    let candidate := packageIn directory name
    match onSystem (host.isFile candidate) with
    | .error fault => .error fault
    | .ok false => firstPackage host name rest
    | .ok true =>
      match settledPath host candidate with
      | .error fault => .error fault
      | .ok settled => .ok (some ⟨settled, some candidate⟩)

/-- The finder that searches installation directories, with further ones to search last. -/
def modulesFinder (extra : List Path) : PackageFinder := fun host name directory =>
  match searchDirectories extra host directory with
  | .error fault => .error fault
  | .ok directories => firstPackage host name directories

/-- How the search among installation directories is shown. -/
def modulesFinderText (extra : List Path) : String :=
  "NodeModulesFinder(extra_paths=[" ++ quotedList (extra.map Path.text) ++ "])"

/-! ## The package tree -/

/-- A path climbed once for each segment of a name. -/
def climb (path : Path) (name : String) : Path :=
  (segments name).foldl (fun p _ => p.parent) path

/-- The directory that the names of a library's files start from: that of the description
file, climbed once for each segment of the library's name. -/
def libraryRoot (file : Path) (library : String) : Path :=
  climb file.parent library

/-- The version that a package's description gives, in its plain form; none is empty. -/
def versionOf : JsonValue → Except Fault String
  | .object members => .ok (((members.lookup "version").map JsonValue.plain).getD "")
  | other => .error (.notObject other.kind)

/-- Reads a file as UTF-8 text, and the time of its last status change. -/
def readTextFile (host : Host) (path : Path) : Except Fault (String × Int) :=
  match onSystem (host.openFile path) with
  | .error fault => .error fault
  | .ok (bytes, changed) =>
    match decodeUtf8 bytes with
    | .error fault => .error (.notUtf8 fault)
    | .ok text => .ok (text, changed)

/-- Reads the version that a package's description file declares. -/
def packageVersion (host : Host) (file : Path) : Except Fault String :=
  match readTextFile host file with
  | .error fault => .error fault
  | .ok (text, _) =>
    match readJson (unifyNewlines text.toList) with
    | .error fault => .error (.notJson fault)
    | .ok value => versionOf value

end SourceNames
