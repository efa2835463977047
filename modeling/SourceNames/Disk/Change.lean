-- Writing to and removing from a host's tree by path, and setting up a host from a list of
-- entries. Links on the way are followed, and missing folders are made. A call that fails
-- leaves what was done before it.

import SourceNames.Disk.Host

namespace SourceNames

/-- Work that changes a host and may be stopped by a call that fails. -/
abbrev Changing (α : Type) := ExceptT CallFault (StateM Host) α

namespace Host

/-! ## Places for entries -/

/-- The place of the entry that a path names: its folder is looked up, and its last name is
taken as it is, also if it is a link. -/
def entryPlace (host : Host) (path : Path) : Except LookupFault Place :=
  match path.parts.getLast? with
  | none => .ok []
  | some name =>
    match host.place path.parent with
    | .error (.missing _) => .error (.missing none)
    | .error fault => .error fault
    | .ok folder =>
      match host.top.at? folder with
      | some (.folder _) =>
        if name = ".." then .ok folder.dropLast
        else if longestName < name.utf8ByteSize then .error .nameTooLong
        else .ok (folder ++ [name])
      | _ => .error .notFolder

/-- The place of the entry that a path names, if nothing is there yet. -/
def vacantPlace (host : Host) (path : Path) : Except SystemFault Place :=
  match host.entryPlace path with
  | .error fault => .error fault.toSystem
  | .ok place => if (host.top.at? place).isSome then .error .alreadyThere else .ok place

def withNode (host : Host) (place : Place) (node : Node) : Host :=
  { host with top := Node.put node place host.top }

def isFolder (host : Host) (path : Path) : Bool :=
  match host.node path with
  | .ok (.folder _) => true
  | _ => false

/-- Whether a path leads to anything; one that cannot be looked up does not. -/
def leadsSomewhere (host : Host) (path : Path) : Bool :=
  match host.node path with
  | .ok _ => true
  | .error _ => false

/-! ## Making entries -/

/-- Makes a folder where nothing is yet. -/
def makeFolder (path : Path) : Changing Unit := do
  let host ← get
  match host.vacantPlace path with
  | .error fault => throw (fault.on path)
  | .ok place => set (host.withNode place .emptyFolder)

/-- Makes a folder unless the path leads to one already. -/
def ensureFolder (path : Path) : Changing Unit :=
  tryCatch (makeFolder path) fun call => do
    if (← get).isFolder path then pure () else throw call

/-- Makes a folder and the missing ones above it; the names are those of its path, the last
one first. A name above it that is taken by something else is passed over, so it is the
folder below it that cannot be made. -/
def ensureFolderNamed (anchor : Anchor) : List String → Changing Unit
  | [] => pure ()
  | name :: above => do
    if (← get).leadsSomewhere ⟨anchor, above.reverse⟩ then pure ()
    else tryCatch (ensureFolderNamed anchor above) fun call =>
      if call.fault = .alreadyThere then pure () else throw call
    ensureFolder ⟨anchor, (name :: above).reverse⟩

/-- Makes a folder and the missing ones above it. -/
def ensureFolders (path : Path) : Changing Unit :=
  ensureFolderNamed path.anchor path.parts.reverse

/-- Makes a link where nothing is yet. -/
def makeLink (path : Path) (target : String) : Changing Unit := do
  let host ← get
  match host.vacantPlace path with
  | .error fault => throw ⟨fault, path.text, some target⟩
  | .ok place => set (host.withNode place (.link target))

/-- Writes a file where a path leads, in place of one that is there, or else as a new one in
a folder that is there. -/
def writeFile (path : Path) (file : Node) : Changing Unit := do
  let host ← get
  match host.place path with
  | .ok place =>
    if host.isFolder path then throw (SystemFault.isFolder.on path)
    else set (host.withNode place file)
  | .error (.missing (some vacant)) => set (host.withNode vacant file)
  | .error fault => throw (fault.toSystem.on path)

/-- Writes a node at a path, the folders above it being made as needed. A link is made at its
own name; a file goes where the path leads; a folder that is there already stays as it is. -/
def write (path : Path) (node : Node) : Changing Unit := do
  ensureFolders path.parent
  match node with
  | .link target => makeLink path target
  | .file bytes changed => writeFile path (.file bytes changed)
  | .folder _ => ensureFolders path

/-! ## Removing entries -/

/-- Removes what a path names: a link itself, a file, or a folder with all it holds. -/
def remove (path : Path) : Changing Unit := do
  let host ← get
  match host.entryPlace path with
  | .error fault => throw (fault.toSystem.on path)
  | .ok place =>
    if (host.top.at? place).isSome then set { host with top := host.top.remove place }
    else throw (SystemFault.missing.on path)

/-! ## Setting up -/

/-- Writes entries one after the other, up to the first that cannot be written. -/
def writeAll : List (Path × Node) → Changing Unit
  | [] => pure ()
  | (path, node) :: rest => do
    write path node
    writeAll rest

/-- Works in a folder from now on, which is made if it is missing. -/
def workIn (path : Path) : Changing Unit := do
  ensureFolders path
  let host ← get
  match host.place path with
  | .error fault => throw (fault.toSystem.on path)
  | .ok place => set { host with workingPlace := place }

/-- Sets up a host: the entries, and a folder to work in. -/
def furnish (entries : List (Path × Node)) (workingPath : Path) : Changing Unit := do
  writeAll entries
  workIn workingPath

/-- Where the program is installed unless it is told otherwise. -/
def usualProgram : List EntryName := [⟨"toolchain", by decide +kernel⟩]

/-- A host with a tree, working at its top, the program being installed at its usual place. -/
def ofTree (top : Node) (env : Environment) : Host := ⟨top, [], env, usualProgram⟩

/-- Carries out a change: what stopped it, if anything did, and the host then. -/
def change (host : Host) (work : Changing Unit) : Option CallFault × Host :=
  match (ExceptT.run work).run host with
  | (.ok _, changed) => (none, changed)
  | (.error call, changed) => (some call, changed)

end Host

end SourceNames
