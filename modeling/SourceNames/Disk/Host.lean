-- The machine a resolver runs on: a tree of files, a working directory, environment variables
-- and the folder that the program is installed in. The questions a program asks about paths are
-- answered here. The machine lets everything be read, and it bounds the length of a name but not
-- that of a whole path: a refused permission and a path of 4096 bytes or more are no faults here.

import SourceNames.Disk.Lookup
import SourceNames.Text.Quoted

namespace SourceNames

/-- Environment variables with their values. -/
abbrev Environment := List (String × String)

/-- The value of a variable, empty if it is not set. -/
def Environment.value (env : Environment) (name : String) : String :=
  (env.lookup name).getD ""

/-- A tree of files, a place in it to work from, environment variables, and the settled folder of
the program itself. -/
structure Host where
  top : Node
  workingPlace : Place
  env : Environment
  program : List EntryName

/-! ## System faults -/

/-- Why a system call failed. -/
inductive SystemFault
  | missing
  | alreadyThere
  | notFolder
  | isFolder
  | nameTooLong
  | tooManyLinks
  deriving DecidableEq, Repr

def SystemFault.number : SystemFault → Nat
  | .missing => 2
  | .alreadyThere => 17
  | .notFolder => 20
  | .isFolder => 21
  | .nameTooLong => 36
  | .tooManyLinks => 40

def SystemFault.text : SystemFault → String
  | .missing => "No such file or directory"
  | .alreadyThere => "File exists"
  | .notFolder => "Not a directory"
  | .isFolder => "Is a directory"
  | .nameTooLong => "File name too long"
  | .tooManyLinks => "Too many levels of symbolic links"

def SystemFault.label : SystemFault → String
  | .missing => "FileNotFoundError"
  | .alreadyThere => "FileExistsError"
  | .notFolder => "NotADirectoryError"
  | .isFolder => "IsADirectoryError"
  | .nameTooLong => "OSError"
  | .tooManyLinks => "OSError"

/-- A system call that failed: why, on which path, and in making a link with which target. -/
structure CallFault where
  fault : SystemFault
  path : String
  target : Option String
  deriving DecidableEq, Repr

def SystemFault.on (fault : SystemFault) (path : Path) : CallFault := ⟨fault, path.text, none⟩

def CallFault.message (call : CallFault) : String :=
  let names :=
    match call.target with
    | none => quoted call.path
    | some target => s!"{quoted target} -> {quoted call.path}"
  s!"[Errno {call.fault.number}] {call.fault.text}: {names}"

/-- The fault that a lookup ends with. -/
def LookupFault.toSystem : LookupFault → SystemFault
  | .missing _ => .missing
  | .notFolder => .notFolder
  | .tooManyLinks => .tooManyLinks
  | .nameTooLong => .nameTooLong

namespace Host

/-! ## Finding nodes -/

/-- Where looking up a path starts. -/
def startOf (host : Host) (path : Path) : Place :=
  match path.anchor with
  | .relative => host.workingPlace
  | _ => []

/-- The place a path leads to. -/
def place (host : Host) (path : Path) : Except LookupFault Place :=
  follow host.top mostLinks (host.startOf path) path.parts

/-- The node a path leads to. -/
def node (host : Host) (path : Path) : Except LookupFault Node :=
  match host.place path with
  | .error fault => .error fault
  | .ok place =>
    match host.top.at? place with
    | some node => .ok node
    | none => .error (.missing none)

/-- Asks something of the node a path leads to. A path that leads nowhere answers no, except
that a name too long to look up is a fault. -/
def asks (host : Host) (path : Path) (question : Node → Bool) :
    Except CallFault Bool :=
  match host.node path with
  | .ok node => .ok (question node)
  | .error .nameTooLong => .error (SystemFault.nameTooLong.on path)
  | .error _ => .ok false

/-- Whether a path leads to anything. -/
def existsAt (host : Host) (path : Path) : Except CallFault Bool :=
  host.asks path fun _ => true

def isFile (host : Host) (path : Path) : Except CallFault Bool :=
  host.asks path fun
    | .file _ _ => true
    | _ => false

/-- The names in the folder a path leads to, if it leads to one. -/
def list? (host : Host) (path : Path) : Except CallFault (Option (List EntryName)) :=
  match host.node path with
  | .ok (.folder entries) => .ok (some (entries.map (·.1)))
  | .ok _ => .ok none
  | .error .nameTooLong => .error (SystemFault.nameTooLong.on path)
  | .error _ => .ok none

/-- Opens the file a path leads to: its bytes and the time of its last status change. -/
def openFile (host : Host) (path : Path) : Except CallFault (List UInt8 × Int) :=
  match host.node path with
  | .ok (.file bytes changed) => .ok (bytes, changed)
  | .ok _ => .error (SystemFault.isFolder.on path)
  | .error fault => .error (fault.toSystem.on path)

/-! ## Settled paths -/

/-- A path read from the working directory, in its lexical normal form. -/
def absolute (host : Host) (path : Path) : Path :=
  match path.anchor with
  | .relative => (Path.mk .root (host.workingPlace ++ path.parts)).collapse
  | _ => path.collapse

/-- The target of the link that a path names, none of its folders being a link. -/
def linkAt? (host : Host) (path : Path) : Option String :=
  match host.top.at? (host.absolute path).parts with
  | some (.link target) => some target
  | _ => none

/-- A bound on the number of links being settled at a time. Each is met under a path of its
own: the absolute one, or a relative one that climbs no higher than the top. -/
def settleDepth (host : Host) : Nat :=
  host.top.linkCount * (host.workingPlace.length + 2)

/-- The absolute path with all links followed, as far as anything exists. Where a link leads
back to itself the answer is the path that cannot be settled, if it leads nowhere. -/
def settled (host : Host) (path : Path) : Except Path Path :=
  let anchor := if path.anchor = .relative then Anchor.relative else .root
  match settle host.linkAt? host.settleDepth [] ⟨anchor, []⟩ path.parts with
  | .ok (settled, _) => .ok (host.absolute settled)
  | .error text =>
    let unsettled := host.absolute (Path.ofText text)
    match host.place unsettled with
    | .error .tooManyLinks => .error unsettled
    | _ => .ok unsettled

end Host

end SourceNames
