-- The program itself. It takes a picture of the folders that a command can look into, has
-- the command carried out on the picture, and prints what came of it. The picture is coarser than
-- the disk in three ways. It holds the bytes of sources, of package descriptions and of the named
-- file, so another file that is imported is seen as empty. A link that leads nowhere is not in it.
-- The time of the last change of a file's bytes stands for that of its status, which cannot be
-- asked for.

import SourceNames.Cli.Run
import SourceNames.Disk.Change

namespace SourceNames

/-! ## Taking a picture of the disk -/

/-- Whether the bytes of a file can be needed: those of sources, of package descriptions and
of the file that was named. Other files are only known to be there. -/
def isWanted (named fileName : String) : Bool :=
  fileName == packageFile || fileName.endsWith ".sol" || fileName == (Path.ofText named).name

/-- The time of a file's last change, in microseconds. -/
def changeTime (metadata : IO.FS.Metadata) : Int :=
  metadata.modified.sec * 1000000 + (metadata.modified.nsec.toNat / 1000 : Nat)

/-- The file at a path. -/
def pictureFile (named path fileName : String) (metadata : IO.FS.Metadata) : IO Node := do
  if isWanted named fileName then
    let bytes ← IO.FS.readBinFile path
    pure (.file bytes.toList (changeTime metadata))
  else pure (.file [] (changeTime metadata))

/-- What was seen of a part of the disk: the entries, and folders still to look into. -/
structure Picture where
  entries : List (Path × Node)
  folders : List String

/-- One more entry of a folder. A link is taken with the settled path it leads to, which is
then part of the picture too; one that leads nowhere is left out. -/
def Picture.addEntry (picture : Picture) (named : String) (entry : IO.FS.DirEntry) :
    IO Picture := do
  let path := entry.path.toString
  let add (picture : Picture) (path : String) (node : Node) : Picture :=
    { picture with entries := (Path.ofText path, node) :: picture.entries }
  let metadata ← entry.path.symlinkMetadata
  match metadata.type with
  | .dir => pure { add picture path .emptyFolder with folders := path :: picture.folders }
  | .symlink =>
    try
      let target ← IO.FS.realPath entry.path
      let metadata ← target.metadata
      let linked := add picture path (.link target.toString)
      match metadata.type with
      | .dir => pure { linked with folders := target.toString :: linked.folders }
      | _ =>
        let file ← pictureFile named target.toString (target.fileName.getD "") metadata
        pure (add linked target.toString file)
    catch _ => pure picture
  | _ => pure (add picture path (← pictureFile named path entry.fileName metadata))

/-- The entries of a folder, none if it cannot be looked into. -/
def entriesOf (folder : String) : IO (Array IO.FS.DirEntry) := do
  try (← IO.FS.realPath folder).readDir catch _ => pure #[]

/-- Looks into folders, each once, and into those found in them, up to a number of them. -/
def takePicture (named : String) : (limit : Nat) → (seen : List String) → Picture → IO Picture
  | 0, _, picture => pure picture
  | limit + 1, seen, picture => do
    match picture.folders with
    | [] => pure picture
    | folder :: rest =>
      let picture := { picture with folders := rest }
      if seen.contains folder then takePicture named limit seen picture
      else
        let picture ← (← entriesOf folder).foldlM (fun p entry => p.addEntry named entry) picture
        takePicture named limit (folder :: seen) picture

/-- The greatest number of folders looked into. -/
def mostFolders : Nat := 100000

/-- The links on the way to a path, each at its own place and with the settled path it leads
to. A name is a link if it does not settle as itself in its settled folder. -/
def linksOnTheWay (path : Path) : IO (List (Path × Node)) :=
  path.withAncestors.reverse.filterMapM fun part => do
    try
      let folder ← IO.FS.realPath part.parent.text
      let target ← IO.FS.realPath part.text
      let place := (Path.ofText folder.toString).join part.name
      if part.name = ".." || place.text = target.toString then pure none
      else pure (some (place, .link target.toString))
    catch _ => pure none

/-- The picture that a command starts from: the links on the way to the root and to the
folders that the environment lists, and as folders to look into the settled root, the
installation directories above it, those listed, and the toolchain's own. -/
def firstPicture (root workingFolder : String) (bare : Host) : IO Picture := do
  let root := (Path.ofText workingFolder).join root
  let listed := (listedPaths (bare.env.value "NODE_PATH")).map fun folder =>
    (Path.ofText workingFolder).join folder.text
  try
    let settled := Path.ofText (← IO.FS.realPath root.text).toString
    let links ← (root :: listed).mapM linksOnTheWay
    let folders := settled :: ancestorModules settled ++ listed ++ [toolchainRoot bare]
    pure ⟨links.flatten, folders.map Path.text⟩
  catch _ => pure ⟨[], []⟩

/-- The variables that matter to the program, as they are set. -/
def readEnvironment : IO Environment := do
  let names := ["NODE_PATH", "NO_COLOR", "FORCE_COLOR", "TERM", "WT_SESSION", "ANSICON", "TERM_PROGRAM"]
  names.filterMapM fun name => do
    pure ((← IO.getEnv name).map fun value => (name, value))

/-- A host without files, with the environment and the settled folder of the program. -/
def bareHost : IO Host := do
  let program := Path.ofText (← IO.appDir).toString
  let bare := Host.ofTree .emptyFolder (← readEnvironment)
  pure { bare with program := program.parts.filterMap EntryName.ofText? }

/-- A host with the entries of a picture. What was seen twice is there already. -/
def pictured (entries : List (Path × Node)) (workingFolder : Path) (bare : Host) : Host :=
  let host := entries.foldl (fun (host : Host) entry =>
    (host.change (Host.write entry.1 entry.2)).2) bare
  (host.change (Host.workIn workingFolder)).2

/-- The host that a command line is to be carried out on. -/
def readHost (words : List String) : IO Host := do
  let bare ← bareHost
  let workingFolder := (← IO.currentDir).toString
  match readCommandLine words with
  | .run command =>
    let first ← firstPicture (command.settings.root.getD ".") workingFolder bare
    let picture ← takePicture command.name mostFolders [] first
    pure (pictured picture.entries (Path.ofText workingFolder) bare)
  | _ => pure (pictured [] (Path.ofText workingFolder) bare)

end SourceNames

open SourceNames

/-- Carries out the command line and ends with its exit code. -/
def main (words : List String) : IO UInt32 := do
  let output ← IO.getStdout
  let errors ← IO.getStderr
  let host ← readHost words
  match runCommandLine host ⟨← output.isTty, .unix⟩ words with
  | .ok transcript =>
    errors.putStr transcript.errors
    output.putStr transcript.output
    pure (UInt32.ofNat transcript.exit)
  | .error fault =>
    errors.putStr (textLines [s!"{fault.label}: {fault.message}"])
    pure 1
