-- The spelling that a name has on disk. Each segment is matched against the listing of its
-- folder, the same letter for letter if it is there, and else up to case.

import SourceNames.Disk.Host
import SourceNames.Text.CaseFold

namespace SourceNames

/-- The first of several names in the order of their code points. -/
def firstName : List EntryName → Option EntryName
  | [] => none
  | name :: rest =>
    match firstName rest with
    | none => some name
    | some other => if other.text < name.text then some other else some name

/-- The entry that a segment means in a folder with the given names: the entry spelled that
way, or else the first of those that are the same up to case. -/
def matchEntry (names : List EntryName) (segment : String) : Option EntryName :=
  match names.find? (·.text == segment) with
  | some name => some name
  | none => firstName (names.filter fun name => sameFolding name.text segment)

/-- Matches segments one by one from a folder on; the empty segment and the dot are passed
over, and anything else must be looked up in a folder. -/
def trueCase (host : Host) (folder : Path) :
    List String → Except CallFault (Option (List EntryName))
  | [] => .ok (some [])
  | segment :: rest =>
    if !Path.isName segment then trueCase host folder rest
    else match host.list? folder with
      | .error fault => .error fault
      | .ok none => .ok none
      | .ok (some names) =>
        match matchEntry names segment with
        | none => .ok none
        | some entry =>
          match trueCase host { folder with parts := folder.parts ++ [entry.text] } rest with
          | .error fault => .error fault
          | .ok found => .ok (found.map (entry :: ·))

/-- The spelling on disk of a slash name below a folder, if every segment of it is found. -/
def trueCaseName (host : Host) (name : String) (folder : Path) :
    Except CallFault (Option String) :=
  match trueCase host folder (segments name) with
  | .error fault => .error fault
  | .ok found => .ok (found.map fun entries => joinSegments (entries.map (·.text)))

end SourceNames
