-- How a path leads to a place in a tree. Links are followed on the way, at most forty of
-- them, and each way of failing is kept apart. A path can also be settled: freed of links
-- as far as anything exists, without asking that it leads anywhere. A relative path is
-- settled as a relative one, so a link may be met under two paths.

import SourceNames.Disk.Tree
import SourceNames.Path

namespace SourceNames

/-- A place in a tree: the names that lead to it from the top, none of them a link. -/
abbrev Place := List String

/-- Why a path leads nowhere. If only its last name is not there, the place where that name
would be is known. -/
inductive LookupFault
  | missing (vacant : Option Place)
  | notFolder
  | tooManyLinks
  | nameTooLong
  deriving DecidableEq, Repr

/-! ## Following a path -/

/-- The greatest number of links followed for one path. -/
def mostLinks : Nat := 40

/-- Where following a link's target starts: at the top or in the folder of the link. -/
def targetStart (here : Place) (target : String) : Place :=
  if beginsWith "/" target then [] else here

/-- Follows segments from a place. Each segment is looked up in a folder; a link hands its
target's segments, and those still to come, to `onLink`. -/
def followSegments (top : Node)
    (onLink : Place → List String → Except LookupFault Place) (here : Place) :
    List String → Except LookupFault Place
  | [] => .ok here
  | segment :: rest =>
    match top.at? here with
    | some (.folder entries) =>
      if !Path.isName segment then followSegments top onLink here rest
      else if segment = ".." then followSegments top onLink here.dropLast rest
      else if longestName < segment.utf8ByteSize then .error .nameTooLong
      else match (Node.folder entries).child? segment with
        | none => .error (.missing (if rest.isEmpty then some (here ++ [segment]) else none))
        | some (.link target) => onLink (targetStart here target) (segments target ++ rest)
        | some _ => followSegments top onLink (here ++ [segment]) rest
    | _ => .error .notFolder

/-- Follows segments from a place, with a number of links that may still be followed. -/
def follow (top : Node) : (links : Nat) → Place → List String → Except LookupFault Place
  | 0 => followSegments top fun _ _ => .error .tooManyLinks
  | links + 1 => followSegments top (follow top links)

/-! ## Settling a path -/

/-- What is known of links while a path is being settled: the path that each one met so far
settles at, or nothing while that is still being found out. -/
abbrev LinkNotes := List (Path × Option Path)

/-- The path that a link's target is read from, given that of the link's folder. -/
def targetOrigin (folder : Path) (target : String) : Path :=
  if beginsWith "/" target then ⟨.root, []⟩ else folder

/-- Settles segments from a settled path, `linkAt?` telling the targets of links. A name that
is not there, or lies below a file, is taken as written. A link met for the first time is
settled alone by `onLink`, and from then on stands for the path it settled at. A link met
while it is being settled leads back to itself: it stays as it is, with the segments that are
left over, and those left over outside of it, read after it. -/
def settleSegments (linkAt? : Path → Option String)
    (onLink : LinkNotes → Path → List String → Except String (Path × LinkNotes)) :
    LinkNotes → Path → List String → Except String (Path × LinkNotes)
  | notes, here, [] => .ok (here, notes)
  | notes, here, segment :: rest =>
    if !Path.isName segment then settleSegments linkAt? onLink notes here rest
    else
      let next := here.step segment
      if segment = ".." then settleSegments linkAt? onLink notes next rest
      else match linkAt? next with
        | none => settleSegments linkAt? onLink notes next rest
        | some target =>
          match notes.lookup next with
          | some (some settled) => settleSegments linkAt? onLink notes settled rest
          | some none => .error (joinNames next.text (joinSegments rest))
          | none =>
            match onLink ((next, none) :: notes) (targetOrigin here target) (segments target) with
            | .error unsettled => .error (joinNames unsettled (joinSegments rest))
            | .ok (settled, notes) =>
              settleSegments linkAt? onLink ((next, some settled) :: notes) settled rest

/-- Settles segments from a settled path; `depth` bounds how many links can be in the course
of being settled at a time. -/
def settle (linkAt? : Path → Option String) :
    (depth : Nat) → LinkNotes → Path → List String → Except String (Path × LinkNotes)
  | 0 => settleSegments linkAt? fun _ origin target =>
    .error (joinNames origin.text (joinSegments target))
  | depth + 1 => settleSegments linkAt? (settle linkAt? depth)

end SourceNames
