-- Paths as a reader of directories understands them: an anchor and a list of names.
-- Everything here is lexical; no directory is looked at.

import SourceNames.Text.Segments

namespace SourceNames

/-- Where a path starts. Exactly two leading slashes are kept apart from one. -/
inductive Anchor
  | relative
  | root
  | doubleRoot
  deriving DecidableEq, Repr

/-- The anchor that a number of leading slashes stands for: three or more are one. -/
def Anchor.ofSlashes : Nat → Anchor
  | 0 => .relative
  | 2 => .doubleRoot
  | _ => .root

/-- The slashes that an anchor is written with. -/
def Anchor.text : Anchor → String
  | .relative => ""
  | .root => "/"
  | .doubleRoot => "//"

/-- A path: its anchor and its names. Reading drops empty segments and single dots;
two dots stay, since only a directory lookup can tell what they climb out of. -/
structure Path where
  anchor : Anchor
  parts : List String
  deriving DecidableEq, Repr

namespace Path

/-- Whether a segment names something: the empty one and the single dot do not. -/
def isName (segment : String) : Bool :=
  segment != "" && segment != "."

def ofText (text : String) : Path :=
  { anchor := Anchor.ofSlashes (text.toList.takeWhile (· == '/')).length
    parts := (segments text).filter isName }

/-- Writes a path; the empty relative path is a dot. -/
def text (p : Path) : String :=
  let body := p.anchor.text ++ joinSegments p.parts
  if body = "" then "." else body

/-- The directory above, which for an anchor alone is itself. -/
def parent (p : Path) : Path :=
  { p with parts := p.parts.dropLast }

/-- The last name, empty for an anchor alone. -/
def name (p : Path) : String :=
  p.parts.getLastD ""

/-- A further path read below this one; an anchored one takes its place. -/
def join (p : Path) (text : String) : Path :=
  let below := ofText text
  match below.anchor with
  | .relative => { p with parts := p.parts ++ below.parts }
  | _ => below

/-- The path reached through the segments of a name. Unlike `join` a leading slash of the
name is only an empty segment, so the result stays below the directory. -/
def below (p : Path) (name : String) : Path :=
  { p with parts := p.parts ++ (segments name).filter isName }

/-- The parts of a path and of its ancestors, nearest first. -/
def tails (anchor : Anchor) : List String → List Path
  | [] => [⟨anchor, []⟩]
  | part :: rest => ⟨anchor, (part :: rest).reverse⟩ :: tails anchor rest

/-- The path itself and then each directory above it, nearest first. -/
def withAncestors (p : Path) : List Path :=
  tails p.anchor p.parts.reverse

/-! ## Lexical normal form -/

/-- One more name on a stack of names, the last on top. Two dots take the top name back;
with nothing to take back they stay in a relative path and vanish at a root. -/
def push (anchored : Bool) (stack : List String) (part : String) : List String :=
  if part = ".." then
    match stack with
    | [] => if anchored then [] else [".."]
    | top :: more => if top = ".." then ".." :: top :: more else more
  else part :: stack

/-- The path with every two dots taken against the name before it. -/
def collapse (p : Path) : Path :=
  { p with parts := (p.parts.foldl (push (p.anchor != .relative)) []).reverse }

/-- A collapsed path with one more name, itself collapsed. -/
def step (p : Path) (part : String) : Path :=
  { p with parts := (push (p.anchor != .relative) p.parts.reverse part).reverse }

end Path

/-! ## Slash names -/

/-- The canonical form of a slash-separated name: no empty or dot segments, and two dots
only where they lead above the start. -/
def normalize (name : String) : String :=
  (Path.ofText name).collapse.text

/-- A name read from a directory name: an absolute one stands alone. -/
def joinNames (directory name : String) : String :=
  if beginsWith "/" name then name
  else if directory = "" || directory.toList.getLast? == some '/' then directory ++ name
  else directory ++ "/" ++ name

/-- What stands before the last slash of a name, less the slashes it ends with unless it
is slashes only. -/
def directoryOf (name : String) : String :=
  let head := (name.toList.reverse.dropWhile (· != '/')).reverse
  if head.all (· == '/') then String.ofList head
  else String.ofList (head.reverse.dropWhile (· == '/')).reverse

/-- A path with its separator written as a slash. -/
def withSlashes (path separator : String) : String :=
  if separator = "/" then path else replaceAll separator "/" path

end SourceNames
