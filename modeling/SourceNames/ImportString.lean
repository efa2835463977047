-- What can be told from the text of an import or a source name alone: whether it is
-- relative, whether it carries a scheme, which library it belongs to, and whether it
-- goes through an installation directory.

import SourceNames.Path

namespace SourceNames

/-- The directory name under which libraries are installed. -/
def modulesDirectory : String := "node_modules"

def isRelative (imported : String) : Bool :=
  beginsWith "./" imported || beginsWith "../" imported

/-! ## Schemes -/

/-- The letters just before the first `://`, where `run` holds the letters read so far
without a break, the last first. -/
def schemeFrom (run : List Char) : List Char → Option (List Char)
  | [] => none
  | c :: rest =>
    if "://".toList.isPrefixOf (c :: rest) then some run.reverse
    else schemeFrom (if c.isAlpha then c :: run else []) rest

/-- The scheme of a text that holds `://` anywhere: the ASCII letters right before its
first occurrence, possibly none. -/
def scheme? (text : String) : Option String :=
  (schemeFrom [] text.toList).map String.ofList

/-! ## Segments -/

/-- Whether a slash name has a segment equal to the given one. -/
def hasSegment (name segment : String) : Bool :=
  (segments name).contains segment

/-- The segments after the first installation directory. The last segment is the file
itself and is never gone through. -/
def afterModules : List String → Option (List String)
  | segment :: next :: rest =>
    if segment = modulesDirectory then some (next :: rest) else afterModules (next :: rest)
  | _ => none

/-- The rest of a name that goes through an installation directory. -/
def throughModules? (name : String) : Option String :=
  (afterModules (segments name)).map joinSegments

/-- The library that a library source name belongs to: its first segment, or its first
two when the name starts with a scope. -/
def libraryName (name : String) : String :=
  if beginsWith "@" name then joinSegments ((segments name).take 2)
  else (segments name).headD ""

end SourceNames
