-- Writing JSON text in ASCII, either compact or with one item a line.

import SourceNames.Json.Value

namespace SourceNames

/-! ## Texts -/

/-- A code unit as a numeric escape. -/
def unitEscape (n : Nat) : List Char := '\\' :: 'u' :: hexDigits 4 n

/-- One character inside a JSON text. What is not printable ASCII is escaped, beyond the
first plane as a pair of code units. -/
def jsonChar (c : Char) : List Char :=
  if c = '"' || c = '\\' then ['\\', c]
  else if c = '\n' then ['\\', 'n']
  else if c = '\r' then ['\\', 'r']
  else if c = '\t' then ['\\', 't']
  else if c = '\x0c' then ['\\', 'f']
  else if c = '\x08' then ['\\', 'b']
  else if 0x20 ≤ c.toNat ∧ c.toNat < 0x7f then [c]
  else if c.toNat < 0x10000 then unitEscape c.toNat
  else
    let n := c.toNat - 0x10000
    unitEscape (0xD800 + n / 0x400) ++ unitEscape (0xDC00 + n % 0x400)

/-- A JSON text in quotes. -/
def jsonText (s : String) : String :=
  String.ofList ('"' :: s.toList.flatMap jsonChar ++ ['"'])

/-! ## Values -/

/-- How values are laid out: what stands between a name and its value, and whether items
stand on lines of their own. -/
structure JsonLayout where
  colon : String
  lines : Bool

/-- No blanks and no line breaks. -/
def compactLayout : JsonLayout := ⟨":", false⟩

/-- One item a line, two more spaces at each level. -/
def prettyLayout : JsonLayout := ⟨": ", true⟩

/-- A line break and the spaces of a level, where items stand on lines of their own. -/
def JsonLayout.break (layout : JsonLayout) (level : Nat) : String :=
  if layout.lines then "\n" ++ String.ofList (List.replicate (2 * level) ' ') else ""

/-- Written items between brackets. -/
def JsonLayout.enclose (layout : JsonLayout) (level : Nat) (first last : String)
    (items : List String) : String :=
  if items.isEmpty then first ++ last
  else
    let inner := layout.break (level + 1)
    first ++ inner ++ String.intercalate ("," ++ inner) items ++ layout.break level ++ last

mutual

/-- Writes a value at a level. -/
def JsonValue.writeAt (layout : JsonLayout) (level : Nat) : JsonValue → String
  | .null => "null"
  | .bool true => "true"
  | .bool false => "false"
  | .integer n => toString n
  | .real x => x.text "Infinity" "NaN"
  | .text s => jsonText s
  | .list items => layout.enclose level "[" "]" (writeItems layout (level + 1) items)
  | .object members =>
    layout.enclose level "\x7b" "\x7d" (writeMembers layout (level + 1) members)

def writeItems (layout : JsonLayout) (level : Nat) : List JsonValue → List String
  | [] => []
  | item :: rest => item.writeAt layout level :: writeItems layout level rest

def writeMembers (layout : JsonLayout) (level : Nat) : List (String × JsonValue) → List String
  | [] => []
  | (name, value) :: rest =>
    (jsonText name ++ layout.colon ++ value.writeAt layout level)
      :: writeMembers layout level rest

end

def JsonValue.write (layout : JsonLayout) (value : JsonValue) : String :=
  value.writeAt layout 0

end SourceNames
