-- JSON values, and the two texts of a value that messages and records need: the literal
-- form, in which texts are quoted, and the plain form, in which a text stands for itself.

import SourceNames.Number.Shortest
import SourceNames.Text.Quoted

namespace SourceNames

/-- A JSON value. Whole numbers of any size are kept apart from numbers with a fraction or a
power, and the members of an object keep their order. -/
inductive JsonValue
  | null
  | bool (b : Bool)
  | integer (n : Int)
  | real (x : Binary64)
  | text (s : String)
  | list (items : List JsonValue)
  | object (members : List (String × JsonValue))
  deriving Inhabited

def JsonValue.kind : JsonValue → String
  | .null => "NoneType"
  | .bool _ => "bool"
  | .integer _ => "int"
  | .real _ => "float"
  | .text _ => "str"
  | .list _ => "list"
  | .object _ => "dict"

/-! ## Members -/

/-- Sets a member: in its place if the name is there already, else at the end. -/
def setMember (name : String) (value : JsonValue) :
    List (String × JsonValue) → List (String × JsonValue)
  | [] => [(name, value)]
  | (other, old) :: rest =>
    if other = name then (other, value) :: rest else (other, old) :: setMember name value rest

/-! ## Literal and plain form -/

mutual

def JsonValue.literal : JsonValue → String
  | .null => "None"
  | .bool true => "True"
  | .bool false => "False"
  | .integer n => toString n
  | .real x => x.text "inf" "nan"
  | .text s => quoted s
  | .list items => "[" ++ String.intercalate ", " (literals items) ++ "]"
  | .object members => "\x7b" ++ String.intercalate ", " (memberLiterals members) ++ "\x7d"

def literals : List JsonValue → List String
  | [] => []
  | item :: rest => item.literal :: literals rest

/-- The literal forms of members, each a name and a value. -/
def memberLiterals : List (String × JsonValue) → List String
  | [] => []
  | (name, value) :: rest => (quoted name ++ ": " ++ value.literal) :: memberLiterals rest

end

def JsonValue.plain : JsonValue → String
  | .text s => s
  | value => value.literal

end SourceNames
