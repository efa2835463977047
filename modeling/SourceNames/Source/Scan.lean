-- What a source file imports and which compiler versions it asks for, found in its text
-- without parsing it, so that a file with mistakes in it still has an answer.

import SourceNames.Source.Token
import SourceNames.Text.Classes

namespace SourceNames

/-- What was found in a source text, each in source order: the strings it imports, as
written, and its version expressions. -/
structure SourceScan where
  imports : List String
  versionPragmas : List String
  deriving DecidableEq, Repr

/-! ## Matches -/

/-- A match at the start of a text: what it found, and how many characters it covers. -/
structure Match where
  found : List Char
  length : Nat

/-- A way to match at the start of a text, knowing the character before it. -/
abbrev Matcher := (before : Option Char) → List Char → Option Match

/-- Everything that a matcher finds, from left to right, no match overlapping the one
before; `skip` characters still belong to a match already found. -/
def findAll (matcher : Matcher) : (skip : Nat) → (before : Option Char) → List Char →
    List (List Char)
  | _, _, [] => []
  | skip + 1, _, c :: rest => findAll matcher skip (some c) rest
  | 0, before, c :: rest =>
    match matcher before (c :: rest) with
    | some m => m.found :: findAll matcher (m.length - 1) (some c) rest
    | none => findAll matcher 0 (some c) rest

/-- The text after a keyword, if it starts the text and no word runs into it. -/
def afterKeyword? (keyword : String) (before : Option Char) (text : List Char) :
    Option (List Char) :=
  if before.any isWordChar then none
  else if keyword.toList.isPrefixOf text then some (text.drop keyword.length)
  else none

/-- The text after a run of at least one blank. -/
def afterBlanks? : List Char → Option (List Char)
  | c :: rest => if isBlank c then some (rest.dropWhile isBlank) else none
  | [] => none

/-! ## Imports -/

/-- Whether a character ends the part of an import before its string. -/
def endsClause (c : Char) : Bool := c == ';' || c == '"' || c == '\''

/-- Whether what stands between the keyword and the string is a clause: nothing at all, or a
text that ends with the word `from` and blanks. -/
def isImportClause (clause : List Char) : Bool :=
  clause.isEmpty ||
    match afterBlanks? clause.reverse with
    | none => false
    | some backwards =>
      "morf".toList.isPrefixOf backwards && !(backwards.drop 4).head?.any isWordChar

/-- Matches an import: the keyword, blanks, a clause, and a string in either kind of quotes
up to the next quote of its kind. -/
def importAt : Matcher := fun before text =>
  match (afterKeyword? "import" before text).bind afterBlanks? with
  | none => none
  | some rest =>
    let clause := rest.takeWhile (fun c => !endsClause c)
    match rest.drop clause.length with
    | [] => none
    | quote :: more =>
      let body := more.takeWhile (· != quote)
      match more.drop body.length with
      | [] => none
      | _ :: after =>
        if quote != ';' && isImportClause clause then
          some ⟨body, text.length - after.length⟩
        else none

/-! ## Version pragmas -/

/-- Matches a version pragma: two keywords with blanks between them, and an expression up to
a semicolon that starts with a blank and has at least one character after it. The blanks in
the expression are evened out. -/
def pragmaAt : Matcher := fun before text =>
  match (afterKeyword? "pragma" before text).bind afterBlanks? with
  | none => none
  | some rest =>
    match afterKeyword? "solidity" none rest with
    | none => none
    | some rest =>
      let expression := rest.takeWhile (· != ';')
      match rest.drop expression.length with
      | [] => none
      | _ :: after =>
        if (expression.head?.any isBlank) && 2 ≤ expression.length then
          some ⟨glue ' ' (words expression), text.length - after.length⟩
        else none

/-! ## Scanning -/

/-- Scans a source text, comments left out. -/
def scan (source : String) : SourceScan :=
  let code := blankComments source.toList
  { imports := (findAll importAt 0 none code).map String.ofList
    versionPragmas := (findAll pragmaAt 0 none code).map String.ofList }

end SourceNames
