-- Source texts as they are written: blanks, comments, code, string literals and directives, in
-- any order and number, with blanks and comments between the words of a directive. What a
-- document says is known from what it is written from, not from its text.

import SourceNames.Proofs.Tokens
import SourceNames.Source.Scan

namespace SourceNames

/-! ## Between words -/

/-- Whether a character can stand in an identifier: digits, Latin letters and the underscore. -/
def isIdentifierChar (c : Char) : Bool :=
  inRanges [(0x30, 0x39), (0x41, 0x5a), (0x5f, 0x5f), (0x61, 0x7a)] c

/-- What may stand between two words: a blank, a comment with the line feed that ends it, or a
block comment. -/
inductive Piece
  | blank (c : Char) (isOne : isBlank c = true)
  | line (text : List Char) (oneLine : '\n' ∉ text)
  | block (text : List Char) (endless : ¬ ['*', '/'] <:+: text)

def Piece.text : Piece → List Char
  | .blank c _ => [c]
  | .line text _ => '/' :: '/' :: (text ++ ['\n'])
  | .block text _ => '/' :: '*' :: (text ++ ['*', '/'])

/-- Any mix of blanks and comments, also none. -/
abbrev Gap := List Piece

def Gap.text (gap : Gap) : List Char := gap.flatMap Piece.text

/-! ## Words -/

/-- The words that a directive is told by. -/
inductive Keyword
  | importing
  | origin
  | pragma
  | solidity

def Keyword.text : Keyword → List Char
  | .importing => "import".toList
  | .origin => "from".toList
  | .pragma => "pragma".toList
  | .solidity => "solidity".toList

@[simp]
theorem Keyword.text_importing : Keyword.importing.text = "import".toList := rfl

@[simp]
theorem Keyword.text_origin : Keyword.origin.text = "from".toList := rfl

@[simp]
theorem Keyword.text_pragma : Keyword.pragma.text = "pragma".toList := rfl

@[simp]
theorem Keyword.text_solidity : Keyword.solidity.text = "solidity".toList := rfl

theorem Keyword.chars (k : Keyword) : ∀ c ∈ k.text, isIdentifierChar c = true := by
  cases k <;> exact List.all_eq_true.mp (by decide)

theorem Keyword.ne_nil (k : Keyword) : k.text ≠ [] := by
  cases k <;> decide

/-- An identifier that starts no directive. It may be `from`. -/
structure Identifier where
  text : List Char
  ne_nil : text ≠ []
  chars : ∀ c ∈ text, isIdentifierChar c = true
  free : text ≠ "import".toList ∧ text ≠ "pragma".toList

/-- The word before another name for what is imported. -/
def Identifier.as : Identifier :=
  ⟨"as".toList, by decide, List.all_eq_true.mp (by decide), by decide⟩

inductive Mark
  | star
  | opening
  | closing
  | comma

def Mark.char : Mark → Char
  | .star => '*'
  | .opening => '\x7b'
  | .closing => '\x7d'
  | .comma => ','

/-- The string of an import. -/
structure ImportPath where
  quote : Char
  path : List Char
  quoted : isQuote quote = true
  chars : ∀ c ∈ path, isBlank c = false ∧ c ≠ '\\' ∧ c ≠ quote

/-- A word of a pragma: anything but blanks, quotes, slashes and semicolons. -/
structure PragmaWord where
  text : List Char
  ne_nil : text ≠ []
  chars : ∀ c ∈ text, isInert c = true ∧ isBlank c = false ∧ c ≠ ';'

/-- What a directive is written with. -/
inductive Lexeme
  | keyword (keyword : Keyword)
  | name (name : Identifier)
  | mark (mark : Mark)
  | path (path : ImportPath)
  | word (word : PragmaWord)

namespace Lexeme

def text : Lexeme → List Char
  | .keyword k => k.text
  | .name n => n.text
  | .mark m => [m.char]
  | .path p => p.quote :: (p.path ++ [p.quote])
  | .word w => w.text

def isKeyword : Lexeme → Bool
  | .keyword _ => true
  | _ => false

def isWord : Lexeme → Bool
  | .mark _ => false
  | .path _ => false
  | _ => true

/-- Whether there has to be something between two lexemes: after a keyword and between words. -/
def apart (a b : Lexeme) : Bool := a.isKeyword || a.isWord && b.isWord

end Lexeme

/-! ## Directives -/

/-- What is imported, apart from where from. -/
inductive ImportForm
  | plain
  | renamed (name : Identifier)
  | star (name : Identifier)
  | named (symbols : List (Identifier × Option Identifier))
  | lone (name : Identifier)

namespace ImportForm

/-- A symbol, with the name it is given if it is given one. -/
def symbol : Identifier × Option Identifier → List Lexeme
  | (name, none) => [.name name]
  | (name, some other) => [.name name, .name .as, .name other]

/-- Symbols with a comma between each two. -/
def symbolList : List (Identifier × Option Identifier) → List Lexeme
  | [] => []
  | [first] => symbol first
  | first :: next :: more => symbol first ++ .mark .comma :: symbolList (next :: more)

/-- What stands before the word `from`, if that word is there. -/
def subject? : ImportForm → Option (List Lexeme)
  | .plain => none
  | .renamed _ => none
  | .star name => some [.mark .star, .name .as, .name name]
  | .named symbols => some (.mark .opening :: (symbolList symbols ++ [.mark .closing]))
  | .lone name => some [.name name]

/-- What stands between the keyword and the string. -/
def clause (form : ImportForm) : List Lexeme :=
  match form.subject? with
  | none => []
  | some subject => subject ++ [.keyword .origin]

/-- What stands after the string. -/
def tail : ImportForm → List Lexeme
  | .renamed name => [.name .as, .name name]
  | _ => []

end ImportForm

/-- A directive, ended by a semicolon: an import, a version pragma with at least one word, or
a pragma of another kind. -/
inductive Directive
  | importing (form : ImportForm) (path : ImportPath)
  | version (first : PragmaWord) (more : List PragmaWord)
  | otherPragma (words : List PragmaWord)
      (other : words.head?.map PragmaWord.text ≠ some "solidity".toList)
      (free : ∀ word ∈ words, ¬ "pragma".toList <:+: word.text)

def Directive.lexemes : Directive → List Lexeme
  | .importing form path => .keyword .importing :: (form.clause ++ .path path :: form.tail)
  | .version first more =>
    .keyword .pragma :: .keyword .solidity :: (first :: more).map .word
  | .otherPragma words _ _ => .keyword .pragma :: words.map .word

def Directive.imported? : Directive → Option (List Char)
  | .importing _ path => some path.path
  | _ => none

/-- The version expression of a directive, one blank between each two words. -/
def Directive.version? : Directive → Option (List Char)
  | .version first more => some (glue ' ' ((first :: more).map PragmaWord.text))
  | _ => none

/-- Lexemes each with the gap after it. -/
abbrev Spread := List (Lexeme × Gap)

namespace Spread

def text (parts : Spread) : List Char :=
  parts.flatMap fun part => part.1.text ++ part.2.text

/-- Gaps stand where they have to. -/
def Parted (parts : Spread) : Prop :=
  parts.IsChain fun a b => a.1.apart b.1 = true → a.2 ≠ []

end Spread

/-! ## Documents -/

/-- Whether neither keyword that starts a directive is written anywhere in a text. -/
def NoDirective (text : List Char) : Prop :=
  ¬ "import".toList <:+: text ∧ ¬ "pragma".toList <:+: text

instance (text : List Char) : Decidable (NoDirective text) :=
  inferInstanceAs (Decidable (_ ∧ _))

/-- What a document is written from. -/
inductive Item
  | piece (piece : Piece)
  | chunk (text : List Char) (inert : ∀ c ∈ text, isInert c = true) (free : NoDirective text)
  | literal (quote : Char) (body : List Char) (quoted : isQuote quote = true)
      (closed : LiteralRest quote body) (free : NoDirective (quote :: body))
  | directive (directive : Directive) (parts : Spread)
      (told : parts.map (·.1) = directive.lexemes) (parted : parts.Parted)

namespace Item

def text : Item → List Char
  | .piece p => p.text
  | .chunk code _ _ => code
  | .literal quote body _ _ _ => quote :: body
  | .directive _ parts _ _ => parts.text ++ [';']

def isChunk : Item → Bool
  | .chunk _ _ _ => true
  | _ => false

/-- The directive that an item is. -/
def directive? : Item → Option Directive
  | .directive d _ _ _ => some d
  | _ => none

def imported? (item : Item) : Option (List Char) := item.directive?.bind Directive.imported?

def version? (item : Item) : Option (List Char) := item.directive?.bind Directive.version?

/-- Whether an item is code that a word coming after it would run into. -/
def endsInWord : Item → Bool
  | .chunk code _ _ => code.getLast?.any isWordChar
  | _ => false

/-- Whether the keyword of a directive that says something runs into the code before it. -/
def RunsInto (a b : Item) : Prop :=
  a.endsInWord = true ∧ (b.imported?.isSome ∨ b.version?.isSome)

end Item

/-- A source text as it is written. Two chunks of code next to each other would be one. -/
structure Document where
  items : List Item
  apart : items.IsChain fun a b => ¬ (a.isChunk = true ∧ b.isChunk = true)

namespace Document

/-- The text of a document. -/
def text (document : Document) : String :=
  String.ofList (document.items.flatMap Item.text)

/-- What a document imports and which versions it asks for, in order. -/
def contents (document : Document) : SourceScan where
  imports := (document.items.filterMap Item.imported?).map String.ofList
  versionPragmas := (document.items.filterMap Item.version?).map String.ofList

end Document

end SourceNames
