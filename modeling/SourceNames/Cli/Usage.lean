-- The texts that tell how the command line is used.

namespace SourceNames

def programName : String := "solresolve"

def versionText : String := "solresolve 1.0.0"

inductive Verb
  | resolve
  | imports
  deriving DecidableEq, Repr

def Verb.word : Verb → String
  | .resolve => "resolve"
  | .imports => "imports"

/-- All commands, in the order they are listed. -/
def allVerbs : List Verb := [.resolve, .imports]

/-- A level of the command line: the program itself or one of its commands. -/
abbrev Level := Option Verb

def levelName : Level → String
  | none => programName
  | some verb => programName ++ " " ++ verb.word

/-- Lines, each ended by a line feed. -/
def textLines (lines : List String) : String :=
  String.join (lines.map (· ++ "\n"))

def usageLines : Level → List String
  | none => ["usage: solresolve [-h] [-v] <command> ..."]
  | some .resolve =>
    ["usage: solresolve resolve [-h] [-r ROOT] [-o \x7btext,json\x7d] [--compact]",
     "                          [--no-color] [--debug] [--content]",
     "                          source_name"]
  | some .imports =>
    ["usage: solresolve imports [-h] [-r ROOT] [-o \x7btext,json\x7d] [--compact]",
     "                          [--no-color] [--debug]",
     "                          source_name"]

/-- The help lines that the commands share: their argument and their options. -/
def commandHelpLines : List String :=
  ["positional arguments:",
   "  source_name           Source name to resolve (e.g. contracts/Token.sol)",
   "",
   "options:",
   "  -h, --help            show this help message and exit",
   "  -r ROOT, --root ROOT  Project root directory (default: current directory)",
   "  -o \x7btext,json\x7d, --output \x7btext,json\x7d",
   "                        Output format (default: text)",
   "  --compact             Output compact JSON (default: pretty-printed)",
   "  --no-color            Disable colored output",
   "  --debug               Enable debug logging"]

/-- What the help of a level says after its usage. -/
def helpLines : Level → List String
  | none =>
    ["Resolve Solidity source names and imports to files",
     "",
     "positional arguments:",
     "  <command>",
     "    resolve      Resolve a source name to a file",
     "    imports      Resolve the direct imports of a file",
     "",
     "options:",
     "  -h, --help     show this help message and exit",
     "  -v, --version  show program's version number and exit",
     "",
     "Run 'solresolve <command> --help' for more information on a command."]
  | some .resolve =>
    ["Resolve a source name and show where it lives and what it contains.", ""]
    ++ commandHelpLines
    ++ ["  --content             Also print the raw file content",
        "",
        "Example: solresolve resolve contracts/Token.sol -r /my/project"]
  | some .imports =>
    ["Resolve a source name, then every import it contains.", ""]
    ++ commandHelpLines
    ++ ["", "Example: solresolve imports contracts/Token.sol -o json"]

def usageText (level : Level) : String := textLines (usageLines level)

def helpText (level : Level) : String :=
  textLines (usageLines level ++ [""] ++ helpLines level)

end SourceNames
