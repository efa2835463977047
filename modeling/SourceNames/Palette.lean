-- The styles of terminal output, and the rule that tells whether to use them.

import SourceNames.Disk.Host

namespace SourceNames

/-! ## Styles -/

inductive Style
  | green
  | yellow
  | magenta
  | cyan
  | bold
  | dim
  | error
  deriving DecidableEq, Repr

/-- An escape sequence that sets one graphic attribute. -/
def attributeCode (number : Nat) : String := s!"\x1b[{number}m"

/-- The sequences that turn a style on. -/
def Style.codes : Style → String
  | .green => attributeCode 32
  | .yellow => attributeCode 33
  | .magenta => attributeCode 35
  | .cyan => attributeCode 36
  | .bold => attributeCode 1
  | .dim => attributeCode 2
  | .error => attributeCode 1 ++ attributeCode 31

/-- Whether styles are used. -/
structure Palette where
  enabled : Bool
  deriving DecidableEq, Repr

/-- A text in a style, as it is if styles are not used. -/
def Palette.paint (p : Palette) (style : Style) (text : String) : String :=
  if p.enabled then style.codes ++ text ++ attributeCode 0 else text

/-! ## Detection -/

/-- The two families of systems that differ in what their terminals can show. -/
inductive Platform
  | unix
  | windows
  deriving DecidableEq, Repr

/-- Where output goes. -/
structure Terminal where
  interactive : Bool
  platform : Platform
  deriving DecidableEq, Repr

/-- Whether a variable has a value that is not empty. -/
def Environment.given (env : Environment) (name : String) : Bool :=
  env.value name != ""

/-- Tells whether to use styles. The two variables that turn them off and on come first, in
this order; then the output has to be a terminal that can show them. -/
def Palette.detect (env : Environment) (terminal : Terminal) : Palette :=
  if env.given "NO_COLOR" then ⟨false⟩
  else if env.given "FORCE_COLOR" then ⟨true⟩
  else if !terminal.interactive then ⟨false⟩
  else if env.value "TERM" = "dumb" then ⟨false⟩
  else match terminal.platform with
    | .windows =>
      ⟨env.given "WT_SESSION" || env.given "ANSICON" || env.value "TERM_PROGRAM" = "vscode"⟩
    | .unix => ⟨true⟩

/-- The palette to use: none if it is not wanted, else the shared one, detected when it is
first needed. The second component is the shared palette after this. -/
def sharedPalette (shared : Option Palette) (noColor : Bool) (env : Environment)
    (terminal : Terminal) : Palette × Option Palette :=
  if noColor then (⟨false⟩, shared)
  else match shared with
    | some palette => (palette, some palette)
    | none =>
      let palette := Palette.detect env terminal
      (palette, some palette)

end SourceNames
