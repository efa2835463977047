-- The words of a command line read as options and arguments. An option may be shortened as
-- long as one option fits, may carry its value in the same word, and may stand before or
-- after the argument; a double dash ends the options.

import SourceNames.Cli.Usage
import SourceNames.Text.Quoted

namespace SourceNames

/-! ## Options -/

/-- What an option does. -/
inductive Switch
  | help
  | version
  | root
  | output
  | compact
  | noColor
  | debug
  | content
  deriving DecidableEq, Repr

inductive OutputFormat
  | text
  | json
  deriving DecidableEq, Repr

def outputWords : List (String × OutputFormat) := [("text", .text), ("json", .json)]

def Switch.names : Switch → List String
  | .help => ["-h", "--help"]
  | .version => ["-v", "--version"]
  | .root => ["-r", "--root"]
  | .output => ["-o", "--output"]
  | .compact => ["--compact"]
  | .noColor => ["--no-color"]
  | .debug => ["--debug"]
  | .content => ["--content"]

/-- An option as messages name it. -/
def Switch.title (switch : Switch) : String := String.intercalate "/" switch.names

def Switch.takesValue : Switch → Bool
  | .root | .output => true
  | _ => false

def levelSwitches : Level → List Switch
  | none => [.help, .version]
  | some .resolve => [.help, .root, .output, .compact, .noColor, .debug, .content]
  | some .imports => [.help, .root, .output, .compact, .noColor, .debug]

/-- The names of a level's options, each with what it does. -/
def levelNames (level : Level) : List (String × Switch) :=
  (levelSwitches level).flatMap fun switch => switch.names.map (·, switch)

/-! ## Faults -/

/-- What is wrong with a command line. -/
inductive UsageFault
  | ambiguous (word : String) (names : List String)
  | ignoredValue (switch : Switch) (value : String)
  | missingValue (switch : Switch)
  | wrongChoice (argument value : String) (choices : List String)
  | missingArgument
  | unrecognized (words : List String)
  deriving DecidableEq, Repr

def UsageFault.message : UsageFault → String
  | .ambiguous word names =>
    s!"ambiguous option: {word} could match " ++ String.intercalate ", " names
  | .ignoredValue switch value =>
    s!"argument {switch.title}: ignored explicit argument {quoted value}"
  | .missingValue switch => s!"argument {switch.title}: expected one argument"
  | .wrongChoice argument value choices =>
    s!"argument {argument}: invalid choice: {quoted value} (choose from {quotedList choices})"
  | .missingArgument => "the following arguments are required: source_name"
  | .unrecognized words => "unrecognized arguments: " ++ String.intercalate " " words

/-! ## Words -/

/-- What a word of the command line is. An option may have a text attached: what stands after
an equals sign, or right after its letter. -/
inductive Word
  | argument
  | doubleDash
  | option (switch : Switch) (name : String) (attached : Option String)
  | unknownOption
  deriving DecidableEq, Repr

/-- What stands before and after the first equals sign, if there is one. -/
def splitEquals (word : String) : Option (String × String) :=
  let before := word.toList.takeWhile (· != '=')
  match word.toList.drop before.length with
  | [] => none
  | _ :: after => some (String.ofList before, String.ofList after)

/-- Whether a word writes a negative number: a dash, digits of any script, and with a point
at least one digit after it. A line feed may follow. -/
def isNegativeNumber (word : String) : Bool :=
  let text := word.toList
  let text := if text.getLast? == some '\n' then text.dropLast else text
  match text with
  | '-' :: number =>
    match number.dropWhile isDecimalDigit with
    | [] => !number.isEmpty
    | '.' :: fraction => !fraction.isEmpty && fraction.all isDecimalDigit
    | _ => false
  | _ => false

/-- The options that a word may be short for. After two dashes it may be the start of a name;
after one dash its letter may be a name, and what follows the letter is attached to it. -/
def candidates (level : Level) (word : String) : List (String × Switch × Option String) :=
  if beginsWith "--" word then
    let (start, attached) :=
      match splitEquals word with
      | some (before, after) => (before, some after)
      | none => (word, none)
    ((levelNames level).filter fun (name, _) => beginsWith start name).map
      fun (name, switch) => (name, switch, attached)
  else
    (levelNames level).filterMap fun (name, switch) =>
      if name.toList = word.toList.take 2 then
        some (name, switch, some (String.ofList (word.toList.drop 2)))
      else if beginsWith word name then some (name, switch, none)
      else none

/-- Reads a word that starts with a dash and is no name of an option as it stands. -/
def readUnlisted (level : Level) (word : String) : Except UsageFault Word :=
  match candidates level word with
  | [(name, switch, attached)] => .ok (.option switch name attached)
  | [] =>
    if isNegativeNumber word || word.toList.contains ' ' then .ok .argument
    else .ok .unknownOption
  | several => .error (.ambiguous word (several.map (·.1)))

def readWord (level : Level) (word : String) : Except UsageFault Word :=
  if !beginsWith "-" word then .ok .argument
  else match (levelNames level).lookup word with
    | some switch => .ok (.option switch word none)
    | none =>
      if word = "-" then .ok .argument
      else match splitEquals word with
        | some (before, after) =>
          match (levelNames level).lookup before with
          | some switch => .ok (.option switch before (some after))
          | none => readUnlisted level word
        | none => readUnlisted level word

/-- Reads all words; those after a double dash are arguments whatever they look like. -/
def readWords (level : Level) : List String → Except UsageFault (List (String × Word))
  | [] => .ok []
  | word :: rest =>
    if word = "--" then .ok ((word, .doubleDash) :: rest.map (·, .argument))
    else match readWord level word with
      | .error fault => .error fault
      | .ok read =>
        match readWords level rest with
        | .error fault => .error fault
        | .ok more => .ok ((word, read) :: more)

/-! ## Taking options -/

/-- The value that a text gives to an option: the text itself, but two dashes stand for
nothing there either. -/
def optionValue (text : String) : Option String :=
  if text = "--" then none else some text

/-- What the options of a command ask for. A root given without a value is none. -/
structure Settings where
  root : Option String
  output : OutputFormat
  compact : Bool
  noColor : Bool
  debug : Bool
  content : Bool
  deriving DecidableEq, Repr

/-- The settings without any option. -/
def usualSettings : Settings := ⟨some ".", .text, false, false, false, false⟩

/-- Why reading a level stops early: a text was asked for, or something is wrong. -/
inductive Stop
  | help
  | version
  | misuse (fault : UsageFault)
  deriving DecidableEq, Repr

/-- The settings once an option is taken with its value, if it has one. The last of several
wins. Without a value the output is text. -/
def Settings.take (settings : Settings) (switch : Switch) (value : Option String) :
    Except Stop Settings :=
  match switch with
  | .help => .error .help
  | .version => .error .version
  | .root => .ok { settings with root := value }
  | .output =>
    match value with
    | none => .ok { settings with output := .text }
    | some word =>
      match outputWords.lookup word with
      | some output => .ok { settings with output }
      | none => .error (.misuse (.wrongChoice switch.title word (outputWords.map (·.1))))
  | .compact => .ok { settings with compact := true }
  | .noColor => .ok { settings with noColor := true }
  | .debug => .ok { settings with debug := true }
  | .content => .ok { settings with content := true }

def Settings.takeAll (settings : Settings) :
    List (Switch × Option String) → Except Stop Settings
  | [] => .ok settings
  | (switch, value) :: rest =>
    match settings.take switch value with
    | .error stop => .error stop
    | .ok settings => settings.takeAll rest

/-- The options that one word asks for: those whose values are settled, and an option that
wants the next word as its value. -/
structure Cluster where
  settled : List (Switch × Option String)
  wantsNext : Option Switch
  deriving DecidableEq, Repr

/-- A cluster with an option that takes no value put before it. -/
def Cluster.after (cluster : Cluster) (switch : Switch) : Cluster :=
  { cluster with settled := (switch, none) :: cluster.settled }

/-- The options of a word from one that takes no value on, with the letters that follow it.
Each letter is an option of its own, and the first that takes a value has the rest as its
value; a letter that is no option makes all from it on a value that nothing takes. -/
def readLetters (level : Level) (switch : Switch) : List Char → Except UsageFault Cluster
  | [] => .ok ⟨[(switch, none)], none⟩
  | letter :: rest =>
    match (levelNames level).lookup (String.ofList ['-', letter]) with
    | none => .error (.ignoredValue switch (String.ofList (letter :: rest)))
    | some next =>
      if next.takesValue then
        if rest.isEmpty then .ok (Cluster.after ⟨[], some next⟩ switch)
        else .ok (Cluster.after ⟨[(next, optionValue (String.ofList rest))], none⟩ switch)
      else
        match readLetters level next rest with
        | .error fault => .error fault
        | .ok cluster => .ok (cluster.after switch)

/-- The options that a word of an option asks for. What is attached to an option that takes no
value is read as letters if the option stands there as a letter itself; an equals sign makes
no difference, but something has to follow it. -/
def readCluster (level : Level) (switch : Switch) (name : String) :
    Option String → Except UsageFault Cluster
  | none => if switch.takesValue then .ok ⟨[], some switch⟩ else .ok ⟨[(switch, none)], none⟩
  | some attached =>
    if switch.takesValue then .ok ⟨[(switch, optionValue attached)], none⟩
    else if beginsWith "--" name || attached.isEmpty then .error (.ignoredValue switch attached)
    else readLetters level switch attached.toList

/-! ## Reading a level -/

/-- What a level has read: the settings, its argument if it has one, and words it does not
know. -/
structure Reading where
  settings : Settings
  argument : Option String
  extras : List String
  deriving DecidableEq, Repr

/-- What the word before leaves to be done: nothing, letting a double dash next to the
argument pass, or finding the value that a cluster's last option wants. -/
inductive Expectation
  | nothing
  | dashMayPass
  | value (cluster : Cluster) (switch : Switch)
  deriving DecidableEq, Repr

/-- A reading with one more word left over. -/
def Reading.leave (reading : Reading) (word : String) : Reading :=
  { reading with extras := reading.extras ++ [word] }

def Reading.takeCluster (reading : Reading) (cluster : Cluster)
    (more : List (Switch × Option String)) : Except Stop Reading :=
  match reading.settings.takeAll (cluster.settled ++ more) with
  | .error stop => .error stop
  | .ok settings => .ok { reading with settings }

/-- Reads the words of a command. The first argument is the one it takes, together with a
double dash next to it; all others are left over. -/
def readCommandWords (level : Level) : Expectation → Reading → List (String × Word) →
    Except Stop Reading
  | .value _ switch, _, [] => .error (.misuse (.missingValue switch))
  | _, reading, [] => .ok reading
  | .value cluster switch, reading, (word, kind) :: rest =>
    if kind = .argument then
      match reading.takeCluster cluster [(switch, optionValue word)] with
      | .error stop => .error stop
      | .ok reading => readCommandWords level .nothing reading rest
    else .error (.misuse (.missingValue switch))
  | expected, reading, (word, kind) :: rest =>
    match kind with
    | .argument =>
      if reading.argument.isSome then readCommandWords level .nothing (reading.leave word) rest
      else readCommandWords level .dashMayPass { reading with argument := some word } rest
    | .doubleDash =>
      if expected = .dashMayPass || (reading.argument.isNone && !rest.isEmpty) then
        readCommandWords level .nothing reading rest
      else readCommandWords level .nothing (reading.leave word) rest
    | .unknownOption => readCommandWords level .nothing (reading.leave word) rest
    | .option switch name attached =>
      match readCluster level switch name attached with
      | .error fault => .error (.misuse fault)
      | .ok cluster =>
        match cluster.wantsNext with
        | some wants => readCommandWords level (.value cluster wants) reading rest
        | none =>
          match reading.takeCluster cluster [] with
          | .error stop => .error stop
          | .ok reading => readCommandWords level .nothing reading rest

/-- Reads the words of the program itself up to its command, which takes all words after it.
The result is the words not known before it, and the command with its words, if there is
one. -/
def readProgramWords (extras : List String) :
    List (String × Word) → Except Stop (List String × Option (String × List String))
  | [] => .ok (extras, none)
  | (word, kind) :: rest =>
    match kind with
    | .argument => .ok (extras, some (word, rest.map (·.1)))
    | .doubleDash =>
      if rest.isEmpty then .ok (extras ++ [word], none)
      else .ok (extras, some (word, rest.map (·.1)))
    | .unknownOption => readProgramWords (extras ++ [word]) rest
    | .option switch name attached =>
      match readCluster none switch name attached with
      | .error fault => .error (.misuse fault)
      | .ok cluster =>
        match usualSettings.takeAll cluster.settled with
        | .error stop => .error stop
        | .ok _ => readProgramWords extras rest

/-! ## Command lines -/

/-- A command with its argument and settings. -/
structure Command where
  verb : Verb
  name : String
  settings : Settings
  deriving DecidableEq, Repr

inductive Request
  | help (level : Level)
  | version
  | run (command : Command)
  | misused (level : Level) (fault : UsageFault)
  deriving DecidableEq, Repr

def Stop.request (level : Level) : Stop → Request
  | .help => .help level
  | .version => .version
  | .misuse fault => .misused level fault

def readCommand (verb : Verb) (extras words : List String) : Request :=
  let level : Level := some verb
  match readWords level words with
  | .error fault => .misused level fault
  | .ok read =>
    match readCommandWords level .nothing ⟨usualSettings, none, []⟩ read with
    | .error stop => stop.request level
    | .ok reading =>
      match reading.argument with
      | none => .misused level .missingArgument
      | some name =>
        let unknown := extras ++ reading.extras
        if unknown.isEmpty then .run ⟨verb, name, reading.settings⟩
        else .misused none (.unrecognized unknown)

/-- Reads a whole command line. Without a command the program shows its help. -/
def readCommandLine (words : List String) : Request :=
  match readWords none words with
  | .error fault => .misused none fault
  | .ok read =>
    match readProgramWords [] read with
    | .error stop => stop.request none
    | .ok (extras, some (word, rest)) =>
      match allVerbs.find? (·.word == word) with
      | some verb => readCommand verb extras rest
      | none => .misused none (.wrongChoice "<command>" word (allVerbs.map Verb.word))
    | .ok (extras, none) =>
      if extras.isEmpty then .help none else .misused none (.unrecognized extras)

end SourceNames
