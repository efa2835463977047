-- The commands carried out on a host. A run ends with an exit code and what was printed: 0
-- if everything was resolved, 1 if a resolution failed, 2 if the machine, its files or the
-- command line are at fault.

import SourceNames.Cli.Report
import SourceNames.Resolver

namespace SourceNames

/-- How a run ended, and what it printed on both outputs. -/
structure Transcript where
  exit : Nat
  output : String
  errors : String
  deriving DecidableEq, Repr

/-! ## Debug output -/

/-- The debug lines of a journal, if they are wanted. -/
def debugLines (settings : Settings) (journal : List Event) : List String :=
  if settings.debug then
    (journal.filterMap Event.line?).map fun (source, line) => s!"DEBUG:{programName}.{source}:{line}"
  else []

/-! ## Failures -/

/-- What is printed of a fault, and on which output. One that is not foreseen ends the
program instead. -/
def reportFault (settings : Settings) (p : Palette) (debug : List String) (fault : Fault) :
    Except Fault Transcript :=
  let told (exit : Nat) (value : JsonValue) (line : String) : Transcript :=
    match settings.output with
    | .json => ⟨exit, textLines [dump settings value], textLines debug⟩
    | .text => ⟨exit, "", textLines (debug ++ [line])⟩
  match fault.class with
  | .unforeseen => .error fault
  | .resolution =>
    match fault with
    | .failed f _ => .ok (told 1 (.object (failureMembers f.report)) (failureText p f))
    | other => .error other
  | .environment =>
    let message := s!"{fault.label}: {fault.message}"
    .ok (told 2 (.object [("error", .text message)]) (p.paint .error message))

/-! ## Commands -/

/-- The usual resolver for a root, which has to be given. -/
def usualResolver (host : Host) : Option String → Except Fault Resolver
  | none => .error .noRoot
  | some root => Resolver.create host root (modulesFinder []) rememberingParser

def resolveNamed (host : Host) (command : Command) : Run (Resolver × ResolvedFile) := do
  let resolver ← answer (usualResolver host command.settings.root)
  let file ← resolver.resolveSourceName host command.name
  pure (resolver, file)

/-- What became of one import: a failure to resolve it is an outcome like a file, any other
fault stops the work. -/
def importRow (resolver : Resolver) (host : Host) (importer : ResolvedFile)
    (imported : String) : Run ImportRow :=
  tryCatch
    (do
      let file ← resolver.resolveImport host importer imported
      pure ⟨imported, .ok file⟩)
    fun fault =>
      match fault with
      | .failed f _ => pure ⟨imported, .error f⟩
      | other => throw other

/-- What became of several imports, in order. -/
def importRows (resolver : Resolver) (host : Host) (importer : ResolvedFile) :
    List String → Run (List ImportRow)
  | [] => pure []
  | imported :: rest => do
    let row ← importRow resolver host importer imported
    let rows ← importRows resolver host importer rest
    pure (row :: rows)

/-- Resolves the name that a command is given, and each import of the file by itself. -/
def resolveWithImports (host : Host) (command : Command) :
    Run (ResolvedFile × List ImportRow) := do
  let (resolver, file) ← resolveNamed host command
  let rows ← importRows resolver host file file.content.imports
  pure (file, rows)

def resolveOutput (settings : Settings) (p : Palette) (file : ResolvedFile) : List String :=
  match settings.output with
  | .json => [dump settings (.object (file.members settings.content))]
  | .text => describe p file ++ (if settings.content then ["", file.content.raw] else [])

def importsOutput (settings : Settings) (p : Palette) (file : ResolvedFile)
    (rows : List ImportRow) : List String :=
  match settings.output with
  | .json => [dump settings (importsJson file rows)]
  | .text => importLines p file rows

/-- Whatever the form of output, what is printed holds one entry for each row, in order. -/
theorem importsOutput_entries (settings : Settings) (p : Palette) (file : ResolvedFile)
    {rows : List ImportRow} (h : rows ≠ []) :
    match settings.output with
    | .json => ∃ members,
        importsOutput settings p file rows = [dump settings (.object members)] ∧
          members.lookup "imports" = some (.list (rows.map ImportRow.json))
    | .text => ∃ first, importsOutput settings p file rows = first :: rows.map (·.text p) := by
  unfold importsOutput
  cases settings.output with
  | json =>
    obtain ⟨members, hobject, hentries⟩ := importsJson_eq_object file rows
    exact ⟨members, by rw [hobject], hentries⟩
  | text => exact importLines_eq_cons p file h

def runCommand (host : Host) (terminal : Terminal) (command : Command) :
    Except Fault Transcript :=
  let settings := command.settings
  let p := (sharedPalette none settings.noColor host.env terminal).1
  let start := Session.start ScanMemo.usual
  match command.verb with
  | .resolve =>
    match Run.within (resolveNamed host command) start with
    | (.ok (_, file), session) =>
      .ok ⟨0, textLines (resolveOutput settings p file),
        textLines (debugLines settings session.journal)⟩
    | (.error fault, session) => reportFault settings p (debugLines settings session.journal) fault
  | .imports =>
    match Run.within (resolveWithImports host command) start with
    | (.ok (file, rows), session) =>
      .ok ⟨if rows.any ImportRow.failed then 1 else 0,
        textLines (importsOutput settings p file rows),
        textLines (debugLines settings session.journal)⟩
    | (.error fault, session) => reportFault settings p (debugLines settings session.journal) fault

/-! ## Command lines -/

def runCommandLine (host : Host) (terminal : Terminal) (words : List String) :
    Except Fault Transcript :=
  match readCommandLine words with
  | .help level => .ok ⟨0, helpText level, ""⟩
  | .version => .ok ⟨0, textLines [versionText], ""⟩
  | .misused level fault =>
    .ok ⟨2, "", usageText level ++ textLines [s!"{levelName level}: error: {fault.message}"]⟩
  | .run command => runCommand host terminal command

end SourceNames
