-- What a resolver carries from one step to the next: the scans it remembers, and a journal
-- of what it did, which debug output is written from.

import SourceNames.Fault
import SourceNames.Source.Parser

namespace SourceNames

/-! ## Journal -/

/-- Something a resolver did or decided. -/
inductive Event
  | toProject (name : String)
  | toLibrary (name : String)
  | askedFinder (library : String) (directory : Path)
  | foundPackage (library : String) (candidate : Path)
  | usedToolchain (library : String) (file : Path)
  | libraryAt (library version : String) (directory : Path)
  | askedParser (source path : String)
  | importNamed (imported importer name : String) (throughModules : Bool)
  | importFailed (imported importer title : String)
  deriving DecidableEq, Repr

/-- The line of debug output for an event: where it comes from and what it tells. Questions
to collaborators are not shown. -/
def Event.line? : Event → Option (String × String)
  | .toProject name => some ("resolver", s!"[resolve] {name} -> project")
  | .toLibrary name => some ("resolver", s!"[resolve] {name} -> library")
  | .askedFinder _ _ => none
  | .foundPackage library candidate =>
    some ("packages", s!"Found package {library} at {candidate.text}")
  | .usedToolchain library file =>
    some ("resolver", s!"[resolve] {library} not installed, using {file.text}")
  | .libraryAt library version directory =>
    some ("resolver", s!"[resolve] {library}@{version} at {directory.text}")
  | .askedParser _ _ => none
  | .importNamed imported importer name throughModules =>
    let suffix := if throughModules then " (node_modules)" else ""
    some ("resolver", s!"[import] {imported} from {importer} -> {name}{suffix}")
  | .importFailed imported importer title =>
    some ("resolver", s!"[import] {imported} from {importer}: {title}")

/-! ## Runs -/

/-- The scans remembered, and the events so far, the oldest first. -/
structure Session where
  memo : ScanMemo
  journal : List Event

/-- A session in which nothing has happened. -/
def Session.start (memo : ScanMemo) : Session := ⟨memo, []⟩

/-- Work that may be stopped by a fault; what it did until then stays in the session. -/
abbrev Run (α : Type) := ExceptT Fault (StateM Session) α

/-- Writes an event into the journal. -/
def record (event : Event) : Run Unit :=
  modify fun session => { session with journal := session.journal ++ [event] }

/-- An answer that may be a fault, as work that leaves the session alone. -/
def answer {α : Type} (outcome : Except Fault α) : Run α :=
  match outcome with
  | .ok a => pure a
  | .error fault => throw fault

/-- Has a parser read a text, and writes down that it did. -/
def parseWith (parser : SourceParser) (source path : String) : Run SourceScan := do
  record (.askedParser source path)
  let session ← get
  let (found, memo) := parser source path session.memo
  set { session with memo }
  pure found

/-- Carries out work in a session. -/
def Run.within {α : Type} (work : Run α) (session : Session) : Except Fault α × Session :=
  (ExceptT.run work).run session

end SourceNames
