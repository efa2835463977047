-- What a resolution asks of its finder and its parser. Until there is a text to parse, all that
-- it does is settled by the name, the disk and the finder; the parser comes last, and only if
-- nothing has failed. So the finder is asked at most one question, about the library of the
-- name, and a resolution that fails leaves what is remembered alone.

import SourceNames.Proofs.Containment

namespace SourceNames

/-! ## Questions -/

/-- The library and the directory that the finder is asked about. -/
def Event.askedOfFinder? : Event → Option (String × Path)
  | .askedFinder library directory => some (library, directory)
  | _ => none

/-- The text and the path that the parser is given. -/
def Event.askedOfParser? : Event → Option (String × String)
  | .askedParser source path => some (source, path)
  | _ => none

/-- What is seen of the events that work in a session adds to the journal. -/
def Run.added {α β : Type} (work : Run α) (session : Session) (view : Event → Option β) :
    List β :=
  ((work.within session).2.journal.drop session.journal.length).filterMap view

theorem Run.added_eq {α β : Type} {work : Run α} {session : Session} {events : List Event}
    (h : (work.within session).2.journal = session.journal ++ events) (view : Event → Option β) :
    work.added session view = events.filterMap view := by
  unfold Run.added
  rw [h, List.drop_left]

/-- The questions to the finder that a name takes: one about its library, if the name is well
formed, is not one of the project, and goes on after the name of its library. -/
def Resolver.finderQuestions (r : Resolver) (host : Host) (name : String) :
    List (String × Path) :=
  if validate name = .ok () ∧ r.isLocal host name = .ok false ∧ libraryName name ≠ name then
    [(libraryName name, r.root)]
  else []

theorem Resolver.finderQuestions_of_library {r : Resolver} {host : Host} {name : String}
    (hvalid : validate name = .ok ()) (hlocal : r.isLocal host name = .ok false)
    (hlibrary : libraryName name ≠ name) :
    r.finderQuestions host name = [(libraryName name, r.root)] :=
  if_pos ⟨hvalid, hlocal, hlibrary⟩

theorem Resolver.finderQuestions_eq_nil {r : Resolver} {host : Host} {name : String}
    (h : validate name ≠ .ok () ∨ r.isLocal host name ≠ .ok false ∨ libraryName name = name) :
    r.finderQuestions host name = [] := by
  apply if_neg
  rintro ⟨hvalid, hlocal, hlibrary⟩
  rcases h with h | h | h
  · exact h hvalid
  · exact h hlocal
  · exact hlibrary h

/-! ## Work that parses nothing -/

namespace Run

variable {α β : Type} {asked : List (String × Path)}

/-- In every session the work ends alike, adds the same events, and leaves what is remembered
alone; the questions to the finder are those told, and the parser is asked nothing. -/
def Quiet (asked : List (String × Path)) (outcome : Except Fault α) (work : Run α) : Prop :=
  ∃ events, events.filterMap Event.askedOfFinder? = asked ∧
    events.filterMap Event.askedOfParser? = [] ∧
    ∀ session, work.within session = (outcome, ⟨session.memo, session.journal ++ events⟩)

theorem quiet_answer (outcome : Except Fault α) : Quiet [] outcome (answer outcome) :=
  ⟨[], rfl, rfl, fun session => by simp⟩

theorem quiet_throw (fault : Fault) : Quiet [] (.error fault) (throw fault : Run α) :=
  quiet_answer (.error fault)

theorem quiet_pure (a : α) : Quiet [] (.ok a) (pure a) := quiet_answer (.ok a)

theorem quiet_askedFinder (library : String) (directory : Path) :
    Quiet [(library, directory)] (.ok ()) (record (.askedFinder library directory)) :=
  ⟨[.askedFinder library directory], rfl, rfl, fun session => within_record _ session⟩

theorem quiet_record {event : Event} (hfinder : event.askedOfFinder? = none)
    (hparser : event.askedOfParser? = none) : Quiet [] (.ok ()) (record event) :=
  ⟨[event], by simp [hfinder], by simp [hparser], fun session => within_record _ session⟩

/-- There is a way that the quiet work ends. -/
def Asks (asked : List (String × Path)) (work : Run α) : Prop :=
  ∃ outcome, Quiet asked outcome work

/-- Work after which nothing more is asked. -/
theorem asks_then {work : Run α} {next : α → Run β} {outcome : Except Fault α}
    (hwork : Quiet asked outcome work) (hnext : ∀ a, Asks [] (next a)) :
    Asks asked (work >>= next) := by
  obtain ⟨events, hfinder, hparser, hended⟩ := hwork
  cases outcome with
  | error fault =>
    refine ⟨.error fault, events, hfinder, hparser, fun session => ?_⟩
    rw [within_bind, hended]
  | ok a =>
    obtain ⟨outcome, more, hfinder', hparser', hended'⟩ := hnext a
    refine ⟨outcome, events ++ more, ?_, ?_, fun session => ?_⟩
    · rw [List.filterMap_append, hfinder, hfinder', List.append_nil]
    · rw [List.filterMap_append, hparser, hparser', List.append_nil]
    · rw [within_bind, hended]
      dsimp only
      rw [hended', List.append_assoc]

end Run

/-! ## The course of a resolution -/

/-- The file with what a scan of its text found. -/
def ResolvedFile.withScan (draft : ResolvedFile) (found : SourceScan) : ResolvedFile :=
  { draft with content := ⟨draft.content.raw, found.imports, found.versionPragmas⟩ }

/-- How a resolution goes up to the parser: its events, and the fault that stops it, or the
file that only the scan is missing from. -/
structure Course where
  events : List Event
  ending : Except Fault ResolvedFile

/-- How a session ends after a course: the parser is given the text of the file, unless the
course was stopped. -/
def Course.finish (course : Course) (parser : SourceParser) (session : Session) :
    Except Fault ResolvedFile × Session :=
  let journal := session.journal ++ course.events
  match course.ending with
  | .error fault => (.error fault, ⟨session.memo, journal⟩)
  | .ok draft =>
    let raw := draft.content.raw
    let path := draft.absolutePath
    (.ok (draft.withScan (parser raw path session.memo).1),
      ⟨(parser raw path session.memo).2, journal ++ [.askedParser raw path]⟩)

/-- The text, with its path, that the parser is given after a course. -/
def Course.handed (course : Course) : List (String × String) :=
  match course.ending with
  | .error _ => []
  | .ok draft => [(draft.content.raw, draft.absolutePath)]

/-- Work that goes the same course whatever the parser and the session are. -/
structure Course.Leads (course : Course) (asked : List (String × Path))
    (work : SourceParser → Run ResolvedFile) : Prop where
  finder : course.events.filterMap Event.askedOfFinder? = asked
  parser : course.events.filterMap Event.askedOfParser? = []
  ends : ∀ parser session, (work parser).within session = course.finish parser session

/-- There is a course that the work goes, with the questions to the finder that are told. -/
def Charted (asked : List (String × Path)) (work : SourceParser → Run ResolvedFile) : Prop :=
  ∃ course : Course, course.Leads asked work

namespace Course

variable {course : Course} {parser : SourceParser} {session : Session}

theorem finish_later (course : Course) (parser : SourceParser) (memo : ScanMemo)
    (journal events : List Event) :
    course.finish parser ⟨memo, journal ++ events⟩ =
      finish ⟨events ++ course.events, course.ending⟩ parser ⟨memo, journal⟩ := by
  unfold finish
  simp only [List.append_assoc]

theorem journal_finish (course : Course) (parser : SourceParser) (session : Session) :
    (course.finish parser session).2.journal = session.journal ++
      (course.events ++ course.handed.map fun text => .askedParser text.1 text.2) := by
  unfold finish handed
  cases course.ending <;> simp

theorem finish_of_ok {file : ResolvedFile} (h : (course.finish parser session).1 = .ok file) :
    course.handed = [(file.content.raw, file.absolutePath)] ∧
      (course.finish parser session).2.memo =
        (parser file.content.raw file.absolutePath session.memo).2 := by
  unfold finish handed at *
  cases hending : course.ending with
  | error fault =>
    rw [hending] at h
    cases h
  | ok draft =>
    rw [hending] at h
    obtain rfl := Except.ok.inj h
    exact ⟨rfl, rfl⟩

theorem finish_of_error {fault : Fault} (h : (course.finish parser session).1 = .error fault) :
    course.handed = [] ∧ (course.finish parser session).2.memo = session.memo := by
  unfold finish handed at *
  cases hending : course.ending with
  | error stopped => exact ⟨rfl, rfl⟩
  | ok draft =>
    rw [hending] at h
    cases h

/-- Parsers that do the same with the text that they are given make no difference. -/
theorem finish_congr {other : SourceParser} (h : ∀ text ∈ course.handed,
      other text.1 text.2 session.memo = parser text.1 text.2 session.memo) :
    course.finish other session = course.finish parser session := by
  unfold handed at h
  unfold finish
  cases hending : course.ending with
  | error fault => rfl
  | ok draft =>
    rw [hending, List.forall_mem_singleton] at h
    dsimp only at h ⊢
    rw [h]

theorem Leads.added_questions {asked : List (String × Path)}
    {work : SourceParser → Run ResolvedFile} (h : course.Leads asked work)
    (parser : SourceParser) (session : Session) :
    (work parser).added session Event.askedOfFinder? = asked := by
  have hjournal := journal_finish course parser session
  rw [← h.ends] at hjournal
  rw [Run.added_eq hjournal, List.filterMap_append, h.finder, List.filterMap_map]
  simp [Function.comp_def, Event.askedOfFinder?]

theorem Leads.added_texts {asked : List (String × Path)}
    {work : SourceParser → Run ResolvedFile} (h : course.Leads asked work)
    (parser : SourceParser) (session : Session) :
    (work parser).added session Event.askedOfParser? = course.handed := by
  have hjournal := journal_finish course parser session
  rw [← h.ends] at hjournal
  rw [Run.added_eq hjournal, List.filterMap_append, h.parser, List.filterMap_map]
  simp [Function.comp_def, Event.askedOfParser?]

end Course

section Charted

open Run

variable {α : Type} {first rest asked : List (String × Path)}

/-- Work that parses nothing, and then charted work. -/
theorem charted_bind {work : Run α} {outcome : Except Fault α}
    {next : SourceParser → α → Run ResolvedFile} (hwork : Quiet first outcome work)
    (hstopped : ∀ fault, outcome = .error fault → rest = [])
    (hnext : ∀ a, outcome = .ok a → Charted rest fun parser => next parser a) :
    Charted (first ++ rest) fun parser => work >>= next parser := by
  obtain ⟨events, hfinder, hparser, hended⟩ := hwork
  cases outcome with
  | error fault =>
    rw [hstopped fault rfl, List.append_nil]
    refine ⟨⟨events, .error fault⟩, hfinder, hparser, fun parser session => ?_⟩
    rw [within_bind, hended]
    rfl
  | ok a =>
    obtain ⟨course, hcourse⟩ := hnext a rfl
    refine ⟨⟨events ++ course.events, course.ending⟩, ?_, ?_, fun parser session => ?_⟩
    · rw [List.filterMap_append, hfinder, hcourse.finder]
    · rw [List.filterMap_append, hparser, hcourse.parser, List.append_nil]
    · rw [within_bind, hended]
      dsimp only
      rw [hcourse.ends, Course.finish_later]

/-- Work after which nothing more is asked of the finder. -/
theorem charted_then {work : Run α} {outcome : Except Fault α}
    {next : SourceParser → α → Run ResolvedFile} (hwork : Quiet asked outcome work)
    (hnext : ∀ a, Charted [] fun parser => next parser a) :
    Charted asked fun parser => work >>= next parser := by
  rw [← List.append_nil asked]
  exact charted_bind hwork (fun _ _ => rfl) fun a _ => hnext a

/-- A question to the machine, which may stop the work before the finder is asked. -/
theorem charted_answer {outcome : Except Fault α} {next : SourceParser → α → Run ResolvedFile}
    (hstopped : ∀ fault, outcome = .error fault → asked = [])
    (hnext : ∀ a, outcome = .ok a → Charted asked fun parser => next parser a) :
    Charted asked fun parser => answer outcome >>= next parser :=
  charted_bind (quiet_answer outcome) hstopped hnext

theorem charted_record {event : Event} {next : SourceParser → Unit → Run ResolvedFile}
    (hfinder : event.askedOfFinder? = none) (hparser : event.askedOfParser? = none)
    (hnext : Charted asked fun parser => next parser ()) :
    Charted asked fun parser => record event >>= next parser :=
  charted_bind (quiet_record hfinder hparser) (fun _ h => by cases h) fun _ _ => hnext

/-- The parser is given the text of a file, and the file is complete. -/
theorem charted_parse (draft : ResolvedFile) :
    Charted [] fun parser => parseWith parser draft.content.raw draft.absolutePath >>= fun found =>
      pure (draft.withScan found) := by
  refine ⟨⟨[], .ok draft⟩, rfl, rfl, fun parser session => ?_⟩
  rw [within_bind, within_parseWith]
  simp [Course.finish]

/-- Whatever stops the work may be told another way. -/
theorem charted_tryCatch {work : SourceParser → Run ResolvedFile}
    {handler : Fault → Run ResolvedFile} (hwork : Charted asked work)
    (hhandler : ∀ fault, ∃ told, Quiet [] (.error told) (handler fault)) :
    Charted asked fun parser => tryCatch (work parser) handler := by
  obtain ⟨⟨events, ending⟩, hcourse⟩ := hwork
  cases ending with
  | ok draft =>
    refine ⟨⟨events, .ok draft⟩, hcourse.finder, hcourse.parser, fun parser session => ?_⟩
    rw [within_tryCatch, hcourse.ends]
    rfl
  | error fault =>
    obtain ⟨told, more, hfinder, hparser, hended⟩ := hhandler fault
    refine ⟨⟨events ++ more, .error told⟩, ?_, ?_, fun parser session => ?_⟩
    · rw [List.filterMap_append, hcourse.finder, hfinder, List.append_nil]
    · rw [List.filterMap_append, hcourse.parser, hparser, List.append_nil]
    · rw [within_tryCatch, hcourse.ends]
      dsimp only [Course.finish]
      rw [hended, List.append_assoc]

end Charted

namespace Resolver

open Run

/-! ## The course of each step -/

def parsingWith (r : Resolver) (parser : SourceParser) : Resolver := { r with parser }

def findingWith (r : Resolver) (finder : PackageFinder) : Resolver := { r with finder }

section Courses

variable (r : Resolver) (host : Host) (name : String) (parser : SourceParser)

@[simp]
theorem root_parsingWith : (r.parsingWith parser).root = r.root := rfl

@[simp]
theorem parser_parsingWith : (r.parsingWith parser).parser = parser := rfl

theorem isLocal_parsingWith : (r.parsingWith parser).isLocal host = r.isLocal host := rfl

theorem locatePackage_parsingWith (library : String) :
    (r.parsingWith parser).locatePackage host library = r.locatePackage host library := rfl

theorem charted_load (path : Path) (library : Option LibraryInfo) :
    Charted [] fun parser => (r.parsingWith parser).load host name path library := by
  unfold load
  simp only [parser_parsingWith]
  refine charted_then (quiet_answer _) fun read => ?_
  refine charted_then (quiet_answer _) fun modified => ?_
  exact charted_parse ⟨name, path.text, ⟨read.1, [], []⟩, modified, library⟩

theorem charted_resolveLocal :
    Charted [] fun parser => (r.parsingWith parser).resolveLocal host name := by
  unfold resolveLocal
  simp only [root_parsingWith]
  exact charted_then (quiet_answer _) fun _ => r.charted_load host name _ _

/-- Looking for a package asks the finder one question, whatever comes of it. -/
theorem asks_locatePackage (library : String) :
    Asks [(library, r.root)] (r.locatePackage host library) := by
  unfold locatePackage
  refine asks_then (quiet_askedFinder _ _) fun _ => ?_
  refine asks_then (quiet_answer _) fun found => ?_
  split
  · split
    · exact asks_then (quiet_record rfl rfl) fun _ => ⟨_, quiet_pure _⟩
    · exact ⟨_, quiet_pure _⟩
  · split
    · exact asks_then (quiet_record rfl rfl) fun _ => ⟨_, quiet_pure _⟩
    · exact ⟨_, quiet_throw _⟩

theorem charted_resolveFromLibrary_of_bare (h : libraryName name = name) :
    Charted [] fun parser => (r.parsingWith parser).resolveFromLibrary host name := by
  unfold resolveFromLibrary
  simp only [if_pos h]
  exact charted_bind (quiet_throw _) (fun _ _ => rfl) fun _ h => by cases h

theorem charted_resolveFromLibrary (h : libraryName name ≠ name) :
    Charted [(libraryName name, r.root)] fun parser =>
      (r.parsingWith parser).resolveFromLibrary host name := by
  obtain ⟨outcome, hpackage⟩ := r.asks_locatePackage host (libraryName name)
  unfold resolveFromLibrary
  simp only [if_neg h, locatePackage_parsingWith]
  refine charted_then hpackage fun file => ?_
  refine charted_then (quiet_answer _) fun _ => ?_
  refine charted_then (quiet_answer _) fun version => ?_
  exact charted_record rfl rfl (r.charted_load host name _ _)

/-- Resolving a name asks the finder what the name takes. -/
theorem charted_resolveSourceName :
    Charted (r.finderQuestions host name) fun parser =>
      (r.parsingWith parser).resolveSourceName host name := by
  unfold resolveSourceName resolveWith
  simp only [isLocal_parsingWith]
  refine charted_answer (fun fault hrefused => ?_) fun _ hvalid => ?_
  · exact finderQuestions_eq_nil (Or.inl (by simp [hrefused]))
  refine charted_answer (fun fault hstopped => ?_) fun isLocal hlocal => ?_
  · exact finderQuestions_eq_nil (Or.inr (Or.inl (by simp [hstopped])))
  · cases isLocal with
    | true =>
      rw [finderQuestions_eq_nil (Or.inr (Or.inl (by simp [hlocal])))]
      exact charted_record rfl rfl (r.charted_resolveLocal host name)
    | false =>
      refine charted_record rfl rfl ?_
      by_cases hbare : libraryName name = name
      · rw [finderQuestions_eq_nil (Or.inr (Or.inr hbare))]
        exact r.charted_resolveFromLibrary_of_bare host name hbare
      · rw [finderQuestions_of_library hvalid hlocal hbare]
        exact r.charted_resolveFromLibrary host name hbare

/-- The name of an import is told without a question. -/
theorem quiet_nameImport {importer : ResolvedFile} {imported : String} {meant : ImportedName}
    (h : importedName importer imported = .ok meant) :
    Quiet [] (.ok meant.name) (nameImport importer imported) :=
  ⟨[.importNamed imported importer.sourceName meant.name meant.throughModules], rfl, rfl,
    within_nameImport_of_ok h⟩

/-- Resolving an import asks the finder what the name that it means takes. -/
theorem charted_resolveImport {importer : ResolvedFile} {imported : String} {meant : ImportedName}
    (h : importedName importer imported = .ok meant) :
    Charted (r.finderQuestions host meant.name) fun parser =>
      (r.parsingWith parser).resolveImport host importer imported := by
  have hresolved := r.charted_resolveSourceName host meant.name
  unfold resolveSourceName at hresolved
  unfold resolveImport importWith
  refine charted_bind (quiet_nameImport h) (fun _ h => by cases h) fun name hname => ?_
  obtain rfl := Except.ok.inj hname
  refine charted_tryCatch hresolved fun fault => ?_
  split
  · split
    · exact ⟨_, [.importFailed _ _ _], rfl, rfl, fun _ => rfl⟩
    · exact ⟨_, quiet_throw _⟩
  · exact ⟨_, quiet_throw _⟩

end Courses

/-! ## Finders that answer alike -/

section Finders

variable {r : Resolver} {host : Host} {name : String} {other : PackageFinder}

/-- Another finder that answers the questions of a name the same makes no difference. -/
theorem resolveSourceName_findingWith (h : ∀ question ∈ r.finderQuestions host name,
      other host question.1 question.2 = r.finder host question.1 question.2) :
    (r.findingWith other).resolveSourceName host name = r.resolveSourceName host name := by
  have hlocal : (r.findingWith other).isLocal host name = r.isLocal host name := rfl
  have hproject : (r.findingWith other).resolveLocal host name = r.resolveLocal host name := rfl
  unfold resolveSourceName resolveWith
  rw [hlocal, hproject]
  -- Only the last of the cases comes to the finder.
  cases hvalid : validate name with
  | error fault => rfl
  | ok =>
    cases hclassified : r.isLocal host name with
    | error fault => rfl
    | ok isLocal =>
      cases isLocal with
      | true => rfl
      | false =>
        have hlibrary : (r.findingWith other).resolveFromLibrary host name =
            r.resolveFromLibrary host name := by
          unfold resolveFromLibrary
          by_cases hbare : libraryName name = name
          · simp only [if_pos hbare]
            rfl
          · rw [finderQuestions_of_library hvalid hclassified hbare, List.forall_mem_singleton] at h
            have hpackage : (r.findingWith other).locatePackage host (libraryName name) =
                r.locatePackage host (libraryName name) := by
              unfold locatePackage findingWith
              simp only [h]
            simp only [if_neg hbare, hpackage]
            rfl
        rw [hlibrary]

theorem resolveImport_findingWith {importer : ResolvedFile} {imported : String}
    {meant : ImportedName} (hmeant : importedName importer imported = .ok meant)
    (h : ∀ question ∈ r.finderQuestions host meant.name,
      other host question.1 question.2 = r.finder host question.1 question.2) :
    (r.findingWith other).resolveImport host importer imported =
      r.resolveImport host importer imported := by
  have hresolved := resolveSourceName_findingWith h
  unfold resolveSourceName at hresolved
  unfold resolveImport importWith nameImport
  rw [hmeant]
  simp only [bind_assoc, pure_bind, hresolved]

end Finders

/-! ## The law -/

/-- What resolving a name asks in a session. The finder is asked what the name takes; the
parser is given the text and the path of the file that is found, and nothing if the resolution
fails, so that then what is remembered stays. Collaborators that answer these questions the
same make no difference. -/
structure AsksAsNeeded (r : Resolver) (host : Host) (name : String)
    (work : Resolver → Run ResolvedFile) (session : Session) : Prop where
  kept : session.journal <+: ((work r).within session).2.journal
  finder : (work r).added session Event.askedOfFinder? = r.finderQuestions host name
  given : ∀ file, ((work r).within session).1 = .ok file →
    (work r).added session Event.askedOfParser? = [(file.content.raw, file.absolutePath)] ∧
      ((work r).within session).2.memo =
        (r.parser file.content.raw file.absolutePath session.memo).2
  failed : ∀ fault, ((work r).within session).1 = .error fault →
    (work r).added session Event.askedOfParser? = [] ∧
      ((work r).within session).2.memo = session.memo
  refused : (validate name ≠ .ok () ∨ ∃ fault, r.isLocal host name = .error fault) →
    (work r).added session Event.askedOfFinder? = [] ∧
      (work r).added session Event.askedOfParser? = []
  otherFinder : ∀ other, (∀ question ∈ r.finderQuestions host name,
      other host question.1 question.2 = r.finder host question.1 question.2) →
    (work (r.findingWith other)).within session = (work r).within session
  otherParser : ∀ other, (∀ question ∈ (work r).added session Event.askedOfParser?,
      other question.1 question.2 session.memo = r.parser question.1 question.2 session.memo) →
    (work (r.parsingWith other)).within session = (work r).within session

theorem finderQuestions_of_refused {r : Resolver} {host : Host} {name : String}
    (h : validate name ≠ .ok () ∨ ∃ fault, r.isLocal host name = .error fault) :
    r.finderQuestions host name = [] := by
  apply finderQuestions_eq_nil
  rcases h with h | ⟨fault, h⟩
  · exact Or.inl h
  · exact Or.inr (Or.inl (by simp [h]))

/-- A name that a file is found for was told to be one of the project or of a library. -/
theorem not_refused_of_gives {r : Resolver} {host : Host} {name : String} {file : ResolvedFile}
    (h : (r.resolveSourceName host name).Gives file) :
    ¬ (validate name ≠ .ok () ∨ ∃ fault, r.isLocal host name = .error fault) := by
  obtain ⟨hname, hfile⟩ := resolveSourceName_gives h
  rintro (hrefused | ⟨fault, hstopped⟩)
  · exact hrefused (validate_eq_ok_iff.mpr hname)
  · rcases hfile with hproject | hlibrary
    · simp [hproject.isLocal] at hstopped
    · simp [hlibrary.notLocal] at hstopped

/-- Charted work asks as needed, if it only gives a file for a name that it could tell. -/
theorem asksAsNeeded_of_charted {r : Resolver} {host : Host} {name : String}
    {work : Resolver → Run ResolvedFile} (session : Session)
    (hcharted : Charted (r.finderQuestions host name) fun parser => work (r.parsingWith parser))
    (hgives : ∀ file, (work r).Gives file → (r.resolveSourceName host name).Gives file)
    (hfinders : ∀ other, (∀ question ∈ r.finderQuestions host name,
        other host question.1 question.2 = r.finder host question.1 question.2) →
      work (r.findingWith other) = work r) :
    AsksAsNeeded r host name work session := by
  obtain ⟨course, hcourse⟩ := hcharted
  have hended : (work r).within session = course.finish r.parser session :=
    hcourse.ends r.parser session
  have hfinder : (work r).added session Event.askedOfFinder? = r.finderQuestions host name :=
    hcourse.added_questions r.parser session
  have hparser : (work r).added session Event.askedOfParser? = course.handed :=
    hcourse.added_texts r.parser session
  constructor
  · rw [hended, Course.journal_finish]
    exact List.prefix_append _ _
  · exact hfinder
  · intro file hgiven
    rw [hended] at hgiven ⊢
    rw [hparser]
    exact Course.finish_of_ok hgiven
  · intro fault hfailed
    rw [hended] at hfailed ⊢
    rw [hparser]
    exact Course.finish_of_error hfailed
  · intro hrefused
    refine ⟨hfinder.trans (finderQuestions_of_refused hrefused), ?_⟩
    rw [hparser]
    cases hended' : (course.finish r.parser session).1 with
    | error fault => exact (Course.finish_of_error hended').1
    | ok file =>
      have hgiven := hgives file ⟨session, by rw [hended, hended']⟩
      exact absurd hrefused (not_refused_of_gives hgiven)
  · intro other hsame
    rw [hfinders other hsame]
  · intro other hsame
    rw [hparser] at hsame
    rw [hended]
    exact (hcourse.ends other session).trans (Course.finish_congr hsame)

theorem asksAsNeeded_resolveSourceName (r : Resolver) (host : Host) (name : String)
    (session : Session) :
    AsksAsNeeded r host name (fun r => r.resolveSourceName host name) session :=
  asksAsNeeded_of_charted session (r.charted_resolveSourceName host name) (fun _ h => h)
    fun _ h => resolveSourceName_findingWith h

theorem asksAsNeeded_resolveImport (r : Resolver) (host : Host) {importer : ResolvedFile}
    {imported : String} {meant : ImportedName} (hmeant : importedName importer imported = .ok meant)
    (session : Session) :
    AsksAsNeeded r host meant.name (fun r => r.resolveImport host importer imported) session := by
  refine asksAsNeeded_of_charted session (r.charted_resolveImport host hmeant)
    (fun file h => ?_) fun other h => resolveImport_findingWith hmeant h
  obtain ⟨other, hother, hgives⟩ := resolveImport_gives h
  rw [hmeant] at hother
  obtain rfl := Except.ok.inj hother
  exact hgives

/-- A resolver asks its finder and its parser only what resolving a source name takes. What an
imported text means is resolved like any name, and nobody is asked if it means none. -/
theorem collaborators_are_asked_as_needed (r : Resolver) (host : Host) (session : Session) :
    (∀ name, AsksAsNeeded r host name (fun r => r.resolveSourceName host name) session) ∧
      ∀ importer imported,
        match importedName importer imported with
        | .error f =>
          (r.resolveImport host importer imported).within session = (.error (.of f), session)
        | .ok meant =>
          AsksAsNeeded r host meant.name (fun r => r.resolveImport host importer imported)
            session := by
  refine ⟨fun name => r.asksAsNeeded_resolveSourceName host name session, ?_⟩
  intro importer imported
  cases hmeant : importedName importer imported with
  | error f => exact within_resolveImport_of_error hmeant session
  | ok meant => exact r.asksAsNeeded_resolveImport host hmeant session

/-- A project with a link to a name that is too long for the disk. -/
def overlongHost : Host :=
  hostWith [(["project", "a"], .link (String.join (List.replicate 32 "xxxxxxxx")))] []

/-- A link to a name that is too long stops the look for a file, so that the finder is not asked
about a name that is neither one of the project nor just a library's. -/
theorem a_name_that_cannot_be_told_is_not_asked_about :
    let run := searchingResolver.resolveSourceName overlongHost "a/x.sol"
    validate "a/x.sol" = .ok () ∧ searchingResolver.isLocal overlongHost "a/x.sol" ≠ .ok true ∧
      libraryName "a/x.sol" ≠ "a/x.sol" ∧
      run.added (.start .usual) Event.askedOfFinder? ≠ [("a", searchingResolver.root)] := by
  have hstopped : (searchingResolver.isLocal overlongHost "a/x.sol").toOption = none := by
    decide +kernel
  have hlocal : ∀ isLocal, searchingResolver.isLocal overlongHost "a/x.sol" ≠ .ok isLocal := by
    intro isLocal h
    rw [h] at hstopped
    cases hstopped
  refine ⟨eq_ok_of_toOption (by decide +kernel), hlocal true, by decide +kernel, ?_⟩
  have hasked := asksAsNeeded_resolveSourceName searchingResolver overlongHost "a/x.sol"
    (.start .usual)
  rw [hasked.finder, finderQuestions_eq_nil (Or.inr (Or.inl (hlocal false)))]
  exact (List.cons_ne_nil _ _).symm

end Resolver

end SourceNames
