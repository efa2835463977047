-- How a command line ends. Everything that stops it is reported, with one exit code for
-- failures and one for faults of the machine, except for three kinds of faults: no root, a
-- root that is a loop of links, and a description of a library that is JSON but no object.

import SourceNames.Proofs.ImportRows

namespace SourceNames

open Resolver (hostWith)

variable {host : Host} {root : Option String} {r : Resolver} {name : String} {fault : Fault}

/-! ## Faults that are not foreseen -/

theorem usualResolver_unforeseen_iff :
    (usualResolver host root = .error fault ∧ fault.class = .unforeseen) ↔
      root = none ∧ fault = .noRoot ∨ ∃ text path, root = some text ∧
        host.settled (Path.ofText text) = .error path ∧ fault = .linkLoop path := by
  unfold usualResolver
  cases root with
  | none =>
    constructor
    · rintro ⟨h, -⟩
      cases h
      exact Or.inl ⟨rfl, rfl⟩
    · rintro (⟨-, rfl⟩ | ⟨text, path, h, -⟩)
      · exact ⟨rfl, rfl⟩
      · cases h
  | some text =>
    simp only [reduceCtorEq, false_and, false_or, Option.some.injEq, exists_and_left,
      exists_eq_left']
    unfold Resolver.create settledPath
    cases hsettled : host.settled (Path.ofText text) with
    | error path =>
      constructor
      · rintro ⟨h, -⟩
        cases h
        exact ⟨path, rfl, rfl⟩
      · rintro ⟨_, h, rfl⟩
        cases h
        exact ⟨rfl, rfl⟩
    | ok settled =>
      simp only [reduceCtorEq, false_and, exists_false, iff_false, not_and]
      intro h
      cases hexists : host.existsAt settled with
      | error call =>
        rw [hexists] at h
        cases h
        simp [Fault.class]
      | ok present =>
        rw [hexists] at h
        cases present <;> cases h
        simp [Fault.class]

/-- Where there is something, the search among installation directories meets faults of the
machine only, as its start is no loop of links either. -/
theorem class_of_modulesFinder {extra : List Path} {library : String} {start : Path}
    (hstart : host.existsAt start = .ok true)
    (h : modulesFinder extra host library start = .error fault) : fault.class = .environment := by
  obtain ⟨node, hnode⟩ := Host.existsAt_eq_true_iff.mp hstart
  obtain ⟨place, -, hsettled⟩ := Host.settled_of_node hnode
  unfold modulesFinder searchDirectories settledPath at h
  rw [hsettled] at h
  exact class_of_firstPackage h

/-- A name of a file that its library has, where the description of the library is JSON but not
an object. -/
structure Resolver.Misdescribed (r : Resolver) (host : Host) (name kind : String) : Prop where
  wellFormed : IsSourceName name
  notLocal : r.isLocal host name = .ok false
  goesOn : libraryName name ≠ name
  described : ∃ description text changed value, r.PackageAt host (libraryName name) description ∧
    trueCaseName host name (libraryRoot description (libraryName name)) = .ok (some name) ∧
    readTextFile host description = .ok (text, changed) ∧
    readJson (unifyNewlines text.toList) = .ok value ∧ (∀ members, value ≠ .object members) ∧
    kind = value.kind

theorem Resolver.Misdescribed.stoppedBy {kind : String} (h : r.Misdescribed host name kind) :
    r.StoppedBy host name (.notObject kind) := by
  obtain ⟨hname, hlocal, hgoesOn, description, text, changed, value, hpackage, hcasing, hread,
    hjson, hvalue, rfl⟩ := h
  exact .ofLibrary hname hlocal hgoesOn hpackage
    (.undescribed hcasing (packageVersion_error_iff.mpr (.notObject hread hjson hvalue)))

/-- A name meets no other fault that is not foreseen. -/
theorem misdescribed_of_stoppedBy (hr : usualResolver host root = .ok r)
    (h : r.StoppedBy host name fault) (hclass : fault.class = .unforeseen) :
    ∃ kind, fault = .notObject kind ∧ r.Misdescribed host name kind := by
  obtain ⟨text, settled, -, -, hexists, rfl⟩ := usualResolver_eq_ok_iff.mp hr
  cases h with
  | malformed | unclassified | misspelled | bare => cases hclass
  | unreadable _ _ _ hread => simp [class_of_unreadable hread] at hclass
  | unlocated _ _ _ hlocate =>
    cases hlocate with
    | finder hfind => simp [class_of_modulesFinder hexists hfind] at hclass
    | notInstalled => cases hclass
  | @ofLibrary description _ hname hlocal hgoesOn hpackage hstops =>
    cases hstops with
    | missed hmisses => cases hmisses <;> cases hclass
    | unreadable _ _ hread => simp [class_of_unreadable hread] at hclass
    | undescribed hcasing hversion =>
      cases packageVersion_error_iff.mp hversion with
      | unreadable hread => simp [class_of_readTextFile hread] at hclass
      | notJson => cases hclass
      | @notObject text changed value hread hjson hvalue =>
        exact ⟨_, rfl, hname, hlocal, hgoesOn, description, text, changed, value, hpackage,
          hcasing, hread, hjson, hvalue, rfl⟩

/-! ## What a command meets -/

/-- What a command comes to: the file of its name, with the rows of the imports if it asks for
these. -/
def Command.outcome (host : Host) (command : Command) :
    Except Fault (ResolvedFile × List ImportRow) :=
  match command.verb with
  | .resolve =>
    ((resolveNamed host command).within (.start .usual)).1.map fun named => (named.2, [])
  | .imports => ((resolveWithImports host command).within (.start .usual)).1

/-- The fault that stops a command: there is no resolver for its root, its name is stopped, or
an import meets a fault that there is no row for and all earlier ones have a row. -/
inductive Command.Meets (host : Host) (command : Command) : Fault → Prop
  | noResolver {fault : Fault} : usualResolver host command.settings.root = .error fault →
      Command.Meets host command fault
  | name {r : Resolver} {fault : Fault} : usualResolver host command.settings.root = .ok r →
      r.StoppedBy host command.name fault → Command.Meets host command fault
  | oneImport {r : Resolver} {file : ResolvedFile} {front back : List String} {imported : String}
      {fault : Fault} : command.verb = .imports →
      usualResolver host command.settings.root = .ok r →
      ((r.resolveSourceName host command.name).within (.start .usual)).1 = .ok file →
      file.content.imports = front ++ imported :: back →
      (∀ earlier ∈ front, Tellable (r.importAlone host file earlier)) →
      r.importAlone host file imported = .error fault → fault.class ≠ .resolution →
      Command.Meets host command fault

/-- Some import of the file that a command asks for fails. -/
def Command.FailsSome (host : Host) (command : Command) : Prop :=
  command.verb = .imports ∧ ∃ r file imported f cause,
    usualResolver host command.settings.root = .ok r ∧
    ((r.resolveSourceName host command.name).within (.start .usual)).1 = .ok file ∧
    imported ∈ file.content.imports ∧
    r.importAlone host file imported = .error (.failed f cause)

section Outcome

variable {command : Command}

theorem resolveNamed_error_iff (session : Session) :
    ((resolveNamed host command).within session).1 = .error fault ↔
      usualResolver host command.settings.root = .error fault ∨
        ∃ r, usualResolver host command.settings.root = .ok r ∧
          r.StoppedBy host command.name fault := by
  cases hr : usualResolver host command.settings.root with
  | error met =>
    unfold resolveNamed
    rw [Run.within_answer_bind_error_iff, hr]
    simp
  | ok r =>
    rw [resolveNamed_within hr]
    simp only [reduceCtorEq, Except.ok.injEq, exists_eq_left', false_or]
    rw [← Resolver.resolveSourceName_error_iff session]
    rcases (r.resolveSourceName host command.name).within session with ⟨outcome, after⟩
    cases outcome <;> simp

theorem resolveNamed_ok_iff {file : ResolvedFile} (session : Session) :
    ((resolveNamed host command).within session).1 = .ok (r, file) ↔
      usualResolver host command.settings.root = .ok r ∧
        ((r.resolveSourceName host command.name).within session).1 = .ok file := by
  cases hr : usualResolver host command.settings.root with
  | error met =>
    unfold resolveNamed
    rw [Run.within_bind, Run.within_answer, hr]
    simp
  | ok usual =>
    rw [resolveNamed_within hr]
    simp only [Except.ok.injEq]
    constructor
    · intro h
      rcases hended : (usual.resolveSourceName host command.name).within session with
        ⟨outcome, after⟩
      rw [hended] at h
      cases outcome with
      | error met => cases h
      | ok found =>
        cases h
        exact ⟨rfl, by rw [hended]⟩
    · rintro ⟨rfl, h⟩
      rcases hended : (usual.resolveSourceName host command.name).within session with
        ⟨outcome, after⟩
      rw [hended] at h
      obtain rfl : outcome = .ok file := h
      rfl

theorem exceptMap_error_iff {α β : Type} {f : α → β} {outcome : Except Fault α} :
    outcome.map f = .error fault ↔ outcome = .error fault := by
  cases outcome <;> simp [Except.map]

/-- A command whose name is stopped comes to what stopped it. -/
theorem outcome_of_named_error
    (h : ((resolveNamed host command).within (.start .usual)).1 = .error fault) :
    command.outcome host = .error fault := by
  unfold Command.outcome
  cases command.verb with
  | resolve => exact exceptMap_error_iff.mpr h
  | imports =>
    unfold resolveWithImports
    exact Run.within_bind_error_iff.mpr (Or.inl h)

/-- A command whose name is resolved comes to the rows of the imports, if it asks for them. -/
theorem outcome_of_named {file : ResolvedFile}
    (h : ((resolveNamed host command).within (.start .usual)).1 = .ok (r, file)) :
    ∃ rows : Except Fault (List ImportRow),
      command.outcome host = rows.map (fun rows => (file, rows)) ∧
      (command.verb = .resolve → rows = .ok []) ∧
      (command.verb = .imports → RowsOf (r.importAlone host file) file.content.imports rows) := by
  unfold Command.outcome
  cases hverb : command.verb with
  | resolve =>
    refine ⟨.ok [], ?_, fun _ => rfl, nofun⟩
    rw [h]
    rfl
  | imports =>
    obtain ⟨hr, hfile⟩ := (resolveNamed_ok_iff _).mp h
    obtain ⟨rows, hrows, hended⟩ := resolveWithImports_within command hr hfile
    exact ⟨rows, hended, nofun, fun _ => hrows⟩

theorem outcome_error_iff : command.outcome host = .error fault ↔ command.Meets host fault := by
  cases hnamed : ((resolveNamed host command).within (.start .usual)).1 with
  | error met =>
    rw [outcome_of_named_error hnamed, Except.error.injEq]
    constructor
    · rintro rfl
      rcases (resolveNamed_error_iff _).mp hnamed with hr | ⟨r, hr, hname⟩
      · exact .noResolver hr
      · exact .name hr hname
    · intro h
      have hmet : ((resolveNamed host command).within (.start .usual)).1 = .error fault := by
        cases h with
        | noResolver hr => exact (resolveNamed_error_iff _).mpr (Or.inl hr)
        | name hr hname => exact (resolveNamed_error_iff _).mpr (Or.inr ⟨_, hr, hname⟩)
        | oneImport _ hr hfile =>
          rw [(resolveNamed_ok_iff _).mpr ⟨hr, hfile⟩] at hnamed
          cases hnamed
      rw [hnamed] at hmet
      exact Except.error.inj hmet
  | ok named =>
    obtain ⟨r, file⟩ := named
    obtain ⟨rows, houtcome, hresolve, himports⟩ := outcome_of_named hnamed
    obtain ⟨hr, hfile⟩ := (resolveNamed_ok_iff _).mp hnamed
    rw [houtcome, exceptMap_error_iff]
    constructor
    · rintro rfl
      cases hverb : command.verb with
      | resolve => cases hresolve hverb
      | imports =>
        obtain ⟨front, imported, back, heq, hfront, hmet, hclass⟩ :=
          rowsOf_error_iff.mp (himports hverb)
        exact .oneImport hverb hr hfile heq hfront hmet hclass
    · intro h
      cases h with
      | noResolver hr' => rw [hr] at hr'; cases hr'
      | name hr' hname =>
        rw [(resolveNamed_error_iff _).mpr (Or.inr ⟨_, hr', hname⟩)] at hnamed
        cases hnamed
      | oneImport hverb hr' hfile' heq hfront hmet hclass =>
        rw [hr] at hr'
        cases hr'
        rw [hfile] at hfile'
        cases hfile'
        exact (himports hverb).unique (rowsOf_error_iff.mpr ⟨_, _, _, heq, hfront, hmet, hclass⟩)

/-- Of several faults that a command could meet, it meets the first. -/
theorem Command.Meets.unique {other : Fault} (h : command.Meets host fault)
    (h' : command.Meets host other) : other = fault := by
  rw [← outcome_error_iff] at h h'
  rw [h'] at h
  exact Except.error.inj h

theorem not_meets_of_outcome {file : ResolvedFile} {rows : List ImportRow}
    (h : command.outcome host = .ok (file, rows)) : ∀ fault, ¬ command.Meets host fault := by
  intro fault hmet
  rw [← outcome_error_iff, h] at hmet
  cases hmet

theorem any_failed_of_outcome {file : ResolvedFile} {rows : List ImportRow}
    (h : command.outcome host = .ok (file, rows)) :
    rows.any ImportRow.failed = true ↔ command.FailsSome host := by
  cases hnamed : ((resolveNamed host command).within (.start .usual)).1 with
  | error met =>
    rw [outcome_of_named_error hnamed] at h
    cases h
  | ok named =>
    obtain ⟨r, found⟩ := named
    obtain ⟨told, houtcome, hresolve, himports⟩ := outcome_of_named hnamed
    obtain ⟨hr, hfile⟩ := (resolveNamed_ok_iff _).mp hnamed
    rw [houtcome] at h
    cases told with
    | error met => cases h
    | ok rows =>
      cases h
      cases hverb : command.verb with
      | resolve =>
        cases hresolve hverb
        simp [Command.FailsSome, hverb]
      | imports =>
        rw [any_failed_iff (himports hverb)]
        constructor
        · rintro ⟨imported, hmem, f, cause, hfailed⟩
          exact ⟨hverb, r, file, imported, f, cause, hr, hfile, hmem, hfailed⟩
        · rintro ⟨-, r', file', imported, f, cause, hr', hfile', hmem, hfailed⟩
          rw [hr] at hr'
          cases hr'
          rw [hfile] at hfile'
          cases hfile'
          exact ⟨imported, hmem, f, cause, hfailed⟩

end Outcome

/-! ## What a command ends with -/

section Ends

variable {command : Command} {terminal : Terminal}

/-- How a fault is reported is told by its class. -/
theorem reportFault_of_class (settings : Settings) (p : Palette) (debug : List String)
    (fault : Fault) :
    let reported := reportFault settings p debug fault
    match fault.class with
    | .unforeseen => reported = .error fault
    | .resolution => ∃ output errors, reported = .ok ⟨1, output, errors⟩
    | .environment => ∃ output errors, reported = .ok ⟨2, output, errors⟩ := by
  simp only [reportFault]
  cases houtput : settings.output <;> cases fault <;>
    first | rfl | exact ⟨_, _, rfl⟩

theorem runCommand_of_error (terminal : Terminal) (h : command.outcome host = .error fault) :
    ∃ p debug, runCommand host terminal command = reportFault command.settings p debug fault := by
  obtain ⟨verb, name, settings⟩ := command
  unfold Command.outcome at h
  cases verb with
  | resolve =>
    unfold runCommand
    rcases hrun : (resolveNamed host ⟨.resolve, name, settings⟩).within (.start .usual) with
      ⟨ending, session⟩
    simp only [hrun] at h
    obtain rfl : ending = .error fault := exceptMap_error_iff.mp h
    exact ⟨_, _, by simp only [hrun]; rfl⟩
  | imports =>
    obtain ⟨debug, hprinted⟩ := runCommand_imports host terminal settings name
    dsimp only at h
    rw [h] at hprinted
    exact ⟨_, debug, hprinted⟩

theorem runCommand_of_ok (terminal : Terminal) {file : ResolvedFile} {rows : List ImportRow}
    (h : command.outcome host = .ok (file, rows)) :
    ∃ output errors, runCommand host terminal command =
      .ok ⟨if rows.any ImportRow.failed then 1 else 0, output, errors⟩ := by
  obtain ⟨verb, name, settings⟩ := command
  unfold Command.outcome at h
  cases verb with
  | resolve =>
    unfold runCommand
    rcases hrun : (resolveNamed host ⟨.resolve, name, settings⟩).within (.start .usual) with
      ⟨ending, session⟩
    simp only [hrun] at h
    cases ending with
    | error fault => cases h
    | ok named =>
      cases h
      exact ⟨_, _, by simp only [hrun]; rfl⟩
  | imports =>
    obtain ⟨debug, hprinted⟩ := runCommand_imports host terminal settings name
    dsimp only at h
    rw [h] at hprinted
    exact ⟨_, _, hprinted⟩

end Ends

/-- A fault that ends the program unreported: a root option without a root, a root that is a
loop of links, or a description that is JSON but no object, of the library of the name asked
for or of an import that is reached. -/
inductive Command.Uncaught (host : Host) (command : Command) : Fault → Prop
  | noRoot : command.settings.root = none → Command.Uncaught host command .noRoot
  | rootLoops {text : String} {path : Path} : command.settings.root = some text →
      host.settled (Path.ofText text) = .error path → Command.Uncaught host command (.linkLoop path)
  | name {r : Resolver} {kind : String} : usualResolver host command.settings.root = .ok r →
      r.Misdescribed host command.name kind → Command.Uncaught host command (.notObject kind)
  | oneImport {r : Resolver} {file : ResolvedFile} {front back : List String} {imported : String}
      {meant : ImportedName} {kind : String} : command.verb = .imports →
      usualResolver host command.settings.root = .ok r →
      ((r.resolveSourceName host command.name).within (.start .usual)).1 = .ok file →
      file.content.imports = front ++ imported :: back →
      (∀ earlier ∈ front, Tellable (r.importAlone host file earlier)) →
      importedName file imported = .ok meant → r.Misdescribed host meant.name kind →
      Command.Uncaught host command (.notObject kind)

/-- How a command exits: with 0 if it met no fault and no import failed, with 1 for failures to
resolve, and with 2 for faults of the machine and its files. -/
inductive Command.Exits (host : Host) (command : Command) : Nat → Prop
  | resolved : (∀ fault, ¬ command.Meets host fault) → ¬ command.FailsSome host →
      Command.Exits host command 0
  | importFailed : (∀ fault, ¬ command.Meets host fault) → command.FailsSome host →
      Command.Exits host command 1
  | failed {fault : Fault} : command.Meets host fault → fault.class = .resolution →
      Command.Exits host command 1
  | environment {fault : Fault} : command.Meets host fault → fault.class = .environment →
      Command.Exits host command 2

section Law

variable {command : Command} {terminal : Terminal}

theorem uncaught_iff :
    command.Uncaught host fault ↔ command.Meets host fault ∧ fault.class = .unforeseen := by
  constructor
  · intro h
    cases h with
    | noRoot hroot =>
      obtain ⟨hr, hclass⟩ := usualResolver_unforeseen_iff.mpr (Or.inl ⟨hroot, rfl⟩)
      exact ⟨.noResolver hr, hclass⟩
    | rootLoops hroot hloop =>
      obtain ⟨hr, hclass⟩ := usualResolver_unforeseen_iff.mpr (Or.inr ⟨_, _, hroot, hloop, rfl⟩)
      exact ⟨.noResolver hr, hclass⟩
    | name hr hname => exact ⟨.name hr hname.stoppedBy, rfl⟩
    | oneImport hverb hr hfile himports hfront hmeant hname =>
      have hended := (Resolver.resolveImport_error_iff (.start .usual)).mpr
        (.stopped hmeant hname.stoppedBy)
      exact ⟨.oneImport hverb hr hfile himports hfront hended (by simp [Fault.class]), rfl⟩
  · rintro ⟨h, hclass⟩
    cases h with
    | noResolver hr =>
      rcases usualResolver_unforeseen_iff.mp ⟨hr, hclass⟩ with
        ⟨hroot, rfl⟩ | ⟨_, _, hroot, hloop, rfl⟩
      · exact .noRoot hroot
      · exact .rootLoops hroot hloop
    | name hr hname =>
      obtain ⟨kind, rfl, hdescribed⟩ := misdescribed_of_stoppedBy hr hname hclass
      exact .name hr hdescribed
    | oneImport hverb hr hfile himports hfront hended _ =>
      cases (Resolver.resolveImport_error_iff (.start .usual)).mp hended with
      | untranslated => cases hclass
      | @stopped meant met hmeant hstopped =>
        have hmet : met.class = .unforeseen := (Resolver.class_toldOfImport met).symm.trans hclass
        rw [Resolver.toldOfImport_of_isOfFile (isOfFile_of_class (by simp [hmet]))]
        obtain ⟨kind, rfl, hdescribed⟩ := misdescribed_of_stoppedBy hr hstopped hmet
        exact .oneImport hverb hr hfile himports hfront hmeant hdescribed

theorem uncaught_iff_of_meets {met : Fault} (h : command.Meets host met) :
    command.Uncaught host fault ↔ met.class = .unforeseen ∧ fault = met := by
  rw [uncaught_iff]
  constructor
  · rintro ⟨hfault, hclass⟩
    obtain rfl := h.unique hfault
    exact ⟨hclass, rfl⟩
  · rintro ⟨hclass, rfl⟩
    exact ⟨h, hclass⟩

/-- The command lines that end unreported are just those with a fault that is not foreseen. All
others exit with 0, 1 or 2, as the failures and faults that they meet tell. -/
theorem a_command_line_is_reported_unless_a_fault_is_uncaught (host : Host) (terminal : Terminal)
    (words : List String) (command : Command) (h : readCommandLine words = .run command) :
    (∀ fault, runCommandLine host terminal words = .error fault ↔ command.Uncaught host fault) ∧
      ∀ transcript, runCommandLine host terminal words = .ok transcript →
        command.Exits host transcript.exit := by
  have hrun : runCommandLine host terminal words = runCommand host terminal command := by
    unfold runCommandLine
    rw [h]
  rw [hrun]
  cases houtcome : command.outcome host with
  | error met =>
    have hmet := outcome_error_iff.mp houtcome
    obtain ⟨p, debug, hended⟩ := runCommand_of_error terminal houtcome
    have hreport := reportFault_of_class command.settings p debug met
    simp only [hended, uncaught_iff_of_meets hmet]
    cases hclass : met.class with
    | unforeseen =>
      rw [hclass] at hreport
      rw [hreport]
      refine ⟨fun fault => ?_, fun transcript hprinted => by cases hprinted⟩
      simp [eq_comm]
    | resolution =>
      rw [hclass] at hreport
      obtain ⟨output, errors, hreport⟩ := hreport
      rw [hreport]
      refine ⟨fun fault => by simp, fun transcript hprinted => ?_⟩
      cases hprinted
      exact .failed hmet hclass
    | environment =>
      rw [hclass] at hreport
      obtain ⟨output, errors, hreport⟩ := hreport
      rw [hreport]
      refine ⟨fun fault => by simp, fun transcript hprinted => ?_⟩
      cases hprinted
      exact .environment hmet hclass
  | ok ended =>
    obtain ⟨file, rows⟩ := ended
    obtain ⟨output, errors, hended⟩ := runCommand_of_ok terminal houtcome
    have hnone := not_meets_of_outcome houtcome
    have hfails := any_failed_of_outcome houtcome
    simp only [hended, uncaught_iff]
    refine ⟨fun fault => by simp [hnone fault], fun transcript hprinted => ?_⟩
    cases hprinted
    by_cases hany : rows.any ImportRow.failed = true
    · simp only [hany, if_true]
      exact .importFailed hnone (hfails.mp hany)
    · simp only [hany, Bool.false_eq_true, if_false]
      exact .resolved hnone (mt hfails.mpr hany)

end Law

theorem a_misspelled_name_ends_as_a_failure :
    let words := ["resolve", "lib/Y.sol", "-r", "/project", "--no-color"]
    let command : Command := ⟨.resolve, "lib/Y.sol", projectSettings⟩
    readCommandLine words = .run command ∧
      ∃ transcript, runCommandLine Resolver.shadowedHost ⟨false, .unix⟩ words = .ok transcript ∧
        transcript.exit = 1 ∧ command.Exits Resolver.shadowedHost transcript.exit := by
  intro words command
  have hread : readCommandLine words = .run command := by decide +kernel
  have hlaw := a_command_line_is_reported_unless_a_fault_is_uncaught Resolver.shadowedHost
    ⟨false, .unix⟩ words command hread
  have hprinted : runCommandLine Resolver.shadowedHost ⟨false, .unix⟩ words =
      .ok ⟨1, "", "[411] Wrong source name casing: Trying to resolve the file lib/Y.sol but "
        ++ "its correct case-sensitive name is lib/y.sol\n"⟩ := by
    decide +kernel
  exact ⟨hread, _, hprinted, rfl, hlaw.2 _ hprinted⟩

/-- A library whose description is an empty list. -/
def listedHost : Host :=
  hostWith
    [(["project", "node_modules", "lib", "package.json"], .file [0x5b, 0x5d] 0),
     (["project", "node_modules", "lib", "x.sol"], .file [] 0)] []

theorem a_description_that_is_a_list_ends_the_program :
    runCommandLine listedHost ⟨false, .unix⟩ ["resolve", "lib/x.sol", "-r", "/project"] =
      .error (.notObject "list") := by
  decide +kernel

end SourceNames
