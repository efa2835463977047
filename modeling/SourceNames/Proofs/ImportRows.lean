-- The rows that are printed for the imports of a file. Each row tells how its import ends by
-- itself, whatever was resolved before it. Failures are rows like files, but the first import
-- that meets another fault takes all rows with it.

import Mathlib.Data.List.Forall2
import SourceNames.Proofs.ImportFailures
import SourceNames.Proofs.OneDisk

namespace SourceNames

open Resolver (hostWith emptyFile)

/-! ## Rows of imports that end by themselves -/

/-- How an import ends by itself, with nothing remembered. -/
def Resolver.importAlone (r : Resolver) (host : Host) (importer : ResolvedFile)
    (imported : String) : Except Fault ResolvedFile :=
  ((r.resolveImport host importer imported).within (.start .usual)).1

/-- A row tells how an import ended. There is a row for a file and for a failure. -/
inductive ImportRow.Tells : ImportRow → String → Except Fault ResolvedFile → Prop
  | file (imported : String) (file : ResolvedFile) :
      ImportRow.Tells ⟨imported, .ok file⟩ imported (.ok file)
  | failure (imported : String) (f : Failure) (cause : Option Failure) :
      ImportRow.Tells ⟨imported, .error f⟩ imported (.error (.failed f cause))

/-- An import ends with something that there is a row for. -/
def Tellable (outcome : Except Fault ResolvedFile) : Prop :=
  ∀ fault, outcome = .error fault → fault.class = .resolution

instance : DecidablePred Tellable
  | .ok _ => isTrue fun _ h => by cases h
  | .error fault => decidable_of_iff (fault.class = .resolution)
      ⟨fun h _ hfault => by cases hfault; exact h, fun h => h fault rfl⟩

theorem tellable_iff (imported : String) (outcome : Except Fault ResolvedFile) :
    Tellable outcome ↔ ∃ row : ImportRow, row.Tells imported outcome := by
  constructor
  · intro h
    cases outcome with
    | ok file => exact ⟨_, .file imported file⟩
    | error fault =>
      have hclass := h fault rfl
      cases fault with
      | failed f cause => exact ⟨_, .failure imported f cause⟩
      | _ => simp [Fault.class] at hclass
  · rintro ⟨row, h⟩ fault hfault
    cases h <;> cases hfault
    rfl

theorem ImportRow.Tells.unique {row other : ImportRow} {imported : String}
    {outcome : Except Fault ResolvedFile} (h : row.Tells imported outcome)
    (h' : other.Tells imported outcome) : row = other := by
  cases h <;> cases h' <;> rfl

/-- The rows of several imports, each of which ends as told, or the first fault that there is
no row for. -/
inductive RowsOf (ended : String → Except Fault ResolvedFile) :
    List String → Except Fault (List ImportRow) → Prop
  | done : RowsOf ended [] (.ok [])
  | row {imported : String} {rest : List String} {row : ImportRow} {rows : List ImportRow} :
      row.Tells imported (ended imported) → RowsOf ended rest (.ok rows) →
      RowsOf ended (imported :: rest) (.ok (row :: rows))
  | later {imported : String} {rest : List String} {fault : Fault} : Tellable (ended imported) →
      RowsOf ended rest (.error fault) → RowsOf ended (imported :: rest) (.error fault)
  | stopped {imported : String} {rest : List String} {fault : Fault} :
      ended imported = .error fault → fault.class ≠ .resolution →
      RowsOf ended (imported :: rest) (.error fault)

section Rows

variable {ended : String → Except Fault ResolvedFile} {imports : List String}
variable {rows : List ImportRow} {fault : Fault}

/-- There are rows just if each is the row of its import. -/
theorem rowsOf_ok_iff : RowsOf ended imports (.ok rows) ↔
    List.Forall₂ (fun imported row => row.Tells imported (ended imported)) imports rows := by
  induction imports generalizing rows with
  | nil =>
    constructor
    · intro h
      cases h
      exact .nil
    · intro h
      cases h
      exact .done
  | cons imported rest ih =>
    constructor
    · intro h
      cases h with
      | row hrow hrest => exact .cons hrow (ih.mp hrest)
    · intro h
      cases h with
      | cons hrow hrest => exact .row hrow (ih.mpr hrest)

theorem tellable_of_rowsOf (h : RowsOf ended imports (.ok rows)) :
    ∀ imported ∈ imports, Tellable (ended imported) := by
  induction imports generalizing rows with
  | nil => simp
  | cons imported rest ih =>
    cases h with
    | row hrow hrest =>
      exact List.forall_mem_cons.mpr ⟨(tellable_iff imported _).mpr ⟨_, hrow⟩, ih hrest⟩

/-- There is a fault just if an import meets it and every one before has a row. -/
theorem rowsOf_error_iff : RowsOf ended imports (.error fault) ↔
    ∃ front imported back, imports = front ++ imported :: back ∧
      (∀ earlier ∈ front, Tellable (ended earlier)) ∧ ended imported = .error fault ∧
      fault.class ≠ .resolution := by
  constructor
  · intro h
    generalize houtcome : (Except.error fault : Except Fault (List ImportRow)) = outcome at h
    induction h with
    | done => cases houtcome
    | row => cases houtcome
    | @later imported rest _ htellable _ ih =>
      obtain ⟨front, stopped, back, rfl, hfront, hstops⟩ := ih houtcome
      exact ⟨imported :: front, stopped, back, rfl, List.forall_mem_cons.mpr ⟨htellable, hfront⟩,
        hstops⟩
    | @stopped imported rest _ hended hclass =>
      cases houtcome
      exact ⟨[], imported, rest, rfl, by simp, hended, hclass⟩
  · rintro ⟨front, imported, back, rfl, hfront, hended, hclass⟩
    induction front with
    | nil => exact .stopped hended hclass
    | cons first front ih =>
      obtain ⟨hfirst, hfront⟩ := List.forall_mem_cons.mp hfront
      exact .later hfirst (ih hfront)

/-- A row among others is one of a failure just if some import failed. -/
theorem any_failed_iff (h : RowsOf ended imports (.ok rows)) :
    rows.any ImportRow.failed = true ↔
      ∃ imported ∈ imports, ∃ f cause, ended imported = .error (.failed f cause) := by
  induction imports generalizing rows with
  | nil =>
    cases h
    simp
  | cons imported rest ih =>
    cases h with
    | @row _ _ row rows hrow hrest =>
      have hfailed : row.failed = true ↔ ∃ f cause, ended imported = .error (.failed f cause) := by
        unfold ImportRow.failed
        generalize ended imported = outcome at hrow
        cases hrow <;> simp
      rw [List.any_cons, Bool.or_eq_true, hfailed, ih hrest]
      simp

theorem RowsOf.unique {outcome other : Except Fault (List ImportRow)}
    (h : RowsOf ended imports outcome) (h' : RowsOf ended imports other) : outcome = other := by
  have hstops : ∀ {imported fault}, Tellable (ended imported) → ended imported = .error fault →
      fault.class ≠ .resolution → False := fun htellable hended hclass =>
    hclass (htellable _ hended)
  induction h generalizing other with
  | done => cases h'; rfl
  | row hrow _ ih =>
    have htellable := (tellable_iff _ _).mpr ⟨_, hrow⟩
    cases h' with
    | row hrow' hrest' =>
      obtain rfl := hrow.unique hrow'
      cases ih hrest'
      rfl
    | later _ hrest' => cases ih hrest'
    | stopped hended hclass => exact (hstops htellable hended hclass).elim
  | later htellable _ ih =>
    cases h' with
    | row _ hrest' => cases ih hrest'
    | later _ hrest' => exact ih hrest'
    | stopped hended hclass => exact (hstops htellable hended hclass).elim
  | stopped hended hclass =>
    cases h' with
    | row hrow' => exact (hstops ((tellable_iff _ _).mpr ⟨_, hrow'⟩) hended hclass).elim
    | later htellable' => exact (hstops htellable' hended hclass).elim
    | stopped hended' =>
      rw [hended] at hended'
      cases hended'
      rfl

end Rows

/-! ## The command -/

section Command

variable {r : Resolver} {host : Host} {importer : ResolvedFile} {session : Session}

/-- An import ends by itself as it does in any session on the disk. -/
theorem resolveImport_alike (hr : r.Anchored host) (hparser : r.parser = rememberingParser)
    (hsession : session.Faithful host) (importer : ResolvedFile) (imported : String) :
    ((r.resolveImport host importer imported).within session).1 =
        r.importAlone host importer imported ∧
      ((r.resolveImport host importer imported).within session).2.Faithful host := by
  obtain ⟨outcome, houtcome⟩ :=
    ends_alike (Resolver.steady_importWith hparser (r.isLocal host) importer imported)
      (Resolver.writes_resolveImport hr importer imported)
  unfold Resolver.importAlone
  obtain ⟨hended, hafter⟩ := houtcome session hsession
  exact ⟨hended.trans (houtcome _ (faithful_start host)).1.symm, hafter⟩

/-- One import gives a row that tells how it ended, or the fault that it met if there is no row
for that. -/
theorem importRow_within (r : Resolver) (host : Host) (importer : ResolvedFile) (imported : String)
    (session : Session) :
    let ended := (r.resolveImport host importer imported).within session
    (∃ row : ImportRow, row.Tells imported ended.1 ∧
      (importRow r host importer imported).within session = (.ok row, ended.2)) ∨
      ∃ fault, ended.1 = .error fault ∧ fault.class ≠ .resolution ∧
        (importRow r host importer imported).within session = (.error fault, ended.2) := by
  intro ended
  unfold importRow
  rw [Run.within_tryCatch, Run.within_bind]
  rcases hended : ended with ⟨outcome, after⟩
  simp only [ended] at hended
  rw [hended]
  cases outcome with
  | ok file => exact Or.inl ⟨_, .file imported file, rfl⟩
  | error fault =>
    cases fault with
    | failed f cause => exact Or.inl ⟨_, .failure imported f cause, rfl⟩
    | _ => exact Or.inr ⟨_, rfl, by simp [Fault.class], rfl⟩

theorem importRows_within (hr : r.Anchored host) (hparser : r.parser = rememberingParser)
    (importer : ResolvedFile) (imports : List String) (hsession : session.Faithful host) :
    RowsOf (r.importAlone host importer) imports
      ((importRows r host importer imports).within session).1 := by
  induction imports generalizing session with
  | nil =>
    rw [importRows, Run.within_pure]
    exact .done
  | cons imported rest ih =>
    obtain ⟨hended, hafter⟩ := resolveImport_alike hr hparser hsession importer imported
    rw [importRows, Run.within_bind]
    rcases importRow_within r host importer imported session with
      ⟨row, hrow, hwithin⟩ | ⟨fault, hfault, hclass, hwithin⟩
    · rw [hended] at hrow
      rw [hwithin]
      have hrest := ih hafter
      dsimp only
      rw [Run.within_bind]
      generalize (importRows r host importer rest).within _ = later at hrest ⊢
      obtain ⟨outcome, last⟩ := later
      cases outcome with
      | ok rows => exact .row hrow hrest
      | error fault => exact .later ((tellable_iff imported _).mpr ⟨row, hrow⟩) hrest
    · rw [hended] at hfault
      rw [hwithin]
      exact .stopped hfault hclass

theorem faithful_resolveSourceName (hr : r.Anchored host) (hparser : r.parser = rememberingParser)
    (name : String) (hsession : session.Faithful host) :
    ((r.resolveSourceName host name).within session).2.Faithful host := by
  obtain ⟨_, hends⟩ := ends_alike (Resolver.steady_resolveWith hparser (r.isLocal host) name)
    (Resolver.writes_resolveSourceName hr name)
  exact (hends session hsession).2

theorem resolveNamed_within {command : Command}
    (hr : usualResolver host command.settings.root = .ok r) (session : Session) :
    (resolveNamed host command).within session =
      match (r.resolveSourceName host command.name).within session with
      | (.ok file, after) => (.ok (r, file), after)
      | (.error fault, after) => (.error fault, after) := by
  unfold resolveNamed
  rw [Run.within_answer_bind hr, Run.within_bind]
  rcases (r.resolveSourceName host command.name).within session with ⟨outcome, after⟩
  cases outcome <;> rfl

/-- Once the name is resolved, the rows of its imports are those of each import by itself, or
the first fault that there is no row for. -/
theorem resolveWithImports_within (command : Command) {file : ResolvedFile}
    (hr : usualResolver host command.settings.root = .ok r)
    (hfile : ((r.resolveSourceName host command.name).within (.start .usual)).1 = .ok file) :
    ∃ outcome, RowsOf (r.importAlone host file) file.content.imports outcome ∧
      ((resolveWithImports host command).within (.start .usual)).1 =
        outcome.map fun rows => (file, rows) := by
  obtain ⟨hanchored, hparser⟩ := Resolver.anchored_of_usualResolver hr
  have hafter := faithful_resolveSourceName hanchored hparser command.name (faithful_start host)
  unfold resolveWithImports
  rw [Run.within_bind, resolveNamed_within hr]
  rcases hended : (r.resolveSourceName host command.name).within (.start .usual) with
    ⟨outcome, after⟩
  rw [hended] at hfile hafter
  obtain rfl : outcome = .ok file := hfile
  have hrows := importRows_within hanchored hparser file file.content.imports hafter
  dsimp only
  rw [Run.within_bind]
  generalize (importRows r host file file.content.imports).within after = ended at hrows ⊢
  obtain ⟨rows, last⟩ := ended
  refine ⟨rows, hrows, ?_⟩
  cases rows <;> rfl

/-- What the command for imports prints: the rows that it comes to, or a report of its fault. -/
theorem runCommand_imports (host : Host) (terminal : Terminal) (settings : Settings)
    (name : String) :
    let p := (sharedPalette none settings.noColor host.env terminal).1
    ∃ debug, runCommand host terminal ⟨.imports, name, settings⟩ =
      match ((resolveWithImports host ⟨.imports, name, settings⟩).within (.start .usual)).1 with
      | .ok (file, rows) => .ok ⟨if rows.any ImportRow.failed then 1 else 0,
          textLines (importsOutput settings p file rows), textLines debug⟩
      | .error fault => reportFault settings p debug fault := by
  simp only [runCommand]
  rcases hrun : (resolveWithImports host ⟨.imports, name, settings⟩).within (.start .usual) with
    ⟨ending, session⟩
  cases ending <;> exact ⟨_, rfl⟩

/-! ## The law -/

/-- The imports of a file that was resolved are printed row by row, each as it ends by itself,
if there is a row for every one of them. Otherwise the first fault that there is no row for is
reported, and no row at all. -/
theorem imports_are_told_row_by_row_unless_one_meets_another_fault (host : Host)
    (terminal : Terminal) (settings : Settings) (name : String) (r : Resolver) (file : ResolvedFile)
    (hr : usualResolver host settings.root = .ok r)
    (hfile : ((r.resolveSourceName host name).within (.start .usual)).1 = .ok file) :
    let ended := r.importAlone host file
    let p := (sharedPalette none settings.noColor host.env terminal).1
    let printed := runCommand host terminal ⟨.imports, name, settings⟩
    ((∀ imported ∈ file.content.imports, Tellable (ended imported)) →
      ∃ rows debug, List.Forall₂ (fun imported row => row.Tells imported (ended imported))
          file.content.imports rows ∧
        printed = .ok ⟨if rows.any ImportRow.failed then 1 else 0,
          textLines (importsOutput settings p file rows), debug⟩) ∧
      (¬ (∀ imported ∈ file.content.imports, Tellable (ended imported)) →
        ∃ front imported back fault debug, file.content.imports = front ++ imported :: back ∧
          (∀ earlier ∈ front, Tellable (ended earlier)) ∧ ended imported = .error fault ∧
          fault.class ≠ .resolution ∧ printed = reportFault settings p debug fault) := by
  intro ended p printed
  obtain ⟨outcome, hrows, hended⟩ :=
    resolveWithImports_within ⟨.imports, name, settings⟩ hr hfile
  obtain ⟨debug, hprinted⟩ := runCommand_imports host terminal settings name
  rw [hended] at hprinted
  constructor
  · intro hall
    cases outcome with
    | ok rows => exact ⟨rows, _, rowsOf_ok_iff.mp hrows, hprinted⟩
    | error fault =>
      obtain ⟨front, imported, back, himports, -, hmet, hclass⟩ := rowsOf_error_iff.mp hrows
      have hmem : imported ∈ file.content.imports := by rw [himports]; simp
      exact absurd (hall imported hmem fault hmet) hclass
  · intro hnot
    cases outcome with
    | ok rows => exact absurd (tellable_of_rowsOf hrows) hnot
    | error fault =>
      obtain ⟨front, imported, back, himports, hfront, hmet, hclass⟩ := rowsOf_error_iff.mp hrows
      exact ⟨front, imported, back, fault, debug, himports, hfront, hmet, hclass, hprinted⟩

end Command

/-- The usual resolver for a root that is there. -/
theorem usualResolver_eq_ok_iff {host : Host} {root : Option String} {r : Resolver} :
    usualResolver host root = .ok r ↔ ∃ text settled, root = some text ∧
      settledPath host (Path.ofText text) = .ok settled ∧ host.existsAt settled = .ok true ∧
      r = ⟨settled, modulesFinder [], rememberingParser⟩ := by
  unfold usualResolver
  cases root with
  | none => simp
  | some text =>
    simp only [Option.some.injEq, exists_and_left, exists_eq_left']
    rw [Resolver.create_eq_ok_iff]

/-- A file with an import that fails between two that do not, and a file with one that leads to
a folder between the others. -/
def roadsideHost : Host :=
  hostWith
    [(["project", "a.sol"],
        .file "import './b.sol'; import 'x://c.sol'; import './b.sol';".toUTF8.data.toList 0),
     (["project", "d.sol"],
        .file "import './b.sol'; import './sub'; import 'x://c.sol';".toUTF8.data.toList 0),
     (["project", "b.sol"], .file [] 0), (["project", "sub"], .emptyFolder)] []

def usualProjectResolver : Resolver :=
  ⟨⟨.root, ["project"]⟩, modulesFinder [], rememberingParser⟩

/-- The settings for the project, without styles. -/
def projectSettings : Settings := { usualSettings with root := some "/project", noColor := true }

theorem usualResolver_roadsideHost :
    usualResolver roadsideHost projectSettings.root = .ok usualProjectResolver :=
  usualResolver_eq_ok_iff.mpr
    ⟨"/project", ⟨.root, ["project"]⟩, rfl, by decide +kernel, by decide +kernel, rfl⟩

theorem a_failed_import_is_a_row_among_others :
    let file : ResolvedFile :=
      { emptyFile "a.sol" "/project/a.sol" none with
        content := ⟨"import './b.sol'; import 'x://c.sol'; import './b.sol';",
          ["./b.sol", "x://c.sol", "./b.sol"], []⟩ }
    let ended := usualProjectResolver.importAlone roadsideHost file
    let printed := runCommand roadsideHost ⟨false, .unix⟩ ⟨.imports, "a.sol", projectSettings⟩
    ∃ rows debug, List.Forall₂ (fun imported row => row.Tells imported (ended imported))
        file.content.imports rows ∧
      printed = .ok ⟨if rows.any ImportRow.failed then 1 else 0,
        textLines (importsOutput projectSettings ⟨false⟩ file rows), debug⟩ := by
  intro file ended printed
  have hfile : ((usualProjectResolver.resolveSourceName roadsideHost "a.sol").within
      (.start .usual)).1 = .ok file := by decide +kernel
  have hlaw := imports_are_told_row_by_row_unless_one_meets_another_fault roadsideHost
    ⟨false, .unix⟩ projectSettings "a.sol" usualProjectResolver file usualResolver_roadsideHost
    hfile
  exact hlaw.1 (by decide +kernel)

/-- The import of a folder takes the file before it and the failure after it along. -/
theorem an_imported_folder_suppresses_the_rows_of_other_imports :
    let file : ResolvedFile :=
      { emptyFile "d.sol" "/project/d.sol" none with
        content := ⟨"import './b.sol'; import './sub'; import 'x://c.sol';",
          ["./b.sol", "./sub", "x://c.sol"], []⟩ }
    let ended := usualProjectResolver.importAlone roadsideHost file
    ((usualProjectResolver.resolveSourceName roadsideHost "d.sol").within (.start .usual)).1 =
        .ok file ∧
      ended "./b.sol" = .ok (emptyFile "b.sol" "/project/b.sol" none) ∧
      ended "x://c.sol" = .error (.of (.importProtocol "d.sol" "x://c.sol" "x")) ∧
      runCommand roadsideHost ⟨false, .unix⟩ ⟨.imports, "d.sol", projectSettings⟩ =
        .ok ⟨2, "", "IsADirectoryError: [Errno 21] Is a directory: '/project/sub'\n"⟩ := by
  decide +kernel

end SourceNames
