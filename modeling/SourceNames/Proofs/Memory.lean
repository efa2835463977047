-- A resolver has no memory that shows. It remembers scans, but each of them is a scan of a
-- text it was given, kept under the path and the digest of that text. So unless two texts of
-- one path share a digest, every step ends as it would with nothing remembered.

import Mathlib.Tactic.Choose
import SourceNames.Disk.Change
import SourceNames.Proofs.Containment

namespace SourceNames

/-! ## What is remembered -/

/-- No two texts that were scanned under one path have the same digest. -/
def NoClash (journal : List Event) : Prop :=
  ∀ path a b, Event.askedParser a path ∈ journal → Event.askedParser b path ∈ journal →
    contentHash a = contentHash b → a = b

/-- The path and the text of a scan. -/
def Event.scanned? : Event → Option (String × String)
  | .askedParser source path => some (path, source)
  | _ => none

theorem noClash_iff (journal : List Event) : NoClash journal ↔
    ∀ a ∈ journal.filterMap Event.scanned?, ∀ b ∈ journal.filterMap Event.scanned?,
      a.1 = b.1 → contentHash a.2 = contentHash b.2 → a.2 = b.2 := by
  have hmem : ∀ scanned, scanned ∈ journal.filterMap Event.scanned? ↔
      .askedParser scanned.2 scanned.1 ∈ journal := by
    intro scanned
    refine List.mem_filterMap.trans ⟨?_, fun h => ⟨_, h, rfl⟩⟩
    rintro ⟨event, h, hscanned⟩
    cases event <;> cases hscanned
    exact h
  simp only [hmem]
  constructor
  · intro h a ha b hb hpath
    exact h a.1 a.2 b.2 ha (hpath ▸ hb)
  · intro h path a b ha hb
    exact h (path, a) ha (path, b) hb rfl

instance (journal : List Event) : Decidable (NoClash journal) :=
  decidable_of_iff _ (noClash_iff journal).symm

/-- Every scan that is remembered is one of a text that was scanned. -/
def ScanMemo.Honest (memo : ScanMemo) (journal : List Event) : Prop :=
  ∀ key found, (key, found) ∈ memo.entries →
    ∃ source path, Event.askedParser source path ∈ journal ∧ key = scanKey source path ∧
      found = scan source

theorem NoClash.left {front back : List Event} (h : NoClash (front ++ back)) : NoClash front :=
  fun path a b ha hb => h path a b (List.mem_append_left _ ha) (List.mem_append_left _ hb)

theorem NoClash.right {front back : List Event} (h : NoClash (front ++ back)) : NoClash back :=
  fun path a b ha hb => h path a b (List.mem_append_right _ ha) (List.mem_append_right _ hb)

theorem honest_empty (capacity : Nat) (positive : 0 < capacity) (journal : List Event) :
    ScanMemo.Honest (Memo.empty capacity positive) journal := by
  intro key found h
  simp [Memo.empty] at h

theorem ScanMemo.Honest.later {memo : ScanMemo} {journal : List Event} (h : memo.Honest journal)
    (events : List Event) : memo.Honest (journal ++ events) := by
  intro key found hm
  obtain ⟨source, path, hasked, hkey, hfound⟩ := h key found hm
  exact ⟨source, path, List.mem_append_left _ hasked, hkey, hfound⟩

theorem mem_of_lookup {κ α : Type} [DecidableEq κ] {entries : List (κ × α)} {key : κ} {found : α}
    (h : entries.lookup key = some found) : (key, found) ∈ entries := by
  induction entries with
  | nil => simp at h
  | cons entry rest ih =>
    obtain ⟨other, result⟩ := entry
    rw [List.lookup_cons] at h
    by_cases hkey : key = other
    · subst hkey
      simp only [beq_self_eq_true, Option.some.injEq] at h
      simp [h]
    · simp only [beq_eq_false_iff_ne.mpr hkey] at h
      exact List.mem_cons_of_mem _ (ih h)

/-- What is held after a use was held before or is the result used. -/
theorem mem_entries_keep {κ α : Type} [DecidableEq κ] {m : Memo κ α} {key : κ} {result : α}
    {entry : κ × α} (h : entry ∈ (m.keep key result).entries) :
    entry ∈ m.entries ∨ entry = (key, result) := by
  unfold Memo.keep at h
  rcases List.mem_append.mp (List.mem_of_mem_drop h) with h | h
  · exact Or.inl (List.mem_filter.mp h).1
  · exact Or.inr (List.mem_singleton.mp h)

theorem honest_keep {memo : ScanMemo} {log : List Event} {source path : String}
    (h : memo.Honest log) (hasked : .askedParser source path ∈ log) :
    ScanMemo.Honest (memo.keep (scanKey source path) (scan source)) log := by
  intro key found hm
  rcases mem_entries_keep hm with hm | hm
  · exact h key found hm
  · cases hm
    exact ⟨source, path, hasked, rfl, rfl⟩

theorem scan_of_find {memo : ScanMemo} {log : List Event} {source path : String}
    {found : SourceScan} (h : memo.Honest log)
    (hfind : memo.find? (scanKey source path) = some found) :
    ∃ other, .askedParser other path ∈ log ∧ contentHash source = contentHash other ∧
      scanKey source path = scanKey other path ∧ found = scan other := by
  obtain ⟨other, place, hasked, hkey, rfl⟩ := h _ _ (mem_of_lookup hfind)
  obtain ⟨rfl, hdigest⟩ := Prod.mk.inj hkey
  exact ⟨other, hasked, hdigest, hkey, rfl⟩

theorem honest_rememberingParser {memo : ScanMemo} {log : List Event} (source path : String)
    (h : memo.Honest log) :
    (rememberingParser source path memo).2.Honest (log ++ [.askedParser source path]) := by
  unfold rememberingParser rememberingWith Memo.use
  cases hfind : memo.find? (scanKey source path) with
  | none => exact honest_keep (h.later _) (by simp)
  | some found =>
    -- Even where there is a clash, the scan that is kept is one of a text of this key.
    obtain ⟨other, hasked, -, hkey, rfl⟩ := scan_of_find h hfind
    simp only [hkey]
    exact honest_keep (h.later _) (List.mem_append_left _ hasked)

/-- Without a clash the scanner that remembers finds what a scan of the text finds. -/
theorem rememberingParser_eq {memo : ScanMemo} {log : List Event} {source path : String}
    (h : memo.Honest log) (hclash : NoClash (log ++ [.askedParser source path])) :
    (rememberingParser source path memo).1 = scan source := by
  unfold rememberingParser rememberingWith Memo.use
  cases hfind : memo.find? (scanKey source path) with
  | none => rfl
  | some found =>
    obtain ⟨other, hasked, hdigest, -, rfl⟩ := scan_of_find h hfind
    rw [hclash path source other (by simp) (List.mem_append_left _ hasked) hdigest]

/-! ## Work that does not depend on what is remembered -/

namespace Run

variable {α β : Type}

/-- The outcome and the events are settled beforehand: scans that are remembered honestly do
not change them, unless there is a clash in what is scanned. -/
def Steady (work : Run α) : Prop :=
  ∃ outcome events, ∀ log session, session.memo.Honest log →
    ∃ actual, (work.within session).2.journal = session.journal ++ actual ∧
      (work.within session).2.memo.Honest (log ++ actual) ∧
      (NoClash (log ++ actual) ∨ NoClash (log ++ events) →
        (work.within session).1 = outcome ∧ actual = events)

/-- Work that leaves what is remembered alone. -/
theorem steady_of_within {work : Run α} (outcome : Except Fault α) (events : List Event)
    (h : ∀ session, work.within session =
      (outcome, { session with journal := session.journal ++ events })) : work.Steady := by
  refine ⟨outcome, events, fun log session hmemo => ⟨events, ?_, ?_, fun _ => ?_⟩⟩
  · rw [h]
  · rw [h]
    exact hmemo.later events
  · rw [h]
    exact ⟨rfl, rfl⟩

theorem steady_pure (a : α) : Steady (pure a) :=
  steady_of_within (.ok a) [] fun session => by simp

theorem steady_throw (fault : Fault) : Steady (throw fault : Run α) :=
  steady_of_within (.error fault) [] fun session => by simp

theorem steady_answer (outcome : Except Fault α) : (answer outcome).Steady :=
  steady_of_within outcome [] fun session => by simp

theorem steady_record (event : Event) : (record event).Steady :=
  steady_of_within (.ok ()) [event] fun session => within_record event session

theorem steady_parse (source path : String) :
    (parseWith rememberingParser source path).Steady := by
  refine ⟨.ok (scan source), [.askedParser source path], fun log session hmemo => ?_⟩
  refine ⟨[.askedParser source path], rfl, honest_rememberingParser source path hmemo, ?_⟩
  intro hclash
  exact ⟨congrArg Except.ok (rememberingParser_eq hmemo (or_self_iff.mp hclash)), rfl⟩

/-- Two steps in a row, the second one chosen by how the first one ends. -/
theorem steady_then {work : Run α} {both : Run β} (next : Except Fault α → Run β)
    (hwork : work.Steady) (hnext : ∀ outcome, (next outcome).Steady)
    (h : ∀ session, both.within session =
      (next (work.within session).1).within (work.within session).2) : both.Steady := by
  obtain ⟨first, events, hfirst⟩ := hwork
  choose second more hsecond using hnext
  refine ⟨second first, events ++ more first, fun log session hmemo => ?_⟩
  have hended := hfirst log session hmemo
  rw [h]
  generalize work.within session = ended at hended ⊢
  obtain ⟨outcome, after⟩ := ended
  obtain ⟨actual, hjournal, hhonest, hsame⟩ := hended
  obtain ⟨actual', hjournal', hhonest', hsame'⟩ := hsecond outcome (log ++ actual) after hhonest
  refine ⟨actual ++ actual', ?_, ?_, fun hclash => ?_⟩
  · rw [hjournal', hjournal, List.append_assoc]
  · rwa [← List.append_assoc]
  · simp only [← List.append_assoc] at hclash
    obtain ⟨rfl, rfl⟩ := hsame (hclash.imp NoClash.left NoClash.left)
    obtain ⟨houtcome, rfl⟩ := hsame' hclash
    exact ⟨houtcome, rfl⟩

theorem steady_bind {work : Run α} {next : α → Run β} (hwork : work.Steady)
    (hnext : ∀ a, (next a).Steady) : (work >>= next).Steady := by
  refine steady_then (fun outcome => answer outcome >>= next) hwork ?_ ?_
  · intro outcome
    cases outcome with
    | error fault => exact steady_throw fault
    | ok a => exact hnext a
  · intro session
    rw [within_bind]
    rcases work.within session with ⟨outcome, after⟩
    cases outcome <;> rfl

theorem steady_tryCatch {work : Run α} {handler : Fault → Run α} (hwork : work.Steady)
    (hhandler : ∀ fault, (handler fault).Steady) : (tryCatch work handler).Steady := by
  refine steady_then (fun outcome => tryCatch (answer outcome) handler) hwork ?_ ?_
  · intro outcome
    cases outcome with
    | error fault => exact hhandler fault
    | ok a => exact steady_pure a
  · intro session
    rw [within_tryCatch]
    rcases work.within session with ⟨outcome, after⟩
    cases outcome <;> rfl

end Run

/-! ## Resolutions -/

namespace Resolver

open Run

variable {r : Resolver} {host : Host}

theorem steady_load (hr : r.parser = rememberingParser) (name : String) (path : Path)
    (library : Option LibraryInfo) : (r.load host name path library).Steady := by
  unfold load
  rw [hr]
  refine steady_bind (steady_answer _) fun read => ?_
  refine steady_bind (steady_answer _) fun modified => ?_
  exact steady_bind (steady_parse _ _) fun found => steady_pure _

theorem steady_locatePackage (library : String) : (r.locatePackage host library).Steady := by
  unfold locatePackage
  refine steady_bind (steady_record _) fun _ => steady_bind (steady_answer _) fun found => ?_
  split
  · split
    · exact steady_bind (steady_record _) fun _ => steady_pure _
    · exact steady_pure _
  · split
    · exact steady_bind (steady_record _) fun _ => steady_pure _
    · exact steady_throw _

theorem steady_resolveLocal (hr : r.parser = rememberingParser) (name : String) :
    (r.resolveLocal host name).Steady := by
  unfold resolveLocal
  exact steady_bind (steady_answer _) fun _ => steady_load hr _ _ _

theorem steady_resolveFromLibrary (hr : r.parser = rememberingParser) (name : String) :
    (r.resolveFromLibrary host name).Steady := by
  have hrest : ∀ _ : PUnit, Steady (do
      let file ← r.locatePackage host (libraryName name)
      let directory := libraryRoot file (libraryName name)
      answer (checkCasing host name directory .libraryFileNotFound)
      let version ← answer (packageVersion host file)
      record (.libraryAt (libraryName name) version directory)
      r.load host name (directory.below name) (some ⟨libraryName name, version⟩)) := by
    intro _
    refine steady_bind (steady_locatePackage _) fun file => ?_
    refine steady_bind (steady_answer _) fun _ => steady_bind (steady_answer _) fun version => ?_
    exact steady_bind (steady_record _) fun _ => steady_load hr _ _ _
  unfold resolveFromLibrary
  simp only
  split
  · exact steady_bind (steady_throw _) hrest
  · exact hrest ⟨⟩

theorem steady_resolveWith (hr : r.parser = rememberingParser) (classify : Classifier)
    (name : String) : (r.resolveWith host classify name).Steady := by
  unfold resolveWith
  refine steady_bind (steady_answer _) fun _ => steady_bind (steady_answer _) fun isLocal => ?_
  split
  · exact steady_bind (steady_record _) fun _ => steady_resolveLocal hr name
  · exact steady_bind (steady_record _) fun _ => steady_resolveFromLibrary hr name

theorem steady_importWith (hr : r.parser = rememberingParser) (classify : Classifier)
    (importer : ResolvedFile) (imported : String) :
    (r.importWith host classify importer imported).Steady := by
  have hname : (nameImport importer imported).Steady := by
    unfold nameImport
    split
    · exact steady_throw _
    · exact steady_bind (steady_record _) fun _ => steady_pure _
  unfold importWith
  refine steady_bind hname fun name => ?_
  refine steady_tryCatch (steady_resolveWith hr classify name) fun fault => ?_
  split
  · split
    · exact steady_bind (steady_record _) fun _ => steady_throw _
    · exact steady_throw _
  · exact steady_throw _

theorem steady_importAllWith (hr : r.parser = rememberingParser) (classify : Classifier)
    (importer : ResolvedFile) (imports : List String) :
    (r.importAllWith host classify importer imports).Steady := by
  induction imports with
  | nil => exact steady_pure []
  | cons imported rest ih =>
    unfold importAllWith
    refine steady_bind (steady_importWith hr classify importer imported) fun file => ?_
    exact steady_bind ih fun files => steady_pure _

/-! ## Steps of a run -/

/-- Something done with one resolver, or to the disk under it. -/
inductive Step
  | name (name : String)
  | oneImport (importer : ResolvedFile) (imported : String)
  | allImports (importer : ResolvedFile)
  | write (path : Path) (node : Node)
  | remove (path : Path)

/-- What a step ends with: a file, several files, or a change of the disk that may have been
stopped. -/
inductive Answer
  | file (outcome : Except Fault ResolvedFile)
  | files (outcome : Except Fault (List ResolvedFile))
  | changed (stopped : Option CallFault)

/-- Takes a step: its answer, and the host and the session after it. -/
def take (r : Resolver) (host : Host) (session : Session) : Step → Answer × Host × Session
  | .name name =>
    let ended := (r.resolveSourceName host name).within session
    (.file ended.1, host, ended.2)
  | .oneImport importer imported =>
    let ended := (r.resolveImport host importer imported).within session
    (.file ended.1, host, ended.2)
  | .allImports importer =>
    let ended := (r.resolveImports host importer).within session
    (.files ended.1, host, ended.2)
  | .write path node =>
    let ended := host.change (Host.write path node)
    (.changed ended.1, ended.2, session)
  | .remove path =>
    let ended := host.change (Host.remove path)
    (.changed ended.1, ended.2, session)

/-- A step of a run, with the host that it was taken on and the answer that it got. -/
structure Moment where
  host : Host
  step : Step
  answer : Answer

/-- Takes steps one after the other in one session. -/
def takeAll (r : Resolver) : List Step → Host → Session → List Moment × Session
  | [], _, session => ([], session)
  | step :: rest, host, session =>
    let taken := r.take host session step
    let further := takeAll r rest taken.2.1 taken.2.2
    (⟨host, step, taken.1⟩ :: further.1, further.2)

theorem told_of_steady {α : Type} {work : Run α} (answerOf : Except Fault α → Answer)
    (h : work.Steady) :
    ∃ told events, ∀ log session, session.memo.Honest log →
      ∃ actual, (work.within session).2.journal = session.journal ++ actual ∧
        (work.within session).2.memo.Honest (log ++ actual) ∧
        (NoClash (log ++ actual) ∨ NoClash (log ++ events) →
          answerOf (work.within session).1 = told ∧ actual = events) := by
  obtain ⟨outcome, events, h⟩ := h
  refine ⟨answerOf outcome, events, fun log session hmemo => ?_⟩
  obtain ⟨actual, hjournal, hhonest, hsame⟩ := h log session hmemo
  refine ⟨actual, hjournal, hhonest, fun hclash => ?_⟩
  obtain ⟨houtcome, hevents⟩ := hsame hclash
  exact ⟨congrArg answerOf houtcome, hevents⟩

/-- What a step does to what is remembered and to the journal, and that its answer is settled
beforehand. -/
theorem take_steady (hr : r.parser = rememberingParser) (host : Host) (step : Step) :
    ∃ told events, ∀ log session, session.memo.Honest log →
      ∃ actual, (r.take host session step).2.2.journal = session.journal ++ actual ∧
        (r.take host session step).2.2.memo.Honest (log ++ actual) ∧
        (NoClash (log ++ actual) ∨ NoClash (log ++ events) →
          (r.take host session step).1 = told ∧ actual = events) := by
  cases step with
  | name name => exact told_of_steady .file (steady_resolveWith hr _ name)
  | oneImport importer imported =>
    exact told_of_steady .file (steady_importWith hr _ importer imported)
  | allImports importer => exact told_of_steady .files (steady_importAllWith hr _ importer _)
  | write path node =>
    exact ⟨_, [], fun log session hmemo => ⟨[], by simp [take], by simpa [take] using hmemo,
      fun _ => ⟨rfl, rfl⟩⟩⟩
  | remove path =>
    exact ⟨_, [], fun log session hmemo => ⟨[], by simp [take], by simpa [take] using hmemo,
      fun _ => ⟨rfl, rfl⟩⟩⟩

theorem steps_of_takeAll (steps : List Step) (host : Host) (session : Session) :
    (r.takeAll steps host session).1.map (·.step) = steps := by
  induction steps generalizing host session with
  | nil => rfl
  | cons step rest ih => simp [takeAll, ih]

/-- A run from memories that are honest: as long as there is no clash in what is scanned,
each step ends as it does with nothing remembered. -/
theorem answer_of_takeAll (hr : r.parser = rememberingParser) (capacity : Nat)
    (positive : 0 < capacity) (steps : List Step) (host : Host) (log : List Event)
    (session : Session) (hmemo : session.memo.Honest log) :
    ∃ events, (r.takeAll steps host session).2.journal = session.journal ++ events ∧
      (NoClash (log ++ events) → ∀ moment ∈ (r.takeAll steps host session).1,
        moment.answer =
          (r.take moment.host (.start (Memo.empty capacity positive)) moment.step).1) := by
  induction steps generalizing host log session with
  | nil => exact ⟨[], by simp [takeAll], by simp [takeAll]⟩
  | cons step rest ih =>
    obtain ⟨told, events, hstep⟩ := take_steady hr host step
    obtain ⟨actual, hjournal, hhonest, hsame⟩ := hstep log session hmemo
    obtain ⟨more, hmore, hrest⟩ := ih (r.take host session step).2.1 _ _ hhonest
    refine ⟨actual ++ more, ?_, fun hclash => ?_⟩
    · simp only [takeAll]
      rw [hmore, hjournal, List.append_assoc]
    · rw [← List.append_assoc] at hclash
      obtain ⟨htold, rfl⟩ := hsame (Or.inl hclash.left)
      obtain ⟨_, -, -, hfresh⟩ := hstep [] (.start (Memo.empty capacity positive))
        (honest_empty capacity positive [])
      intro moment hmoment
      rcases List.mem_cons.mp hmoment with rfl | hmoment
      · -- The texts of this one step do not clash either, so it ends the same from scratch.
        exact htold.trans (hfresh (Or.inr hclash.left.right)).1.symm
      · exact hrest hclash moment hmoment

/-! ## The law -/

/-- In a run of steps on one resolver, whatever is written and removed in between, each step
ends as it does on the disk of that moment with nothing remembered, if no two texts scanned
under one path have the same digest. -/
theorem a_resolver_has_no_memory_that_shows (root : Path) (finder : PackageFinder)
    (capacity : Nat) (positive : 0 < capacity) (host : Host) (steps : List Step)
    (hclash : NoClash (takeAll ⟨root, finder, rememberingParser⟩ steps host
      (.start (Memo.empty capacity positive))).2.journal) :
    let r : Resolver := ⟨root, finder, rememberingParser⟩
    let fresh : Session := .start (Memo.empty capacity positive)
    (r.takeAll steps host fresh).1.map (·.step) = steps ∧
      ∀ moment ∈ (r.takeAll steps host fresh).1,
        moment.answer = (r.take moment.host fresh moment.step).1 := by
  intro r fresh
  have hempty := honest_empty capacity positive []
  obtain ⟨events, hjournal, hanswers⟩ :=
    answer_of_takeAll (r := r) rfl capacity positive steps host [] fresh hempty
  rw [hjournal] at hclash
  exact ⟨steps_of_takeAll steps host fresh, hanswers hclash⟩

/-- A file that imports its neighbour. -/
def neighbourHost : Host :=
  hostWith
    [(["project", "a.sol"], .file "import './b.sol';".toUTF8.data.toList 0),
     (["project", "b.sol"], .file [] 0)] []

/-- There is room for one scan only: the one of the first file is let go for the one of its
neighbour, and later found in the memory, but for another text. -/
theorem an_edited_file_is_scanned_anew :
    let r : Resolver := ⟨Path.ofText "/project", modulesFinder [], rememberingParser⟩
    let fresh : Session := .start (Memo.empty 1 (by decide))
    let edited := Node.file "import './c.sol';".toUTF8.data.toList 0
    let steps : List Step :=
      [.name "a.sol", .name "b.sol", .name "a.sol", .write (Path.ofText "/project/a.sol") edited,
        .name "a.sol", .remove (Path.ofText "/project/a.sol"), .name "a.sol"]
    let moments := (r.takeAll steps neighbourHost fresh).1
    NoClash (r.takeAll steps neighbourHost fresh).2.journal ∧ moments.map (·.step) = steps ∧
      ∀ moment ∈ moments, moment.answer = (r.take moment.host fresh moment.step).1 := by
  intro r fresh edited steps moments
  have hclash : NoClash (r.takeAll steps neighbourHost fresh).2.journal := by decide +kernel
  exact ⟨hclash, a_resolver_has_no_memory_that_shows r.root r.finder 1 (by decide)
    neighbourHost steps hclash⟩

end Resolver

end SourceNames
