-- Memory on a disk that does not change. Every text that is scanned under a path is the one
-- text that opens there, so no two of them clash, and what a resolver with an anchored root
-- was asked before never shows in how it ends.

import SourceNames.Cli.Run
import SourceNames.Proofs.Memory
import SourceNames.Proofs.PackageRoots
import SourceNames.Proofs.Settling
import SourceNames.Proofs.Stopping

namespace SourceNames

/-! ## One text for one path -/

/-- A path that does not start from the working directory. -/
def Path.Anchored (path : Path) : Prop := path.anchor ≠ .relative

/-- The names of an anchored path are read back from its text. -/
theorem ofText_text {path : Path} (hanchored : path.Anchored)
    (hslash : ∀ part ∈ path.parts, '/' ∉ part.toList) :
    (Path.ofText path.text).parts = path.parts.filter Path.isName := by
  have hbody : path.anchor.text ++ joinSegments path.parts ≠ "" := by
    intro hempty
    obtain ⟨hanchor, -⟩ := String.append_eq_empty_iff.mp hempty
    cases hpath : path.anchor with
    | relative => exact hanchored hpath
    | root | doubleRoot => rw [hpath] at hanchor; exact absurd hanchor (by decide)
  unfold Path.text
  simp only [hbody, if_false]
  rw [Path.parts_anchored]
  by_cases hparts : path.parts = []
  · rw [hparts]
    decide
  · unfold Path.ofText
    rw [segments_joinSegments hparts hslash]

theorem no_slash_of_not_isName {part : String} (h : Path.isName part = false) :
    '/' ∉ part.toList := by
  have hcases : part = "" ∨ part = "." := by
    by_cases hempty : part = ""
    · exact Or.inl hempty
    · exact Or.inr (by simpa [Path.isName, hempty] using h)
  rcases hcases with rfl | rfl <;> decide

namespace Host

variable {host : Host} {p q : Path} {place other : Place}

theorem no_slash_of_place (h : host.place p = .ok place) : ∀ part ∈ p.parts, '/' ∉ part.toList := by
  obtain ⟨links, hwalk⟩ := walk_of_place h
  intro part hpart
  cases hname : Path.isName part with
  | false => exact no_slash_of_not_isName hname
  | true => exact hwalk.no_slash part (List.mem_filter.mpr ⟨hpart, hname⟩)

theorem startOf_anchored (h : p.Anchored) : host.startOf p = [] := by
  unfold startOf
  split
  · rename_i hrelative
    exact absurd hrelative h
  · rfl

/-- Two anchored paths with one text lead to one place. -/
theorem place_eq_of_text (hp : p.Anchored) (hq : q.Anchored) (htext : p.text = q.text)
    (hplace : host.place p = .ok place) (hplace' : host.place q = .ok other) : place = other := by
  have hnames := ofText_text hp (no_slash_of_place hplace)
  rw [htext, ofText_text hq (no_slash_of_place hplace')] at hnames
  obtain ⟨_, hwalk⟩ := walk_of_place hplace
  obtain ⟨_, hwalk'⟩ := walk_of_place hplace'
  rw [startOf_anchored hp, ← hnames] at hwalk
  rw [startOf_anchored hq] at hwalk'
  exact (hwalk.unique hwalk').2

/-- A text that opens at one of two anchored paths with one text opens at the other. -/
theorem readTextFile_of_text {a : String} {changed : Int} (hp : p.Anchored) (hq : q.Anchored)
    (htext : p.text = q.text) (ha : readTextFile host p = .ok (a, changed))
    (hplace' : host.place q = .ok other) : readTextFile host q = .ok (a, changed) := by
  rw [readTextFile_eq_ok_iff, openFile_eq_ok_iff, node_eq_ok_iff] at ha ⊢
  obtain ⟨place, hplace, hat⟩ := ha
  rw [place_eq_of_text hp hq htext hplace hplace'] at hat
  exact ⟨other, hplace', hat⟩

theorem place_of_readTextFile {read : String × Int} (h : readTextFile host p = .ok read) :
    ∃ place, host.place p = .ok place := by
  obtain ⟨text, changed⟩ := read
  rw [readTextFile_eq_ok_iff, openFile_eq_ok_iff, node_eq_ok_iff] at h
  obtain ⟨place, hplace, -⟩ := h
  exact ⟨place, hplace⟩

end Host

/-! ## Texts of a disk -/

/-- A scan of a text is one of the text that opens at an anchored path. -/
def Event.OnDisk (host : Host) : Event → Prop
  | .askedParser source path => ∃ p : Path, p.Anchored ∧ p.text = path ∧
      ∃ changed, readTextFile host p = .ok (source, changed)
  | _ => True

theorem noClash_of_onDisk {host : Host} {journal : List Event}
    (h : ∀ event ∈ journal, event.OnDisk host) : NoClash journal := by
  intro path a b ha hb _
  obtain ⟨p, hp, hptext, m, ha⟩ := h _ ha
  obtain ⟨q, hq, hqtext, n, hb⟩ := h _ hb
  obtain ⟨other, hplace⟩ := Host.place_of_readTextFile hb
  have hsame := Host.readTextFile_of_text hp hq (hptext.trans hqtext.symm) ha hplace
  rw [hb] at hsame
  cases hsame
  rfl

namespace Run

variable {α β : Type} {P : Event → Prop}

/-- Every event that the work writes down is of a kind. -/
def Writes (P : Event → Prop) (work : Run α) : Prop :=
  ∀ session, ∃ events, (work.within session).2.journal = session.journal ++ events ∧
    ∀ event ∈ events, P event

theorem writes_pure (a : α) : Writes P (pure a) :=
  fun session => ⟨[], by simp, by simp⟩

theorem writes_throw (fault : Fault) : Writes P (throw fault : Run α) :=
  fun session => ⟨[], by simp, by simp⟩

theorem writes_answer (outcome : Except Fault α) : Writes P (answer outcome) :=
  fun session => ⟨[], by simp, by simp⟩

theorem writes_record {event : Event} (h : P event) : Writes P (record event) :=
  fun session => ⟨[event], by simp, by simpa using h⟩

theorem writes_parse {parser : SourceParser} {source path : String}
    (h : P (.askedParser source path)) : Writes P (parseWith parser source path) :=
  fun session => ⟨[.askedParser source path], by simp, by simpa using h⟩

theorem writes_bind {work : Run α} {next : α → Run β} (hwork : Writes P work)
    (hnext : ∀ a, work.Gives a → Writes P (next a)) : Writes P (work >>= next) := by
  intro session
  obtain ⟨events, hjournal, hevents⟩ := hwork session
  rw [within_bind]
  rcases hended : work.within session with ⟨outcome, after⟩
  rw [hended] at hjournal
  cases outcome with
  | error fault => exact ⟨events, hjournal, hevents⟩
  | ok a =>
    obtain ⟨more, hmore, hP⟩ := hnext a ⟨session, by rw [hended]⟩ after
    refine ⟨events ++ more, ?_, ?_⟩
    · rw [hmore, hjournal, List.append_assoc]
    · exact List.forall_mem_append.mpr ⟨hevents, hP⟩

theorem writes_tryCatch {work : Run α} {handler : Fault → Run α} (hwork : Writes P work)
    (hhandler : ∀ fault, Writes P (handler fault)) : Writes P (tryCatch work handler) := by
  intro session
  obtain ⟨events, hjournal, hevents⟩ := hwork session
  rw [within_tryCatch]
  rcases hended : work.within session with ⟨outcome, after⟩
  rw [hended] at hjournal
  cases outcome with
  | ok a => exact ⟨events, hjournal, hevents⟩
  | error fault =>
    obtain ⟨more, hmore, hP⟩ := hhandler fault after
    refine ⟨events ++ more, ?_, ?_⟩
    · rw [hmore, hjournal, List.append_assoc]
    · exact List.forall_mem_append.mpr ⟨hevents, hP⟩

end Run

/-! ## Sessions on one disk -/

/-- A session whose memory holds scans of texts of the disk only. -/
def Session.Faithful (host : Host) (session : Session) : Prop :=
  ∃ log, session.memo.Honest log ∧ ∀ event ∈ log, event.OnDisk host

theorem faithful_start (host : Host) : (Session.start .usual).Faithful host :=
  ⟨[], honest_empty usualCapacity (by decide) [], by simp⟩

/-- Steady work that scans texts of the disk ends in one way, in every session that holds scans
of texts of the disk, and leaves such a session. -/
theorem ends_alike {α : Type} {host : Host} {work : Run α} (hsteady : work.Steady)
    (hwrites : Run.Writes (Event.OnDisk host) work) :
    ∃ outcome, ∀ session : Session, session.Faithful host →
      (work.within session).1 = outcome ∧ (work.within session).2.Faithful host := by
  obtain ⟨outcome, events, hsteady⟩ := hsteady
  refine ⟨outcome, ?_⟩
  rintro session ⟨log, hmemo, hlog⟩
  obtain ⟨actual, hjournal, hhonest, hends⟩ := hsteady log session hmemo
  obtain ⟨written, hjournal', hwritten⟩ := hwrites session
  rw [hjournal'] at hjournal
  obtain rfl := List.append_cancel_left hjournal
  have hall : ∀ event ∈ log ++ written, event.OnDisk host :=
    List.forall_mem_append.mpr ⟨hlog, hwritten⟩
  exact ⟨(hends (Or.inl (noClash_of_onDisk hall))).1, log ++ written, hhonest, hall⟩

/-! ## Resolutions -/

theorem anchored_of_settled {host : Host} {path settled : Path}
    (h : settledPath host path = .ok settled) : settled.Anchored := by
  have habsolute : ∀ p : Path, (host.absolute p).Anchored := by
    intro p
    unfold Host.absolute Path.Anchored
    split
    · exact fun h => by cases h
    · rename_i hanchor
      exact hanchor
  unfold settledPath Host.settled at h
  simp only at h
  split at h
  · rename_i hsettled
    split at hsettled
    · cases hsettled
      cases h
      exact habsolute _
    · split at hsettled
      · cases hsettled
      · cases hsettled
        cases h
        exact habsolute _
  · cases h

namespace Resolver

open Run

variable {r : Resolver} {host : Host} {library : String} {description : Path}

/-- A resolver whose root, and whatever its finder finds, does not depend on the working
directory. -/
structure Anchored (r : Resolver) (host : Host) : Prop where
  root : r.root.Anchored
  package : ∀ library found, r.finder host library r.root = .ok (some found) → found.file.Anchored

theorem PackageAt.anchored (hr : r.Anchored host) (h : r.PackageAt host library description) :
    description.Anchored := by
  cases h with
  | found hfinder => exact hr.package _ _ hfinder
  | toolchain => exact fun h => by cases h

theorem libraryRoot_anchored (h : description.Anchored) (library : String) :
    (libraryRoot description library).Anchored := by
  unfold Path.Anchored libraryRoot
  rw [(climb_append_lastNames description.parent library).1]
  exact h

theorem below_anchored {path : Path} (h : path.Anchored) (name : String) :
    (path.below name).Anchored := h

theorem writes_load {path : Path} (hpath : path.Anchored) (name : String)
    (info : Option LibraryInfo) : (r.load host name path info).Writes (Event.OnDisk host) := by
  unfold load
  refine writes_bind (writes_answer _) fun read hread => ?_
  refine writes_bind (writes_answer _) fun modified _ => ?_
  refine writes_bind (writes_parse ?_) fun found _ => writes_pure _
  exact ⟨path, hpath, rfl, read.2, gives_answer hread⟩

theorem writes_locatePackage (library : String) :
    (r.locatePackage host library).Writes (Event.OnDisk host) := by
  unfold locatePackage
  refine writes_bind (writes_record trivial) fun _ _ => ?_
  refine writes_bind (writes_answer _) fun found _ => ?_
  split
  · split
    · exact writes_bind (writes_record trivial) fun _ _ => writes_pure _
    · exact writes_pure _
  · split
    · exact writes_bind (writes_record trivial) fun _ _ => writes_pure _
    · exact writes_throw _

theorem writes_resolveLocal (hr : r.Anchored host) (name : String) :
    (r.resolveLocal host name).Writes (Event.OnDisk host) := by
  unfold resolveLocal
  exact writes_bind (writes_answer _) fun _ _ => writes_load (below_anchored hr.root name) _ _

theorem writes_resolveFromLibrary (hr : r.Anchored host) (name : String) :
    (r.resolveFromLibrary host name).Writes (Event.OnDisk host) := by
  unfold resolveFromLibrary
  simp only
  split
  · exact writes_bind (writes_throw _) fun _ h => absurd h not_gives_throw
  · refine writes_bind (writes_locatePackage _) fun description hdescription => ?_
    have hanchored := (locatePackage_gives hdescription).anchored hr
    have hdirectory := libraryRoot_anchored hanchored (libraryName name)
    refine writes_bind (writes_answer _) fun _ _ => ?_
    refine writes_bind (writes_answer _) fun version _ => ?_
    exact writes_bind (writes_record trivial) fun _ _ =>
      writes_load (below_anchored hdirectory name) _ _

theorem writes_resolveSourceName (hr : r.Anchored host) (name : String) :
    (r.resolveSourceName host name).Writes (Event.OnDisk host) := by
  unfold resolveSourceName resolveWith
  refine writes_bind (writes_answer _) fun _ _ => writes_bind (writes_answer _) fun isLocal _ => ?_
  split
  · exact writes_bind (writes_record trivial) fun _ _ => writes_resolveLocal hr name
  · exact writes_bind (writes_record trivial) fun _ _ => writes_resolveFromLibrary hr name

theorem writes_resolveImport (hr : r.Anchored host) (importer : ResolvedFile)
    (imported : String) : (r.resolveImport host importer imported).Writes (Event.OnDisk host) := by
  have hname : (nameImport importer imported).Writes (Event.OnDisk host) := by
    unfold nameImport
    split
    · exact writes_throw _
    · exact writes_bind (writes_record trivial) fun _ _ => writes_pure _
  unfold resolveImport importWith
  refine writes_bind hname fun name _ => ?_
  refine writes_tryCatch (writes_resolveSourceName hr name) fun fault => ?_
  split
  · split
    · exact writes_bind (writes_record trivial) fun _ _ => writes_throw _
    · exact writes_throw _
  · exact writes_throw _

/-! ## The usual resolver -/

theorem anchored_of_firstPackage {found : FoundPackage} {directories : List Path}
    (h : firstPackage host library directories = .ok (some found)) : found.file.Anchored := by
  induction directories with
  | nil => cases h
  | cons directory rest ih =>
    unfold firstPackage at h
    dsimp only at h
    split at h
    · cases h
    · exact ih h
    · split at h
      · cases h
      · rename_i hsettled
        cases h
        exact anchored_of_settled hsettled

/-- The usual resolver remembers scans, and does not depend on the working directory once it
has settled its root. -/
theorem anchored_of_usualResolver {root : Option String} (h : usualResolver host root = .ok r) :
    r.Anchored host ∧ r.parser = rememberingParser := by
  unfold usualResolver at h
  split at h
  · cases h
  · obtain ⟨settled, hsettled, -, rfl⟩ := create_eq_ok_iff.mp h
    refine ⟨⟨anchored_of_settled hsettled, ?_⟩, rfl⟩
    intro library found hfound
    unfold modulesFinder at hfound
    simp only at hfound
    split at hfound
    · cases hfound
    · exact anchored_of_firstPackage hfound

end Resolver

end SourceNames
