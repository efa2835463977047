-- What a spelling found on disk says about the disk. It is a chain of entries, each listed in
-- the folder that the entries before it lead to, so a name that is its own spelling names
-- such a chain letter for letter.

import SourceNames.Disk.Casing
import SourceNames.Proofs.Segments

namespace SourceNames

/-- Entries that lead down from a folder: each is listed in the folder that those before it
lead to. -/
inductive Host.Descends (host : Host) : Path → List EntryName → Prop
  | stay (folder : Path) : Host.Descends host folder []
  | enter {folder : Path} {names : List EntryName} {entry : EntryName} {rest : List EntryName} :
      host.list? folder = .ok (some names) → entry ∈ names →
      Host.Descends host { folder with parts := folder.parts ++ [entry.text] } rest →
      Host.Descends host folder (entry :: rest)

/-- The segments of a name are, letter for letter, entries that lead down from a folder. -/
def Host.Spells (host : Host) (folder : Path) (name : String) : Prop :=
  ∃ entries, host.Descends folder entries ∧ entries.map (·.text) = segments name

/-! ## The entry that a segment means -/

theorem firstName_mem {names : List EntryName} {entry : EntryName}
    (h : firstName names = some entry) : entry ∈ names := by
  induction names generalizing entry with
  | nil => simp [firstName] at h
  | cons name rest ih =>
    unfold firstName at h
    split at h
    · simp_all
    · rename_i other hother
      split at h
      · cases h; exact List.mem_cons_of_mem _ (ih hother)
      · cases h; exact List.mem_cons_self

theorem matchEntry_mem {names : List EntryName} {segment : String} {entry : EntryName}
    (h : matchEntry names segment = some entry) : entry ∈ names := by
  unfold matchEntry at h
  split at h
  · rename_i name hfind
    cases h
    exact List.mem_of_find?_eq_some hfind
  · exact (List.mem_filter.mp (firstName_mem h)).1

theorem entryName_ext {a b : EntryName} (h : a.text = b.text) : a = b := by
  cases a
  cases b
  cases h
  rfl

/-- An entry that is there is the one that its own name means, whatever else is there. -/
theorem matchEntry_text {names : List EntryName} {entry : EntryName} (h : entry ∈ names) :
    matchEntry names entry.text = some entry := by
  unfold matchEntry
  cases hfind : names.find? (·.text == entry.text) with
  | none =>
    have hnone := List.find?_eq_none.mp hfind entry h
    simp at hnone
  | some found =>
    have htext : found.text = entry.text := by simpa using List.find?_some hfind
    simp only [entryName_ext htext]

/-! ## Names of entries -/

theorem IsEntryName.isName {text : String} (h : IsEntryName text) : Path.isName text = true := by
  simp [Path.isName, h.1, h.2.1]

theorem isEntryName_of_mem_texts (entries : List EntryName) :
    ∀ part ∈ entries.map (·.text), IsEntryName part := by
  rw [List.forall_mem_map]
  exact fun entry _ => entry.valid

/-- Names of entries that are joined are cut apart again. -/
theorem segments_joinSegments_texts {entries : List EntryName} (h : entries ≠ []) :
    segments (joinSegments (entries.map (·.text))) = entries.map (·.text) :=
  segments_joinSegments (by simpa using h)
    fun part hpart => (isEntryName_of_mem_texts entries part hpart).2.2.2.1

/-! ## The chain of entries -/

/-- What the walk finds are entries that lead down from its folder. -/
theorem descends_of_trueCase {host : Host} {folder : Path} {parts : List String}
    {entries : List EntryName} (h : trueCase host folder parts = .ok (some entries)) :
    host.Descends folder entries := by
  induction parts generalizing folder entries with
  | nil =>
    simp only [trueCase, Except.ok.injEq, Option.some.injEq] at h
    subst h
    exact .stay folder
  | cons segment rest ih =>
    unfold trueCase at h
    split at h
    · exact ih h
    · split at h
      · simp at h
      · simp at h
      · rename_i names hlist
        split at h
        · simp at h
        · rename_i entry hentry
          split at h
          · simp at h
          · rename_i found hfound
            simp only [Except.ok.injEq, Option.map_eq_some_iff] at h
            obtain ⟨more, rfl, rfl⟩ := h
            exact .enter hlist (matchEntry_mem hentry) (ih hfound)

/-- The spelling found for a name, if it is not empty, spells entries on disk. -/
theorem spells_of_trueCaseName {host : Host} {folder : Path} {name actual : String}
    (h : trueCaseName host name folder = .ok (some actual)) (hne : actual ≠ "") :
    host.Spells folder actual := by
  unfold trueCaseName at h
  split at h
  · simp at h
  · rename_i found hfound
    simp only [Except.ok.injEq, Option.map_eq_some_iff] at h
    obtain ⟨entries, rfl, rfl⟩ := h
    have hentries : entries ≠ [] := by
      rintro rfl
      exact hne rfl
    exact ⟨entries, descends_of_trueCase hfound, (segments_joinSegments_texts hentries).symm⟩

/-- The walk finds the entries that lead down from its folder, each by its own name. -/
theorem trueCase_of_descends {host : Host} {folder : Path} {entries : List EntryName}
    (h : host.Descends folder entries) :
    trueCase host folder (entries.map (·.text)) = .ok (some entries) := by
  induction h with
  | stay folder => rfl
  | @enter folder names entry rest hlist hentry _ ih =>
    rw [List.map_cons, trueCase]
    simp only [entry.valid.isName, Bool.not_true, Bool.false_eq_true, if_false, hlist,
      matchEntry_text hentry, ih, Option.map_some]

/-- A name that spells entries on disk is its own spelling. -/
theorem trueCaseName_of_spells {host : Host} {folder : Path} {name : String}
    (h : host.Spells folder name) : trueCaseName host name folder = .ok (some name) := by
  obtain ⟨entries, hdescends, hnames⟩ := h
  unfold trueCaseName
  rw [← hnames, trueCase_of_descends hdescends]
  simp only [Option.map_some, hnames, joinSegments_segments]

end SourceNames
