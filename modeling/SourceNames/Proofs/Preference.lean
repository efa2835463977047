-- Which entry of a folder a segment means. It is the one spelled like the segment, or else the
-- first of those that are the same up to case. The lookup of a name takes that entry in each
-- folder and never another one, so that it ends where the preferred entries lead.

import SourceNames.Proofs.Folding
import SourceNames.Proofs.Spelling

namespace SourceNames

/-! ## The preferred entry of a folder -/

/-- The entry that a segment means among names. It is the same up to case, and it is spelled like
the segment unless no name is; then it comes first in the order of code points. -/
structure Preferred (names : List EntryName) (segment : String) (entry : EntryName) : Prop where
  mem : entry ∈ names
  same : sameFolding entry.text segment = true
  first : entry.text = segment ∨ (∀ other ∈ names, other.text ≠ segment) ∧
    ∀ other ∈ names, sameFolding other.text segment = true → entry.text ≤ other.text

section Entries

variable {names : List EntryName} {segment : String} {entry other : EntryName}

theorem firstName_eq_none_iff : firstName names = none ↔ names = [] := by
  cases names with
  | nil => simp [firstName]
  | cons name rest =>
    unfold firstName
    cases firstName rest with
    | none => simp
    | some found => by_cases h : found.text < name.text <;> simp [h]

theorem firstName_le (h : firstName names = some entry) :
    ∀ other ∈ names, entry.text ≤ other.text := by
  induction names generalizing entry with
  | nil => simp
  | cons name rest ih =>
    rw [List.forall_mem_cons]
    unfold firstName at h
    cases hrest : firstName rest with
    | none =>
      rw [firstName_eq_none_iff.mp hrest]
      simp only [hrest, Option.some.injEq] at h
      rw [h]
      exact ⟨String.le_refl _, by simp⟩
    | some found =>
      have hfound := ih hrest
      simp only [hrest] at h
      by_cases hless : found.text < name.text
      · simp only [hless, if_true, Option.some.injEq] at h
        rw [← h]
        refine ⟨?_, hfound⟩
        exact (String.le_total found.text name.text).resolve_right (String.not_le.mpr hless)
      · simp only [hless, if_false, Option.some.injEq] at h
        rw [← h]
        exact ⟨String.le_refl _, fun other hother =>
          String.le_trans (String.not_lt.mp hless) (hfound other hother)⟩

theorem matchEntry_eq_none_iff :
    matchEntry names segment = none ↔ ∀ entry ∈ names, sameFolding entry.text segment = false := by
  unfold matchEntry
  cases hfind : names.find? (·.text == segment) with
  | some found =>
    have htext : found.text = segment := by simpa using List.find?_some hfind
    simp only [reduceCtorEq, false_iff]
    intro hnone
    have hother := hnone found (List.mem_of_find?_eq_some hfind)
    rw [htext, sameFolding_refl] at hother
    cases hother
  | none =>
    simp only [firstName_eq_none_iff, List.filter_eq_nil_iff, Bool.not_eq_true]

theorem preferred_of_matchEntry (h : matchEntry names segment = some entry) :
    Preferred names segment entry := by
  have hmem := matchEntry_mem h
  unfold matchEntry at h
  cases hfind : names.find? (·.text == segment) with
  | some found =>
    have htext : found.text = segment := by simpa using List.find?_some hfind
    simp only [hfind, Option.some.injEq] at h
    subst h
    exact ⟨hmem, by rw [htext, sameFolding_refl], Or.inl htext⟩
  | none =>
    simp only [hfind] at h
    refine ⟨hmem, (List.mem_filter.mp (firstName_mem h)).2, Or.inr ⟨?_, ?_⟩⟩
    · simpa using List.find?_eq_none.mp hfind
    · intro other hother hsame
      exact firstName_le h other (List.mem_filter.mpr ⟨hother, hsame⟩)

theorem Preferred.unique (h : Preferred names segment entry) (h' : Preferred names segment other) :
    entry = other := by
  apply entryName_ext
  rcases h.first with hexact | ⟨hnone, hleast⟩
  · rcases h'.first with hexact' | ⟨hnone', -⟩
    · rw [hexact, hexact']
    · exact absurd hexact (hnone' entry h.mem)
  · rcases h'.first with hexact' | ⟨-, hleast'⟩
    · exact absurd hexact' (hnone other h'.mem)
    · exact String.le_antisymm (hleast other h'.mem h'.same) (hleast' entry h.mem h.same)

/-- If any entry is the same as a segment up to case, one is preferred. -/
theorem exists_preferred (hentry : entry ∈ names) (h : sameFolding entry.text segment = true) :
    ∃ other, Preferred names segment other := by
  cases hmatch : matchEntry names segment with
  | none => cases (matchEntry_eq_none_iff.mp hmatch entry hentry).symm.trans h
  | some other => exact ⟨other, preferred_of_matchEntry hmatch⟩

theorem matchEntry_eq_some_iff :
    matchEntry names segment = some entry ↔ Preferred names segment entry := by
  refine ⟨preferred_of_matchEntry, fun h => ?_⟩
  cases hmatch : matchEntry names segment with
  | none => cases (matchEntry_eq_none_iff.mp hmatch entry h.mem).symm.trans h.same
  | some other => rw [(preferred_of_matchEntry hmatch).unique h]

theorem Preferred.isName (h : Preferred names segment entry) : Path.isName segment = true := by
  rw [← isName_eq_of_sameFolding h.same, entry.valid.isName]

end Entries

/-! ## One step of the lookup -/

/-- The segments of a text that name something. -/
def namedSegments (text : String) : List String := (segments text).filter Path.isName

theorem isName_of_mem_namedSegments (name : String) :
    ∀ segment ∈ namedSegments name, Path.isName segment = true :=
  fun _ hsegment => (List.mem_filter.mp hsegment).2

theorem IsRespelling.named {actual name : String} (h : IsRespelling actual name) :
    List.Forall₂ (fun a b => sameFolding a b = true) (namedSegments actual)
      (namedSegments name) :=
  List.rel_filter (fun _ _ hsame => Bool.eq_iff_iff.mp (isName_eq_of_sameFolding hsame)) h

section Steps

variable {host : Host} {folder : Path} {names : List EntryName} {entry : EntryName}
variable {segment : String} {parts rest : List String}

theorem trueCase_of_not_isName (hname : Path.isName segment = false) :
    trueCase host folder (segment :: rest) = trueCase host folder rest := by
  rw [trueCase]
  simp [hname]

theorem trueCase_named (host : Host) (folder : Path) (parts : List String) :
    trueCase host folder (parts.filter Path.isName) = trueCase host folder parts := by
  induction parts generalizing folder with
  | nil => rfl
  | cons segment rest ih =>
    by_cases hname : Path.isName segment = true
    · rw [List.filter_cons_of_pos hname, trueCase, trueCase]
      simp only [ih]
    · rw [List.filter_cons_of_neg hname, ih]
      exact (trueCase_of_not_isName (by simpa using hname)).symm

theorem trueCase_of_error {call : CallFault} (hname : Path.isName segment = true)
    (hlist : host.list? folder = .error call) :
    trueCase host folder (segment :: rest) = .error call := by
  rw [trueCase]
  simp [hname, hlist]

theorem trueCase_of_unlisted (hname : Path.isName segment = true)
    (hlist : host.list? folder = .ok none) :
    trueCase host folder (segment :: rest) = .ok none := by
  rw [trueCase]
  simp [hname, hlist]

theorem trueCase_of_unmatched (hname : Path.isName segment = true)
    (hlist : host.list? folder = .ok (some names))
    (hnone : ∀ entry ∈ names, sameFolding entry.text segment = false) :
    trueCase host folder (segment :: rest) = .ok none := by
  rw [trueCase]
  simp [hname, hlist, matchEntry_eq_none_iff.mpr hnone]

/-- The lookup goes on below the preferred entry alone. -/
theorem trueCase_of_preferred (hlist : host.list? folder = .ok (some names))
    (hentry : Preferred names segment entry) :
    trueCase host folder (segment :: rest) =
      (trueCase host { folder with parts := folder.parts ++ [entry.text] } rest).map
        (Option.map (entry :: ·)) := by
  rw [trueCase]
  simp only [hentry.isName, Bool.not_true, Bool.false_eq_true, if_false, hlist,
    matchEntry_eq_some_iff.mpr hentry]
  cases trueCase host { folder with parts := folder.parts ++ [entry.text] } rest <;> rfl

end Steps

/-! ## Where the lookup leads -/

/-- Entries that lead down from a folder, each of them preferred for its segment. -/
inductive Host.Prefers (host : Host) : Path → List String → List EntryName → Prop
  | stay (folder : Path) : Host.Prefers host folder [] []
  | enter {folder : Path} {names : List EntryName} {segment : String} {entry : EntryName}
      {rest : List String} {more : List EntryName} :
      host.list? folder = .ok (some names) → Preferred names segment entry →
      Host.Prefers host { folder with parts := folder.parts ++ [entry.text] } rest more →
      Host.Prefers host folder (segment :: rest) (entry :: more)

/-- Below the preferred entries there is no folder for one of the segments, or none in which
anything is the same as it up to case. -/
inductive Host.Strands (host : Host) : Path → List String → Prop
  | unlisted {folder : Path} {segment : String} {rest : List String} :
      host.list? folder = .ok none → Host.Strands host folder (segment :: rest)
  | unmatched {folder : Path} {names : List EntryName} {segment : String} {rest : List String} :
      host.list? folder = .ok (some names) →
      (∀ entry ∈ names, sameFolding entry.text segment = false) →
      Host.Strands host folder (segment :: rest)
  | onward {folder : Path} {names : List EntryName} {segment : String} {entry : EntryName}
      {rest : List String} :
      host.list? folder = .ok (some names) → Preferred names segment entry →
      Host.Strands host { folder with parts := folder.parts ++ [entry.text] } rest →
      Host.Strands host folder (segment :: rest)

section Lookups

variable {host : Host} {folder : Path} {parts : List String} {entries : List EntryName}

/-- What a segment meets in a folder: a fault, no folder at all, nothing that is the same up to
case, or the entry that is preferred. -/
theorem segment_meets (host : Host) (folder : Path) (segment : String) :
    (∃ call, host.list? folder = .error call) ∨ host.list? folder = .ok none ∨
      (∃ names, host.list? folder = .ok (some names) ∧
        ∀ entry ∈ names, sameFolding entry.text segment = false) ∨
      ∃ names entry, host.list? folder = .ok (some names) ∧ Preferred names segment entry := by
  cases host.list? folder with
  | error call => exact Or.inl ⟨call, rfl⟩
  | ok listed =>
    cases listed with
    | none => exact Or.inr (Or.inl rfl)
    | some names =>
      cases hmatch : matchEntry names segment with
      | none =>
        exact Or.inr (Or.inr (Or.inl ⟨names, rfl, matchEntry_eq_none_iff.mp hmatch⟩))
      | some entry =>
        exact Or.inr (Or.inr (Or.inr ⟨names, entry, rfl, preferred_of_matchEntry hmatch⟩))

theorem map_cons_eq_some_iff {entry : EntryName}
    {outcome : Except CallFault (Option (List EntryName))} :
    outcome.map (Option.map (entry :: ·)) = .ok (some entries) ↔
      ∃ more, outcome = .ok (some more) ∧ entry :: more = entries := by
  cases outcome with
  | error call => simp [Except.map]
  | ok found => simp [Except.map]

theorem map_cons_eq_none_iff {entry : EntryName}
    {outcome : Except CallFault (Option (List EntryName))} :
    outcome.map (Option.map (entry :: ·)) = .ok none ↔ outcome = .ok none := by
  cases outcome with
  | error call => simp [Except.map]
  | ok found => simp [Except.map]

/-- The lookup finds the preferred entries. -/
theorem trueCase_eq_some_iff (hnamed : ∀ part ∈ parts, Path.isName part = true) :
    trueCase host folder parts = .ok (some entries) ↔ host.Prefers folder parts entries := by
  induction parts generalizing folder entries with
  | nil =>
    rw [trueCase]
    constructor
    · intro h
      cases h
      exact .stay folder
    · intro h
      cases h
      rfl
  | cons segment rest ih =>
    obtain ⟨hname, hrest⟩ := List.forall_mem_cons.mp hnamed
    constructor
    · intro h
      rcases segment_meets host folder segment with
        ⟨call, hlist⟩ | hlist | ⟨names, hlist, hnone⟩ | ⟨names, entry, hlist, hentry⟩
      · rw [trueCase_of_error hname hlist] at h
        cases h
      · rw [trueCase_of_unlisted hname hlist] at h
        cases h
      · rw [trueCase_of_unmatched hname hlist hnone] at h
        cases h
      · rw [trueCase_of_preferred hlist hentry, map_cons_eq_some_iff] at h
        obtain ⟨more, hmore, rfl⟩ := h
        exact .enter hlist hentry ((ih hrest).mp hmore)
    · intro h
      cases h with
      | enter hlist hentry hmore =>
        rw [trueCase_of_preferred hlist hentry, map_cons_eq_some_iff]
        exact ⟨_, (ih hrest).mpr hmore, rfl⟩

/-- The lookup finds nothing just if the preferred entries lead nowhere. -/
theorem trueCase_eq_none_iff (hnamed : ∀ part ∈ parts, Path.isName part = true) :
    trueCase host folder parts = .ok none ↔ host.Strands folder parts := by
  induction parts generalizing folder with
  | nil =>
    rw [trueCase]
    constructor
    · intro h
      cases h
    · intro h
      cases h
  | cons segment rest ih =>
    obtain ⟨hname, hrest⟩ := List.forall_mem_cons.mp hnamed
    constructor
    · intro h
      rcases segment_meets host folder segment with
        ⟨call, hlist⟩ | hlist | ⟨names, hlist, hnone⟩ | ⟨names, entry, hlist, hentry⟩
      · rw [trueCase_of_error hname hlist] at h
        cases h
      · exact .unlisted hlist
      · exact .unmatched hlist hnone
      · rw [trueCase_of_preferred hlist hentry, map_cons_eq_none_iff] at h
        exact .onward hlist hentry ((ih hrest).mp h)
    · intro h
      cases h with
      | unlisted hlist => exact trueCase_of_unlisted hname hlist
      | unmatched hlist hnone => exact trueCase_of_unmatched hname hlist hnone
      | onward hlist hentry hstrands =>
        rw [trueCase_of_preferred hlist hentry, map_cons_eq_none_iff]
        exact (ih hrest).mpr hstrands

/-- Only the segments that name something count. -/
theorem trueCaseName_eq (host : Host) (name : String) (folder : Path) :
    trueCaseName host name folder = (trueCase host folder (namedSegments name)).map
      (Option.map fun entries => joinSegments (entries.map (·.text))) := by
  unfold trueCaseName namedSegments
  rw [trueCase_named]
  cases trueCase host folder (segments name) <;> rfl

variable {name actual : String}

theorem trueCaseName_eq_some_iff : trueCaseName host name folder = .ok (some actual) ↔
    ∃ entries, host.Prefers folder (namedSegments name) entries ∧
      joinSegments (entries.map (·.text)) = actual := by
  rw [trueCaseName_eq]
  simp only [← trueCase_eq_some_iff (isName_of_mem_namedSegments name)]
  cases trueCase host folder (namedSegments name) with
  | error call => simp [Except.map]
  | ok found => simp [Except.map]

theorem trueCaseName_eq_none_iff :
    trueCaseName host name folder = .ok none ↔ host.Strands folder (namedSegments name) := by
  rw [trueCaseName_eq, ← trueCase_eq_none_iff (isName_of_mem_namedSegments name)]
  cases trueCase host folder (namedSegments name) with
  | error call => simp [Except.map]
  | ok found => simp [Except.map]

end Lookups

end SourceNames
