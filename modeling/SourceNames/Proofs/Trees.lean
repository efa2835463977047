-- What is at the end of a chain of names in a tree. Whatever has something below it is a
-- folder, every name on the way is one that an entry can have, and in a tree without links
-- nothing on the way is a link.

import SourceNames.Disk.Lookup

namespace SourceNames

/-! ## Chains of names -/

/-- Parts that each name something. -/
def NamesOnly (parts : List String) : Prop :=
  ∀ part ∈ parts, part ≠ "" ∧ part ≠ "." ∧ part ≠ ".."

theorem NamesOnly.append {front back : List String} (hfront : NamesOnly front)
    (hback : NamesOnly back) : NamesOnly (front ++ back) := by
  intro part hpart
  rcases List.mem_append.mp hpart with hpart | hpart
  · exact hfront part hpart
  · exact hback part hpart

theorem NamesOnly.isName {parts : List String} (h : NamesOnly parts) :
    ∀ part ∈ parts, Path.isName part = true := by
  intro part hpart
  simp [Path.isName, (h part hpart).1, (h part hpart).2.1]

theorem NamesOnly.not_dots {parts : List String} (h : NamesOnly parts) : ".." ∉ parts :=
  fun hpart => (h ".." hpart).2.2 rfl

/-! ## Nodes below a node -/

namespace Node

variable {top node child : Node} {place : Place} {name : String}

theorem mem_entries_of_child? (h : node.child? name = some child) :
    ∃ entry : EntryName, entry.text = name ∧ (entry, child) ∈ node.entries := by
  unfold child? at h
  obtain ⟨⟨entry, found⟩, hfind, rfl⟩ := Option.map_eq_some_iff.mp h
  exact ⟨entry, by simpa using List.find?_some hfind, List.mem_of_find?_eq_some hfind⟩

theorem isSome_child?_iff : (node.child? name).isSome ↔ ∃ entry ∈ node.names, entry.text = name := by
  unfold child? names
  simp only [Option.isSome_map, List.find?_isSome, beq_iff_eq, List.mem_map]
  constructor
  · rintro ⟨found, hmem, htext⟩
    exact ⟨found.1, ⟨found, hmem, rfl⟩, htext⟩
  · rintro ⟨entry, ⟨found, hmem, rfl⟩, htext⟩
    exact ⟨found, hmem, htext⟩

theorem at?_append (node : Node) (front back : Place) :
    node.at? (front ++ back) = (node.at? front).bind fun below => below.at? back := by
  induction front generalizing node with
  | nil => rfl
  | cons name rest ih =>
    rw [List.cons_append, at?, at?]
    cases node.child? name with
    | none => rfl
    | some child => exact ih child

theorem at?_singleton (node : Node) (name : String) : node.at? [name] = node.child? name := by
  rw [at?]
  cases node.child? name <;> rfl

theorem isSome_of_append {front back : Place} (h : (top.at? (front ++ back)).isSome) :
    (top.at? front).isSome := by
  rw [at?_append] at h
  exact Option.isSome_of_isSome_bind h

/-- What has something below it is a folder. -/
theorem folder_of_append {front back : Place} (hback : back ≠ [])
    (h : (top.at? (front ++ back)).isSome) : ∃ entries, top.at? front = some (.folder entries) := by
  obtain ⟨name, rest, rfl⟩ := List.exists_cons_of_ne_nil hback
  rw [at?_append] at h
  cases hat : top.at? front with
  | none => simp [hat] at h
  | some node =>
    cases node with
    | folder entries => exact ⟨entries, rfl⟩
    | file bytes changed => simp [hat, at?, child?, entries] at h
    | link target => simp [hat, at?, child?, entries] at h

theorem isEntryName_of_at? (h : (top.at? place).isSome) : ∀ part ∈ place, IsEntryName part := by
  induction place generalizing top with
  | nil => simp
  | cons name rest ih =>
    rw [at?] at h
    cases hchild : top.child? name with
    | none => simp [hchild] at h
    | some child =>
      simp only [hchild] at h
      obtain ⟨entry, rfl, -⟩ := mem_entries_of_child? hchild
      exact List.forall_mem_cons.mpr ⟨entry.valid, ih h⟩

theorem namesOnly_of_at? (h : (top.at? place).isSome) : NamesOnly place := by
  intro part hpart
  have hentry := isEntryName_of_at? h part hpart
  exact ⟨hentry.1, hentry.2.1, hentry.2.2.1⟩

/-! ## Links below a node -/

theorem linkCount_of_mem {entries : List (EntryName × Node)} {entry : EntryName × Node}
    (h : entriesLinkCount entries = 0) (hmem : entry ∈ entries) : entry.2.linkCount = 0 := by
  induction entries with
  | nil => simp at hmem
  | cons first rest ih =>
    obtain ⟨name, node⟩ := first
    rw [entriesLinkCount] at h
    rcases List.mem_cons.mp hmem with rfl | hmem
    · exact (Nat.add_eq_zero_iff.mp h).1
    · exact ih (Nat.add_eq_zero_iff.mp h).2 hmem

theorem linkCount_of_at? (hlinks : top.linkCount = 0) (h : top.at? place = some node) :
    node.linkCount = 0 := by
  induction place generalizing top with
  | nil =>
    cases h
    exact hlinks
  | cons name rest ih =>
    rw [at?] at h
    cases hchild : top.child? name with
    | none => simp [hchild] at h
    | some child =>
      simp only [hchild] at h
      obtain ⟨entry, -, hmem⟩ := mem_entries_of_child? hchild
      refine ih ?_ h
      cases top with
      | folder entries =>
        rw [linkCount] at hlinks
        exact linkCount_of_mem hlinks hmem
      | file bytes changed => simp [entries] at hmem
      | link target => simp [entries] at hmem

theorem at?_ne_link (hlinks : top.linkCount = 0) (place : Place) (target : String) :
    top.at? place ≠ some (.link target) := by
  intro h
  have hcount := linkCount_of_at? hlinks h
  simp [linkCount] at hcount

end Node

end SourceNames
