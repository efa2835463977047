-- Spelling on trees without collisions. Where no folder holds two entries that are the same up
-- to case, a segment means one entry in whatever way it is spelled, so that the lookup goes the
-- same way for all spellings of a name.

import SourceNames.Proofs.LinkFree
import SourceNames.Proofs.FoundSpellings

namespace SourceNames

open Resolver (hostWith searchingResolver)

/-! ## Trees without collisions -/

/-- No two of several names are the same up to case. -/
def Apart (names : List EntryName) : Prop :=
  ∀ a ∈ names, ∀ b ∈ names, sameFolding a.text b.text = true → a = b

instance (names : List EntryName) : Decidable (Apart names) := by
  unfold Apart; infer_instance

/-- No folder of the tree holds two different entries that are the same up to case. -/
def Host.CollisionFree (host : Host) : Prop :=
  ∀ place entries, host.top.at? place = some (.folder entries) → Apart (entries.map (·.1))

mutual

/-- Whether the names in each folder of a tree are apart. -/
def Node.keepsApart : Node → Bool
  | .folder entries => decide (Apart (entries.map (·.1))) && entriesKeepApart entries
  | _ => true

/-- Whether the names in each folder below entries are apart. -/
def entriesKeepApart : List (EntryName × Node) → Bool
  | [] => true
  | (_, node) :: rest => node.keepsApart && entriesKeepApart rest

end

theorem keepsApart_of_mem {entries : List (EntryName × Node)} {entry : EntryName × Node}
    (h : entriesKeepApart entries = true) (hmem : entry ∈ entries) :
    entry.2.keepsApart = true := by
  induction entries with
  | nil => simp at hmem
  | cons first rest ih =>
    obtain ⟨name, node⟩ := first
    rw [entriesKeepApart, Bool.and_eq_true] at h
    rcases List.mem_cons.mp hmem with rfl | hmem
    · exact h.1
    · exact ih h.2 hmem

theorem keepsApart_of_at? {top node : Node} {place : Place} (h : top.keepsApart = true)
    (hat : top.at? place = some node) : node.keepsApart = true := by
  induction place generalizing top with
  | nil =>
    cases hat
    exact h
  | cons name rest ih =>
    rw [Node.at?] at hat
    cases hchild : top.child? name with
    | none => simp [hchild] at hat
    | some child =>
      simp only [hchild] at hat
      obtain ⟨entry, -, hmem⟩ := Node.mem_entries_of_child? hchild
      refine ih ?_ hat
      cases top with
      | folder entries =>
        rw [Node.keepsApart, Bool.and_eq_true] at h
        exact keepsApart_of_mem h.2 hmem
      | file bytes changed => simp [Node.entries] at hmem
      | link target => simp [Node.entries] at hmem

/-- Whether a tree is free of collisions can be found out by going through it. -/
theorem collisionFree_of_keepsApart {host : Host} (h : host.top.keepsApart = true) :
    host.CollisionFree := by
  intro place entries hat
  have hfolder := keepsApart_of_at? h hat
  rw [Node.keepsApart, Bool.and_eq_true] at hfolder
  simpa using hfolder.1

variable {host : Host} {folder : Path} {names : List EntryName} {entries : List EntryName}
variable {parts others : List String} {name : String}

theorem Host.CollisionFree.apart (hfree : host.CollisionFree)
    (hlist : host.list? folder = .ok (some names)) : Apart names := by
  obtain ⟨entries, hnode, rfl⟩ := Host.list?_eq_some_iff.mp hlist
  obtain ⟨place, -, hat⟩ := Host.node_eq_ok_iff.mp hnode
  exact hfree place entries hat

/-! ## One entry for all spellings -/

/-- Among names that are apart, the one that is the same up to case is preferred. -/
theorem preferred_iff_of_apart (hapart : Apart names) {segment : String} {entry : EntryName} :
    Preferred names segment entry ↔ entry ∈ names ∧ sameFolding entry.text segment = true := by
  constructor
  · intro h
    exact ⟨h.mem, h.same⟩
  · rintro ⟨hmem, hsame⟩
    obtain ⟨other, hother⟩ := exists_preferred hmem hsame
    have hone : entry = other :=
      hapart entry hmem other hother.mem (sameFolding_trans hsame (sameFolding_symm hother.same))
    rwa [hone]

/-- The lookup finds the same for segments that are the same up to case. -/
theorem trueCase_respelled (hfree : host.CollisionFree)
    (hnamed : ∀ part ∈ parts, Path.isName part = true)
    (h : List.Forall₂ (fun a b => sameFolding a b = true) parts others) :
    trueCase host folder parts = trueCase host folder others := by
  induction h generalizing folder with
  | nil => rfl
  | @cons a b rest more hab _ ih =>
    obtain ⟨hname, hrest⟩ := List.forall_mem_cons.mp hnamed
    have hother : Path.isName b = true := by rw [← isName_eq_of_sameFolding hab, hname]
    rcases segment_meets host folder a with
      ⟨call, hlist⟩ | hlist | ⟨names, hlist, hnone⟩ | ⟨names, entry, hlist, hentry⟩
    · rw [trueCase_of_error hname hlist, trueCase_of_error hother hlist]
    · rw [trueCase_of_unlisted hname hlist, trueCase_of_unlisted hother hlist]
    · have hnone' : ∀ entry ∈ names, sameFolding entry.text b = false := by
        intro entry hentry
        rw [Bool.eq_false_iff]
        intro hsame
        cases (hnone entry hentry).symm.trans (sameFolding_trans hsame (sameFolding_symm hab))
      rw [trueCase_of_unmatched hname hlist hnone, trueCase_of_unmatched hother hlist hnone']
    · -- One entry is preferred for both segments, so both lookups go on in the same folder.
      have hentry' : Preferred names b entry :=
        (preferred_iff_of_apart (hfree.apart hlist)).mpr
          ⟨hentry.mem, sameFolding_trans hentry.same hab⟩
      rw [trueCase_of_preferred hlist hentry, trueCase_of_preferred hlist hentry', ih hrest]

/-! ## The law -/

/-- On a tree without collisions the lookup does not depend on how a name is spelled. -/
theorem spelling_does_not_matter_without_collisions (host : Host) (hfree : host.CollisionFree)
    (folder : Path) (name other : String) (h : IsRespelling name other) :
    trueCaseName host name folder = trueCaseName host other folder := by
  rw [trueCaseName_eq, trueCaseName_eq,
    trueCase_respelled hfree (isName_of_mem_namedSegments name) h.named]

/-- Both spellings lead through the folder and the link below it. -/
theorem a_linked_street_is_found_in_both_spellings :
    let host := hostWith
      [(["project", "Contracts", "Straße"], .link "/store"),
       (["store", "Lib.sol"], .file [] 0)] []
    let found := fun name => trueCaseName host name searchingResolver.root
    host.CollisionFree ∧
      IsRespelling "CONTRACTS/./strasse/LIB.sol" "contracts/./STRAßE/lib.SOL" ∧
      found "CONTRACTS/./strasse/LIB.sol" = found "contracts/./STRAßE/lib.SOL" ∧
      found "CONTRACTS/./strasse/LIB.sol" = .ok (some "Contracts/Straße/Lib.sol") := by
  intro host found
  have hfree : host.CollisionFree := collisionFree_of_keepsApart (by decide +kernel)
  have hsame : IsRespelling "CONTRACTS/./strasse/LIB.sol" "contracts/./STRAßE/lib.SOL" := by
    decide +kernel
  exact ⟨hfree, hsame, spelling_does_not_matter_without_collisions host hfree
    searchingResolver.root _ _ hsame, eq_ok_of_toOption (by decide +kernel)⟩

end SourceNames
