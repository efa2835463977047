-- Which imports are rejected for their text, and as what. An import that holds `://` is rejected
-- as one of a protocol, which is named by the letters right before the first `://`; any other is
-- rejected for a backslash, and else for a slash at its start. Nothing but the text decides this,
-- and it is decided before anything is looked up.

import Mathlib.Data.List.DropRight
import SourceNames.Proofs.ImportedNames

namespace SourceNames

/-! ## The protocol that a text names -/

/-- What stands before the first `://` of a text. -/
structure BeforeMark (text before : List Char) : Prop where
  stands : ∃ after, text = before ++ ("://".toList ++ after)
  first : ∀ other after, text = other ++ ("://".toList ++ after) → before.length ≤ other.length

/-- A letter from `a` to `z`, small or capital. -/
def IsLetter (c : Char) : Prop := 'a' ≤ c ∧ c ≤ 'z' ∨ 'A' ≤ c ∧ c ≤ 'Z'

/-- The longest run of letters that a text ends with. -/
structure LettersAtEnd (text run : List Char) : Prop where
  ends : run <:+ text
  letters : ∀ c ∈ run, IsLetter c
  longest : ∀ other, other <:+ text → (∀ c ∈ other, IsLetter c) → other.length ≤ run.length

/-- A text names a protocol by the letters right before its first `://`, possibly none. -/
def NamesProtocol (text protocol : List Char) : Prop :=
  ∃ before, BeforeMark text before ∧ LettersAtEnd before protocol

variable {text before rest run protocol : List Char} {c : Char}

theorem isAlpha_iff (c : Char) : c.isAlpha = true ↔ IsLetter c := by
  unfold Char.isAlpha Char.isUpper Char.isLower IsLetter
  simp only [Bool.or_eq_true, Bool.and_eq_true, decide_eq_true_eq]
  exact or_comm

theorem length_le_rtakeWhile {other : List Char} (h : other <:+ text)
    (hletters : ∀ c ∈ other, IsLetter c) :
    other.length ≤ (text.rtakeWhile Char.isAlpha).length := by
  obtain ⟨front, rfl⟩ := h
  have halpha : ∀ c ∈ other.reverse, c.isAlpha = true := fun c hc =>
    (isAlpha_iff c).mpr (hletters c (List.mem_reverse.mp hc))
  unfold List.rtakeWhile
  rw [List.reverse_append, List.takeWhile_append_of_pos halpha]
  simp

theorem lettersAtEnd_iff : LettersAtEnd text run ↔ run = text.rtakeWhile Char.isAlpha := by
  have hends := List.rtakeWhile_suffix Char.isAlpha text
  have hletters : ∀ c ∈ text.rtakeWhile Char.isAlpha, IsLetter c := fun c hc =>
    (isAlpha_iff c).mp (List.mem_rtakeWhile_imp hc)
  constructor
  · intro h
    have hle := length_le_rtakeWhile h.ends h.letters
    have hge := h.longest _ hends hletters
    exact (List.suffix_of_suffix_length_le h.ends hends hle).eq_of_length_le hge
  · rintro rfl
    exact ⟨hends, hletters, fun other => length_le_rtakeWhile⟩

/-- A character more makes the run at the end longer if it is a letter, and else ends it. -/
theorem rtakeWhile_concat (text : List Char) (c : Char) :
    ((text ++ [c]).rtakeWhile Char.isAlpha).reverse =
      if c.isAlpha then c :: (text.rtakeWhile Char.isAlpha).reverse else [] := by
  rw [List.rtakeWhile_concat]
  split
  · simp
  · rfl

/-! ## The first mark -/

theorem beforeMark_iff_of_mark_first (h : "://".toList <+: text) :
    BeforeMark text before ↔ before = [] := by
  obtain ⟨after, rfl⟩ := h
  constructor
  · intro hbefore
    exact List.eq_nil_of_length_eq_zero (Nat.le_zero.mp (hbefore.first [] after rfl))
  · rintro rfl
    exact ⟨⟨after, rfl⟩, fun other _ _ => Nat.zero_le other.length⟩

theorem beforeMark_cons_iff (h : ¬ "://".toList <+: c :: rest) :
    BeforeMark (c :: rest) before ↔ ∃ more, before = c :: more ∧ BeforeMark rest more := by
  -- The mark does not stand at the start, so whatever stands before it starts with the character.
  have hcons : ∀ other after, c :: rest = other ++ ("://".toList ++ after) →
      ∃ more, other = c :: more ∧ rest = more ++ ("://".toList ++ after) := by
    intro other after hsplit
    cases other with
    | nil => exact absurd ⟨after, hsplit.symm⟩ h
    | cons d more =>
      rw [List.cons_append, List.cons.injEq] at hsplit
      exact ⟨more, by rw [hsplit.1], hsplit.2⟩
  constructor
  · rintro ⟨⟨after, hstands⟩, hfirst⟩
    obtain ⟨more, rfl, hrest⟩ := hcons before after hstands
    refine ⟨more, rfl, ⟨after, hrest⟩, fun other after' hother => ?_⟩
    have hle := hfirst (c :: other) after' (by rw [hother, List.cons_append])
    exact Nat.le_of_succ_le_succ hle
  · rintro ⟨more, rfl, ⟨after, hrest⟩, hfirst⟩
    refine ⟨⟨after, by rw [hrest, List.cons_append]⟩, fun other after' hother => ?_⟩
    obtain ⟨more', rfl, hother'⟩ := hcons other after' hother
    exact Nat.succ_le_succ (hfirst more' after' hother')

/-- The search carries the run of letters that what was read so far ends with. -/
theorem schemeFrom_eq_some_iff (read : List Char) :
    schemeFrom (read.rtakeWhile Char.isAlpha).reverse text = some protocol ↔
      ∃ before, BeforeMark text before ∧
        protocol = (read ++ before).rtakeWhile Char.isAlpha := by
  induction text generalizing read with
  | nil =>
    have hnone : ∀ before, ¬ BeforeMark [] before := by
      rintro before ⟨⟨after, hstands⟩, -⟩
      simp at hstands
    simp [schemeFrom, hnone]
  | cons c rest ih =>
    unfold schemeFrom
    by_cases hprefix : "://".toList.isPrefixOf (c :: rest) = true
    · have hmark := List.isPrefixOf_iff_prefix.mp hprefix
      rw [if_pos hprefix]
      simp only [beforeMark_iff_of_mark_first hmark, exists_eq_left, List.append_nil,
        List.reverse_reverse, Option.some.injEq, eq_comm]
    · have hmark := fun hmark => hprefix (List.isPrefixOf_iff_prefix.mpr hmark)
      rw [if_neg hprefix, ← rtakeWhile_concat, ih]
      simp only [beforeMark_cons_iff hmark, List.append_assoc, List.singleton_append]
      constructor
      · rintro ⟨more, hmore, hprotocol⟩
        exact ⟨c :: more, ⟨more, rfl, hmore⟩, hprotocol⟩
      · rintro ⟨_, ⟨more, rfl, hmore⟩, hprotocol⟩
        exact ⟨more, hmore, hprotocol⟩

/-- The scheme of a text is the protocol that it names. -/
theorem scheme?_eq_some_iff (text protocol : String) :
    scheme? text = some protocol ↔ NamesProtocol text.toList protocol.toList := by
  have hsearch : schemeFrom [] text.toList = some protocol.toList ↔
      ∃ before, BeforeMark text.toList before ∧
        protocol.toList = before.rtakeWhile Char.isAlpha := schemeFrom_eq_some_iff []
  unfold scheme? NamesProtocol
  simp only [lettersAtEnd_iff]
  rw [← hsearch, Option.map_eq_some_iff]
  constructor
  · rintro ⟨letters, hletters, rfl⟩
    rw [hletters, String.toList_ofList]
  · intro hletters
    exact ⟨protocol.toList, hletters, String.ofList_toList⟩

/-- A text names a protocol just if it holds `://`. -/
theorem exists_namesProtocol_iff (text : String) :
    (∃ protocol : String, NamesProtocol text.toList protocol.toList) ↔
      "://".toList <:+: text.toList := by
  simp only [← scheme?_eq_some_iff]
  rw [← Option.isSome_iff_exists, Option.isSome_iff_ne_none, ne_eq,
    scheme?_eq_none_iff_unmarked, not_not]

/-! ## Rejected imports -/

/-- Why an import is rejected for its text: it holds `://`, else it holds a backslash, else it
starts with a slash. -/
inductive RejectedAs (importer imported : String) : Failure → Prop
  | protocol {protocol : String} : NamesProtocol imported.toList protocol.toList →
      RejectedAs importer imported (.importProtocol importer imported protocol)
  | backslash : ¬ "://".toList <:+: imported.toList → '\\' ∈ imported.toList →
      RejectedAs importer imported (.importBackslashes importer imported)
  | absolute : ¬ "://".toList <:+: imported.toList → '\\' ∉ imported.toList →
      beginsWith "/" imported = true →
      RejectedAs importer imported (.importAbsolutePath importer imported)

/-- Whether a failure is about the text of an import. -/
def Failure.isOfImportText : Failure → Bool
  | .importProtocol _ _ _ | .importBackslashes _ _ | .importAbsolutePath _ _ => true
  | _ => false

variable {importer : ResolvedFile} {imported : String} {f : Failure}

theorem importedName_of_rejectedAs (h : RejectedAs importer.sourceName imported f) :
    importedName importer imported = .error f := by
  unfold importedName
  cases h with
  | protocol hprotocol => simp only [(scheme?_eq_some_iff _ _).mpr hprotocol]
  | backslash hmark hbackslash =>
    simp [(scheme?_eq_none_iff_unmarked imported).mpr hmark, hbackslash]
  | absolute hmark hbackslash habsolute =>
    simp [(scheme?_eq_none_iff_unmarked imported).mpr hmark, hbackslash, habsolute]

/-- An import whose text is not rejected fails for where it leads, if it fails. -/
theorem isOfImportText_of_readable (hreadable : Readable imported)
    (habsolute : beginsWith "/" imported = false)
    (h : importedName importer imported = .error f) : f.isOfImportText = false := by
  by_cases hrelative : isRelative imported = true
  · obtain ⟨hscheme, hbackslash⟩ := hreadable
    unfold importedName at h
    simp only [hscheme, habsolute, hrelative, List.contains_iff_mem, hbackslash,
      Bool.false_eq_true, Bool.not_true, if_false] at h
    generalize normalize (joinNames (directoryOf importer.sourceName) imported) = name at h
    cases hlibrary : importer.library with
    | none =>
      cases hthrough : throughModules? name with
      | none =>
        simp only [hlibrary, hthrough] at h
        split_ifs at h
        cases h
        rfl
      | some direct =>
        simp only [hlibrary, hthrough] at h
        cases h
    | some library =>
      simp only [hlibrary] at h
      split_ifs at h
      cases h
      rfl
  · rw [direct_import hreadable habsolute (Bool.eq_false_iff.mpr hrelative)] at h
    cases h

theorem rejectedAs_of_importedName (h : importedName importer imported = .error f)
    (htext : f.isOfImportText = true) : RejectedAs importer.sourceName imported f := by
  -- Where the text is rejected, it is rejected with the failure that the import fails with.
  have hsame : ∀ g, RejectedAs importer.sourceName imported g →
      RejectedAs importer.sourceName imported f := by
    intro g hg
    rw [importedName_of_rejectedAs hg] at h
    exact Except.error.inj h ▸ hg
  by_cases hmark : "://".toList <:+: imported.toList
  · obtain ⟨protocol, hprotocol⟩ := (exists_namesProtocol_iff imported).mpr hmark
    exact hsame _ (.protocol hprotocol)
  · by_cases hbackslash : '\\' ∈ imported.toList
    · exact hsame _ (.backslash hmark hbackslash)
    · by_cases habsolute : beginsWith "/" imported = true
      · exact hsame _ (.absolute hmark hbackslash habsolute)
      · have hscheme := (scheme?_eq_none_iff_unmarked imported).mpr hmark
        rw [Bool.not_eq_true] at habsolute
        rw [isOfImportText_of_readable ⟨hscheme, hbackslash⟩ habsolute h] at htext
        cases htext

namespace Resolver

/-! ## The law -/

/-- An import is rejected for its text just as the text tells: as one of the protocol that it
names if it holds `://`, else for a backslash, else for a slash at its start. It is rejected so on
any disk and in any session, with nothing asked or written down. -/
theorem an_import_is_rejected_for_its_text_alone (importer : ResolvedFile) (imported : String) :
    ((∃ protocol : String, NamesProtocol imported.toList protocol.toList) ↔
      "://".toList <:+: imported.toList) ∧
    (∀ f, importedName importer imported = .error f ∧ f.isOfImportText = true ↔
      RejectedAs importer.sourceName imported f) ∧
    ∀ f, RejectedAs importer.sourceName imported f →
      ∀ (r : Resolver) (host : Host) (session : Session),
        (r.resolveImport host importer imported).within session = (.error (.of f), session) := by
  refine ⟨exists_namesProtocol_iff imported, fun f => ⟨?_, ?_⟩, ?_⟩
  · rintro ⟨h, htext⟩
    exact rejectedAs_of_importedName h htext
  · intro h
    exact ⟨importedName_of_rejectedAs h, by cases h <;> rfl⟩
  · intro f h r host session
    exact within_resolveImport_of_error (importedName_of_rejectedAs h) session

/-- An import with every defect at once. A digit breaks the run of letters, and of two separators
the first counts. -/
theorem a_climbing_import_of_a_protocol_is_rejected_for_the_protocol :
    let importer := emptyFile "lib/x.sol" "" (some ⟨"lib", ""⟩)
    let imported := "/../\\..\\h2Ttp://b/git://c"
    RejectedAs importer.sourceName imported (.importProtocol "lib/x.sol" imported "Ttp") ∧
      (searchingResolver.resolveImport shadowedHost importer imported).within (.start .usual) =
        (.error (.of (.importProtocol "lib/x.sol" imported "Ttp")), .start .usual) := by
  intro importer imported
  obtain ⟨-, hrejected, hends⟩ := an_import_is_rejected_for_its_text_alone importer imported
  have hprotocol : RejectedAs importer.sourceName imported
      (.importProtocol "lib/x.sol" imported "Ttp") :=
    (hrejected _).mp ⟨by decide +kernel, rfl⟩
  exact ⟨hprotocol, hends _ hprotocol searchingResolver shadowedHost (.start .usual)⟩

end Resolver

end SourceNames
