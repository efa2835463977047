-- A document is read back from its text: a scan gives what the document was written from, in
-- order. The one thing that can go wrong is that the keyword of a directive is written directly
-- after code that ends in a word, for then the two read as one word.

import SourceNames.Proofs.Versions

namespace SourceNames

/-! ## Readers -/

/-- What a matcher is told by directives and reads from them. -/
structure Reader (matcher : Matcher) (told : Directive → Option (List Char)) where
  keyword : Keyword
  starts : keyword = .importing ∨ keyword = .pragma
  led : LedBy matcher keyword.text
  reads : ∀ (d : Directive) {parts : Spread}, parts.map (·.1) = d.lexemes → parts.Parted →
    ∀ before after, Reads matcher before (parts.code ++ [';']) after (told d)

def importReader : Reader importAt Directive.imported? where
  keyword := .importing
  starts := Or.inl rfl
  led := importAt_ledBy
  reads := reads_imported

def versionReader : Reader pragmaAt Directive.version? where
  keyword := .pragma
  starts := Or.inr rfl
  led := pragmaAt_ledBy
  reads := reads_version

/-- No end of one keyword is a start of the other or of itself. -/
theorem breaks_keyword {k k' : Keyword} (hk : k = .importing ∨ k = .pragma)
    (hk' : k' = .importing ∨ k' = .pragma) (after : List Char) :
    Breaks k.text (k'.text ++ after) := by
  have hends : ∀ n < k.text.length, 0 < n → ¬ k.text.drop n <+: k'.text := by
    rcases hk with rfl | rfl <;> rcases hk' with rfl | rfl <;> decide
  have hlength : k.text.length = k'.text.length := by
    rcases hk with rfl | rfl <;> rcases hk' with rfl | rfl <;> decide
  intro front back hsplit hfront hback hstart
  have hpos := List.length_pos_iff.mpr hfront
  have hposBack := List.length_pos_iff.mpr hback
  rw [hsplit, List.length_append] at hlength
  refine hends front.length (by rw [hsplit, List.length_append]; omega) hpos ?_
  rw [hsplit, List.drop_left]
  exact List.prefix_of_prefix_length_le hstart (List.prefix_append _ _) (by omega)

/-- A directive starts with one of the two keywords. -/
theorem exists_keyword_of_told {d : Directive} {parts : Spread}
    (told : parts.map (·.1) = d.lexemes) :
    ∃ k gap more, (k = .importing ∨ k = .pragma) ∧ parts = (.keyword k, gap) :: more := by
  cases d <;> obtain ⟨⟨_, gap⟩, more, rfl, rfl, -⟩ := List.map_eq_cons_iff.mp told
  · exact ⟨_, gap, more, Or.inl rfl, rfl⟩
  · exact ⟨_, gap, more, Or.inr rfl, rfl⟩
  · exact ⟨_, gap, more, Or.inr rfl, rfl⟩

/-- What comes after a chunk of code does not go on with a keyword that it ends with. -/
theorem breaks_items {k : Keyword} (hk : k = .importing ∨ k = .pragma) {items : List Item}
    (hitems : ∀ item ∈ items.head?, item.isChunk = false) :
    Breaks k.text (items.flatMap Item.code) := by
  have houtside : ∀ (c : Char) (rest : List Char), isWordChar c = false →
      Breaks k.text (c :: rest) := by
    intro c rest hc
    refine breaks_of_head fun d hd hmem => ?_
    obtain rfl : c = d := by simpa using hd
    exact absurd (k.chars c hmem) (by simp [not_identifierChar hc])
  cases items with
  | nil => exact breaks_of_head (by simp)
  | cons item rest =>
    rw [List.flatMap_cons]
    cases item with
    | piece piece =>
      obtain ⟨c, more, hc, heq⟩ := exists_cons_of_blankRun (piece_code_blank piece)
        (rest.flatMap Item.code)
      rw [Item.code, heq]
      exact houtside c more (isWordChar_of_isBlank hc)
    | chunk => exact absurd (hitems _ rfl) (by simp [Item.isChunk])
    | literal quote body hquote => exact houtside quote _ (noWord_of_isQuote hquote)
    | directive d parts told =>
      obtain ⟨k', gap, more, hk', rfl⟩ := exists_keyword_of_told told
      simp only [Item.code, Spread.code_cons, Lexeme.text, List.append_assoc]
      exact breaks_keyword hk hk' _

/-! ## Items -/

/-- A word is left open after an item just if the item is code that ends in one, given that
code never comes after an open word. -/
theorem noWordBefore_code {item : Item} {before : Option Char}
    (h : item.isChunk = true → NoWordBefore before) :
    NoWordBefore (lastOr before item.code) ↔ item.endsInWord = false := by
  have hlast : ∀ {text : List Char} {c : Char}, isWordChar c = false → text.getLast? = some c →
      NoWordBefore (lastOr before text) := by
    intro text c hc hlast
    simp [NoWordBefore, lastOr, hlast, hc]
  cases item with
  | piece piece =>
    obtain ⟨hne, hblank⟩ := piece_code_blank piece
    have hspace := isWordChar_of_isBlank (hblank _ (List.getLast_mem hne))
    exact iff_of_true (hlast hspace (List.getLast?_eq_some_getLast hne)) rfl
  | chunk code =>
    rw [Item.code, Item.endsInWord, lastOr]
    cases code.getLast? with
    | none => exact iff_of_true (h rfl) rfl
    | some c => rfl
  | literal quote body hquote hclosed =>
    obtain ⟨inner, rfl⟩ := last_of_rest hclosed
    refine iff_of_true (hlast (noWord_of_isQuote hquote) ?_) rfl
    rw [Item.code, ← List.cons_append, List.getLast?_concat]
  | directive d parts =>
    refine iff_of_true (hlast (c := ';') (by decide +kernel) ?_) rfl
    rw [Item.code, List.getLast?_concat]

namespace Reader

variable {matcher : Matcher} {told : Directive → Option (List Char)}

theorem reads_item (r : Reader matcher told) {item : Item} {after : List Char}
    (hafter : item.isChunk = true → Breaks r.keyword.text after) (before : Option Char) :
    Reads matcher before item.code after (item.directive?.bind told) := by
  have hfree : ∀ {text : List Char}, NoDirective text → ¬ r.keyword.text <:+: text := by
    intro text h
    rcases r.starts with hk | hk <;> rw [hk]
    · exact h.1
    · exact h.2
  cases item with
  | piece piece =>
    exact reads_of_passes (r.led.passes_blanks (piece_code_blank piece).blank _ _) (Or.inr rfl)
  | chunk code _ free =>
    exact reads_of_passes (r.led.passes_free (hfree free) (hafter rfl) before) (Or.inr rfl)
  | literal quote body hquote hclosed free =>
    obtain ⟨inner, rfl⟩ := last_of_rest hclosed
    have hword := noWord_of_isQuote hquote
    have hinner : ¬ r.keyword.text <:+: quote :: inner := fun h =>
      hfree free (h.trans (List.prefix_append (quote :: inner) [quote]).isInfix)
    have hclose : Breaks r.keyword.text ([quote] ++ after) := by
      refine breaks_of_head fun c hc hmem => ?_
      obtain rfl : quote = c := by simpa using hc
      exact absurd (r.led.chars quote hmem) (by simp [not_identifierChar hword])
    exact reads_of_passes ((r.led.passes_free hinner hclose before).append
      (r.led.passes_outside (by simpa using hword) _ _)) (Or.inr rfl)
  | directive d parts htold parted => exact r.reads d htold parted before after

/-- Two texts of which neither is longer than its like are the same joined just if each is. -/
theorem append_eq_append_of_le {α : Type} {front front' back back' : List α}
    (hfront : front.length ≤ front'.length) (hback : back.length ≤ back'.length) :
    front ++ back = front' ++ back' ↔ front = front' ∧ back = back' := by
  constructor
  · intro h
    have hlength := congrArg List.length h
    simp only [List.length_append] at hlength
    exact List.append_inj h (by omega)
  · rintro ⟨rfl, rfl⟩
    rfl

/-- What is found in items, given what stands before them: no more than they tell, and all they
tell just if no directive that tells something comes directly after a word. -/
theorem reads_items (r : Reader matcher told) {items : List Item}
    (hapart : items.IsChain fun a b => ¬ (a.isChunk = true ∧ b.isChunk = true))
    {before : Option Char}
    (hbefore : ∀ item ∈ items.head?, item.isChunk = true → NoWordBefore before) :
    (findAll matcher 0 before (items.flatMap Item.code)).length ≤
        (items.filterMap (·.directive?.bind told)).length ∧
      (findAll matcher 0 before (items.flatMap Item.code) =
          items.filterMap (·.directive?.bind told) ↔
        (∀ item ∈ items.head?, NoWordBefore before ∨ item.directive?.bind told = none) ∧
          items.IsChain fun a b => a.endsInWord = false ∨ b.directive?.bind told = none) := by
  induction items generalizing before with
  | nil => simp [findAll]
  | cons item rest ih =>
    obtain ⟨hnext, hrest⟩ := List.isChain_cons.mp hapart
    have hhere := hbefore item rfl
    have hafter : item.isChunk = true → Breaks r.keyword.text (rest.flatMap Item.code) :=
      fun hchunk => breaks_items r.starts fun next hmem => by
        simpa [hchunk] using hnext next hmem
    have hopen : NoWordBefore (lastOr before item.code) ↔ item.endsInWord = false :=
      noWordBefore_code hhere
    -- A chunk comes after no chunk, and nothing else leaves a word open.
    have hlater : ∀ next ∈ rest.head?, next.isChunk = true →
        NoWordBefore (lastOr before item.code) := by
      intro next hmem hchunk
      rw [hopen]
      cases item with
      | chunk => exact absurd ⟨rfl, hchunk⟩ (hnext next hmem)
      | _ => rfl
    obtain ⟨found, hfound, hlength, hiff⟩ := r.reads_item hafter before
    obtain ⟨hrestLength, hrestIff⟩ := ih hrest hlater
    have htold : (item :: rest).filterMap (·.directive?.bind told) =
        (item.directive?.bind told).toList ++ rest.filterMap (·.directive?.bind told) := by
      rw [List.filterMap_cons]
      cases item.directive?.bind told <;> rfl
    rw [List.flatMap_cons, hfound, htold]
    constructor
    · simp only [List.length_append]
      omega
    · rw [append_eq_append_of_le hlength hrestLength, hiff, hrestIff, hopen, List.isChain_cons]
      simp

/-- What is found in items that nothing stands before. -/
theorem reads_all (r : Reader matcher told) {items : List Item}
    (hapart : items.IsChain fun a b => ¬ (a.isChunk = true ∧ b.isChunk = true)) :
    findAll matcher 0 none (items.flatMap Item.code) =
        items.filterMap (·.directive?.bind told) ↔
      items.IsChain fun a b => a.endsInWord = false ∨ b.directive?.bind told = none := by
  have hnone : NoWordBefore none := rfl
  rw [(r.reads_items hapart fun _ _ _ => hnone).2]
  exact and_iff_right fun _ _ => Or.inl hnone

end Reader

/-! ## The law -/

theorem not_runsInto_iff {a b : Item} : ¬ a.RunsInto b ↔
    (a.endsInWord = false ∨ b.imported? = none) ∧ (a.endsInWord = false ∨ b.version? = none) := by
  rw [Item.RunsInto]
  cases a.endsInWord <;> cases b.imported? <;> cases b.version? <;> simp

/-- A scan of the text of a document gives just what the document was written from, imports and
versions in order, if no import and no version pragma is written directly after code that ends
in a word, and only then. -/
theorem a_document_is_read_back_just_if_no_directive_runs_into_a_word (document : Document) :
    scan document.text = document.contents ↔
      document.items.IsChain fun a b => ¬ a.RunsInto b := by
  have hstrings : ∀ {found told : List (List Char)},
      found.map String.ofList = told.map String.ofList ↔ found = told := by
    intro found told
    exact List.map_inj_right fun _ _ h => String.ofList_injective h
  have hchain : (document.items.IsChain fun a b => ¬ a.RunsInto b) ↔
      (document.items.IsChain fun a b => a.endsInWord = false ∨ b.imported? = none) ∧
        document.items.IsChain fun a b => a.endsInWord = false ∨ b.version? = none := by
    simp only [List.isChain_iff_forall_rel_of_append_cons_cons, not_runsInto_iff]
    grind
  rw [hchain, scan, Document.contents, Document.text, SourceScan.mk.injEq]
  simp only [String.toList_ofList, blankComments_items, hstrings]
  exact and_congr (importReader.reads_all document.apart) (versionReader.reads_all document.apart)

example : scan "import/* 'a'; */* as from//;\nfrom 'p';pragma solidity ^0.8 /**/ <0.9;" =
    ⟨["p"], ["^0.8 <0.9"]⟩ := by decide +kernel

def pathToP : ImportPath := ⟨'"', ['p'], by decide, List.forall_mem_singleton.mpr (by decide)⟩

/-- Code that ends in a word with an import right after it. -/
def gluedDocument : Document where
  items :=
    [.chunk ['x'] (List.forall_mem_singleton.mpr (by decide)) (by decide),
      .directive (.importing .plain pathToP)
        [(.keyword .importing, [.blank ' ' (by decide)]), (.path pathToP, [])]
        rfl (by simp [Spread.Parted])]
  apart := by simp [Item.isChunk]

/-- The import is lost, as the two read as one word. -/
theorem an_import_that_runs_into_a_word_is_lost :
    gluedDocument.text = "ximport \"p\";" ∧ scan gluedDocument.text ≠ gluedDocument.contents := by
  decide +kernel

end SourceNames
