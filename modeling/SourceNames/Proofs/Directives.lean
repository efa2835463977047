-- What a scan finds in one directive as it is written. An import, or a version pragma, is found
-- if no word runs into its keyword. If one does, an import is lost, and of a version pragma at
-- most some smaller one is left that its words may happen to hold.

import Mathlib.Data.List.Chain
import SourceNames.Proofs.Passing

namespace SourceNames

/-! ## Lexemes and the gaps between them -/

theorem Mark.noWord (m : Mark) : isWordChar m.char = false := by
  cases m <;> decide +kernel

theorem noWord_of_isQuote {c : Char} (h : isQuote c = true) : isWordChar c = false := by
  rcases isQuote_iff.mp h with rfl | rfl <;> decide +kernel

theorem not_identifierChar {c : Char} (h : isWordChar c = false) : isIdentifierChar c = false := by
  rw [Bool.eq_false_iff]
  intro hid
  simp [(identifierFacts hid).word] at h

theorem Gap.blankRun {gap : Gap} (h : gap ≠ []) : BlankRun gap.code :=
  ⟨gap_code_ne_nil h, gap_code_blank gap⟩

namespace Lexeme

/-- A lexeme starts with a character that is no blank. -/
theorem exists_cons (lexeme : Lexeme) :
    ∃ c more, lexeme.text = c :: more ∧ isBlank c = false := by
  have hcons : ∀ text : List Char, text ≠ [] → (∀ c ∈ text, isBlank c = false) →
      ∃ c more, text = c :: more ∧ isBlank c = false := by
    intro text hne hsolid
    cases text with
    | nil => exact absurd rfl hne
    | cons c more => exact ⟨c, more, rfl, hsolid c (by simp)⟩
  cases lexeme with
  | keyword k => exact hcons _ k.ne_nil fun c hc => (identifierFacts (k.chars c hc)).notBlank
  | name n => exact hcons _ n.ne_nil fun c hc => (identifierFacts (n.chars c hc)).notBlank
  | mark m => cases m <;> exact ⟨_, _, rfl, by decide⟩
  | path p => exact ⟨_, _, rfl, isBlank_of_isQuote p.quoted⟩
  | word w => exact hcons _ w.ne_nil fun c hc => (w.chars c hc).2.1

/-- A lexeme that is no word does not run into a word before it, nor into one after it. -/
theorem edges_noWord {lexeme : Lexeme} (h : lexeme.isWord = false) :
    (∀ c ∈ lexeme.text.head?, isWordChar c = false) ∧
      ∀ c ∈ lexeme.text.getLast?, isWordChar c = false := by
  cases lexeme with
  | mark m => simp [text, m.noWord]
  | path p => simp [text, List.getLast?_cons, noWord_of_isQuote p.quoted]
  | _ => simp [isWord] at h

/-- Only the string of an import can end a clause. -/
theorem inside {lexeme : Lexeme} (h : ∀ p, lexeme ≠ .path p) :
    ∀ c ∈ lexeme.text, endsClause c = false := by
  intro c hc
  cases lexeme with
  | keyword k => exact (identifierFacts (k.chars c hc)).noClauseEnd
  | name n => exact (identifierFacts (n.chars c hc)).noClauseEnd
  | mark m =>
    obtain rfl : c = m.char := by simpa [text] using hc
    cases m <;> decide
  | path p => exact absurd rfl (h p)
  | word w =>
    obtain ⟨hinert, -, hsemi⟩ := w.chars c hc
    rw [Bool.eq_false_iff, ne_eq, endsClause_iff, isQuote_iff]
    rintro (rfl | hquote)
    · exact hsemi rfl
    · exact (isInert_iff.mp hinert).1 (hquote.resolve_right (isInert_iff.mp hinert).2.1)

end Lexeme

namespace Spread

variable {lexeme : Lexeme} {gap : Gap} {parts : Spread}

@[simp]
theorem code_nil : Spread.code [] = [] := rfl

@[simp]
theorem code_cons (part : Lexeme × Gap) (parts : Spread) :
    Spread.code (part :: parts) = part.1.text ++ (part.2.code ++ parts.code) := by
  simp [Spread.code]

@[simp]
theorem code_append (front back : Spread) :
    Spread.code (front ++ back) = front.code ++ back.code := by
  simp [Spread.code]

/-- After a word comes nothing that runs into it. -/
theorem Parted.head_noWord (hparted : Spread.Parted ((lexeme, gap) :: parts))
    (hword : lexeme.isWord = true) {after : List Char}
    (hafter : ∀ c ∈ after.head?, isWordChar c = false) :
    ∀ c ∈ (gap.code ++ (parts.code ++ after)).head?, isWordChar c = false := by
  intro c hc
  by_cases hgap : gap = []
  · subst hgap
    cases parts with
    | nil => exact hafter c hc
    | cons part more =>
      have hnot : part.1.isWord = false := by
        have hapart := (List.isChain_cons_cons.mp hparted).1
        simp only [Lexeme.apart, hword, Bool.true_and] at hapart
        cases hpart : part.1.isWord with
        | false => rfl
        | true => exact absurd rfl (hapart (by simp [hpart]))
      obtain ⟨d, rest, hd, -⟩ := part.1.exists_cons
      refine (Lexeme.edges_noWord hnot).1 c ?_
      simpa [Gap.code, hd] using hc
  · obtain ⟨d, more, hd, heq⟩ := exists_cons_of_blankRun (Gap.blankRun hgap) (parts.code ++ after)
    obtain rfl : d = c := by simpa [heq] using hc
    exact isWordChar_of_isBlank hd

/-- What comes before a word does not run into it. -/
theorem Parted.noWordBefore {later : Spread}
    (hparted : Spread.Parted (parts ++ (lexeme, gap) :: later)) (hword : lexeme.isWord = true) :
    NoWordBefore parts.code.getLast? := by
  rcases List.eq_nil_or_concat' parts with rfl | ⟨init, ⟨other, between⟩, rfl⟩
  · rfl
  have hapart : other.apart lexeme = true → between ≠ [] := by
    rw [List.append_assoc] at hparted
    exact (List.isChain_cons_cons.mp (List.IsChain.right_of_append hparted)).1
  have hlast : ∀ c ∈ (other.text ++ between.code).getLast?, isWordChar c = false := by
    intro c hc
    by_cases hgap : between = []
    · subst hgap
      have hnot : other.isWord = false := by
        cases hother : other.isWord with
        | false => rfl
        | true => exact absurd rfl (hapart (by simp [Lexeme.apart, hother, hword]))
      exact (Lexeme.edges_noWord hnot).2 c (by simpa [Gap.code] using hc)
    · rw [List.getLast?_append_of_ne_nil _ (gap_code_ne_nil hgap)] at hc
      exact isWordChar_of_isBlank (gap_code_blank between c (List.mem_of_getLast? hc))
  obtain ⟨d, more, hd, -⟩ := other.exists_cons
  rw [code_append, code_cons, code_nil, List.append_nil,
    List.getLast?_append_of_ne_nil _ (by simp [hd])]
  simpa [NoWordBefore, Option.any_eq_false] using hlast

/-- Without a string, nothing ends a clause. -/
theorem code_inside (h : ∀ part ∈ parts, ∀ p, part.1 ≠ .path p) :
    ∀ c ∈ parts.code, endsClause c = false := by
  intro c hc
  obtain ⟨part, hpart, hmem⟩ := List.mem_flatMap.mp hc
  rcases List.mem_append.mp hmem with hc | hc
  · exact Lexeme.inside (h part hpart) c hc
  · exact endsClause_of_isBlank (gap_code_blank part.2 c hc)

/-- Something stands after a keyword unless the directive ends there. -/
theorem Parted.gap_ne_nil (hparted : Spread.Parted ((lexeme, gap) :: parts))
    (hkeyword : lexeme.isKeyword = true) (hparts : parts ≠ []) : gap ≠ [] := by
  cases parts with
  | nil => exact absurd rfl hparts
  | cons part more =>
    exact (List.isChain_cons_cons.mp hparted).1 (by simp [Lexeme.apart, hkeyword])

end Spread

/-! ## Lexemes without the keyword -/

/-- A lexeme that is not the keyword, and does not hold it if it is a word of a pragma. -/
def Lexeme.Foreign (keyword : List Char) : Lexeme → Prop
  | .keyword k => k.text ≠ keyword
  | .name n => n.text ≠ keyword
  | .word w => ¬ keyword <:+: w.text
  | _ => True

namespace LedBy

variable {matcher : Matcher} {keyword : List Char}

theorem passes_lexeme (h : LedBy matcher keyword) {lexeme : Lexeme} {after : List Char}
    (hforeign : lexeme.Foreign keyword)
    (hafter : lexeme.isWord = true → ∀ c ∈ after.head?, isWordChar c = false)
    (before : Option Char) : Passes matcher before lexeme.text after := by
  cases lexeme with
  | keyword k =>
    exact h.passes_identifier k.chars hforeign
      (fun c hc => not_identifierChar (hafter rfl c hc)) before
  | name n =>
    exact h.passes_identifier n.chars hforeign
      (fun c hc => not_identifierChar (hafter rfl c hc)) before
  | mark m =>
    exact h.passes_outside (by simpa [Lexeme.text] using m.noWord) before after
  | path p =>
    have hquote := noWord_of_isQuote p.quoted
    have hstop : p.quote ∉ keyword := fun hmem =>
      absurd (h.chars _ hmem) (by simp [not_identifierChar hquote])
    have hmark : ∀ last after, Passes matcher last [p.quote] after :=
      h.passes_outside (by simpa using hquote)
    have hpath : ∀ last, Passes matcher last p.path ([p.quote] ++ after) := fun last =>
      h.passes_solid (fun c hc => (p.chars c hc).1) (isBlank_of_isQuote p.quoted) hstop last
    exact (hmark before _).append ((hpath _).append (hmark _ after))
  | word w =>
    refine h.passes_free hforeign (breaks_of_head fun c hc hmem => ?_) before
    exact absurd (h.chars c hmem) (by simp [not_identifierChar (hafter rfl c hc)])

/-- The keyword is not found among lexemes that are not it, wherever a word stands before. -/
theorem passes_spread (h : LedBy matcher keyword) {parts : Spread} {after : List Char}
    (hparted : parts.Parted) (hforeign : ∀ part ∈ parts, part.1.Foreign keyword)
    (hafter : ∀ c ∈ after.head?, isWordChar c = false) (before : Option Char) :
    Passes matcher before parts.code after := by
  induction parts generalizing before with
  | nil => trivial
  | cons part more ih =>
    obtain ⟨lexeme, gap⟩ := part
    rw [List.forall_mem_cons] at hforeign
    rw [Spread.code_cons]
    have hlexeme : Passes matcher before lexeme.text (gap.code ++ Spread.code more ++ after) := by
      refine h.passes_lexeme hforeign.1 (fun hword => ?_) before
      rw [List.append_assoc]
      exact Spread.Parted.head_noWord hparted hword hafter
    have hgap : ∀ last, Passes matcher last gap.code (Spread.code more ++ after) := fun last =>
      h.passes_blanks (gap_code_blank gap) last _
    exact hlexeme.append ((hgap _).append (ih hparted.tail hforeign.2 _))

end LedBy

/-! ## What is read -/

/-- What a scan finds in a text on its way: no more than the text tells, and just that unless
it tells something and a word runs into it. -/
def Reads (matcher : Matcher) (before : Option Char) (text after : List Char)
    (told : Option (List Char)) : Prop :=
  ∃ found, findAll matcher 0 before (text ++ after) =
      found ++ findAll matcher 0 (lastOr before text) after ∧
    found.length ≤ told.toList.length ∧
    (found = told.toList ↔ NoWordBefore before ∨ told = none)

section

variable {matcher : Matcher} {before : Option Char} {text after : List Char}

theorem reads_of_passes {told : Option (List Char)} (h : Passes matcher before text after)
    (htold : ¬ NoWordBefore before ∨ told = none) : Reads matcher before text after told := by
  refine ⟨[], findAll_of_passes h, by simp, ?_⟩
  cases told with
  | none => simp
  | some t => simpa using htold

theorem reads_of_found {told : List Char} (hbefore : NoWordBefore before)
    (h : findAll matcher 0 before (text ++ after) =
      told :: findAll matcher 0 (lastOr before text) after) :
    Reads matcher before text after (some told) :=
  ⟨[told], h, by simp, by simp [hbefore]⟩

end

/-- A semicolon is no part of a keyword. -/
theorem LedBy.passes_semicolon {matcher : Matcher} {keyword : List Char}
    (h : LedBy matcher keyword) (before : Option Char) (after : List Char) :
    Passes matcher before [';'] after :=
  h.passes_outside (List.forall_mem_singleton.mpr (by decide +kernel)) before after

theorem noWord_semicolon (after : List Char) :
    ∀ c ∈ (';' :: after).head?, isWordChar c = false := by
  intro c hc
  obtain rfl : ';' = c := by simpa using hc
  decide +kernel

/-! ## Imports -/

theorem mem_symbolList {symbols : List (Identifier × Option Identifier)} {lexeme : Lexeme}
    (h : lexeme ∈ ImportForm.symbolList symbols) :
    (∃ name, lexeme = .name name) ∨ ∃ mark, lexeme = .mark mark := by
  have hsymbol : ∀ symbol, lexeme ∈ ImportForm.symbol symbol → ∃ name, lexeme = .name name := by
    rintro ⟨name, _ | other⟩ hmem
    · exact ⟨name, by simpa [ImportForm.symbol] using hmem⟩
    · simp only [ImportForm.symbol, List.mem_cons, List.not_mem_nil, or_false] at hmem
      rcases hmem with rfl | rfl | rfl <;> exact ⟨_, rfl⟩
  fun_induction ImportForm.symbolList symbols with
  | case1 => simp at h
  | case2 first => exact Or.inl (hsymbol first h)
  | case3 first next more ih =>
    rcases List.mem_append.mp h with hfirst | hmem
    · exact Or.inl (hsymbol first hfirst)
    · rcases List.mem_cons.mp hmem with rfl | hmore
      · exact Or.inr ⟨_, rfl⟩
      · exact ih hmore

/-- Names and marks stand between the keyword and the string, and the word `from`. -/
theorem mem_clause {form : ImportForm} {lexeme : Lexeme} (h : lexeme ∈ form.clause) :
    (∃ name, lexeme = .name name) ∨ (∃ mark, lexeme = .mark mark) ∨ lexeme = .keyword .origin := by
  cases form with
  | named symbols =>
    simp only [ImportForm.clause, ImportForm.subject?, List.mem_append, List.mem_cons,
      List.not_mem_nil, or_false] at h
    rcases h with (rfl | hsymbol | rfl) | rfl
    · exact Or.inr (Or.inl ⟨_, rfl⟩)
    · exact (mem_symbolList hsymbol).imp_right Or.inl
    · exact Or.inr (Or.inl ⟨_, rfl⟩)
    · exact Or.inr (Or.inr rfl)
  | star name =>
    simp only [ImportForm.clause, ImportForm.subject?, List.mem_append, List.mem_cons,
      List.not_mem_nil, or_false] at h
    rcases h with (rfl | rfl | rfl) | rfl <;> simp
  | lone name =>
    simp only [ImportForm.clause, ImportForm.subject?, List.mem_append, List.mem_cons,
      List.not_mem_nil, or_false] at h
    rcases h with rfl | rfl <;> simp
  | _ => simp [ImportForm.clause, ImportForm.subject?] at h

theorem mem_tail {form : ImportForm} {lexeme : Lexeme} (h : lexeme ∈ form.tail) :
    ∃ name, lexeme = .name name := by
  cases form with
  | renamed other =>
    simp only [ImportForm.tail, List.mem_cons, List.not_mem_nil, or_false] at h
    rcases h with rfl | rfl <;> exact ⟨_, rfl⟩
  | _ => simp [ImportForm.tail] at h

/-- What stands after the keyword of an import is no keyword of a directive. -/
theorem foreign_of_mem_import {form : ImportForm} {path : ImportPath} {lexeme : Lexeme}
    (h : lexeme ∈ form.clause ++ .path path :: form.tail) :
    lexeme.Foreign "import".toList ∧ lexeme.Foreign "pragma".toList := by
  rcases List.mem_append.mp h with hclause | hrest
  · rcases mem_clause hclause with ⟨name, rfl⟩ | ⟨mark, rfl⟩ | rfl
    · exact name.free
    · exact ⟨trivial, trivial⟩
    · exact (by decide : Keyword.origin.text ≠ "import".toList ∧
        Keyword.origin.text ≠ "pragma".toList)
  · rcases List.mem_cons.mp hrest with rfl | htail
    · exact ⟨trivial, trivial⟩
    · obtain ⟨name, rfl⟩ := mem_tail htail
      exact name.free

/-- The parts of an import: its keyword, its clause, its string, and what comes after that. -/
structure ImportParts (form : ImportForm) (path : ImportPath) where
  opening : Gap
  clause : Spread
  closing : Gap
  tail : Spread
  clauseTold : clause.map (·.1) = form.clause
  tailTold : tail.map (·.1) = form.tail

namespace ImportParts

variable {form : ImportForm} {path : ImportPath}

/-- The parts in one spread. -/
def spread (p : ImportParts form path) : Spread :=
  (.keyword .importing, p.opening) :: (p.clause ++ (.path path, p.closing) :: p.tail)

theorem exists_of_told {parts : Spread}
    (told : parts.map (·.1) = (Directive.importing form path).lexemes) :
    ∃ p : ImportParts form path, parts = p.spread := by
  obtain ⟨⟨_, opening⟩, rest, rfl, rfl, hrest⟩ := List.map_eq_cons_iff.mp told
  obtain ⟨clause, more, rfl, hclause, hmore⟩ := List.map_eq_append_iff.mp hrest
  obtain ⟨⟨_, closing⟩, tail, rfl, rfl, htail⟩ := List.map_eq_cons_iff.mp hmore
  exact ⟨⟨opening, clause, closing, tail, hclause, htail⟩, rfl⟩

variable (p : ImportParts form path)

/-- The pieces that a matcher takes an import apart into. -/
def pieces : ImportPieces := ⟨p.opening.code, p.clause.code, path.quote, path.path⟩

theorem code_spread : p.spread.code = p.pieces.text ++ (p.closing.code ++ p.tail.code) := by
  simp [spread, pieces, ImportPieces.text_def, Lexeme.text]

theorem told {part : Lexeme × Gap} (h : part ∈ p.clause ++ (.path path, p.closing) :: p.tail) :
    part.1 ∈ form.clause ++ .path path :: form.tail := by
  rw [← p.clauseTold, ← p.tailTold]
  simpa using List.mem_map_of_mem (f := (·.1)) h

variable {p}

/-- The clause is nothing, or it ends with the word `from` and a gap. -/
theorem isImportClause_code (hparted : p.spread.Parted) : isImportClause p.clause.code = true := by
  have htold := p.clauseTold
  rw [ImportForm.clause] at htold
  cases hsubject : form.subject? with
  | none =>
    rw [hsubject, List.map_eq_nil_iff] at htold
    simp [htold, isImportClause]
  | some subject =>
    rw [hsubject] at htold
    obtain ⟨front, last, hclause, -, hlast⟩ := List.map_eq_append_iff.mp htold
    obtain ⟨⟨_, between⟩, _, rfl, rfl, hnil⟩ := List.map_eq_cons_iff.mp hlast
    obtain rfl := List.map_eq_nil_iff.mp hnil
    have hrest : Spread.Parted (front ++ (.keyword .origin, between) ::
        (.path path, p.closing) :: p.tail) := by
      have := List.IsChain.tail hparted
      rwa [spread, List.tail_cons, hclause, List.append_assoc] at this
    have hgap : between ≠ [] :=
      Spread.Parted.gap_ne_nil (List.IsChain.right_of_append hrest) rfl (by simp)
    rw [isImportClause_iff]
    refine Or.inr ⟨Spread.code front, Gap.code between, Gap.blankRun hgap,
      hrest.noWordBefore rfl, ?_⟩
    simp [hclause, Lexeme.text]

theorem fit_pieces (hparted : p.spread.Parted) : p.pieces.Fit where
  blanks := Gap.blankRun (hparted.gap_ne_nil rfl (by simp))
  head := by
    intro c hc
    cases hclause : p.clause with
    | nil => simp [pieces, hclause] at hc
    | cons part more =>
      obtain ⟨d, rest, hd, hblank⟩ := part.1.exists_cons
      obtain rfl : d = c := by simpa [pieces, hclause, hd] using hc
      exact hblank
  clause := isImportClause_code hparted
  inside := by
    refine Spread.code_inside fun part hpart q hq => ?_
    have hmem : part.1 ∈ form.clause := p.clauseTold ▸ List.mem_map_of_mem hpart
    rcases mem_clause hmem with ⟨name, h⟩ | ⟨mark, h⟩ | h <;> simp [hq] at h
  quote := path.quoted
  found := fun h => (path.chars _ h).2.2 rfl

/-- After the string nothing more is found up to the semicolon. -/
theorem passes_after (hparted : p.spread.Parted) (before : Option Char) (after : List Char) :
    Passes importAt before (p.closing.code ++ p.tail.code ++ [';']) after := by
  have htail : p.tail.Parted :=
    List.IsChain.tail (List.IsChain.right_of_append (List.IsChain.tail hparted))
  have hforeign : ∀ part ∈ p.tail, part.1.Foreign "import".toList := fun part hpart =>
    (foreign_of_mem_import (p.told (by simp [hpart]))).1
  have hclosing : Passes importAt before p.closing.code (p.tail.code ++ ([';'] ++ after)) :=
    importAt_ledBy.passes_blanks (gap_code_blank _) _ _
  exact Passes.append (hclosing.append (importAt_ledBy.passes_spread htail hforeign
    (noWord_semicolon after) _)) (importAt_ledBy.passes_semicolon _ _)

/-- A word that runs into the keyword makes it no keyword. -/
theorem passes_in_word (hparted : p.spread.Parted) {before : Option Char}
    (hbefore : ¬ NoWordBefore before) (after : List Char) :
    Passes importAt before (p.spread.code ++ [';']) after := by
  have hrest : ∀ last, Passes importAt last
      (Spread.code (p.clause ++ (.path path, p.closing) :: p.tail)) ([';'] ++ after) :=
    importAt_ledBy.passes_spread (List.IsChain.tail hparted)
      (fun part hpart => (foreign_of_mem_import (p.told hpart)).1) (noWord_semicolon after)
  rw [spread, Spread.code_cons]
  exact Passes.append ((importAt_ledBy.passes_glued hbefore _).append
    ((importAt_ledBy.passes_blanks (gap_code_blank _) _ _).append (hrest _)))
    (importAt_ledBy.passes_semicolon _ _)

theorem found (hparted : p.spread.Parted) {before : Option Char} (hbefore : NoWordBefore before)
    (after : List Char) :
    findAll importAt 0 before (p.spread.code ++ [';'] ++ after) =
      path.path :: findAll importAt 0 (lastOr before (p.spread.code ++ [';'])) after := by
  have hmatch : importAt before (p.pieces.text ++
      (p.closing.code ++ p.tail.code ++ [';'] ++ after)) =
        some ⟨path.path, p.pieces.text.length⟩ :=
    importAt_eq_some_iff.mpr ⟨hbefore, p.pieces, fit_pieces hparted, List.prefix_append _ _, rfl⟩
  have hfound := findAll_match hmatch rfl (by simp [ImportPieces.text_def])
  rw [findAll_of_passes (passes_after hparted _ after), ← lastOr_append] at hfound
  simpa [code_spread] using hfound

end ImportParts

/-- Without a string before the semicolon there is no import. -/
theorem passes_no_string {body : List Char} (hbody : ∀ c ∈ body, endsClause c = false)
    (before : Option Char) (after : List Char) : Passes importAt before body (';' :: after) := by
  induction body generalizing before with
  | nil => trivial
  | cons c rest ih =>
    refine ⟨?_, ih (fun d hd => hbody d (by simp [hd])) _⟩
    rw [Option.eq_none_iff_forall_ne_some]
    intro m hm
    obtain ⟨-, p, hp, ⟨more, heq⟩, -⟩ := importAt_eq_some_iff.mp hm
    have hends : endsClause p.quote = true := endsClause_iff.mpr (Or.inr hp.quote)
    -- The first character that ends the clause would be a quote and is the semicolon.
    have hstring : (p.text ++ more).dropWhile (fun d => !endsClause d) =
        p.quote :: (p.found ++ [p.quote]) ++ more := by
      rw [p.text_eq, List.append_assoc]
      exact dropWhile_of_stop (fun d hd => by simp [hp.lead_inside d hd]) (by simpa using hends)
    have hsemicolon : (c :: rest ++ ';' :: after).dropWhile (fun d => !endsClause d) =
        ';' :: after :=
      dropWhile_of_stop (fun d hd => by simp [hbody d hd]) (by simp [endsClause])
    have hquote := hp.quote
    rw [heq, ← List.cons_append, hsemicolon] at hstring
    rw [← (List.cons.inj hstring).1] at hquote
    exact absurd hquote (by decide)

/-- A directive is read for what it imports. -/
theorem reads_imported (d : Directive) {parts : Spread} (told : parts.map (·.1) = d.lexemes)
    (parted : parts.Parted) (before : Option Char) (after : List Char) :
    Reads importAt before (parts.code ++ [';']) after d.imported? := by
  have hpragma : (∀ lexeme ∈ d.lexemes, ∀ p, lexeme ≠ .path p) → d.imported? = none →
      Reads importAt before (parts.code ++ [';']) after d.imported? := by
    intro hno hnone
    have hinside := Spread.code_inside fun part hpart =>
      hno part.1 (told ▸ List.mem_map_of_mem (f := (·.1)) hpart)
    exact reads_of_passes ((passes_no_string hinside before after).append
      (importAt_ledBy.passes_semicolon _ _)) (Or.inr hnone)
  cases d with
  | importing form path =>
    obtain ⟨p, rfl⟩ := ImportParts.exists_of_told told
    by_cases hbefore : NoWordBefore before
    · exact reads_of_found hbefore (ImportParts.found parted hbefore after)
    · exact reads_of_passes (ImportParts.passes_in_word parted hbefore after) (Or.inl hbefore)
  | version first more => exact hpragma (by simp [Directive.lexemes]) rfl
  | otherPragma words => exact hpragma (by simp [Directive.lexemes]) rfl

end SourceNames
