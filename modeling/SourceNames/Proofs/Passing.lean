-- How a scan goes over text in which it finds nothing, and past what it finds. A directive is
-- found only at its keyword with a blank after it, so text passes that has no such place.

import SourceNames.Proofs.DocumentCode

namespace SourceNames

/-! ## Going over a text -/

/-- The character before what comes after a text. -/
def lastOr (before : Option Char) (text : List Char) : Option Char := text.getLast?.or before

@[simp]
theorem lastOr_nil (before : Option Char) : lastOr before [] = before := rfl

@[simp]
theorem lastOr_cons (before : Option Char) (c : Char) (rest : List Char) :
    lastOr before (c :: rest) = lastOr (some c) rest := by
  cases h : rest.getLast? <;> simp [lastOr, List.getLast?_cons, h]

theorem lastOr_append (before : Option Char) (front back : List Char) :
    lastOr before (front ++ back) = lastOr (lastOr before front) back := by
  induction front generalizing before with
  | nil => rfl
  | cons c more ih => simp [ih]

theorem lastOr_concat (before : Option Char) (front : List Char) (c : Char) :
    lastOr before (front ++ [c]) = some c := by
  simp [lastOr]

variable {matcher : Matcher}

theorem findAll_skip (before : Option Char) (front rest : List Char) :
    findAll matcher front.length before (front ++ rest) =
      findAll matcher 0 (lastOr before front) rest := by
  induction front generalizing before with
  | nil => rfl
  | cons c more ih => simpa [findAll] using ih (some c)

/-- What is matched is found, and the scan goes on after it. -/
theorem findAll_match {before : Option Char} {front rest : List Char} {m : Match}
    (h : matcher before (front ++ rest) = some m) (hlength : m.length = front.length)
    (hne : front ≠ []) :
    findAll matcher 0 before (front ++ rest) =
      m.found :: findAll matcher 0 (lastOr before front) rest := by
  cases front with
  | nil => exact absurd rfl hne
  | cons c more =>
    have hskip : m.length - 1 = more.length := by simp [hlength]
    rw [List.cons_append] at h ⊢
    simp only [findAll, h, hskip, findAll_skip, lastOr_cons]

/-- Nothing is matched anywhere in a text, given what stands before it and after it. -/
def Passes (matcher : Matcher) : (before : Option Char) → (text after : List Char) → Prop
  | _, [], _ => True
  | before, c :: rest, after =>
    matcher before (c :: (rest ++ after)) = none ∧ Passes matcher (some c) rest after

theorem findAll_of_passes {before : Option Char} {text after : List Char}
    (h : Passes matcher before text after) :
    findAll matcher 0 before (text ++ after) = findAll matcher 0 (lastOr before text) after := by
  induction text generalizing before with
  | nil => rfl
  | cons c rest ih =>
    obtain ⟨hnone, hrest⟩ := h
    simp only [List.cons_append, findAll, hnone, lastOr_cons]
    exact ih hrest

theorem Passes.append {before : Option Char} {front back after : List Char}
    (hfront : Passes matcher before front (back ++ after))
    (hback : Passes matcher (lastOr before front) back after) :
    Passes matcher before (front ++ back) after := by
  induction front generalizing before with
  | nil => exact hback
  | cons c rest ih =>
    obtain ⟨hnone, hrest⟩ := hfront
    exact ⟨by simpa using hnone, ih hrest (by simpa using hback)⟩

/-! ## Keywords -/

/-- A matcher that matches nothing but its keyword, with no word before it and a blank after. -/
structure LedBy (matcher : Matcher) (keyword : List Char) : Prop where
  ne_nil : keyword ≠ []
  chars : ∀ c ∈ keyword, isIdentifierChar c = true
  starts : ∀ before text m, matcher before text = some m →
    NoWordBefore before ∧ ∃ c rest, isBlank c = true ∧ text = keyword ++ c :: rest

theorem exists_cons_of_blankRun {blanks : List Char} (h : BlankRun blanks) (rest : List Char) :
    ∃ c more, isBlank c = true ∧ blanks ++ rest = c :: more := by
  obtain ⟨hne, hblank⟩ := h
  cases blanks with
  | nil => exact absurd rfl hne
  | cons c more => exact ⟨c, more ++ rest, hblank c (by simp), rfl⟩

theorem importAt_ledBy : LedBy importAt "import".toList where
  ne_nil := Keyword.importing.ne_nil
  chars := Keyword.importing.chars
  starts := by
    intro before text m h
    obtain ⟨hbefore, p, hp, ⟨after, rfl⟩, -⟩ := importAt_eq_some_iff.mp h
    obtain ⟨c, rest, hc, hrest⟩ := exists_cons_of_blankRun hp.blanks
      (p.clause ++ p.quote :: (p.found ++ [p.quote]) ++ after)
    exact ⟨hbefore, c, rest, hc, by rw [← hrest, ImportPieces.text_def]; simp⟩

theorem pragmaAt_ledBy : LedBy pragmaAt "pragma".toList where
  ne_nil := Keyword.pragma.ne_nil
  chars := Keyword.pragma.chars
  starts := by
    intro before text m h
    obtain ⟨hbefore, p, hp, ⟨after, rfl⟩, -⟩ := pragmaAt_eq_some_iff.mp h
    obtain ⟨c, rest, hc, hrest⟩ := exists_cons_of_blankRun hp.blanks
      ("solidity".toList ++ (p.expression ++ [';']) ++ after)
    exact ⟨hbefore, c, rest, hc, by rw [← hrest, PragmaPieces.text_def]; simp⟩

/-- Whatever the text ends with, what comes after it does not go on with the keyword. -/
def Breaks (keyword after : List Char) : Prop :=
  ∀ front back, keyword = front ++ back → front ≠ [] → back ≠ [] → ¬ back <+: after

theorem breaks_of_head {keyword after : List Char} (h : ∀ c ∈ after.head?, c ∉ keyword) :
    Breaks keyword after := by
  rintro front back rfl - hne ⟨rest, rfl⟩
  cases back with
  | nil => exact hne rfl
  | cons c more => exact h c rfl (by simp)

namespace LedBy

variable {keyword : List Char}

theorem eq_none (h : LedBy matcher keyword) {before : Option Char} {text : List Char}
    (hnot : NoWordBefore before → ∀ c rest, isBlank c = true → text ≠ keyword ++ c :: rest) :
    matcher before text = none := by
  rw [Option.eq_none_iff_forall_ne_some]
  intro m hm
  obtain ⟨hbefore, c, rest, hc, heq⟩ := h.starts before text m hm
  exact hnot hbefore c rest hc heq

/-- No character starts the keyword. -/
theorem passes_of_heads (h : LedBy matcher keyword) {text : List Char}
    (hheads : ∀ c ∈ text, keyword.head? ≠ some c) (before : Option Char) (after : List Char) :
    Passes matcher before text after := by
  induction text generalizing before with
  | nil => trivial
  | cons c rest ih =>
    rw [List.forall_mem_cons] at hheads
    refine ⟨h.eq_none fun _ d more _ heq => hheads.1 ?_, ih hheads.2 _⟩
    cases hkeyword : keyword with
    | nil => exact absurd hkeyword h.ne_nil
    | cons e letters =>
      rw [hkeyword, List.cons_append] at heq
      rw [List.head?_cons, (List.cons.inj heq).1]

/-- No character can stand in a word. -/
theorem passes_outside (h : LedBy matcher keyword) {text : List Char}
    (houtside : ∀ c ∈ text, isWordChar c = false) (before : Option Char) (after : List Char) :
    Passes matcher before text after := by
  refine h.passes_of_heads (fun c hc hhead => ?_) before after
  have hletter := identifierFacts (h.chars c (List.mem_of_mem_head? hhead))
  exact absurd hletter.word (by simp [houtside c hc])

theorem passes_blanks (h : LedBy matcher keyword) {text : List Char}
    (hblank : ∀ c ∈ text, isBlank c = true) (before : Option Char) (after : List Char) :
    Passes matcher before text after :=
  h.passes_outside (fun c hc => isWordChar_of_isBlank (hblank c hc)) before after

/-- A word runs into all of the text. -/
theorem passes_in_word (h : LedBy matcher keyword) {text : List Char}
    (hword : ∀ c ∈ text, isWordChar c = true) {before : Option Char}
    (hbefore : before.any isWordChar = true) (after : List Char) :
    Passes matcher before text after := by
  induction text generalizing before with
  | nil => trivial
  | cons c rest ih =>
    rw [List.forall_mem_cons] at hword
    refine ⟨h.eq_none fun hno => ?_, ih hword.2 (by simpa using hword.1)⟩
    rw [NoWordBefore, hbefore] at hno
    exact absurd hno (by decide)

/-- The keyword itself, where it is not matched. -/
theorem passes_keyword (h : LedBy matcher keyword) {before : Option Char} {after : List Char}
    (hnone : matcher before (keyword ++ after) = none) : Passes matcher before keyword after := by
  cases hkeyword : keyword with
  | nil => trivial
  | cons c letters =>
    have hword : ∀ d ∈ c :: letters, isWordChar d = true := fun d hd =>
      (identifierFacts (h.chars d (hkeyword ▸ hd))).word
    rw [List.forall_mem_cons] at hword
    exact ⟨by rw [← hnone, hkeyword, List.cons_append],
      h.passes_in_word hword.2 (by simpa using hword.1) after⟩

/-- The keyword after a word that runs into it. -/
theorem passes_glued (h : LedBy matcher keyword) {before : Option Char}
    (hbefore : ¬ NoWordBefore before) (after : List Char) : Passes matcher before keyword after :=
  h.passes_keyword (h.eq_none fun hno => absurd hno hbefore)

/-- An identifier other than the keyword. -/
theorem passes_identifier (h : LedBy matcher keyword) {text after : List Char}
    (hchars : ∀ c ∈ text, isIdentifierChar c = true) (hne : text ≠ keyword)
    (hafter : ∀ c ∈ after.head?, isIdentifierChar c = false) (before : Option Char) :
    Passes matcher before text after := by
  cases text with
  | nil => trivial
  | cons c rest =>
    have hword := fun d hd => (identifierFacts (hchars d hd)).word
    rw [List.forall_mem_cons] at hword
    refine ⟨h.eq_none fun _ d more hd heq => hne ?_, h.passes_in_word hword.2 ?_ after⟩
    · -- Both the identifier and the keyword are all that can stand in one from here on.
      have hblank : isIdentifierChar d = false := by
        cases hid : isIdentifierChar d with
        | false => rfl
        | true => simp [(identifierFacts hid).notBlank] at hd
      have htake := congrArg (List.takeWhile isIdentifierChar) heq
      rw [← List.cons_append, takeWhile_of_stop hchars hafter,
        takeWhile_of_stop h.chars (by simpa using hblank)] at htake
      exact htake
    · simpa using hword.1

/-- A text in which the keyword is not written. -/
theorem passes_free (h : LedBy matcher keyword) {text after : List Char}
    (hfree : ¬ keyword <:+: text) (hafter : Breaks keyword after) (before : Option Char) :
    Passes matcher before text after := by
  induction text generalizing before with
  | nil => trivial
  | cons c rest ih =>
    refine ⟨h.eq_none fun _ d more _ heq => ?_,
      ih (fun hrest => hfree (List.infix_cons hrest)) _⟩
    rw [← List.cons_append] at heq
    rcases List.append_eq_append_iff.mp heq with ⟨back, hkeyword, hback⟩ | ⟨back, htext, -⟩
    · cases back with
      | nil => exact hfree ⟨[], [], by simp [hkeyword]⟩
      | cons e back =>
        exact hafter _ _ hkeyword (by simp) (by simp) ⟨d :: more, hback.symm⟩
    · exact hfree ⟨[], back, by simp [htext]⟩

/-- A text without blanks, up to a character that is neither a blank nor in the keyword. -/
theorem passes_solid (h : LedBy matcher keyword) {text after : List Char} {stop : Char}
    (hsolid : ∀ c ∈ text, isBlank c = false) (hblank : isBlank stop = false)
    (hstop : stop ∉ keyword) (before : Option Char) :
    Passes matcher before text (stop :: after) := by
  induction text generalizing before with
  | nil => trivial
  | cons c rest ih =>
    refine ⟨h.eq_none fun _ d more hd heq => ?_, ih (fun e he => hsolid e (by simp [he])) _⟩
    rw [← List.cons_append] at heq
    rcases List.append_eq_append_iff.mp heq with ⟨back, hkeyword, hback⟩ | ⟨back, htext, hback⟩
    · cases back with
      | nil =>
        obtain ⟨rfl, -⟩ := List.cons.inj hback
        simp [hd] at hblank
      | cons e back =>
        obtain ⟨rfl, -⟩ := List.cons.inj hback
        exact hstop (by simp [hkeyword])
    · cases back with
      | nil =>
        obtain ⟨rfl, -⟩ := List.cons.inj hback
        simp [hd] at hblank
      | cons e back =>
        obtain ⟨rfl, -⟩ := List.cons.inj hback
        have := hsolid d (by rw [htext]; simp)
        simp [hd] at this

end LedBy

end SourceNames
