-- What the two matchers match: a text starts with an import, or with a version pragma, just if
-- it can be taken apart into the pieces that such a directive is written with.

import SourceNames.Proofs.Tokens
import SourceNames.Source.Scan

namespace SourceNames

/-! ## Keywords and blanks -/

/-- No word runs into what comes after the given character. -/
def NoWordBefore (before : Option Char) : Prop := before.any isWordChar = false

/-- A run of at least one blank. -/
structure BlankRun (text : List Char) : Prop where
  ne_nil : text ≠ []
  blank : ∀ c ∈ text, isBlank c = true

theorem afterKeyword?_eq_some_iff {keyword : String} {before : Option Char}
    {text rest : List Char} : afterKeyword? keyword before text = some rest ↔
      NoWordBefore before ∧ text = keyword.toList ++ rest := by
  unfold afterKeyword? NoWordBefore
  cases before.any isWordChar with
  | true => simp
  | false =>
    simp only [Bool.false_eq_true, ↓reduceIte, Option.ite_none_right_eq_some, Option.some.injEq,
      List.isPrefixOf_iff_prefix, true_and]
    rw [← String.length_toList]
    constructor
    · rintro ⟨⟨more, rfl⟩, rfl⟩
      rw [List.drop_left]
    · rintro rfl
      exact ⟨List.prefix_append _ _, List.drop_left⟩

theorem afterBlanks?_eq_some_iff {text rest : List Char} : afterBlanks? text = some rest ↔
    (∀ c ∈ rest.head?, isBlank c = false) ∧ ∃ blanks, BlankRun blanks ∧ text = blanks ++ rest := by
  cases text with
  | nil =>
    simp only [afterBlanks?, reduceCtorEq, false_iff, not_and, not_exists]
    rintro - blanks hblanks heq
    exact hblanks.ne_nil (List.append_eq_nil_iff.mp heq.symm).1
  | cons c more =>
    simp only [afterBlanks?, Option.ite_none_right_eq_some, Option.some.injEq]
    constructor
    · rintro ⟨hc, rfl⟩
      refine ⟨fun d hd => of_head?_dropWhile hd, c :: more.takeWhile isBlank, ⟨by simp, ?_⟩, ?_⟩
      · rw [List.forall_mem_cons]
        exact ⟨hc, fun d hd => of_mem_takeWhile hd⟩
      · simp [List.takeWhile_append_dropWhile]
    · rintro ⟨hrest, blanks, ⟨hne, hblank⟩, heq⟩
      cases blanks with
      | nil => exact absurd rfl hne
      | cons d blanks =>
        obtain ⟨rfl, rfl⟩ := List.cons.inj heq
        rw [List.forall_mem_cons] at hblank
        exact ⟨hblank.1, dropWhile_of_stop hblank.2 hrest⟩

/-- A text cut where a run of characters stops. -/
theorem drop_takeWhile (p : Char → Bool) (text : List Char) :
    text.drop (text.takeWhile p).length = text.dropWhile p := by
  have hsplit := List.takeWhile_append_dropWhile (p := p) (l := text)
  generalize text.takeWhile p = front at hsplit ⊢
  rw [← hsplit, List.drop_left, hsplit]

/-! ## Imports -/

theorem endsClause_iff {c : Char} : endsClause c = true ↔ c = ';' ∨ isQuote c = true := by
  simp [endsClause, isQuote, or_assoc]

/-- A clause is nothing, or ends with the word `from` and blanks. -/
theorem isImportClause_iff {clause : List Char} : isImportClause clause = true ↔
    clause = [] ∨ ∃ front blanks, BlankRun blanks ∧ NoWordBefore front.getLast? ∧
      clause = front ++ "from".toList ++ blanks := by
  have hreverse : ∀ blanks, BlankRun blanks → BlankRun blanks.reverse := fun blanks h =>
    ⟨by simpa using h.ne_nil, fun c hc => h.blank c (List.mem_reverse.mp hc)⟩
  unfold isImportClause
  rw [Bool.or_eq_true, List.isEmpty_iff]
  refine or_congr_right ?_
  constructor
  · intro h
    split at h
    · simp at h
    · rename_i backwards hblanks
      obtain ⟨-, blanks, hrun, heq⟩ := afterBlanks?_eq_some_iff.mp hblanks
      rw [Bool.and_eq_true, List.isPrefixOf_iff_prefix] at h
      obtain ⟨⟨rest, rfl⟩, hword⟩ := h
      refine ⟨rest.reverse, blanks.reverse, hreverse _ hrun, ?_, ?_⟩
      · simpa [NoWordBefore] using hword
      · simpa using congrArg List.reverse heq
  · rintro ⟨front, blanks, hrun, hword, rfl⟩
    have hread : afterBlanks? (front ++ "from".toList ++ blanks).reverse =
        some ("morf".toList ++ front.reverse) := by
      rw [afterBlanks?_eq_some_iff]
      refine ⟨fun c hc => ?_, blanks.reverse, hreverse _ hrun, by simp⟩
      obtain rfl : 'm' = c := by simpa using hc
      decide
    rw [hread]
    simpa [NoWordBefore] using hword

theorem isBlank_of_isQuote {c : Char} (h : isQuote c = true) : isBlank c = false := by
  rcases isQuote_iff.mp h with rfl | rfl <;> decide

theorem endsClause_of_isBlank {c : Char} (h : isBlank c = true) : endsClause c = false := by
  rw [Bool.eq_false_iff, ne_eq, endsClause_iff]
  rintro (rfl | hquote)
  · exact absurd h (by decide)
  · simp [isBlank_of_isQuote hquote] at h

/-- The pieces of an import between its keyword and the quote that closes its string. -/
structure ImportPieces where
  blanks : List Char
  clause : List Char
  quote : Char
  found : List Char

namespace ImportPieces

/-- The import as it is written. -/
def text (p : ImportPieces) : List Char :=
  "import".toList ++ (p.blanks ++ (p.clause ++ p.quote :: (p.found ++ [p.quote])))

/-- What stands before the string. -/
def lead (p : ImportPieces) : List Char :=
  "import".toList ++ (p.blanks ++ p.clause)

theorem text_def (p : ImportPieces) : p.text =
    "import".toList ++ (p.blanks ++ (p.clause ++ p.quote :: (p.found ++ [p.quote]))) := rfl

theorem lead_def (p : ImportPieces) : p.lead = "import".toList ++ (p.blanks ++ p.clause) := rfl

theorem text_eq (p : ImportPieces) : p.text = p.lead ++ p.quote :: (p.found ++ [p.quote]) := by
  simp [text_def, lead_def]

/-- What makes the pieces an import: blanks, all there are, a clause, and a string up to the
next quote of its kind. -/
structure Fit (p : ImportPieces) : Prop where
  blanks : BlankRun p.blanks
  head : ∀ c ∈ p.clause.head?, isBlank c = false
  clause : isImportClause p.clause = true
  inside : ∀ c ∈ p.clause, endsClause c = false
  quote : isQuote p.quote = true
  found : p.quote ∉ p.found

/-- Nothing before the string ends a clause. -/
theorem Fit.lead_inside {p : ImportPieces} (hp : p.Fit) : ∀ c ∈ p.lead, endsClause c = false := by
  intro c hc
  rw [lead_def, List.mem_append, List.mem_append] at hc
  rcases hc with hword | hblank | hclause
  · have hletters : "import".toList.all (fun d => !endsClause d) = true := by decide
    simpa using List.all_eq_true.mp hletters c hword
  · exact endsClause_of_isBlank (hp.blanks.blank c hblank)
  · exact hp.inside c hclause

theorem Fit.lead_no_quotes {p : ImportPieces} (hp : p.Fit) : ∀ c ∈ p.lead, isQuote c = false := by
  intro c hc
  have hends := hp.lead_inside c hc
  rw [Bool.eq_false_iff, ne_eq, endsClause_iff, not_or] at hends
  simpa using hends.2

end ImportPieces

/-- A text cut at the first character that stops a run. -/
theorem eq_of_dropWhile_eq_cons {p : Char → Bool} {text more : List Char} {c : Char}
    (h : text.dropWhile p = c :: more) : text = text.takeWhile p ++ c :: more ∧ p c = false := by
  constructor
  · rw [← h, List.takeWhile_append_dropWhile]
  · have hhead : c ∈ (text.dropWhile p).head? := by rw [h]; rfl
    exact of_head?_dropWhile hhead

theorem importAt_eq_some_iff {before : Option Char} {text : List Char} {m : Match} :
    importAt before text = some m ↔ NoWordBefore before ∧
      ∃ p : ImportPieces, p.Fit ∧ p.text <+: text ∧ m = ⟨p.found, p.text.length⟩ := by
  constructor
  · intro h
    unfold importAt at h
    split at h
    · simp at h
    rename_i rest hrest
    obtain ⟨tail, hkeyword, hblanks⟩ := Option.bind_eq_some_iff.mp hrest
    obtain ⟨hbefore, rfl⟩ := afterKeyword?_eq_some_iff.mp hkeyword
    obtain ⟨hhead, blanks, hrun, rfl⟩ := afterBlanks?_eq_some_iff.mp hblanks
    simp only [drop_takeWhile] at h
    split at h
    · simp at h
    rename_i quote more hquote
    split at h
    · simp at h
    rename_i close after hclose
    simp only [Option.ite_none_right_eq_some, Bool.and_eq_true, bne_iff_ne, Option.some.injEq] at h
    obtain ⟨⟨hne, hclause⟩, rfl⟩ := h
    obtain ⟨hrest, hends⟩ := eq_of_dropWhile_eq_cons hquote
    obtain ⟨hmore, hsame⟩ := eq_of_dropWhile_eq_cons hclose
    obtain rfl : close = quote := by simpa using hsame
    have hinside : ∀ c ∈ rest.takeWhile (fun c => !endsClause c), endsClause c = false :=
      fun c hc => by simpa using of_mem_takeWhile hc
    have hfound : close ∉ more.takeWhile (· != close) := fun hc => by
      simpa using of_mem_takeWhile hc
    generalize rest.takeWhile (fun c => !endsClause c) = clause at *
    generalize more.takeWhile (· != close) = found at *
    subst hrest hmore
    have hisQuote : isQuote close = true :=
      (endsClause_iff.mp (by simpa using hends)).resolve_left hne
    refine ⟨hbefore, ⟨blanks, clause, close, found⟩, ⟨hrun, ?_, hclause, hinside, hisQuote, hfound⟩,
      ⟨after, by simp [ImportPieces.text_def]⟩, ?_⟩
    · intro c hc
      exact hhead c (by cases clause <;> simp_all)
    · simp only [ImportPieces.text_def, List.length_append, List.length_cons, List.length_nil,
        Match.mk.injEq, true_and]
      omega
  · rintro ⟨hbefore, p, hp, ⟨after, rfl⟩, rfl⟩
    have hquote : isBlank p.quote = false := isBlank_of_isQuote hp.quote
    have hends : endsClause p.quote = true := endsClause_iff.mpr (Or.inr hp.quote)
    have hne : p.quote ≠ ';' := by
      rcases isQuote_iff.mp hp.quote with h | h <;> simp [h]
    have hrest : (afterKeyword? "import" before (p.text ++ after)).bind afterBlanks? =
        some (p.clause ++ p.quote :: (p.found ++ p.quote :: after)) := by
      refine Option.bind_eq_some_iff.mpr ⟨_, afterKeyword?_eq_some_iff.mpr ⟨hbefore, ?_⟩,
        afterBlanks?_eq_some_iff.mpr ⟨?_, p.blanks, hp.blanks, rfl⟩⟩
      · simp [ImportPieces.text_def]
      · intro c hc
        cases hclause : p.clause with
        | nil => simp_all
        | cons d more => exact hp.head c (by simp_all)
    have hclause : (p.clause ++ p.quote :: (p.found ++ p.quote :: after)).takeWhile
        (fun c => !endsClause c) = p.clause :=
      takeWhile_of_stop (fun c hc => by simp [hp.inside c hc]) (by simp [hends])
    have hfound : (p.found ++ p.quote :: after).takeWhile (· != p.quote) = p.found :=
      takeWhile_of_stop (fun c hc => by simpa using ne_of_mem_of_not_mem hc hp.found) (by simp)
    unfold importAt
    rw [hrest]
    simp [hclause, hfound, hne, hp.clause]

/-! ## Version pragmas -/

/-- The pieces of a version pragma up to the semicolon that ends it. -/
structure PragmaPieces where
  blanks : List Char
  expression : List Char

namespace PragmaPieces

/-- The version pragma as it is written. -/
def text (p : PragmaPieces) : List Char :=
  "pragma".toList ++ (p.blanks ++ ("solidity".toList ++ (p.expression ++ [';'])))

/-- The version pragma without its semicolon. -/
def body (p : PragmaPieces) : List Char :=
  "pragma".toList ++ (p.blanks ++ ("solidity".toList ++ p.expression))

theorem text_def (p : PragmaPieces) : p.text =
    "pragma".toList ++ (p.blanks ++ ("solidity".toList ++ (p.expression ++ [';']))) := rfl

theorem body_def (p : PragmaPieces) :
    p.body = "pragma".toList ++ (p.blanks ++ ("solidity".toList ++ p.expression)) := rfl

theorem text_eq (p : PragmaPieces) : p.text = p.body ++ [';'] := by
  simp [text_def, body_def]

/-- What makes the pieces a version pragma: blanks, and a blank and something more up to the
next semicolon. -/
structure Fit (p : PragmaPieces) : Prop where
  blanks : BlankRun p.blanks
  head : p.expression.head?.any isBlank = true
  long : 2 ≤ p.expression.length
  inside : ';' ∉ p.expression

end PragmaPieces

theorem pragmaAt_eq_some_iff {before : Option Char} {text : List Char} {m : Match} :
    pragmaAt before text = some m ↔ NoWordBefore before ∧
      ∃ p : PragmaPieces, p.Fit ∧ p.text <+: text ∧
        m = ⟨glue ' ' (words p.expression), p.text.length⟩ := by
  constructor
  · intro h
    unfold pragmaAt at h
    split at h
    · simp at h
    rename_i rest hrest
    obtain ⟨tail, hkeyword, hblanks⟩ := Option.bind_eq_some_iff.mp hrest
    obtain ⟨hbefore, rfl⟩ := afterKeyword?_eq_some_iff.mp hkeyword
    obtain ⟨-, blanks, hrun, rfl⟩ := afterBlanks?_eq_some_iff.mp hblanks
    split at h
    · simp at h
    rename_i rest' hsecond
    obtain ⟨-, rfl⟩ := afterKeyword?_eq_some_iff.mp hsecond
    simp only [drop_takeWhile] at h
    split at h
    · simp at h
    rename_i close after hclose
    simp only [Option.ite_none_right_eq_some, Bool.and_eq_true, decide_eq_true_eq,
      Option.some.injEq] at h
    obtain ⟨⟨hhead, hlong⟩, rfl⟩ := h
    obtain ⟨hrest', hsame⟩ := eq_of_dropWhile_eq_cons hclose
    obtain rfl : close = ';' := by simpa using hsame
    have hinside : ';' ∉ rest'.takeWhile (· != ';') := fun hc => by
      simpa using of_mem_takeWhile hc
    generalize rest'.takeWhile (· != ';') = expression at *
    subst hrest'
    refine ⟨hbefore, ⟨blanks, expression⟩, ⟨hrun, hhead, hlong, hinside⟩,
      ⟨after, by simp [PragmaPieces.text_def]⟩, ?_⟩
    simp only [PragmaPieces.text_def, List.length_append, List.length_cons, List.length_nil,
      Match.mk.injEq, true_and]
    omega
  · rintro ⟨hbefore, p, hp, ⟨after, rfl⟩, rfl⟩
    have hrest : (afterKeyword? "pragma" before (p.text ++ after)).bind afterBlanks? =
        some ("solidity".toList ++ (p.expression ++ ';' :: after)) := by
      refine Option.bind_eq_some_iff.mpr ⟨_, afterKeyword?_eq_some_iff.mpr ⟨hbefore, ?_⟩,
        afterBlanks?_eq_some_iff.mpr ⟨?_, p.blanks, hp.blanks, rfl⟩⟩
      · simp [PragmaPieces.text_def]
      · intro c hc
        obtain rfl : 's' = c := by simpa using hc
        decide
    have hsecond : afterKeyword? "solidity" none
        ("solidity".toList ++ (p.expression ++ ';' :: after)) =
          some (p.expression ++ ';' :: after) :=
      afterKeyword?_eq_some_iff.mpr ⟨rfl, rfl⟩
    have htake : (p.expression ++ ';' :: after).takeWhile (· != ';') = p.expression :=
      takeWhile_of_stop (fun c hc => by simpa using ne_of_mem_of_not_mem hc hp.inside) (by simp)
    unfold pragmaAt
    simp only [hrest, hsecond]
    simp [htake, hp.head, hp.long]

end SourceNames
