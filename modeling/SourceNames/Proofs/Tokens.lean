-- What the tokens of a text are when something known stands at its start. A literal, a closed
-- comment and an inert character are each the first token whatever comes after them, and
-- every token has its place in the text.

import Mathlib.Data.List.Basic
import SourceNames.Source.Token

namespace SourceNames

/-! ## Runs of characters -/

theorem takeWhile_of_stop {p : Char → Bool} {text after : List Char} (h : ∀ c ∈ text, p c = true)
    (hstop : ∀ c ∈ after.head?, p c = false) : (text ++ after).takeWhile p = text := by
  rw [List.takeWhile_append_of_pos h]
  cases after with
  | nil => simp
  | cons c rest => simp [hstop c rfl]

theorem dropWhile_of_stop {p : Char → Bool} {text after : List Char} (h : ∀ c ∈ text, p c = true)
    (hstop : ∀ c ∈ after.head?, p c = false) : (text ++ after).dropWhile p = after := by
  rw [List.dropWhile_append_of_pos h]
  cases after with
  | nil => rfl
  | cons c rest => simp [hstop c rfl]

theorem of_mem_takeWhile {p : Char → Bool} {text : List Char} {c : Char}
    (h : c ∈ text.takeWhile p) : p c = true :=
  List.all_eq_true.mp List.all_takeWhile c h

theorem of_head?_dropWhile {p : Char → Bool} {text : List Char} {c : Char}
    (h : c ∈ (text.dropWhile p).head?) : p c = false := by
  have hnot := List.head?_dropWhile_not p text
  rwa [Option.mem_def.mp h] at hnot

/-! ## Literals -/

/-- The rest of a string literal after its first quote: characters other than a backslash,
the quote and a line feed, and pairs of a backslash and any character, up to the quote. -/
inductive LiteralRest (quote : Char) : List Char → Prop
  | close : LiteralRest quote [quote]
  | escape (c : Char) {body : List Char} :
      LiteralRest quote body → LiteralRest quote ('\\' :: c :: body)
  | char {c : Char} {body : List Char} : c ≠ '\\' → c ≠ quote → c ≠ '\n' →
      LiteralRest quote body → LiteralRest quote (c :: body)

theorem last_of_rest {quote : Char} {body : List Char} (h : LiteralRest quote body) :
    ∃ inner, body = inner ++ [quote] := by
  induction h with
  | close => exact ⟨[], rfl⟩
  | escape c _ ih =>
    obtain ⟨inner, rfl⟩ := ih
    exact ⟨'\\' :: c :: inner, rfl⟩
  | @char c _ _ _ _ _ ih =>
    obtain ⟨inner, rfl⟩ := ih
    exact ⟨c :: inner, rfl⟩

theorem literalBody_escape (quote c : Char) (rest : List Char) :
    literalBody quote ('\\' :: c :: rest) =
      (literalBody quote rest).map fun read => ('\\' :: c :: read.1, read.2) := by
  rw [literalBody]
  cases literalBody quote rest <;> rfl

theorem literalBody_cons (quote : Char) {c : Char} (h : c ≠ '\\') (rest : List Char) :
    literalBody quote (c :: rest) =
      if c = quote then some ([c], rest)
      else if c = '\n' then none
      else (literalBody quote rest).map fun read => (c :: read.1, read.2) := by
  rw [literalBody]
  · cases literalBody quote rest <;> rfl
  · exact fun hc => absurd hc h
  · exact fun _ _ hc => absurd hc h

theorem literalBody_of_reads {quote : Char} (hquote : quote ≠ '\\') {body : List Char}
    (h : LiteralRest quote body) (after : List Char) :
    literalBody quote (body ++ after) = some (body, after) := by
  induction h with
  | close => simp [literalBody_cons quote hquote]
  | escape c _ ih => simp [literalBody_escape, ih]
  | char hslash hne hline _ ih => simp [literalBody_cons quote hslash, hne, hline, ih]

theorem reads_of_literalBody {quote : Char} {text body after : List Char}
    (h : literalBody quote text = some (body, after)) : LiteralRest quote body := by
  fun_induction literalBody quote text generalizing body after with
  | case1 => simp at h
  | case2 => simp at h
  | case3 escaped rest body' after' hb ih =>
    simp only [Option.some.injEq, Prod.mk.injEq] at h
    obtain ⟨rfl, rfl⟩ := h
    exact .escape _ (ih hb)
  | case4 => simp at h
  | case5 rest hne =>
    simp only [Option.some.injEq, Prod.mk.injEq] at h
    obtain ⟨rfl, rfl⟩ := h
    exact .close
  | case6 => simp at h
  | case7 c rest hend hpair hquote hline body' after' hb ih =>
    simp only [Option.some.injEq, Prod.mk.injEq] at h
    obtain ⟨rfl, rfl⟩ := h
    refine .char ?_ hquote hline (ih hb)
    rintro rfl
    cases rest with
    | nil => exact hend rfl rfl
    | cons d more => exact hpair d more rfl rfl
  | case8 => simp at h

/-- A text starts with the rest of a literal just if one is found there. -/
theorem literalBody_eq_some_iff {quote : Char} (hquote : quote ≠ '\\')
    {text body after : List Char} :
    literalBody quote text = some (body, after) ↔ LiteralRest quote body ∧ text = body ++ after := by
  constructor
  · intro h
    exact ⟨reads_of_literalBody h, (literalBody_eq h).symm⟩
  · rintro ⟨h, rfl⟩
    exact literalBody_of_reads hquote h after

/-! ## Block comments -/

theorem blockBody_cons {c : Char} {rest : List Char} (h : ¬ ['*', '/'] <+: c :: rest) :
    blockBody (c :: rest) = (blockBody rest).map fun read => (c :: read.1, read.2) := by
  rw [blockBody]
  · cases blockBody rest <;> rfl
  · rintro more rfl rfl
    exact h ⟨more, rfl⟩

/-- A block comment ends if its end is written somewhere. -/
theorem blockBody_eq_none_iff {text : List Char} :
    blockBody text = none ↔ ¬ ['*', '/'] <:+: text := by
  induction text with
  | nil => simp [blockBody]
  | cons c rest ih =>
    by_cases h : ['*', '/'] <+: c :: rest
    · have hwithin := h.isInfix
      obtain ⟨more, hmore⟩ := h
      rw [← hmore] at hwithin ⊢
      exact iff_of_false (by simp [blockBody]) (not_not_intro hwithin)
    · rw [blockBody_cons h, Option.map_eq_none_iff, ih, List.infix_cons_iff]
      simp [h]

/-- A block comment ends where its end is first written. -/
theorem blockBody_eq_some_iff {text body after : List Char} :
    blockBody text = some (body, after) ↔
      ∃ inner, ¬ ['*', '/'] <:+: inner ∧ body = inner ++ ['*', '/'] ∧ text = body ++ after := by
  induction text generalizing body with
  | nil =>
    constructor
    · simp [blockBody]
    · rintro ⟨inner, -, rfl, h⟩
      simp at h
  | cons c rest ih =>
    by_cases h : ['*', '/'] <+: c :: rest
    · obtain ⟨more, hmore⟩ := h
      rw [← hmore]
      constructor
      · intro hread
        simp only [blockBody, List.cons_append, List.nil_append, Option.some.injEq,
          Prod.mk.injEq] at hread
        obtain ⟨rfl, rfl⟩ := hread
        exact ⟨[], by simp, rfl, rfl⟩
      · rintro ⟨inner, hinner, rfl, htext⟩
        -- The end is written at once, so nothing stands before it.
        cases inner with
        | nil => simpa [blockBody] using htext
        | cons d inner =>
          cases inner with
          | nil => simp at htext
          | cons e inner =>
            simp only [List.cons_append, List.nil_append, List.cons.injEq] at htext
            obtain ⟨rfl, rfl, -⟩ := htext
            exact absurd (List.infix_append [] ['*', '/'] inner) hinner
    · rw [blockBody_cons h, Option.map_eq_some_iff]
      constructor
      · rintro ⟨⟨body', after'⟩, hread, heq⟩
        simp only [Prod.mk.injEq] at heq
        obtain ⟨rfl, rfl⟩ := heq
        obtain ⟨inner, hinner, rfl, rfl⟩ := ih.mp hread
        refine ⟨c :: inner, ?_, rfl, rfl⟩
        rw [List.infix_cons_iff, not_or]
        refine ⟨fun hp => h (hp.trans ?_), hinner⟩
        exact List.cons_prefix_cons.mpr ⟨rfl, by simp [List.append_assoc]⟩
      · rintro ⟨inner, hinner, rfl, htext⟩
        cases inner with
        | nil =>
          rw [htext] at h
          exact absurd (List.prefix_append _ _) h
        | cons d inner =>
          simp only [List.cons_append, List.cons.injEq] at htext
          obtain ⟨rfl, rfl⟩ := htext
          rw [List.infix_cons_iff, not_or] at hinner
          exact ⟨(inner ++ ['*', '/'], after), ih.mpr ⟨inner, hinner.2, rfl, rfl⟩, rfl⟩

/-! ## The rules for a token -/

/-- Whether a character can start a string literal. -/
def isQuote (c : Char) : Bool := c == '"' || c == '\''

/-- Whether a character stands for itself whatever comes after it. -/
def isInert (c : Char) : Bool := !isQuote c && c != '/'

theorem isQuote_iff {c : Char} : isQuote c = true ↔ c = '"' ∨ c = '\'' := by
  simp [isQuote]

theorem isInert_iff {c : Char} : isInert c = true ↔ c ≠ '"' ∧ c ≠ '\'' ∧ c ≠ '/' := by
  simp [isInert, isQuote, and_assoc]

theorem ne_backslash_of_isQuote {quote : Char} (h : isQuote quote = true) : quote ≠ '\\' := by
  rcases isQuote_iff.mp h with rfl | rfl <;> decide

/-- The token that a text begins with, and the text after it: a closed literal in either kind
of quotes, a comment to the end of its line, a comment to the first end of a block, and
otherwise one character. -/
inductive Begins : (text : List Char) → Token → (after : List Char) → Prop
  | literal {quote : Char} {body : List Char} (after : List Char) : isQuote quote = true →
      LiteralRest quote body → Begins (quote :: (body ++ after)) (.literal (quote :: body)) after
  | line {text after : List Char} : '\n' ∉ text → (∀ c ∈ after.head?, c = '\n') →
      Begins ('/' :: '/' :: (text ++ after)) (.comment ('/' :: '/' :: text)) after
  | block {inner : List Char} (after : List Char) : ¬ ['*', '/'] <:+: inner →
      Begins ('/' :: '*' :: (inner ++ ['*', '/'] ++ after))
        (.comment ('/' :: '*' :: (inner ++ ['*', '/']))) after
  | inert {c : Char} (rest : List Char) : isInert c = true → Begins (c :: rest) (.plain c) rest
  | openQuote {c : Char} {rest : List Char} : isQuote c = true →
      (∀ body, LiteralRest c body → ¬ body <+: rest) → Begins (c :: rest) (.plain c) rest
  | slash {rest : List Char} : rest.head? ≠ some '/' →
      (∀ more, rest = '*' :: more → ¬ ['*', '/'] <:+: more) → Begins ('/' :: rest) (.plain '/') rest

/-- The first token is found by the rules. -/
theorem begins_firstToken (c : Char) (rest : List Char) :
    Begins (c :: rest) (firstToken c rest).1 (firstToken c rest).2 := by
  unfold firstToken
  by_cases hquote : isQuote c = true
  · have hslash := ne_backslash_of_isQuote hquote
    rw [if_pos (isQuote_iff.mp hquote)]
    cases h : literalBody c rest with
    | none =>
      refine .openQuote hquote fun body hbody ⟨after, hrest⟩ => ?_
      rw [← hrest, literalBody_of_reads hslash hbody] at h
      simp at h
    | some read =>
      obtain ⟨hbody, rfl⟩ := (literalBody_eq_some_iff hslash).mp h
      exact .literal _ hquote hbody
  · rw [if_neg (mt isQuote_iff.mpr hquote)]
    by_cases hc : c = '/'
    · subst hc
      rw [if_pos rfl]
      split
      · rename_i more
        have hline : Begins
            ('/' :: '/' :: (more.takeWhile (· != '\n') ++ more.dropWhile (· != '\n')))
            (.comment ('/' :: '/' :: more.takeWhile (· != '\n'))) (more.dropWhile (· != '\n')) :=
          .line (fun hmem => by simpa using of_mem_takeWhile hmem)
            (fun c hc => by simpa using of_head?_dropWhile hc)
        rwa [List.takeWhile_append_dropWhile] at hline
      · rename_i more
        cases h : blockBody more with
        | none =>
          refine .slash (by simp) fun text htext => ?_
          obtain rfl := (List.cons.inj htext).2
          exact blockBody_eq_none_iff.mp h
        | some read =>
          obtain ⟨inner, hinner, hbody, hmore⟩ := blockBody_eq_some_iff.mp h
          have hblock := Begins.block read.2 hinner
          rwa [← hbody, ← hmore] at hblock
      · rename_i hline hblock
        refine .slash (fun h => ?_) fun more h => absurd h (hblock more)
        obtain ⟨more, hmore⟩ := List.head?_eq_some_iff.mp h
        exact hline more hmore
    · rw [if_neg hc]
      exact .inert rest (by simp [isInert, hquote, hc])

/-- The rules leave no choice. -/
theorem firstToken_of_begins {c : Char} {rest after : List Char} {token : Token}
    (h : Begins (c :: rest) token after) : firstToken c rest = (token, after) := by
  unfold firstToken
  cases h with
  | literal _ hquote hbody =>
    rw [if_pos (isQuote_iff.mp hquote), literalBody_of_reads (ne_backslash_of_isQuote hquote) hbody]
  | @line text _ htext hafter =>
    have hall : ∀ c ∈ text, (c != '\n') = true := by
      intro c hc
      simpa using ne_of_mem_of_not_mem hc htext
    have hstop : ∀ c ∈ after.head?, (c != '\n') = false := by
      intro c hc
      simpa using hafter c hc
    simp [takeWhile_of_stop hall hstop, dropWhile_of_stop hall hstop]
  | @block inner _ hinner =>
    have hread : blockBody (inner ++ ['*', '/'] ++ after) = some (inner ++ ['*', '/'], after) :=
      blockBody_eq_some_iff.mpr ⟨inner, hinner, rfl, rfl⟩
    rw [if_neg (by decide), if_pos rfl]
    simp only [hread]
  | inert _ hc =>
    obtain ⟨hdouble, hsingle, hslash⟩ := isInert_iff.mp hc
    simp [hdouble, hsingle, hslash]
  | openQuote hquote hopen =>
    rw [if_pos (isQuote_iff.mp hquote)]
    cases h : literalBody c rest with
    | none => rfl
    | some read =>
      obtain ⟨hbody, hrest⟩ := (literalBody_eq_some_iff (ne_backslash_of_isQuote hquote)).mp h
      exact absurd ⟨_, hrest.symm⟩ (hopen _ hbody)
  | slash hline hblock =>
    rw [if_neg (by decide), if_pos rfl]
    split
    · simp at hline
    · rename_i more
      rw [blockBody_eq_none_iff.mpr (hblock more rfl)]
    · rfl

/-! ## The tokens of a text -/

theorem tokens_nil : tokens [] = [] := by
  rw [tokens]

theorem tokens_of_begins {text after : List Char} {token : Token}
    (h : Begins text token after) : tokens text = token :: tokens after := by
  cases text with
  | nil => cases h
  | cons c rest => rw [tokens, firstToken_of_begins h]

/-- A text cut into tokens from left to right by the rules. -/
inductive CutInto : List Char → List Token → Prop
  | nil : CutInto [] []
  | cons {text after : List Char} {token : Token} {more : List Token} :
      Begins text token after → CutInto after more → CutInto text (token :: more)

/-- There is one way to cut a text. -/
theorem cutInto_iff {text : List Char} {cut : List Token} :
    CutInto text cut ↔ cut = tokens text := by
  constructor
  · intro h
    induction h with
    | nil => exact tokens_nil.symm
    | cons hbegins _ ih => rw [tokens_of_begins hbegins, ih]
  · rintro rfl
    fun_induction tokens text with
    | case1 => exact .nil
    | case2 c rest ih => exact .cons (begins_firstToken c rest) ih

/-- All of a text is in its tokens. -/
theorem flatMap_text_tokens (text : List Char) : (tokens text).flatMap Token.text = text := by
  fun_induction tokens text with
  | case1 => rfl
  | case2 c rest ih => rw [List.flatMap_cons, ih, firstToken_eq]

theorem tokens_inert_append {text : List Char} (h : ∀ c ∈ text, isInert c = true)
    (rest : List Char) : tokens (text ++ rest) = text.map .plain ++ tokens rest := by
  induction text with
  | nil => rfl
  | cons c more ih =>
    rw [List.forall_mem_cons] at h
    rw [List.cons_append, tokens_of_begins (.inert _ h.1), ih h.2]
    rfl

/-! ## Places -/

/-- The tokens of a text, each with the number of characters before it. -/
def placed : (start : Nat) → List Token → List (Nat × Token)
  | _, [] => []
  | start, token :: more => (start, token) :: placed (start + token.text.length) more

/-- The text of a string literal. -/
def Token.literal? : Token → Option (List Char)
  | .literal text => some text
  | _ => none

/-- The string literals among tokens, with their places. -/
def literalsFrom (start : Nat) (cut : List Token) : List (Nat × List Char) :=
  (placed start cut).filterMap fun (place, token) => token.literal?.map (place, ·)

theorem placed_append (start : Nat) (front back : List Token) :
    placed start (front ++ back) =
      placed start front ++ placed (start + (front.flatMap Token.text).length) back := by
  induction front generalizing start with
  | nil => simp [placed]
  | cons token more ih => simp [placed, ih, Nat.add_assoc]

/-- A token stands after the text of the tokens before it. -/
theorem mem_placed_iff {start place : Nat} {cut : List Token} {token : Token} :
    (place, token) ∈ placed start cut ↔
      ∃ front back, cut = front ++ token :: back ∧
        place = start + (front.flatMap Token.text).length := by
  induction cut generalizing start with
  | nil => simp [placed]
  | cons first more ih =>
    rw [placed, List.mem_cons, ih]
    constructor
    · rintro (heq | ⟨front, back, rfl, rfl⟩)
      · obtain ⟨rfl, rfl⟩ := Prod.mk.inj heq
        exact ⟨[], more, rfl, rfl⟩
      · exact ⟨first :: front, back, rfl, by simp [Nat.add_assoc]⟩
    · rintro ⟨front, back, heq, rfl⟩
      cases front with
      | nil =>
        obtain ⟨rfl, rfl⟩ := List.cons.inj heq
        exact Or.inl rfl
      | cons second front =>
        obtain ⟨rfl, rfl⟩ := List.cons.inj heq
        exact Or.inr ⟨front, back, rfl, by simp [Nat.add_assoc]⟩

theorem mem_literalsFrom_iff {start place : Nat} {cut : List Token} {literal : List Char} :
    (place, literal) ∈ literalsFrom start cut ↔
      (place, Token.literal literal) ∈ placed start cut := by
  simp only [literalsFrom, List.mem_filterMap, Prod.exists]
  constructor
  · rintro ⟨first, token, hmem, heq⟩
    cases token <;> simp only [Token.literal?, Option.map_some, Option.map_none, Option.some.injEq,
      Prod.mk.injEq, reduceCtorEq] at heq
    obtain ⟨rfl, rfl⟩ := heq
    exact hmem
  · intro h
    exact ⟨place, _, h, rfl⟩

theorem literalsFrom_append (start : Nat) (front back : List Token) :
    literalsFrom start (front ++ back) =
      literalsFrom start front ++ literalsFrom (start + (front.flatMap Token.text).length) back := by
  simp [literalsFrom, placed_append]

end SourceNames
