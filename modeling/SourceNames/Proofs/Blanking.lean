-- Blanking comments out moves nothing and uncovers nothing. A quote that no later quote closes
-- is still open when the comments after it are blank, though their backslashes and quotes are
-- gone, so the text is cut as before, with blanks in the place of each comment.

import Mathlib.Data.List.Forall2
import Mathlib.Tactic.SplitIfs
import SourceNames.Proofs.Tokens

namespace SourceNames

/-! ## A reader of one literal -/

/-- How far a reader of a string literal is after its first quote. -/
inductive LiteralState
  | inside
  | escaped
  | closed
  | broken
  deriving DecidableEq

namespace LiteralState

/-- Reads one character of the literal. -/
def next (quote : Char) : LiteralState → Char → LiteralState
  | .inside, c =>
    if c = '\\' then .escaped else if c = quote then .closed
    else if c = '\n' then .broken else .inside
  | .escaped, _ => .inside
  | state, _ => state

/-- Reads a text on. -/
def read (quote : Char) (state : LiteralState) (text : List Char) : LiteralState :=
  text.foldl (next quote) state

variable {quote : Char}

@[simp]
theorem read_nil (state : LiteralState) : read quote state [] = state := rfl

@[simp]
theorem read_cons (state : LiteralState) (c : Char) (rest : List Char) :
    read quote state (c :: rest) = read quote (next quote state c) rest := rfl

theorem read_append (state : LiteralState) (front back : List Char) :
    read quote state (front ++ back) = read quote (read quote state front) back :=
  List.foldl_append

@[simp]
theorem read_closed (text : List Char) : read quote closed text = closed := by
  induction text with
  | nil => rfl
  | cons c rest ih => exact ih

@[simp]
theorem read_broken (text : List Char) : read quote broken text = broken := by
  induction text with
  | nil => rfl
  | cons c rest ih => exact ih

theorem read_of_rest {body : List Char} (hquote : quote ≠ '\\') (h : LiteralRest quote body) :
    read quote inside body = closed := by
  induction h with
  | close => simp [next, hquote]
  | escape c _ ih => simpa [next] using ih
  | char hslash hne hline _ ih => simpa [next, hslash, hne, hline] using ih

theorem rest_of_read (text : List Char) :
    (read quote inside text = closed → ∃ body, LiteralRest quote body ∧ body <+: text) ∧
      (read quote escaped text = closed →
        ∃ c body, LiteralRest quote body ∧ c :: body <+: text) := by
  induction text with
  | nil => simp
  | cons c rest ih =>
    constructor
    · intro h
      by_cases hslash : c = '\\'
      · subst hslash
        obtain ⟨d, body, hbody, hstart⟩ := ih.2 (by simpa [next] using h)
        exact ⟨_, .escape d hbody, List.cons_prefix_cons.mpr ⟨rfl, hstart⟩⟩
      by_cases hquote : c = quote
      · subst hquote
        exact ⟨_, .close, List.cons_prefix_cons.mpr ⟨rfl, List.nil_prefix⟩⟩
      by_cases hline : c = '\n'
      · subst hline
        simp [next, hquote] at h
      · obtain ⟨body, hbody, hstart⟩ := ih.1 (by simpa [next, hslash, hquote, hline] using h)
        exact ⟨_, .char hslash hquote hline hbody, List.cons_prefix_cons.mpr ⟨rfl, hstart⟩⟩
    · intro h
      obtain ⟨body, hbody, hstart⟩ := ih.1 (by simpa [next] using h)
      exact ⟨c, body, hbody, List.cons_prefix_cons.mpr ⟨rfl, hstart⟩⟩

/-- A literal ends somewhere in a text just if its reader sees it closed. -/
theorem read_ne_closed_iff (hquote : quote ≠ '\\') {text : List Char} :
    read quote inside text ≠ closed ↔ ∀ body, LiteralRest quote body → ¬ body <+: text := by
  constructor
  · rintro h body hbody ⟨after, rfl⟩
    rw [read_append, read_of_rest hquote hbody, read_closed] at h
    exact h rfl
  · intro h hclosed
    obtain ⟨body, hbody, hstart⟩ := (rest_of_read text).1 hclosed
    exact h body hbody hstart

/-! ## Reading on past a comment -/

theorem read_broken_of_mem {state : LiteralState} {text : List Char}
    (h : read quote state text = broken) : state = broken ∨ '\n' ∈ text := by
  induction text generalizing state with
  | nil => exact Or.inl h
  | cons c rest ih =>
    rcases ih h with hnext | hmem
    · cases state with
      | inside =>
        simp only [next] at hnext
        split_ifs at hnext with hslash hquote hline
        exact Or.inr (by simp [hline])
      | escaped => simp [next] at hnext
      | closed => simp [next] at hnext
      | broken => exact Or.inl rfl
    · exact Or.inr (List.mem_cons_of_mem _ hmem)

/-- No block comment ends with a backslash. -/
theorem read_ne_escaped (state : LiteralState) (inner : List Char) :
    read quote state (inner ++ ['*', '/']) ≠ escaped := by
  have hslash : ∀ state, next quote state '/' ≠ escaped := by
    intro state
    cases state with
    | inside => simp only [next]; split_ifs <;> simp_all
    | escaped => simp [next]
    | closed => simp [next]
    | broken => simp [next]
  rw [show inner ++ ['*', '/'] = (inner ++ ['*']) ++ ['/'] by simp, read_append]
  exact hslash _

theorem read_inside_blanks (hquote : quote ≠ ' ' ∧ quote ≠ '\n') (text : List Char) :
    read quote inside (text.map blankChar) = if '\n' ∈ text then broken else inside := by
  induction text with
  | nil => rfl
  | cons c rest ih =>
    by_cases hline : c = '\n'
    · simp [blankChar, hline, next, hquote.2.symm]
    · simpa [blankChar, hline, Ne.symm hline, next, hquote.1.symm] using ih

/-- A comment starts with a slash, so blanked out it starts with a blank, and a backslash
before it takes no more than that along. -/
theorem read_blanks (hquote : quote ≠ ' ' ∧ quote ≠ '\n') {state : LiteralState}
    (hstate : state = inside ∨ state = escaped) (text : List Char) :
    read quote state (('/' :: text).map blankChar) = if '\n' ∈ text then broken else inside := by
  rw [← read_inside_blanks hquote]
  rcases hstate with rfl | rfl <;> simp [blankChar, next, hquote.1.symm]

end LiteralState

/-! ## Open quotes stay open -/

/-- How a reader of the blanked text can differ from the reader of the text: it has met a line
feed already, or meets it next, the text having a backslash before it that was blanked out. -/
inductive Keeps : (text : List Char) → (told blanked : LiteralState) → Prop
  | same (text : List Char) (state : LiteralState) : Keeps text state state
  | broken (text : List Char) (state : LiteralState) : Keeps text state .broken
  | escaped {text : List Char} : (∀ c ∈ text.head?, c = '\n') → Keeps text .escaped .inside

open LiteralState in
/-- Blanking a comment out does not close a literal that was open. -/
theorem keeps_comment {quote : Char} (hquote : isQuote quote = true)
    {text after comment : List Char} {state : LiteralState}
    (h : Begins text (.comment comment) after) (hopen : read quote state comment ≠ closed) :
    Keeps after (read quote state comment) (read quote state (comment.map blankChar)) := by
  have hne : quote ≠ ' ' ∧ quote ≠ '\n' := by
    rcases isQuote_iff.mp hquote with rfl | rfl <;> decide
  obtain ⟨tail, rfl, hend⟩ : ∃ tail, comment = '/' :: tail ∧
      (read quote state comment = escaped → ∀ c ∈ after.head?, c = '\n') := by
    cases h with
    | line _ hafter => exact ⟨_, rfl, fun _ => hafter⟩
    | @block inner _ hinner =>
      exact ⟨_, rfl, fun hread => absurd hread (read_ne_escaped state ('/' :: '*' :: inner))⟩
  by_cases hstate : state = inside ∨ state = escaped
  · rw [read_blanks hne hstate]
    split_ifs with hline
    · exact .broken _ _
    · cases hread : read quote state ('/' :: tail) with
      | inside => exact .same _ _
      | escaped => exact .escaped (hend hread)
      | closed => exact absurd hread hopen
      | broken =>
        rcases read_broken_of_mem hread with rfl | hmem
        · simp at hstate
        · simp [hline] at hmem
  · cases state with
    | inside => simp at hstate
    | escaped => simp at hstate
    | closed => exact absurd (read_closed _) hopen
    | broken =>
      rw [read_broken, read_broken]
      exact .same _ _

theorem blankComments_of_begins {text after : List Char} {token : Token}
    (h : Begins text token after) :
    blankComments text = token.blanked ++ blankComments after := by
  simp [blankComments, tokens_of_begins h]

theorem text_of_begins {text after : List Char} {token : Token} (h : Begins text token after) :
    text = token.text ++ after := by
  cases h <;> simp [Token.text]

open LiteralState in
theorem keeps_token {quote : Char} (hquote : isQuote quote = true) {text after : List Char}
    {token : Token} {told blanked : LiteralState} (h : Begins text token after)
    (hkeeps : Keeps text told blanked) (hopen : read quote told token.text ≠ closed) :
    Keeps after (read quote told token.text) (read quote blanked token.blanked) := by
  cases hkeeps with
  | same =>
    cases token with
    | literal => exact .same _ _
    | comment => exact keeps_comment hquote h hopen
    | plain => exact .same _ _
  | broken =>
    rw [read_broken]
    exact .broken _ _
  | escaped hhead =>
    -- The text goes on with the line feed that a backslash would have taken along.
    cases h with
    | literal _ hother => exact absurd (hhead _ rfl ▸ hother) (by decide)
    | line => exact absurd (hhead _ rfl) (by decide)
    | block => exact absurd (hhead _ rfl) (by decide)
    | inert =>
      obtain rfl := hhead _ rfl
      have hne : '\n' ≠ quote := by rintro rfl; simp [isQuote] at hquote
      simpa [Token.blanked, Token.text, next, hne] using Keeps.broken _ _
    | openQuote hother => exact absurd (hhead _ rfl ▸ hother) (by decide)
    | slash => exact absurd (hhead _ rfl) (by decide)

open LiteralState in
/-- A literal that nothing closes is not closed once comments are blank. -/
theorem read_blankComments_ne_closed {quote : Char} (hquote : isQuote quote = true)
    {text : List Char} {cut : List Token} (hcut : CutInto text cut) {told blanked : LiteralState}
    (hkeeps : Keeps text told blanked) (hopen : read quote told text ≠ closed) :
    read quote blanked (blankComments text) ≠ closed := by
  induction hcut generalizing told blanked with
  | nil => cases hkeeps <;> simp_all [blankComments, tokens_nil]
  | cons hbegins _ ih =>
    rw [text_of_begins hbegins, read_append] at hopen
    rw [blankComments_of_begins hbegins, read_append]
    refine ih (keeps_token hquote hbegins hkeeps fun hclosed => ?_) hopen
    rw [hclosed, read_closed] at hopen
    exact hopen rfl

/-! ## Nothing new is written -/

/-- A character of the blanked text is that of the text, or a blank in place of one that is
no line feed. -/
def Stands (told shown : Char) : Prop := shown = told ∨ shown = ' ' ∧ told ≠ '\n'

theorem stands_blankChar (c : Char) : Stands c (blankChar c) := by
  by_cases h : c = '\n'
  · exact Or.inl (by simp [blankChar, h])
  · exact Or.inr ⟨by simp [blankChar, h], h⟩

theorem stands_blanked (token : Token) : List.Forall₂ Stands token.text token.blanked := by
  cases token with
  | literal text => exact List.forall₂_same.mpr fun c _ => Or.inl rfl
  | comment text =>
    exact List.forall₂_map_right_iff.mpr (List.forall₂_same.mpr fun c _ => stands_blankChar c)
  | plain c => exact .cons (Or.inl rfl) .nil

/-- Blanking comments out changes a text character by character. -/
theorem stands_blankComments {text : List Char} {cut : List Token} (hcut : CutInto text cut) :
    List.Forall₂ Stands text (blankComments text) := by
  induction hcut with
  | nil => simp [blankComments, tokens_nil]
  | cons hbegins _ ih =>
    rw [blankComments_of_begins hbegins, text_of_begins hbegins]
    exact List.rel_append (stands_blanked _) ih

theorem prefix_of_stands {pattern text shown : List Char} (hpattern : ' ' ∉ pattern)
    (h : List.Forall₂ Stands text shown) (hstart : pattern <+: shown) : pattern <+: text := by
  induction pattern generalizing text shown with
  | nil => exact List.nil_prefix
  | cons c more ih =>
    rw [List.mem_cons, not_or] at hpattern
    cases h with
    | nil => simp at hstart
    | cons hstands hrest =>
      obtain ⟨rfl, hmore⟩ := List.cons_prefix_cons.mp hstart
      rcases hstands with rfl | ⟨rfl, -⟩
      · exact List.cons_prefix_cons.mpr ⟨rfl, ih hpattern.2 hrest hmore⟩
      · simp at hpattern

/-- What is written without blanks in the blanked text is written in the text. -/
theorem infix_of_stands {pattern text shown : List Char} (hpattern : ' ' ∉ pattern)
    (h : List.Forall₂ Stands text shown) (hwithin : pattern <:+: shown) : pattern <:+: text := by
  induction h with
  | nil => exact hwithin
  | cons hstands hrest ih =>
    rcases List.infix_cons_iff.mp hwithin with hstart | hmore
    · exact (prefix_of_stands hpattern (.cons hstands hrest) hstart).isInfix
    · exact List.infix_cons (ih hmore)

/-! ## The blanked text is cut as before -/

/-- A token as the blanked text is cut: a comment is single blanks. -/
def Token.recut : Token → List Token
  | .comment text => text.map fun c => .plain (blankChar c)
  | token => [token]

theorem isInert_blankChar (c : Char) : isInert (blankChar c) = true := by
  by_cases h : c = '\n' <;> simp [blankChar, h, isInert, isQuote]

theorem begins_blankComments {text after : List Char} {token : Token} {cut : List Token}
    (h : Begins text token after) (hcut : CutInto after cut)
    (hcode : ∀ comment, token ≠ .comment comment) :
    Begins (token.text ++ blankComments after) token (blankComments after) := by
  cases h with
  | literal _ hquote hbody => exact .literal _ hquote hbody
  | line => exact absurd rfl (hcode _)
  | block => exact absurd rfl (hcode _)
  | inert _ hc => exact .inert _ hc
  | openQuote hquote hopen =>
    have hslash := ne_backslash_of_isQuote hquote
    refine .openQuote hquote ((LiteralState.read_ne_closed_iff hslash).mp ?_)
    exact read_blankComments_ne_closed hquote hcut (.same _ _)
      ((LiteralState.read_ne_closed_iff hslash).mpr hopen)
  | slash hline hblock =>
    have hstands := stands_blankComments hcut
    refine .slash (fun hhead => ?_) fun more hmore hwithin => ?_
    · obtain ⟨more, hmore⟩ := List.head?_eq_some_iff.mp hhead
      have hshown : ['/'] <+: blankComments after := ⟨more, hmore.symm⟩
      obtain ⟨rest, rfl⟩ := prefix_of_stands (by decide) hstands hshown
      exact hline rfl
    · replace hmore : blankComments after = '*' :: more := hmore
      rw [hmore] at hstands
      cases hstands with
      | cons hstar hrest =>
        rcases hstar with rfl | ⟨hblank, -⟩
        · exact hblock _ rfl (infix_of_stands (by decide) hrest hwithin)
        · simp at hblank

/-- Once comments are blank, a text has the tokens it had, and blanks for each comment. -/
theorem tokens_blankComments {text : List Char} {cut : List Token} (hcut : CutInto text cut) :
    tokens (blankComments text) = cut.flatMap Token.recut := by
  induction hcut with
  | nil => simp [blankComments, tokens_nil]
  | @cons text after token more hbegins hcut ih =>
    rw [blankComments_of_begins hbegins, List.flatMap_cons, ← ih]
    cases token with
    | literal body => exact tokens_of_begins (begins_blankComments hbegins hcut (by simp))
    | comment body =>
      have hinert : ∀ c ∈ body.map blankChar, isInert c = true := by
        intro c hc
        obtain ⟨d, -, rfl⟩ := List.mem_map.mp hc
        exact isInert_blankChar d
      simpa [Token.blanked, Token.recut, Function.comp_def] using
        tokens_inert_append hinert (blankComments after)
    | plain c => exact tokens_of_begins (begins_blankComments hbegins hcut (by simp))

theorem flatMap_text_recut (token : Token) : token.recut.flatMap Token.text = token.blanked := by
  cases token with
  | literal text => simp [Token.recut, Token.blanked, Token.text]
  | comment text =>
    simp only [Token.recut, Token.blanked]
    induction text with
    | nil => rfl
    | cons c rest ih => simp [Token.text, ih]
  | plain c => rfl

theorem length_blanked (token : Token) : token.blanked.length = token.text.length := by
  cases token <;> simp [Token.blanked, Token.text]

theorem literalsFrom_recut (start : Nat) (token : Token) :
    literalsFrom start token.recut = literalsFrom start [token] := by
  cases token with
  | literal text => rfl
  | comment text =>
    simp only [Token.recut]
    induction text generalizing start with
    | nil => rfl
    | cons c rest ih => simpa [literalsFrom, placed, Token.literal?] using ih _
  | plain c => rfl

theorem literalsFrom_flatMap_recut (start : Nat) (cut : List Token) :
    literalsFrom start (cut.flatMap Token.recut) = literalsFrom start cut := by
  induction cut generalizing start with
  | nil => rfl
  | cons token more ih =>
    have happend := literalsFrom_append start [token] more
    rw [List.flatMap_singleton] at happend
    rw [List.flatMap_cons, literalsFrom_append, flatMap_text_recut, length_blanked, ih,
      literalsFrom_recut, ← happend, List.singleton_append]

theorem not_comment_of_mem_recut {token : Token} {cut : List Token}
    (h : token ∈ cut.flatMap Token.recut) (comment : List Char) : token ≠ .comment comment := by
  obtain ⟨told, -, hmem⟩ := List.mem_flatMap.mp h
  rintro rfl
  cases told <;> simp [Token.recut] at hmem

theorem blankComments_of_no_comment {text : List Char}
    (h : ∀ token ∈ tokens text, ∀ comment, token ≠ .comment comment) :
    blankComments text = text := by
  conv => rhs; rw [← flatMap_text_tokens text]
  refine List.flatMap_congr fun token hmem => ?_
  cases token with
  | literal => rfl
  | comment body => exact absurd rfl (h _ hmem body)
  | plain => rfl

/-! ## The law -/

/-- Whether a character of a text, given by its place, belongs to a comment. -/
def InComment (text : List Char) (place : Nat) : Prop :=
  ∃ start comment, (start, Token.comment comment) ∈ placed 0 (tokens text) ∧
    start ≤ place ∧ place < start + comment.length

theorem getElem?_blanked (start : Nat) (cut : List Token) (i : Nat) :
    (cut.flatMap Token.blanked)[i]? = (cut.flatMap Token.text)[i]? ∨
      (cut.flatMap Token.blanked)[i]? = some ' ' ∧
        ∃ first comment, (first, Token.comment comment) ∈ placed start cut ∧
          first ≤ start + i ∧ start + i < first + comment.length := by
  induction cut generalizing start i with
  | nil => exact Or.inl rfl
  | cons token more ih =>
    simp only [List.flatMap_cons]
    by_cases h : i < token.text.length
    · rw [List.getElem?_append_left (by rwa [length_blanked]), List.getElem?_append_left h]
      cases token with
      | literal => exact Or.inl rfl
      | plain => exact Or.inl rfl
      | comment text =>
        have hlt : i < text.length := h
        by_cases hline : text[i] = '\n'
        · exact Or.inl (by simp [Token.blanked, Token.text, blankChar, hlt, hline])
        · refine Or.inr ⟨by simp [Token.blanked, blankChar, hlt, hline], start, text, ?_, ?_⟩
          · simp [placed]
          · omega
    · have hle : token.text.length ≤ i := Nat.le_of_not_lt h
      rw [List.getElem?_append_right (by rwa [length_blanked]), List.getElem?_append_right hle,
        length_blanked]
      rcases ih (start + token.text.length) (i - token.text.length) with hsame | hblank
      · exact Or.inl hsame
      · obtain ⟨hspace, first, comment, hmem, hfirst, hlast⟩ := hblank
        exact Or.inr ⟨hspace, first, comment, List.mem_cons_of_mem _ hmem, by omega, by omega⟩

theorem getElem?_line_feed {text shown : List Char} (h : List.Forall₂ Stands text shown)
    (i : Nat) : shown[i]? = some '\n' ↔ text[i]? = some '\n' := by
  induction h generalizing i with
  | nil => rfl
  | cons hstands _ ih =>
    cases i with
    | zero => rcases hstands with rfl | ⟨rfl, hne⟩ <;> simp_all
    | succ i => simpa using ih i

/-- Comments are blanked out in place: every character stays where it is, line feeds and all
that is in no comment unchanged, and the result, cut by the rules, has no comment and just the
string literals of the text. So blanking out twice is blanking out once. -/
theorem blanking_out_comments_moves_and_uncovers_nothing (source : String) :
    let text := source.toList
    let code := (stripComments source).toList
    code.length = text.length ∧
      (∀ i : Nat, code[i]? = some '\n' ↔ text[i]? = some '\n') ∧
      (∀ i : Nat, code[i]? = text[i]? ∨ code[i]? = some ' ' ∧ InComment text i) ∧
      (∀ shown cut, CutInto shown cut ↔ cut = tokens shown) ∧
      (∀ token ∈ tokens code, ∀ comment, token ≠ .comment comment) ∧
      literalsFrom 0 (tokens code) = literalsFrom 0 (tokens text) ∧
      stripComments (stripComments source) = stripComments source := by
  intro text code
  have hcode : code = blankComments text := String.toList_ofList
  have hcut : CutInto text (tokens text) := cutInto_iff.mpr rfl
  have hstands : List.Forall₂ Stands text code := hcode ▸ stands_blankComments hcut
  have htokens : tokens code = (tokens text).flatMap Token.recut :=
    hcode ▸ tokens_blankComments hcut
  have hnone : ∀ token ∈ tokens code, ∀ comment, token ≠ .comment comment := by
    intro token hmem
    exact not_comment_of_mem_recut (htokens ▸ hmem)
  refine ⟨hstands.length_eq.symm, getElem?_line_feed hstands, fun i => ?_, fun _ _ => cutInto_iff,
    hnone, ?_, ?_⟩
  · have hplace := getElem?_blanked 0 (tokens text) i
    rw [flatMap_text_tokens] at hplace
    simpa [hcode, blankComments, InComment] using hplace
  · rw [htokens, literalsFrom_flatMap_recut]
  · exact String.toList_injective (String.toList_ofList.trans (blankComments_of_no_comment hnone))

end SourceNames
