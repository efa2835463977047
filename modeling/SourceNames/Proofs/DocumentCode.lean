-- The text of a document with its comments blanked out. Each item keeps its place and its text,
-- but for the comments in it, and nothing that follows changes that.

import SourceNames.Proofs.Blanking
import SourceNames.Proofs.Documents
import SourceNames.Proofs.Matches

namespace SourceNames

/-! ## Classes of characters -/

theorem isWordChar_of_isBlank {c : Char} (h : isBlank c = true) : isWordChar c = false := by
  have hapart : ∀ blank ∈ blankRanges, ∀ word ∈ wordRanges,
      blank.2 < word.1 ∨ word.2 < blank.1 := by decide +kernel
  simp only [isBlank, isWordChar, inRanges, List.any_eq_true, List.any_eq_false, Bool.and_eq_true,
    decide_eq_true_eq] at h ⊢
  obtain ⟨blank, hblank, hfirst, hlast⟩ := h
  intro word hword hin
  have := hapart blank hblank word hword
  omega

/-- What is known of a character that can stand in an identifier. -/
structure IdentifierFacts (c : Char) : Prop where
  word : isWordChar c = true
  notBlank : isBlank c = false
  inert : isInert c = true
  noClauseEnd : endsClause c = false

theorem identifierFacts {c : Char} (h : isIdentifierChar c = true) : IdentifierFacts c := by
  have hascii : c.toNat < 128 := by
    obtain ⟨⟨first, last⟩, hrange, hin⟩ := List.any_eq_true.mp h
    simp only [Bool.and_eq_true, decide_eq_true_eq] at hin
    have hlast : ∀ range ∈ [(0x30, 0x39), (0x41, 0x5a), (0x5f, 0x5f), (0x61, 0x7a)],
        range.2 < 128 := by decide
    exact Nat.lt_of_le_of_lt hin.2 (hlast _ hrange)
  have hall : ∀ n < 128, isIdentifierChar (Char.ofNat n) = true →
      isWordChar (Char.ofNat n) = true ∧ isBlank (Char.ofNat n) = false ∧
        isInert (Char.ofNat n) = true ∧ endsClause (Char.ofNat n) = false := by decide +kernel
  have hc := hall c.toNat hascii
  rw [Char.ofNat_toNat] at hc
  obtain ⟨hword, hblank, hinert, hclause⟩ := hc h
  exact ⟨hword, hblank, hinert, hclause⟩

theorem isInert_of_isBlank {c : Char} (h : isBlank c = true) : isInert c = true := by
  refine isInert_iff.mpr ⟨?_, ?_, ?_⟩ <;> rintro rfl <;> revert h <;> decide

theorem isBlank_blankChar (c : Char) : isBlank (blankChar c) = true := by
  by_cases h : c = '\n'
  · subst h
    decide
  · rw [blankChar, if_neg h]
    decide

/-! ## Texts that are blanked out the same everywhere -/

/-- Whatever comes after a text, this is what it is once comments are blank. -/
def Shows (text code : List Char) : Prop :=
  ∀ rest, blankComments (text ++ rest) = code ++ blankComments rest

theorem Shows.append {front front' back back' : List Char} (hfront : Shows front front')
    (hback : Shows back back') : Shows (front ++ back) (front' ++ back') := by
  intro rest
  rw [List.append_assoc, hfront, hback, List.append_assoc]

theorem shows_flatMap {α : Type} {text code : α → List Char} (h : ∀ a, Shows (text a) (code a))
    (items : List α) : Shows (items.flatMap text) (items.flatMap code) := by
  induction items with
  | nil => exact fun rest => rfl
  | cons item more ih =>
    rw [List.flatMap_cons, List.flatMap_cons]
    exact (h item).append ih

theorem shows_of_begins {text : List Char} {token : Token}
    (h : ∀ rest, Begins (text ++ rest) token rest) : Shows text token.blanked := by
  intro rest
  exact blankComments_of_begins (h rest)

theorem shows_inert {text : List Char} (h : ∀ c ∈ text, isInert c = true) : Shows text text := by
  induction text with
  | nil => exact fun rest => rfl
  | cons c more ih =>
    rw [List.forall_mem_cons] at h
    have hc : Shows [c] (Token.plain c).blanked := shows_of_begins fun rest => .inert rest h.1
    exact hc.append (ih h.2)

theorem shows_literal {quote : Char} {body : List Char} (hquote : isQuote quote = true)
    (h : LiteralRest quote body) : Shows (quote :: body) (quote :: body) := by
  have hliteral : Shows (quote :: body) (Token.literal (quote :: body)).blanked :=
    shows_of_begins fun rest => .literal rest hquote h
  exact hliteral

/-! ## Pieces and lexemes -/

/-- A piece with comments blank. -/
def Piece.code : Piece → List Char
  | .blank c _ => [c]
  | .line text _ => ('/' :: '/' :: text).map blankChar ++ ['\n']
  | .block text _ => ('/' :: '*' :: (text ++ ['*', '/'])).map blankChar

def Gap.code (gap : Gap) : List Char := gap.flatMap Piece.code

theorem shows_piece (piece : Piece) : Shows piece.text piece.code := by
  cases piece with
  | blank c hc => exact shows_inert (by simpa [Piece.text] using isInert_of_isBlank hc)
  | line text hline =>
    intro rest
    have hbegins : Begins ('/' :: '/' :: (text ++ '\n' :: rest)) (.comment ('/' :: '/' :: text))
        ('\n' :: rest) := .line hline (by simp)
    have hfeed : blankComments (['\n'] ++ rest) = ['\n'] ++ blankComments rest :=
      shows_inert (List.forall_mem_singleton.mpr (by decide)) rest
    simp only [Piece.text, Piece.code, List.cons_append, List.append_assoc, List.nil_append]
    rw [blankComments_of_begins hbegins]
    simpa [Token.blanked] using hfeed
  | block text hblock =>
    have hcomment : Shows ('/' :: '*' :: (text ++ ['*', '/']))
        (Token.comment ('/' :: '*' :: (text ++ ['*', '/']))).blanked :=
      shows_of_begins fun rest => .block rest hblock
    exact hcomment

theorem piece_code_blank (piece : Piece) : BlankRun piece.code := by
  have hblank : ∀ text : List Char, ∀ c ∈ text.map blankChar, isBlank c = true := by
    intro text c hc
    obtain ⟨d, -, rfl⟩ := List.mem_map.mp hc
    exact isBlank_blankChar d
  cases piece with
  | blank c hc => exact ⟨by simp [Piece.code], by simpa [Piece.code] using hc⟩
  | line text =>
    refine ⟨by simp [Piece.code], fun c hc => ?_⟩
    rcases List.mem_append.mp hc with hc | hc
    · exact hblank _ c hc
    · rw [List.mem_singleton.mp hc]
      decide
  | block text => exact ⟨by simp [Piece.code], hblank _⟩

theorem gap_code_blank (gap : Gap) : ∀ c ∈ gap.code, isBlank c = true := by
  intro c hc
  obtain ⟨piece, -, hmem⟩ := List.mem_flatMap.mp hc
  exact (piece_code_blank piece).blank c hmem

theorem gap_code_ne_nil {gap : Gap} (h : gap ≠ []) : gap.code ≠ [] := by
  cases gap with
  | nil => exact absurd rfl h
  | cons piece more =>
    rw [Gap.code, List.flatMap_cons]
    exact List.append_ne_nil_of_left_ne_nil (piece_code_blank piece).ne_nil _

theorem shows_gap (gap : Gap) : Shows gap.text gap.code :=
  shows_flatMap shows_piece gap

theorem ImportPath.closed (p : ImportPath) : LiteralRest p.quote (p.path ++ [p.quote]) := by
  obtain ⟨quote, path, -, hchars⟩ := p
  induction path with
  | nil => exact .close
  | cons c more ih =>
    rw [List.forall_mem_cons] at hchars
    obtain ⟨⟨hblank, hslash, hquote⟩, hmore⟩ := hchars
    refine .char hslash hquote ?_ (ih hmore)
    rintro rfl
    exact absurd hblank (by decide)

theorem shows_lexeme (lexeme : Lexeme) : Shows lexeme.text lexeme.text := by
  cases lexeme with
  | keyword k => exact shows_inert fun c hc => (identifierFacts (k.chars c hc)).inert
  | name n => exact shows_inert fun c hc => (identifierFacts (n.chars c hc)).inert
  | mark m => exact shows_inert (List.forall_mem_singleton.mpr (by cases m <;> decide))
  | path p => exact shows_literal p.quoted p.closed
  | word w => exact shows_inert fun c hc => (w.chars c hc).1

/-! ## Documents -/

def Spread.code (parts : Spread) : List Char :=
  parts.flatMap fun part => part.1.text ++ part.2.code

/-- An item with comments blank. -/
def Item.code : Item → List Char
  | .piece p => p.code
  | .chunk code _ _ => code
  | .literal quote body _ _ _ => quote :: body
  | .directive _ parts _ _ => parts.code ++ [';']

theorem shows_spread (parts : Spread) : Shows parts.text parts.code := by
  have hpart : ∀ part : Lexeme × Gap,
      Shows (part.1.text ++ part.2.text) (part.1.text ++ part.2.code) :=
    fun part => (shows_lexeme part.1).append (shows_gap part.2)
  exact shows_flatMap hpart parts

theorem shows_item (item : Item) : Shows item.text item.code := by
  cases item with
  | piece p => exact shows_piece p
  | chunk code hinert => exact shows_inert hinert
  | literal quote body hquote hclosed => exact shows_literal hquote hclosed
  | directive d parts =>
    have hsemicolon : Shows [';'] [';'] := shows_inert (List.forall_mem_singleton.mpr (by decide))
    exact (shows_spread parts).append hsemicolon

/-- A document with its comments blanked out, item by item. -/
theorem blankComments_items (items : List Item) :
    blankComments (items.flatMap Item.text) = items.flatMap Item.code := by
  have h := shows_flatMap shows_item items []
  simpa [blankComments, tokens_nil] using h

end SourceNames
