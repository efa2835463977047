-- Which reported imports are string literals of the text. Keywords are never taken from a
-- comment, but they may stand in a literal, and a string that is reported is a whole literal
-- just if its keyword does not and it reads as the inside of one.

import Mathlib.Data.List.Induction
import SourceNames.Proofs.Blanking
import SourceNames.Proofs.Matches

namespace SourceNames

/-! ## Where something is found -/

/-- What a matcher finds, as `findAll` does, each with the number of characters before it. -/
def sightings (matcher : Matcher) : (skip place : Nat) → (before : Option Char) → List Char →
    List (Nat × Match)
  | _, _, _, [] => []
  | skip + 1, place, _, c :: rest => sightings matcher skip (place + 1) (some c) rest
  | 0, place, before, c :: rest =>
    match matcher before (c :: rest) with
    | some m => (place, m) :: sightings matcher (m.length - 1) (place + 1) (some c) rest
    | none => sightings matcher 0 (place + 1) (some c) rest

theorem found_sightings (matcher : Matcher) (skip place : Nat) (before : Option Char)
    (text : List Char) :
    (sightings matcher skip place before text).map (·.2.found) =
      findAll matcher skip before text := by
  induction text generalizing skip place before with
  | nil => rfl
  | cons c rest ih =>
    cases skip with
    | succ skip => exact ih skip _ _
    | zero =>
      simp only [sightings, findAll]
      cases matcher before (c :: rest) with
      | none => exact ih 0 _ _
      | some m => simp [ih]

/-- What is found somewhere is matched there. -/
theorem matched_of_mem_sightings {matcher : Matcher} {skip start place : Nat}
    {before : Option Char} {text : List Char} {m : Match}
    (h : (place, m) ∈ sightings matcher skip start before text) :
    ∃ front back last, text = front ++ back ∧ place = start + front.length ∧
      matcher last back = some m := by
  induction text generalizing skip start before with
  | nil => simp [sightings] at h
  | cons c rest ih =>
    have hlater : ∀ skip, (place, m) ∈ sightings matcher skip (start + 1) (some c) rest →
        ∃ front back last, c :: rest = front ++ back ∧ place = start + front.length ∧
          matcher last back = some m := by
      intro skip hmem
      obtain ⟨front, back, last, rfl, rfl, hmatch⟩ := ih hmem
      exact ⟨c :: front, back, last, rfl, by simp [Nat.add_assoc, Nat.add_comm 1], hmatch⟩
    cases skip with
    | succ skip => exact hlater skip h
    | zero =>
      simp only [sightings] at h
      cases hmatch : matcher before (c :: rest) with
      | none => exact hlater 0 (by simpa [hmatch] using h)
      | some found =>
        rw [hmatch] at h
        rcases List.mem_cons.mp h with heq | hmem
        · obtain ⟨rfl, rfl⟩ := Prod.mk.inj heq
          exact ⟨[], c :: rest, before, rfl, rfl, hmatch⟩
        · exact hlater _ hmem

/-! ## Tokens around a place -/

/-- No token is a comment. -/
def NoComment (cut : List Token) : Prop :=
  ∀ token ∈ cut, ∀ comment, token ≠ .comment comment

/-- A literal among the tokens starts with a quote and goes on to its close. -/
theorem rest_of_mem_cut {text : List Char} {cut : List Token} (hcut : CutInto text cut)
    {literal : List Char} (h : .literal literal ∈ cut) :
    ∃ quote body, isQuote quote = true ∧ literal = quote :: body ∧ LiteralRest quote body := by
  induction hcut with
  | nil => simp at h
  | cons hbegins _ ih =>
    rcases List.mem_cons.mp h with rfl | hmem
    · cases hbegins with
      | literal _ hquote hbody => exact ⟨_, _, hquote, rfl, hbody⟩
    · exact ih hmem

theorem plain_of_begins {c : Char} {rest after : List Char} {token : Token}
    (h : Begins (c :: rest) token after) (hquote : isQuote c = false)
    (hcode : ∀ comment, token ≠ .comment comment) : token = .plain c ∧ after = rest := by
  cases h with
  | literal _ hc => simp [hc] at hquote
  | line => exact absurd rfl (hcode _)
  | block => exact absurd rfl (hcode _)
  | inert => exact ⟨rfl, rfl⟩
  | openQuote => exact ⟨rfl, rfl⟩
  | slash => exact ⟨rfl, rfl⟩

/-- From a place between tokens, text without quotes is cut into its characters. -/
theorem cut_of_no_quotes {lead rest : List Char} {cut : List Token}
    (hcut : CutInto (lead ++ rest) cut) (hlead : ∀ c ∈ lead, isQuote c = false)
    (hcode : NoComment cut) :
    ∃ later, cut = lead.map .plain ++ later ∧ CutInto rest later := by
  induction lead generalizing cut with
  | nil => exact ⟨cut, rfl, hcut⟩
  | cons c more ih =>
    rw [List.forall_mem_cons] at hlead
    cases hcut with
    | cons hbegins hrest =>
      obtain ⟨hhere, hmore⟩ := List.forall_mem_cons.mp hcode
      obtain ⟨rfl, rfl⟩ := plain_of_begins hbegins hlead.1 hhere
      obtain ⟨later, rfl, hlater⟩ := ih hrest hlead.2 hmore
      exact ⟨later, rfl, hlater⟩

/-- Up to a place between tokens, text without quotes is cut into its characters. -/
theorem cut_back_of_no_quotes {front lead : List Char} {cut : List Token}
    (htext : cut.flatMap Token.text = front ++ lead) (hlead : ∀ c ∈ lead, isQuote c = false)
    (hcode : NoComment cut)
    (hends : ∀ literal, .literal literal ∈ cut →
      ∃ inner quote, isQuote quote = true ∧ literal = inner ++ [quote]) :
    ∃ earlier, cut = earlier ++ lead.map .plain ∧ earlier.flatMap Token.text = front := by
  induction lead using List.reverseRecOn generalizing cut with
  | nil => exact ⟨cut, by simp, by simpa using htext⟩
  | append_singleton lead c ih =>
    rcases List.eq_nil_or_concat' cut with rfl | ⟨init, token, rfl⟩
    · simp at htext
    have hc : isQuote c = false := hlead c (by simp)
    rw [List.flatMap_append, List.flatMap_singleton, ← List.append_assoc] at htext
    cases token with
    | literal literal =>
      obtain ⟨inner, quote, hquote, rfl⟩ := hends literal (by simp)
      rw [Token.text, ← List.append_assoc] at htext
      obtain ⟨-, rfl⟩ := List.append_singleton_inj.mp htext
      simp [hquote] at hc
    | comment comment => exact absurd rfl (hcode (.comment comment) (by simp) comment)
    | plain d =>
      obtain ⟨hinit, rfl⟩ := List.append_singleton_inj.mp htext
      obtain ⟨earlier, rfl, hearlier⟩ := ih hinit (fun d hd => hlead d (by simp [hd]))
        (fun token hmem => hcode token (by simp [hmem]))
        (fun literal hmem => hends literal (by simp [hmem]))
      exact ⟨earlier, by simp, hearlier⟩

/-- A place inside no literal is a place between tokens. -/
theorem cut_at_place {front back : List Char} {cut : List Token} {start : Nat}
    (hcut : CutInto (front ++ back) cut) (hcode : NoComment cut)
    (hout : ∀ place literal, (place, literal) ∈ literalsFrom start cut →
      place + literal.length ≤ start + front.length ∨ start + front.length ≤ place) :
    ∃ earlier later, cut = earlier ++ later ∧ earlier.flatMap Token.text = front ∧
      CutInto back later := by
  induction cut generalizing front start with
  | nil =>
    cases front with
    | nil => exact ⟨[], [], rfl, rfl, hcut⟩
    | cons c more => cases hcut
  | cons token more ih =>
    cases front with
    | nil => exact ⟨[], token :: more, rfl, rfl, hcut⟩
    | cons c front =>
      cases hcut with
      | cons hbegins hrest =>
        have htext := text_of_begins hbegins
        obtain ⟨hhere, hmore⟩ := List.forall_mem_cons.mp hcode
        have hle : token.text.length ≤ (c :: front).length := by
          cases token with
          | literal literal =>
            have := hout start literal (mem_literalsFrom_iff.mpr (by simp [placed]))
            simp only [List.length_cons, Token.text] at this ⊢
            omega
          | comment comment => exact absurd rfl (hhere comment)
          | plain d => simp [Token.text]
        obtain ⟨front', hfront⟩ := List.prefix_of_prefix_length_le
          (htext ▸ List.prefix_append _ _) (List.prefix_append _ back) hle
        rw [← hfront, List.append_assoc] at htext
        obtain rfl := List.append_cancel_left htext
        have hlaterOut : ∀ place literal,
            (place, literal) ∈ literalsFrom (start + token.text.length) more →
            place + literal.length ≤ start + token.text.length + front'.length ∨
              start + token.text.length + front'.length ≤ place := by
          intro place literal hmem
          have := hout place literal (mem_literalsFrom_iff.mpr
            (List.mem_cons_of_mem _ (mem_literalsFrom_iff.mp hmem)))
          rw [← hfront, List.length_append] at this
          omega
        obtain ⟨earlier, later, rfl, rfl, hlater⟩ := ih hrest hmore hlaterOut
        exact ⟨token :: earlier, later, rfl, hfront, hlater⟩

/-! ## The law -/

/-- Whether a character of a text, given by its place, belongs to a string literal. -/
def InLiteral (text : List Char) (place : Nat) : Prop :=
  ∃ start literal, (start, literal) ∈ literalsFrom 0 (tokens text) ∧
    start ≤ place ∧ place < start + literal.length

/-- Whether the string of an import is all that one string literal of the text has between
its quotes, the literal that ends where the import does. -/
def IsWholeLiteral (text : List Char) (place : Nat) (m : Match) : Prop :=
  ∃! literal : Nat × List Char, literal ∈ literalsFrom 0 (tokens text) ∧
    literal.1 + literal.2.length = place + m.length ∧
    ∃ quote, literal.2 = quote :: (m.found ++ [quote])

/-- No letter of a keyword comes from a comment. -/
theorem not_inComment_of_keyword {text front keyword after : List Char}
    (hspace : ' ' ∉ keyword) (hline : '\n' ∉ keyword)
    (hcode : blankComments text = front ++ (keyword ++ after)) (i : Nat) (hi : i < keyword.length) :
    ¬ InComment text (front.length + i) := by
  rintro ⟨start, comment, hmem, hfirst, hlast⟩
  obtain ⟨earlier, later, hcut, rfl⟩ := mem_placed_iff.mp hmem
  have hlength : (earlier.flatMap Token.blanked).length = (earlier.flatMap Token.text).length := by
    simp [List.length_flatMap, length_blanked]
  have hletter : (blankComments text)[front.length + i]? = some keyword[i] := by
    rw [hcode, List.getElem?_append_right (by omega), List.getElem?_append_left (by omega)]
    simp [hi]
  obtain ⟨c, hc⟩ : ∃ c, (blankComments text)[front.length + i]? = some (blankChar c) := by
    simp only [blankComments, hcut, List.flatMap_append, List.flatMap_cons, Token.blanked]
    rw [List.getElem?_append_right (by omega), List.getElem?_append_left
      (by rw [List.length_map]; omega)]
    exact ⟨_, by rw [List.getElem?_map, List.getElem?_eq_getElem (by omega)]; rfl⟩
  have hblank : keyword[i] = blankChar c := Option.some.inj (hletter.symm.trans hc)
  have hmem : blankChar c ∈ keyword := hblank ▸ List.getElem_mem hi
  by_cases h : c = '\n' <;> simp_all [blankChar]

theorem keyword_of_code {text front keyword after : List Char} (hkeyword : ' ' ∉ keyword)
    (hcode : blankComments text = front ++ (keyword ++ after)) :
    keyword <+: text.drop front.length := by
  have hstands := stands_blankComments (cutInto_iff.mpr (rfl : tokens text = tokens text))
  refine prefix_of_stands hkeyword (List.forall₂_drop front.length hstands) ?_
  rw [hcode, List.drop_left]
  exact List.prefix_append _ _

/-- The literals of a text are those of its blanked text, where they are found among single
characters. -/
theorem cut_blankComments (text : List Char) :
    ∃ cut, CutInto (blankComments text) cut ∧ NoComment cut ∧
      literalsFrom 0 (tokens text) = literalsFrom 0 cut := by
  refine ⟨(tokens text).flatMap Token.recut, ?_, ?_, (literalsFrom_flatMap_recut 0 _).symm⟩
  · exact cutInto_iff.mpr (tokens_blankComments (cutInto_iff.mpr rfl)).symm
  · exact fun token hmem => not_comment_of_mem_recut hmem

theorem text_of_cutInto {text : List Char} {cut : List Token} (hcut : CutInto text cut) :
    cut.flatMap Token.text = text := by
  rw [cutInto_iff.mp hcut, flatMap_text_tokens]

theorem bounds_of_mem_literalsFrom {start place : Nat} {cut : List Token} {literal : List Char}
    (h : (place, literal) ∈ literalsFrom start cut) :
    start ≤ place ∧ place + literal.length ≤ start + (cut.flatMap Token.text).length := by
  obtain ⟨earlier, later, rfl, rfl⟩ := mem_placed_iff.mp (mem_literalsFrom_iff.mp h)
  simp only [List.flatMap_append, List.flatMap_cons, List.length_append, Token.text]
  omega

theorem literalsFrom_plain (start : Nat) (text : List Char) :
    literalsFrom start (text.map .plain) = [] := by
  rw [List.eq_nil_iff_forall_not_mem]
  rintro ⟨place, literal⟩ h
  obtain ⟨earlier, later, hsplit, -⟩ := mem_placed_iff.mp (mem_literalsFrom_iff.mp h)
  have hmem : Token.literal literal ∈ text.map Token.plain := by simp [hsplit]
  simp at hmem

/-- Where a literal of a certain length stands, the text says which literal it is. -/
theorem literal_of_split {front literal after : List Char} {cut earlier later : List Token}
    {other : List Char} (hcut : CutInto (front ++ (literal ++ after)) cut)
    (hsplit : cut = earlier ++ .literal other :: later)
    (hplace : (earlier.flatMap Token.text).length = front.length)
    (hlength : other.length = literal.length) :
    earlier.flatMap Token.text = front ∧ other = literal := by
  have htext := text_of_cutInto hcut
  rw [hsplit, List.flatMap_append, List.flatMap_cons] at htext
  obtain ⟨hfront, hrest⟩ := List.append_inj htext hplace
  exact ⟨hfront, (List.append_inj hrest hlength).1⟩

/-- If the string of an import is a literal, its keyword is in none, and the string reads as
the inside of a literal. -/
theorem reads_of_isWholeLiteral {text front after : List Char} {p : ImportPieces} (hp : p.Fit)
    (hcode : blankComments text = front ++ (p.text ++ after))
    (hwhole : IsWholeLiteral text front.length ⟨p.found, p.text.length⟩) :
    (∀ i < 6, ¬ InLiteral text (front.length + i)) ∧
      LiteralRest p.quote (p.found ++ [p.quote]) := by
  obtain ⟨cut, hcut, hnone, hliterals⟩ := cut_blankComments text
  obtain ⟨⟨place, literal⟩, ⟨hmem, hplace, quote, rfl⟩, -⟩ := hwhole
  rw [hliterals, mem_literalsFrom_iff] at hmem
  obtain ⟨earlier, later, rfl, rfl⟩ := mem_placed_iff.mp hmem
  rw [hcode, p.text_eq, List.append_assoc, ← List.append_assoc front] at hcut
  simp only [p.text_eq, List.length_append, List.length_cons, List.length_nil] at hplace
  obtain ⟨htext, hsame⟩ := literal_of_split hcut rfl
    (by rw [List.length_append]; omega) (by simp)
  obtain ⟨rfl, -⟩ := List.cons.inj hsame
  have hearlier : ∀ token ∈ earlier,
      token ∈ earlier ++ .literal (p.quote :: (p.found ++ [p.quote])) :: later :=
    fun token h => List.mem_append_left _ h
  constructor
  · -- A literal before the keyword ends before it, as no quote stands in between.
    obtain ⟨first, rfl, rfl⟩ := cut_back_of_no_quotes htext hp.lead_no_quotes
      (fun token h => hnone token (hearlier token h)) fun literal h => by
        obtain ⟨quote, body, hquote, rfl, hbody⟩ := rest_of_mem_cut hcut (hearlier _ h)
        obtain ⟨inner, rfl⟩ := last_of_rest hbody
        exact ⟨quote :: inner, quote, hquote, rfl⟩
    rintro i hi ⟨start, literal, hliteral, hfirst, hlast⟩
    have hlead : 6 ≤ p.lead.length := by simp [ImportPieces.lead_def]
    rw [hliterals, List.append_assoc, literalsFrom_append, literalsFrom_append,
      literalsFrom_plain, List.nil_append, List.mem_append] at hliteral
    rcases hliteral with hbefore | hafter
    · have := bounds_of_mem_literalsFrom hbefore
      omega
    · have := bounds_of_mem_literalsFrom hafter
      simp only [List.flatMap_map, Token.text, List.flatMap_singleton'] at this
      omega
  · have hmem : Token.literal (p.quote :: (p.found ++ [p.quote])) ∈
        earlier ++ .literal (p.quote :: (p.found ++ [p.quote])) :: later := by simp
    obtain ⟨other, body, -, heq, hbody⟩ := rest_of_mem_cut hcut hmem
    obtain ⟨rfl, rfl⟩ := List.cons.inj heq
    exact hbody

/-- If the keyword of an import is in no literal and its string reads as the inside of a
literal, it is one. -/
theorem isWholeLiteral_of_reads {text front after : List Char} {p : ImportPieces} (hp : p.Fit)
    (hcode : blankComments text = front ++ (p.text ++ after))
    (hout : ¬ InLiteral text front.length) (hreads : LiteralRest p.quote (p.found ++ [p.quote])) :
    IsWholeLiteral text front.length ⟨p.found, p.text.length⟩ := by
  obtain ⟨cut, hcut, hnone, hliterals⟩ := cut_blankComments text
  rw [hcode, p.text_eq, List.append_assoc] at hcut
  have hplaceOut : ∀ place literal, (place, literal) ∈ literalsFrom 0 cut →
      place + literal.length ≤ 0 + front.length ∨ 0 + front.length ≤ place := by
    intro place literal hmem
    by_contra hinside
    exact hout ⟨place, literal, hliterals ▸ hmem, by omega, by omega⟩
  obtain ⟨earlier, rest, rfl, rfl, hrest⟩ := cut_at_place hcut hnone hplaceOut
  obtain ⟨later, rfl, hlater⟩ := cut_of_no_quotes hrest hp.lead_no_quotes
    fun token h => hnone token (List.mem_append_right _ h)
  have hbegins := Begins.literal after hp.quote hreads
  rw [cutInto_iff, List.cons_append, tokens_of_begins hbegins] at hlater
  subst hlater
  refine ⟨((earlier.flatMap Token.text).length + p.lead.length,
    p.quote :: (p.found ++ [p.quote])), ⟨?_, ?_, p.quote, rfl⟩, ?_⟩
  · rw [hliterals, mem_literalsFrom_iff, mem_placed_iff]
    refine ⟨earlier ++ p.lead.map .plain, tokens after, by simp, ?_⟩
    simp [List.flatMap_map, Token.text]
  · simp [p.text_eq, Nat.add_assoc]
  · rintro ⟨place, literal⟩ ⟨hmem, hplace, quote, rfl⟩
    rw [hliterals, mem_literalsFrom_iff] at hmem
    obtain ⟨first, last, hsplit, rfl⟩ := mem_placed_iff.mp hmem
    simp only [p.text_eq, List.length_append, List.length_cons, List.length_nil] at hplace
    rw [← List.append_assoc] at hcut
    obtain ⟨-, hsame⟩ := literal_of_split hcut hsplit
      (by rw [List.length_append]; omega) (by simp)
    rw [hsame]
    congr 1
    omega

/-- A scan reports what is sighted, and never takes a keyword from a comment. What it reports
as imported is a whole string literal just if no letter of the keyword is in a literal and
what is reported reads as the inside of one, up to the quote after it: every line feed has a
backslash that takes it along, and no backslash takes that quote along. -/
theorem a_reported_import_is_a_literal_just_if_it_reads_as_one (source : String) :
    let text := source.toList
    let code := (stripComments source).toList
    let imports := sightings importAt 0 0 none code
    let pragmas := sightings pragmaAt 0 0 none code
    scan source = ⟨imports.map fun found => String.ofList found.2.found,
        pragmas.map fun found => String.ofList found.2.found⟩ ∧
      (∀ place m, (place, m) ∈ imports →
        "import".toList <+: text.drop place ∧ (∀ i < 6, ¬ InComment text (place + i)) ∧
          (IsWholeLiteral text place m ↔ (∀ i < 6, ¬ InLiteral text (place + i)) ∧
            ∃ quote, code[place + m.length - 1]? = some quote ∧
              LiteralRest quote (m.found ++ [quote]))) ∧
      ∀ place m, (place, m) ∈ pragmas →
        "pragma".toList <+: text.drop place ∧ ∀ i < 6, ¬ InComment text (place + i) := by
  intro text code imports pragmas
  have hcode : code = blankComments text := String.toList_ofList
  refine ⟨?_, fun place m hmem => ?_, fun place m hmem => ?_⟩
  · have himports := found_sightings importAt 0 0 none code
    have hpragmas := found_sightings pragmaAt 0 0 none code
    rw [scan, ← hcode, ← himports, ← hpragmas, List.map_map, List.map_map]
    rfl
  · obtain ⟨front, back, last, hsplit, rfl, hmatch⟩ := matched_of_mem_sightings hmem
    obtain ⟨-, p, hp, ⟨after, rfl⟩, rfl⟩ := importAt_eq_some_iff.mp hmatch
    rw [Nat.zero_add]
    have hsplit' : blankComments text = front ++ (p.text ++ after) := hcode ▸ hsplit
    have hkeyword : blankComments text = front ++ ("import".toList ++
        (p.blanks ++ (p.clause ++ p.quote :: (p.found ++ [p.quote])) ++ after)) := by
      rw [hsplit', ImportPieces.text_def, List.append_assoc]
    have hclose : code[front.length + p.text.length - 1]? = some p.quote := by
      have hinit : p.text = (p.lead ++ p.quote :: p.found) ++ [p.quote] := by simp [p.text_eq]
      rw [hsplit, hinit, List.append_assoc _ [p.quote], ← List.append_assoc front,
        List.getElem?_append_right (by simp; omega)]
      simp [Nat.add_assoc]
    refine ⟨keyword_of_code (by decide) hkeyword,
      not_inComment_of_keyword (by decide) (by decide) hkeyword, fun hwhole => ?_, ?_⟩
    · obtain ⟨hout, hreads⟩ := reads_of_isWholeLiteral hp hsplit' hwhole
      exact ⟨hout, p.quote, hclose, hreads⟩
    · rintro ⟨hout, quote, hquote, hreads⟩
      obtain rfl := Option.some.inj (hquote.symm.trans hclose)
      exact isWholeLiteral_of_reads hp hsplit' (hout 0 (by decide)) hreads
  · obtain ⟨front, back, last, hsplit, rfl, hmatch⟩ := matched_of_mem_sightings hmem
    obtain ⟨-, p, -, ⟨after, rfl⟩, rfl⟩ := pragmaAt_eq_some_iff.mp hmatch
    rw [Nat.zero_add]
    have hkeyword : blankComments text = front ++ ("pragma".toList ++
        (p.blanks ++ ("solidity".toList ++ (p.expression ++ [';'])) ++ after)) := by
      rw [← hcode, hsplit, PragmaPieces.text_def, List.append_assoc]
    exact ⟨keyword_of_code (by decide) hkeyword, not_inComment_of_keyword (by decide) (by decide) hkeyword⟩

deriving instance DecidableEq for Match

/-- An import, and a second one that is quoted in a literal after a comment. -/
def quotingSource : String := "import 'a.sol'; /* ' */ string note = \"import 'b.sol';\";"

theorem sightings_quotingSource :
    sightings importAt 0 0 none (stripComments quotingSource).toList =
      [(0, ⟨"a.sol".toList, 14⟩), (39, ⟨"b.sol".toList, 14⟩)] := by
  decide +kernel

theorem literals_quotingSource :
    literalsFrom 0 (tokens quotingSource.toList) =
      [(7, "'a.sol'".toList), (38, "\"import 'b.sol';\"".toList)] := by
  decide +kernel

/-- The first of the two is a literal, as the law says. -/
theorem the_import_outside_quotes_is_a_literal :
    let text := quotingSource.toList
    (0, ⟨"a.sol".toList, 14⟩) ∈ sightings importAt 0 0 none (stripComments quotingSource).toList ∧
      (∀ i < 6, ¬ InComment text (0 + i)) ∧ IsWholeLiteral text 0 ⟨"a.sol".toList, 14⟩ := by
  intro text
  have hmem : (0, ⟨"a.sol".toList, 14⟩) ∈
      sightings importAt 0 0 none (stripComments quotingSource).toList := by
    simp [sightings_quotingSource]
  obtain ⟨-, himports, -⟩ := a_reported_import_is_a_literal_just_if_it_reads_as_one quotingSource
  obtain ⟨-, hcomment, hwhole⟩ := himports 0 _ hmem
  refine ⟨hmem, hcomment, hwhole.mpr ⟨?_, '\'', by decide +kernel, ?_⟩⟩
  · rintro i hi ⟨start, literal, hliteral, hfirst, -⟩
    rw [literals_quotingSource] at hliteral
    simp only [List.mem_cons, Prod.mk.injEq, List.not_mem_nil, or_false] at hliteral
    omega
  · have hbody : literalBody '\'' "a.sol'".toList = some ("a.sol'".toList, []) := by decide +kernel
    exact reads_of_literalBody hbody

/-- What a scan reports is code: each import is a whole string literal, and its keyword, as that
of each version pragma, is in no literal and in no comment. -/
def ReportsOnlyCode (source : String) : Prop :=
  let text := source.toList
  let code := (stripComments source).toList
  (∀ place m, (place, m) ∈ sightings importAt 0 0 none code →
      IsWholeLiteral text place m ∧
        ∀ i < 6, ¬ InLiteral text (place + i) ∧ ¬ InComment text (place + i)) ∧
    ∀ place m, (place, m) ∈ sightings pragmaAt 0 0 none code →
      ∀ i < 6, ¬ InLiteral text (place + i) ∧ ¬ InComment text (place + i)

/-- The second one is reported although it is not code. -/
theorem an_import_quoted_in_a_literal_is_reported : ¬ ReportsOnlyCode quotingSource := by
  intro h
  have hmem : (39, ⟨"b.sol".toList, 14⟩) ∈
      sightings importAt 0 0 none (stripComments quotingSource).toList := by
    simp [sightings_quotingSource]
  refine ((h.1 39 _ hmem).2 0 (by decide)).1 ⟨38, "\"import 'b.sol';\"".toList, ?_, ?_, ?_⟩
  · simp [literals_quotingSource]
  · decide
  · decide

end SourceNames
