-- What a scan finds in a pragma as it is written. The expression of a version pragma comes back
-- word for word with one blank between each two. If a word runs into the pragma, whatever is
-- still found in it is smaller, so that it is never the expression itself.

import SourceNames.Proofs.Directives

namespace SourceNames

/-! ## Words -/

theorem words_cons_blank {c : Char} (h : isBlank c = true) (rest : List Char) :
    words (c :: rest) = words rest := by
  simp [words, cutWhere, cutFirst, h]

theorem words_blanks {blanks : List Char} (h : ∀ c ∈ blanks, isBlank c = true) (rest : List Char) :
    words (blanks ++ rest) = words rest := by
  induction blanks with
  | nil => rfl
  | cons c more ih =>
    rw [List.forall_mem_cons] at h
    rw [List.cons_append, words_cons_blank h.1, ih h.2]

theorem cutFirst_append {separates : Char → Bool} {word : List Char}
    (h : ∀ c ∈ word, separates c = false) (rest : List Char) :
    cutFirst separates (word ++ rest) =
      (word ++ (cutFirst separates rest).1, (cutFirst separates rest).2) := by
  induction word with
  | nil => rfl
  | cons c more ih =>
    rw [List.forall_mem_cons] at h
    simp [cutFirst, h.1, ih h.2]

/-- A word up to a blank, or to the end, is the first word. -/
theorem words_word {word rest : List Char} (hne : word ≠ [])
    (hsolid : ∀ c ∈ word, isBlank c = false) (hrest : ∀ c ∈ rest.head?, isBlank c = true) :
    words (word ++ rest) = word :: words rest := by
  have hfirst : (cutFirst isBlank rest).1 = [] := by
    cases rest with
    | nil => rfl
    | cons c more => simp [cutFirst, hrest c rfl]
  simp [words, cutWhere, cutFirst_append hsolid, hfirst, hne]

/-- A cut loses the characters that separate, and nothing else. -/
theorem flatten_cutWhere (separates : Char → Bool) (text : List Char) :
    (cutWhere separates text).flatten = text.filter (fun c => !separates c) := by
  induction text with
  | nil => rfl
  | cons c rest ih =>
    simp only [cutWhere, cutFirst] at ih ⊢
    cases h : separates c <;> simpa [h] using ih

theorem flatten_words (text : List Char) : (words text).flatten = text.filter (!isBlank ·) := by
  rw [words, List.flatten_filter_ne_nil, flatten_cutWhere]

theorem filter_glue_blank (pieces : List (List Char)) :
    (glue ' ' pieces).filter (!isBlank ·) = pieces.flatten.filter (!isBlank ·) := by
  have hblank : isBlank ' ' = true := by decide
  fun_induction glue ' ' pieces with
  | case1 => rfl
  | case2 piece => simp
  | case3 piece next more ih => simp [ih, hblank]

/-- How many characters of a text are no blanks. -/
def ink (text : List Char) : Nat := text.countP (!isBlank ·)

theorem ink_append (front back : List Char) : ink (front ++ back) = ink front + ink back :=
  List.countP_append

/-- Evening out the blanks of a text changes nothing else. -/
theorem ink_glue_words (text : List Char) : ink (glue ' ' (words text)) = ink text := by
  rw [ink, ink, List.countP_eq_length_filter, List.countP_eq_length_filter, filter_glue_blank,
    flatten_words, List.filter_filter]
  simp

/-! ## Words of a pragma -/

section

variable {ws : List PragmaWord} {parts : Spread}

/-- Words of a pragma are parted by blanks. -/
theorem blank_after_word {w : PragmaWord} {gap : Gap}
    (hparted : Spread.Parted ((.word w, gap) :: parts)) (told : parts.map (·.1) = ws.map .word) :
    ∀ c ∈ (gap.code ++ parts.code).head?, isBlank c = true := by
  intro c hc
  by_cases hgap : gap = []
  · subst hgap
    cases parts with
    | nil => simp [Gap.code] at hc
    | cons part more =>
      obtain ⟨v, vs, -, hv, -⟩ := List.map_eq_cons_iff.mp told.symm
      refine absurd rfl ((List.isChain_cons_cons.mp hparted).1 ?_)
      simp [Lexeme.apart, Lexeme.isWord, ← hv]
  · obtain ⟨d, more, hd, heq⟩ := exists_cons_of_blankRun (Gap.blankRun hgap) parts.code
    obtain rfl : d = c := by simpa [heq] using hc
    exact hd

theorem words_code (hparted : parts.Parted) (told : parts.map (·.1) = ws.map .word) :
    words parts.code = ws.map PragmaWord.text := by
  induction parts generalizing ws with
  | nil =>
    rw [List.map_nil, eq_comm, List.map_eq_nil_iff] at told
    subst told
    rfl
  | cons part more ih =>
    obtain ⟨lexeme, gap⟩ := part
    obtain ⟨w, ws, rfl, rfl, htold⟩ := List.map_eq_cons_iff.mp told.symm
    rw [Spread.code_cons, Lexeme.text, words_word w.ne_nil (fun c hc => (w.chars c hc).2.1)
      (blank_after_word hparted htold.symm), words_blanks (gap_code_blank gap),
      ih hparted.tail htold.symm, List.map_cons]

end

/-! ## Pragmas up to a semicolon -/

theorem PragmaPieces.Fit.body_inside {p : PragmaPieces} (hp : p.Fit) : ';' ∉ p.body := by
  have hblank : ';' ∉ p.blanks := fun h => absurd (hp.blanks.blank _ h) (by decide)
  simp only [PragmaPieces.body_def, List.mem_append, not_or]
  exact ⟨by decide, hblank, by decide, hp.inside⟩

theorem ink_expression_lt (p : PragmaPieces) : ink p.expression < ink p.body := by
  have hkeyword : ink "pragma".toList = 6 := by decide
  simp only [PragmaPieces.body_def, ink_append, hkeyword]
  omega

/-- A text up to a semicolon that stands nowhere else in it is cut off there. -/
theorem cut_at_semicolon {front front' back back' : List Char} (hfront : ';' ∉ front)
    (hfront' : ';' ∉ front') (h : front ++ ';' :: back = front' ++ ';' :: back') :
    front = front' ∧ back = back' := by
  have htake : ∀ {text : List Char} (after : List Char), ';' ∉ text →
      (text ++ ';' :: after).takeWhile (· != ';') = text := fun after hmem =>
    takeWhile_of_stop (fun c hc => by simpa using ne_of_mem_of_not_mem hc hmem) (by simp)
  have hsame : front = front' := by rw [← htake back hfront, h, htake back' hfront']
  subst hsame
  exact ⟨rfl, (List.cons.inj (List.append_cancel_left h)).2⟩

/-- Up to a semicolon at most one version pragma is found, and its expression is smaller than
the text. -/
theorem found_before_semicolon {body : List Char} (hbody : ';' ∉ body) (before : Option Char)
    (after : List Char) :
    ∃ found, findAll pragmaAt 0 before (body ++ ';' :: after) =
        found ++ findAll pragmaAt 0 (some ';') after ∧
      found.length ≤ 1 ∧ ∀ expression ∈ found, ink expression < ink body := by
  induction body generalizing before with
  | nil => exact ⟨[], findAll_of_passes (pragmaAt_ledBy.passes_semicolon before after), by simp⟩
  | cons c rest ih =>
    cases hmatch : pragmaAt before (c :: rest ++ ';' :: after) with
    | none =>
      obtain ⟨found, hfound, hlength, hsmall⟩ := ih (fun h => hbody (by simp [h])) (some c)
      refine ⟨found, ?_, hlength, fun expression hmem => ?_⟩
      · rw [List.cons_append] at hmatch ⊢
        rw [findAll, hmatch, hfound]
      · exact Nat.lt_of_lt_of_le (hsmall expression hmem) 
          (List.sublist_cons_self c rest).countP_le
    | some m =>
      -- The match goes on to the semicolon, so nothing is left for a second one.
      obtain ⟨-, p, hp, ⟨more, heq⟩, rfl⟩ := pragmaAt_eq_some_iff.mp hmatch
      rw [p.text_eq, List.append_assoc] at heq
      obtain ⟨hsame, rfl⟩ := cut_at_semicolon hp.body_inside hbody heq
      refine ⟨[glue ' ' (words p.expression)], ?_, by simp, ?_⟩
      · rw [← hsame] at hmatch ⊢
        have hfull : pragmaAt before (p.body ++ [';'] ++ more) =
            some ⟨glue ' ' (words p.expression), p.text.length⟩ := by simpa using hmatch
        simpa [lastOr] using findAll_match hfull (by simp [p.text_eq]) (by simp)
      · simpa [ink_glue_words, ← hsame] using ink_expression_lt p

/-! ## Pragmas -/

section

variable {opening : Gap} {rest : Spread} {ws : List PragmaWord}

theorem not_path_of_told (told : rest.map (·.1) = ws.map .word) :
    ∀ part ∈ rest, ∀ p, part.1 ≠ .path p := by
  intro part hpart p hp
  have hmem : part.1 ∈ ws.map Lexeme.word := told ▸ List.mem_map_of_mem (f := (·.1)) hpart
  obtain ⟨w, -, hw⟩ := List.mem_map.mp hmem
  simp [hp] at hw

/-- The expression of a version pragma as a matcher takes it. -/
def expressionCode (between : Gap) (rest : Spread) : List Char := between.code ++ rest.code

theorem words_expressionCode (between : Gap) (hparted : rest.Parted)
    (told : rest.map (·.1) = ws.map .word) :
    words (expressionCode between rest) = ws.map PragmaWord.text := by
  rw [expressionCode, words_blanks (gap_code_blank between), words_code hparted told]

theorem semicolon_notMem_expressionCode (between : Gap) (told : rest.map (·.1) = ws.map .word) :
    ';' ∉ expressionCode between rest := by
  intro hmem
  have hends : endsClause ';' = true := by decide
  rcases List.mem_append.mp hmem with h | h
  · simp [endsClause_of_isBlank (gap_code_blank between _ h)] at hends
  · simp [Spread.code_inside (not_path_of_told told) _ h] at hends

variable {between : Gap}
  (hparted : Spread.Parted ((.keyword .pragma, opening) :: (.keyword .solidity, between) :: rest))
  (told : rest.map (·.1) = ws.map .word)

include hparted told

theorem fit_version (hws : ws ≠ []) :
    PragmaPieces.Fit ⟨opening.code, expressionCode between rest⟩ := by
  cases rest with
  | nil =>
    rw [List.map_nil, eq_comm, List.map_eq_nil_iff] at told
    exact absurd told hws
  | cons part more =>
    have hbetween : between ≠ [] := Spread.Parted.gap_ne_nil hparted.tail rfl (by simp)
    obtain ⟨c, code, hc, hcode⟩ :=
      exists_cons_of_blankRun (Gap.blankRun hbetween) (Spread.code (part :: more))
    refine ⟨Gap.blankRun (hparted.gap_ne_nil rfl (by simp)), ?_, ?_,
      semicolon_notMem_expressionCode between told⟩
    · rw [expressionCode, hcode]
      exact hc
    · have hgap := List.length_pos_iff.mpr (gap_code_ne_nil hbetween)
      obtain ⟨d, letters, hd, -⟩ := part.1.exists_cons
      simp only [expressionCode, Spread.code_cons, hd, List.length_append, List.length_cons]
      omega

/-- A version pragma that no word runs into is found. -/
theorem found_version (hws : ws ≠ []) {before : Option Char} (hbefore : NoWordBefore before)
    (after : List Char) :
    findAll pragmaAt 0 before (Spread.code ((.keyword .pragma, opening) ::
        (.keyword .solidity, between) :: rest) ++ [';'] ++ after) =
      glue ' ' (ws.map PragmaWord.text) :: findAll pragmaAt 0 (some ';') after := by
  have hfit := fit_version hparted told hws
  have hrest : rest.Parted := hparted.tail.tail
  have hwords := words_expressionCode between hrest told
  have hmatch := pragmaAt_eq_some_iff.mpr ⟨hbefore, _, hfit, List.prefix_append _ after, rfl⟩
  have hfound := findAll_match hmatch rfl (by simp [PragmaPieces.text_def])
  simp only [hwords, PragmaPieces.text_eq, lastOr_concat] at hfound
  simpa [PragmaPieces.body_def, expressionCode, Lexeme.text] using hfound

/-- A version pragma that a word runs into is not found. -/
theorem lost_version {before : Option Char} (hbefore : ¬ NoWordBefore before)
    (after : List Char) :
    ∃ found, findAll pragmaAt 0 before (Spread.code ((.keyword .pragma, opening) ::
        (.keyword .solidity, between) :: rest) ++ [';'] ++ after) =
      found ++ findAll pragmaAt 0 (some ';') after ∧
      found.length ≤ 1 ∧ found ≠ [glue ' ' (ws.map PragmaWord.text)] := by
  obtain ⟨found, hfound, hlength, hsmall⟩ := found_before_semicolon
    (semicolon_notMem_expressionCode between told)
    (lastOr before ("pragma".toList ++ (opening.code ++ "solidity".toList))) after
  refine ⟨found, ?_, hlength, ?_⟩
  · have hforeign : Lexeme.Foreign "pragma".toList (.keyword .solidity) :=
      (by decide : Keyword.solidity.text ≠ "pragma".toList)
    have hsolidity : ∀ last, Passes pragmaAt last "solidity".toList
        (expressionCode between rest ++ ';' :: after) := by
      refine pragmaAt_ledBy.passes_lexeme hforeign fun hword => ?_
      rw [expressionCode, List.append_assoc]
      exact Spread.Parted.head_noWord hparted.tail hword (noWord_semicolon after)
    have hkeywords : Passes pragmaAt before ("pragma".toList ++ (opening.code ++ "solidity".toList))
        (expressionCode between rest ++ ';' :: after) :=
      (pragmaAt_ledBy.passes_glued hbefore _).append
        ((pragmaAt_ledBy.passes_blanks (gap_code_blank _) _ _).append (hsolidity _))
    rw [← hfound, ← findAll_of_passes hkeywords]
    simp [expressionCode, Lexeme.text]
  · -- The expression has as much ink as the text it is read from, what is found in it less.
    rintro rfl
    have hless := hsmall _ (List.mem_singleton.mpr rfl)
    have hrest : rest.Parted := hparted.tail.tail
    rw [← words_expressionCode between hrest told, ink_glue_words] at hless
    exact Nat.lt_irrefl _ hless

end

/-- Up to a blank or a semicolon a text has one first word. -/
theorem first_word_unique {word word' rest rest' : List Char}
    (hword : ∀ c ∈ word, isBlank c = false ∧ c ≠ ';')
    (hword' : ∀ c ∈ word', isBlank c = false ∧ c ≠ ';')
    (hrest : ∀ c ∈ rest.head?, isBlank c = true ∨ c = ';')
    (hrest' : ∀ c ∈ rest'.head?, isBlank c = true ∨ c = ';')
    (h : word ++ rest = word' ++ rest') : word = word' := by
  have htake : ∀ {word rest : List Char}, (∀ c ∈ word, isBlank c = false ∧ c ≠ ';') →
      (∀ c ∈ rest.head?, isBlank c = true ∨ c = ';') →
      (word ++ rest).takeWhile (fun c => !isBlank c && c != ';') = word := by
    intro word rest hword hrest
    refine takeWhile_of_stop (fun c hc => by simp [hword c hc]) fun c hc => ?_
    rcases hrest c hc with hblank | rfl
    · simp [hblank]
    · simp
  rw [← htake hword hrest, h, htake hword' hrest']

/-- A pragma whose second word is not `solidity` is no version pragma. -/
theorem pragmaAt_other {opening : Gap} {rest : Spread} {ws : List PragmaWord}
    (hparted : Spread.Parted ((.keyword .pragma, opening) :: rest))
    (told : rest.map (·.1) = ws.map .word)
    (hother : ws.head?.map PragmaWord.text ≠ some "solidity".toList) (before : Option Char)
    (after : List Char) :
    pragmaAt before ("pragma".toList ++ (opening.code ++ (rest.code ++ ';' :: after))) = none := by
  rw [Option.eq_none_iff_forall_ne_some]
  intro m hm
  obtain ⟨-, p, hp, ⟨more, heq⟩, -⟩ := pragmaAt_eq_some_iff.mp hm
  simp only [PragmaPieces.text_def, List.append_assoc] at heq
  have hsecond := congrArg (List.dropWhile isBlank) (List.append_cancel_left heq)
  rw [dropWhile_of_stop hp.blanks.blank (by simp; decide)] at hsecond
  cases rest with
  | nil =>
    rw [Spread.code_nil, List.nil_append, dropWhile_of_stop (gap_code_blank opening)
      (by simp; decide)] at hsecond
    simp at hsecond
  | cons part rest =>
    obtain ⟨lexeme, gap⟩ := part
    obtain ⟨w, ws, rfl, rfl, hrest⟩ := List.map_eq_cons_iff.mp told.symm
    have hfirst : ∀ c ∈ (w.text ++ (gap.code ++ Spread.code rest ++ ';' :: after)).head?,
        isBlank c = false := by
      intro c hc
      obtain ⟨d, letters, hd, hblank⟩ := (Lexeme.word w).exists_cons
      rw [Lexeme.text] at hd
      obtain rfl : d = c := by simpa [hd] using hc
      exact hblank
    rw [Spread.code_cons, Lexeme.text, List.append_assoc,
      dropWhile_of_stop (gap_code_blank opening) hfirst] at hsecond
    refine hother (congrArg some (first_word_unique ?_ ?_ ?_ ?_ hsecond).symm)
    · intro c hc
      have hid := Keyword.solidity.chars c hc
      refine ⟨(identifierFacts hid).notBlank, ?_⟩
      rintro rfl
      exact absurd hid (by decide)
    · exact fun c hc => (w.chars c hc).2
    · intro c hc
      have hhead := hp.head
      cases hexpression : p.expression with
      | nil => simp [hexpression] at hhead
      | cons d letters =>
        obtain rfl : d = c := by simpa [hexpression] using hc
        exact Or.inl (by simpa [hexpression] using hhead)
    · intro c hc
      cases hcode : gap.code ++ Spread.code rest with
      | nil => exact Or.inr (by simpa [hcode, eq_comm] using hc)
      | cons d letters =>
        obtain rfl : d = c := by simpa [hcode] using hc
        exact Or.inl (blank_after_word hparted.tail hrest.symm d (by simp [hcode]))

/-- A directive is read for the versions it asks for. -/
theorem reads_version (d : Directive) {parts : Spread} (told : parts.map (·.1) = d.lexemes)
    (parted : parts.Parted) (before : Option Char) (after : List Char) :
    Reads pragmaAt before (parts.code ++ [';']) after d.version? := by
  cases d with
  | importing form path =>
    have hforeign : ∀ part ∈ parts, part.1.Foreign "pragma".toList := by
      intro part hpart
      have hmem : part.1 ∈ (Directive.importing form path).lexemes :=
        told ▸ List.mem_map_of_mem (f := (·.1)) hpart
      rcases List.mem_cons.mp hmem with hkeyword | hrest
      · rw [hkeyword]
        exact (by decide : Keyword.importing.text ≠ "pragma".toList)
      · exact (foreign_of_mem_import hrest).2
    exact reads_of_passes ((pragmaAt_ledBy.passes_spread parted hforeign
      (noWord_semicolon after) before).append (pragmaAt_ledBy.passes_semicolon _ _)) (Or.inr rfl)
  | version first more =>
    obtain ⟨⟨_, opening⟩, rest, rfl, rfl, hrest⟩ := List.map_eq_cons_iff.mp told
    obtain ⟨⟨_, between⟩, rest, rfl, rfl, hwords⟩ := List.map_eq_cons_iff.mp hrest
    by_cases hbefore : NoWordBefore before
    · refine reads_of_found hbefore ?_
      rw [lastOr_concat]
      exact found_version parted hwords (by simp) hbefore after
    · obtain ⟨found, hfound, hlength, hne⟩ := lost_version parted hwords hbefore after
      refine ⟨found, by rwa [lastOr_concat], hlength, ?_⟩
      simpa [Directive.version?, hbefore] using hne
  | otherPragma ws other free =>
    obtain ⟨⟨_, opening⟩, rest, rfl, rfl, hwords⟩ := List.map_eq_cons_iff.mp told
    have hforeign : ∀ part ∈ rest, part.1.Foreign "pragma".toList := by
      intro part hpart
      have hmem : part.1 ∈ ws.map Lexeme.word :=
        hwords ▸ List.mem_map_of_mem (f := (·.1)) hpart
      obtain ⟨w, hw, heq⟩ := List.mem_map.mp hmem
      rw [← heq]
      exact free w hw
    have hkeyword : Passes pragmaAt before "pragma".toList
        (opening.code ++ Spread.code rest ++ ([';'] ++ after)) := by
      refine pragmaAt_ledBy.passes_keyword ?_
      rw [List.append_assoc]
      exact pragmaAt_other parted hwords other before after
    have hopening : ∀ last, Passes pragmaAt last opening.code
        (Spread.code rest ++ ([';'] ++ after)) := fun last =>
      pragmaAt_ledBy.passes_blanks (gap_code_blank opening) last _
    have hrest : ∀ last, Passes pragmaAt last (Spread.code rest) ([';'] ++ after) :=
      pragmaAt_ledBy.passes_spread parted.tail hforeign (noWord_semicolon after)
    exact reads_of_passes ((hkeyword.append ((hopening _).append (hrest _))).append
      (pragmaAt_ledBy.passes_semicolon _ _)) (Or.inr rfl)

end SourceNames
