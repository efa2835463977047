-- Source text cut into string literals, comments and single characters, leftmost first.
-- Comments can then be blanked out without moving anything else.

namespace SourceNames

/-! ## Literals -/

/-- The rest of a string literal with its closing quote, and the text after it. A backslash
takes the next character along, whatever it is; a line feed or the end of the text leaves
the literal open, and then there is none. -/
def literalBody (quote : Char) : List Char → Option (List Char × List Char)
  | [] => none
  | '\\' :: [] => none
  | '\\' :: escaped :: rest =>
    match literalBody quote rest with
    | some (body, after) => some ('\\' :: escaped :: body, after)
    | none => none
  | c :: rest =>
    if c = quote then some ([c], rest)
    else if c = '\n' then none
    else match literalBody quote rest with
      | some (body, after) => some (c :: body, after)
      | none => none

/-! ## Comments -/

/-- The rest of a block comment with its end, and the text after it, if it ends. -/
def blockBody : List Char → Option (List Char × List Char)
  | [] => none
  | '*' :: '/' :: rest => some (['*', '/'], rest)
  | c :: rest =>
    match blockBody rest with
    | some (body, after) => some (c :: body, after)
    | none => none

/-! ## Tokens -/

/-- A piece of source text. -/
inductive Token
  | literal (text : List Char)
  | comment (text : List Char)
  | plain (c : Char)
  deriving DecidableEq, Repr

def Token.text : Token → List Char
  | .literal text => text
  | .comment text => text
  | .plain c => [c]

/-- The token that a text starting with the given character begins with, and the rest. -/
def firstToken (c : Char) (rest : List Char) : Token × List Char :=
  if c = '"' ∨ c = '\'' then
    match literalBody c rest with
    | some (body, after) => (.literal (c :: body), after)
    | none => (.plain c, rest)
  else if c = '/' then
    match rest with
    | '/' :: more => (.comment ('/' :: '/' :: more.takeWhile (· != '\n')), more.dropWhile (· != '\n'))
    | '*' :: more =>
      match blockBody more with
      | some (body, after) => (.comment ('/' :: '*' :: body), after)
      | none => (.plain c, rest)
    | _ => (.plain c, rest)
  else (.plain c, rest)

/-! ## No token loses or adds text -/

theorem literalBody_eq {quote : Char} {text body after : List Char}
    (h : literalBody quote text = some (body, after)) : body ++ after = text := by
  fun_induction literalBody quote text generalizing body after with
  | case1 => simp at h
  | case2 => simp at h
  | case3 escaped rest body' after' hb ih =>
    simp only [Option.some.injEq, Prod.mk.injEq] at h
    obtain ⟨rfl, rfl⟩ := h
    simpa using ih hb
  | case4 => simp at h
  | case5 rest hne =>
    simp only [Option.some.injEq, Prod.mk.injEq] at h
    obtain ⟨rfl, rfl⟩ := h
    rfl
  | case6 => simp at h
  | case7 c rest _ _ _ _ body' after' hb ih =>
    simp only [Option.some.injEq, Prod.mk.injEq] at h
    obtain ⟨rfl, rfl⟩ := h
    simpa using ih hb
  | case8 => simp at h

theorem blockBody_eq {text body after : List Char}
    (h : blockBody text = some (body, after)) : body ++ after = text := by
  fun_induction blockBody text generalizing body after with
  | case1 => simp at h
  | case2 rest =>
    simp only [Option.some.injEq, Prod.mk.injEq] at h
    obtain ⟨rfl, rfl⟩ := h
    rfl
  | case3 c rest _ body' after' hb ih =>
    simp only [Option.some.injEq, Prod.mk.injEq] at h
    obtain ⟨rfl, rfl⟩ := h
    simpa using ih hb
  | case4 => simp at h

/-- A token and the rest are the text that was read. -/
theorem firstToken_eq (c : Char) (rest : List Char) :
    (firstToken c rest).1.text ++ (firstToken c rest).2 = c :: rest := by
  unfold firstToken
  split
  · split
    · next h => simpa [Token.text] using literalBody_eq h
    · rfl
  · split
    · next hc =>
      subst hc
      split
      · simp [Token.text]
      · split
        · next h => simpa [Token.text] using blockBody_eq h
        · rfl
      · rfl
    · rfl

/-- A token takes at least one character. -/
theorem firstToken_length (c : Char) (rest : List Char) :
    (firstToken c rest).2.length ≤ rest.length := by
  have h := congrArg List.length (firstToken_eq c rest)
  have pos : 0 < (firstToken c rest).1.text.length := by
    unfold firstToken
    split
    · split <;> simp [Token.text]
    · split
      · split
        · simp [Token.text]
        · split <;> simp [Token.text]
        · simp [Token.text]
      · simp [Token.text]
  simp only [List.length_append, List.length_cons] at h
  omega

/-! ## Cutting a text into tokens -/

def tokens : List Char → List Token
  | [] => []
  | c :: rest => (firstToken c rest).1 :: tokens (firstToken c rest).2
termination_by text => text.length
decreasing_by
  have := firstToken_length c rest
  simp only [List.length_cons]
  omega

/-- A character of a comment blanked out; line feeds stay. -/
def blankChar (c : Char) : Char := if c = '\n' then c else ' '

/-- A token as it stands once comments are blanked out. -/
def Token.blanked : Token → List Char
  | .comment text => text.map blankChar
  | token => token.text

/-- A text with its comments blanked out. -/
def blankComments (text : List Char) : List Char :=
  (tokens text).flatMap Token.blanked

def stripComments (source : String) : String :=
  String.ofList (blankComments source.toList)

end SourceNames
