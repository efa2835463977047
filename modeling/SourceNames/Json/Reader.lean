-- Reading JSON text. A fault names the first place where the text cannot go on, by line,
-- column and index, with the words for what was expected there. A text holds characters only, so
-- half a surrogate pair that an escape writes alone is read as the replacement character. A value
-- is read whatever its size: there is no limit of 4300 digits to a whole number and none to how
-- deep lists and objects are nested, so neither is a fault here.

import SourceNames.Json.Value

namespace SourceNames

/-! ## Faults -/

/-- What was wrong with a JSON text. -/
inductive JsonComplaint
  | value
  | propertyName
  | colon
  | comma
  | extra
  | unterminated
  | control
  | escape
  | unicodeEscape
  | byteOrderMark
  deriving DecidableEq, Repr

def JsonComplaint.text : JsonComplaint → String
  | .value => "Expecting value"
  | .propertyName => "Expecting property name enclosed in double quotes"
  | .colon => "Expecting ':' delimiter"
  | .comma => "Expecting ',' delimiter"
  | .extra => "Extra data"
  | .unterminated => "Unterminated string starting at"
  | .control => "Invalid control character at"
  | .escape => "Invalid \\escape"
  | .unicodeEscape => "Invalid \\uXXXX escape"
  | .byteOrderMark => "Unexpected UTF-8 BOM (decode using utf-8-sig)"

/-- A complaint with its place: the line and column count from one, the index from zero. -/
structure JsonFault where
  complaint : JsonComplaint
  line : Nat
  column : Nat
  index : Nat
  deriving DecidableEq, Repr

def JsonFault.message (f : JsonFault) : String :=
  s!"{f.complaint.text}: line {f.line} column {f.column} (char {f.index})"

/-- A complaint at an index of a text, with line and column counted. -/
def JsonFault.located (text : List Char) (complaint : JsonComplaint) (index : Nat) : JsonFault :=
  let before := text.take index
  { complaint
    line := before.count '\n' + 1
    column := (before.reverse.takeWhile (· != '\n')).length + 1
    index }

/-! ## Steps -/

/-- What is left to read, and how many characters stand before it. -/
structure JsonCursor where
  index : Nat
  rest : List Char

/-- The outcome of reading a part: what was read and the place after it, or a complaint. -/
abbrev JsonStep (α : Type) := Except (JsonComplaint × Nat) (α × JsonCursor)

/-- The place a number of characters further on. -/
def JsonCursor.advance (place : JsonCursor) (count : Nat) : JsonCursor :=
  ⟨place.index + count, place.rest.drop count⟩

def isJsonBlank (c : Char) : Bool :=
  c == ' ' || c == '\t' || c == '\n' || c == '\r'

/-- The place after any blanks. -/
def JsonCursor.skipBlanks (place : JsonCursor) : JsonCursor :=
  place.advance (place.rest.takeWhile isJsonBlank).length

/-! ## Texts -/

/-- The value of a digit of base sixteen. -/
def hexValue? (c : Char) : Option Nat :=
  if c.isDigit then some (c.toNat - 48)
  else if 'a' ≤ c ∧ c ≤ 'f' then some (c.toNat - 87)
  else if 'A' ≤ c ∧ c ≤ 'F' then some (c.toNat - 55)
  else none

/-- The number that exactly four digits of base sixteen write. -/
def hexQuad? (digits : List Char) : Option Nat :=
  match digits.mapM hexValue? with
  | some [a, b, c, d] => some (((a * 16 + b) * 16 + c) * 16 + d)
  | _ => none

/-- The character that a letter after a backslash stands for. -/
def escapeLetter? : Char → Option Char
  | '"' => some '"'
  | '\\' => some '\\'
  | '/' => some '/'
  | 'b' => some '\x08'
  | 'f' => some '\x0c'
  | 'n' => some '\n'
  | 'r' => some '\r'
  | 't' => some '\t'
  | _ => none

/-- Whether a code unit is the first half of a pair. -/
def isHighHalf (n : Nat) : Bool := 0xD800 ≤ n && n ≤ 0xDBFF

/-- Whether a code unit is the second half of a pair. -/
def isLowHalf (n : Nat) : Bool := 0xDC00 ≤ n && n ≤ 0xDFFF

/-- A code unit as a character; half a pair alone is shown as the replacement character. -/
def unitChar (n : Nat) : Char :=
  if isHighHalf n || isLowHalf n then '\ufffd' else Char.ofNat n

/-- The second half of a pair, when one follows as another escape. Its digits are read as
soon as the escape is seen and more than the escape is left. -/
def readLowHalf (place : JsonCursor) : Except (JsonComplaint × Nat) (Option Nat) :=
  match place.rest with
  | '\\' :: 'u' :: rest =>
    if rest.length < 5 then .ok none
    else match hexQuad? (rest.take 4) with
      | none => .error (.unicodeEscape, place.index + 1)
      | some n => .ok (if isLowHalf n then some n else none)
  | _ => .ok none

/-- A numeric escape, read after its `u`; something must still follow its digits. -/
def readUnicodeEscape (place : JsonCursor) : JsonStep Char :=
  if place.rest.length < 5 then .error (.unicodeEscape, place.index - 1)
  else match hexQuad? (place.rest.take 4) with
    | none => .error (.unicodeEscape, place.index - 1)
    | some high =>
      let after := place.advance 4
      if isHighHalf high then
        match readLowHalf after with
        | .error e => .error e
        | .ok none => .ok (unitChar high, after)
        | .ok (some low) =>
          .ok (Char.ofNat (0x10000 + (high - 0xD800) * 0x400 + (low - 0xDC00)), after.advance 6)
      else .ok (unitChar high, after)

/-- The rest of a text whose opening quote stands at `start`; `fuel` bounds its length. -/
def readText (start : Nat) : (fuel : Nat) → JsonCursor → JsonStep (List Char)
  | 0, _ => .error (.unterminated, start)
  | fuel + 1, place =>
    match place.rest with
    | [] => .error (.unterminated, start)
    | c :: rest =>
      if c = '"' then .ok ([], place.advance 1)
      else if c = '\\' then
        match rest with
        | [] => .error (.unterminated, start)
        | letter :: _ =>
          let unit : JsonStep Char :=
            if letter = 'u' then readUnicodeEscape (place.advance 2)
            else match escapeLetter? letter with
              | some e => .ok (e, place.advance 2)
              | none => .error (.escape, place.index)
          match unit with
          | .error e => .error e
          | .ok (e, after) =>
            match readText start fuel after with
            | .error e => .error e
            | .ok (text, last) => .ok (e :: text, last)
      else if c.toNat < 0x20 then .error (.control, place.index)
      else
        match readText start fuel (place.advance 1) with
        | .error e => .error e
        | .ok (text, last) => .ok (c :: text, last)

/-- A text, read from its opening quote. -/
def readQuoted (place : JsonCursor) : JsonStep String :=
  match readText place.index (place.rest.length + 1) (place.advance 1) with
  | .error e => .error e
  | .ok (text, last) => .ok (String.ofList text, last)

/-! ## Numbers -/

/-- The number that decimal digits write. -/
def digitsValue (digits : List Char) : Nat :=
  digits.foldl (fun n c => 10 * n + (c.toNat - 48)) 0

/-- The fraction of a number: a point and at least one digit, or nothing. -/
def fractionOf (text : List Char) : List Char :=
  match text with
  | '.' :: rest => rest.takeWhile Char.isDigit
  | _ => []

/-- The power of a number: its sign, its digits, and the characters it takes; without a
digit it takes none. -/
def powerOf (text : List Char) : Option (Bool × List Char × Nat) :=
  match text with
  | e :: rest =>
    if e = 'e' || e = 'E' then
      let (negative, signs, digits) :=
        match rest with
        | '-' :: more => (true, 1, more.takeWhile Char.isDigit)
        | '+' :: more => (false, 1, more.takeWhile Char.isDigit)
        | _ => (false, 0, rest.takeWhile Char.isDigit)
      if digits.isEmpty then none else some (negative, digits, 1 + signs + digits.length)
    else none
  | [] => none

/-- A number: a sign, a zero or digits that do not start with one, a fraction, a power. It
ends where it cannot go on. -/
def readNumber (place : JsonCursor) : JsonStep JsonValue :=
  let negative := place.rest.head? == some '-'
  let signs := if negative then 1 else 0
  let text := place.rest.drop signs
  let whole :=
    match text with
    | '0' :: _ => ['0']
    | _ => text.takeWhile Char.isDigit
  if whole.isEmpty then .error (.value, place.index)
  else
    let afterWhole := text.drop whole.length
    let fraction := fractionOf afterWhole
    let fractionSize := if fraction.isEmpty then 0 else fraction.length + 1
    let power := powerOf (afterWhole.drop fractionSize)
    let powerSize := (power.map (·.2.2)).getD 0
    let last := place.advance (signs + whole.length + fractionSize + powerSize)
    if fraction.isEmpty && power.isNone then
      let n : Int := digitsValue whole
      .ok (.integer (if negative then -n else n), last)
    else
      let shift : Int :=
        match power with
        | some (true, digits, _) => -(digitsValue digits : Int)
        | some (false, digits, _) => digitsValue digits
        | none => 0
      .ok (.real (Binary64.ofDecimal negative (digitsValue (whole ++ fraction))
        (shift - fraction.length)), last)

/-! ## Values -/

/-- The words that stand for values, with what they stand for. -/
def jsonWords : List (String × JsonValue) :=
  [("null", .null), ("true", .bool true), ("false", .bool false), ("NaN", .real .undefined),
   ("Infinity", .real (.infinite false)), ("-Infinity", .real (.infinite true))]

/-- The word that a text starts with, if it starts with one. -/
def readWord? (place : JsonCursor) : Option (JsonValue × JsonCursor) :=
  (jsonWords.find? fun (word, _) => word.toList.isPrefixOf place.rest).map
    fun (word, value) => (value, place.advance word.length)

mutual

/-- One value. Each step takes one from `fuel`, which is more than the text is long. -/
def readValue : (fuel : Nat) → JsonCursor → JsonStep JsonValue
  | 0, place => .error (.value, place.index)
  | fuel + 1, place =>
    match place.rest with
    | '"' :: _ =>
      match readQuoted place with
      | .error e => .error e
      | .ok (text, last) => .ok (.text text, last)
    | '\x7b' :: _ =>
      let inside := (place.advance 1).skipBlanks
      if inside.rest.head? == some '\x7d' then .ok (.object [], inside.advance 1)
      else match readMembers fuel [] inside with
        | .error e => .error e
        | .ok (members, last) => .ok (.object members, last)
    | '[' :: _ =>
      let inside := (place.advance 1).skipBlanks
      if inside.rest.head? == some ']' then .ok (.list [], inside.advance 1)
      else match readItems fuel inside with
        | .error e => .error e
        | .ok (items, last) => .ok (.list items, last)
    | _ =>
      match readWord? place with
      | some found => .ok found
      | none => readNumber place

/-- The items of a list up to its end, at least one. -/
def readItems : (fuel : Nat) → JsonCursor → JsonStep (List JsonValue)
  | 0, place => .error (.value, place.index)
  | fuel + 1, place =>
    match readValue fuel place with
    | .error e => .error e
    | .ok (item, after) =>
      let next := after.skipBlanks
      match next.rest with
      | ']' :: _ => .ok ([item], next.advance 1)
      | ',' :: _ =>
        match readItems fuel (next.advance 1).skipBlanks with
        | .error e => .error e
        | .ok (items, last) => .ok (item :: items, last)
      | _ => .error (.comma, next.index)

/-- The members of an object up to its end, at least one, after those already read. -/
def readMembers : (fuel : Nat) → List (String × JsonValue) → JsonCursor →
    JsonStep (List (String × JsonValue))
  | 0, _, place => .error (.value, place.index)
  | fuel + 1, seen, place =>
    if place.rest.head? != some '"' then .error (.propertyName, place.index)
    else match readQuoted place with
      | .error e => .error e
      | .ok (name, afterName) =>
        let colon := afterName.skipBlanks
        if colon.rest.head? != some ':' then .error (.colon, colon.index)
        else match readValue fuel (colon.advance 1).skipBlanks with
          | .error e => .error e
          | .ok (value, after) =>
            let next := after.skipBlanks
            let members := setMember name value seen
            match next.rest with
            | '\x7d' :: _ => .ok (members, next.advance 1)
            | ',' :: _ => readMembers fuel members (next.advance 1).skipBlanks
            | _ => .error (.comma, next.index)

end

/-- Reads a whole text as one JSON value. -/
def readJson (text : List Char) : Except JsonFault JsonValue :=
  let outcome : Except (JsonComplaint × Nat) JsonValue :=
    if text.head? == some '\ufeff' then .error (.byteOrderMark, 0)
    else match readValue (2 * text.length + 2) (JsonCursor.skipBlanks ⟨0, text⟩) with
      | .error e => .error e
      | .ok (value, after) =>
        let last := after.skipBlanks
        if last.rest.isEmpty then .ok value else .error (.extra, last.index)
  match outcome with
  | .ok value => .ok value
  | .error (complaint, index) => .error (JsonFault.located text complaint index)

/-- Every line ending written as a line feed. -/
def unifyNewlines : List Char → List Char
  | '\r' :: '\n' :: rest => '\n' :: unifyNewlines rest
  | '\r' :: rest => '\n' :: unifyNewlines rest
  | c :: rest => c :: unifyNewlines rest
  | [] => []

end SourceNames
