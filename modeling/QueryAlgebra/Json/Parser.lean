import QueryAlgebra.Json.Basic

/-!
# Reading JSON

Reading a JSON value that takes up a whole text.  A text that is no JSON is
refused with what was expected and the place where it was missing.  A key that is
repeated within an object keeps its first place and takes its last value.
-/

namespace QueryAlgebra
namespace Json

/-- What reading missed. -/
inductive Problem where
  | value
  | propertyName
  | colon
  | comma
  | endOfText
  | endOfString
  | controlCharacter
  | escape
  | unicodeEscape
  | byteOrderMark
  deriving DecidableEq, Repr

/-- The wording of a problem. -/
def Problem.message : Problem → String
  | value => "Expecting value"
  | propertyName => "Expecting property name enclosed in double quotes"
  | colon => "Expecting ':' delimiter"
  | comma => "Expecting ',' delimiter"
  | endOfText => "Extra data"
  | endOfString => "Unterminated string starting at"
  | controlCharacter => "Invalid control character at"
  | escape => "Invalid \\escape"
  | unicodeEscape => "Invalid \\uXXXX escape"
  | byteOrderMark => "Unexpected UTF-8 BOM (decode using utf-8-sig)"

/-- A problem and the text from its place on. -/
structure Refusal where
  problem : Problem
  rest : Text
  deriving DecidableEq, Repr

/-- What a reader found at the start of a text and what follows it. -/
abbrev Reading (α : Type) := Except Refusal (α × Text)

/-- A character that may stand between the parts of a value. -/
def isSpace (c : Char) : Bool :=
  c == ' ' || c == '\t' || c == '\n' || c == '\r'

/-- The text without the space at its start. -/
def skipSpace (s : Text) : Text :=
  s.dropWhile isSpace

/-! ## Strings -/

/-- The value of a hexadecimal digit. -/
def hexValue? (c : Char) : Option Nat :=
  if c.isDigit then some (c.toNat - '0'.toNat)
  else if 'a' ≤ c ∧ c ≤ 'f' then some (c.toNat - 'a'.toNat + 10)
  else if 'A' ≤ c ∧ c ≤ 'F' then some (c.toNat - 'A'.toNat + 10)
  else none

/-- The unit that four hexadecimal digits stand for, and what follows them. -/
def unit? : Text → Option (Nat × Text)
  | a :: b :: c :: d :: rest => do
    let a ← hexValue? a
    let b ← hexValue? b
    let c ← hexValue? c
    let d ← hexValue? d
    some (((a * 16 + b) * 16 + c) * 16 + d, rest)
  | _ => none

/-- The character that a short escape stands for. -/
def shortEscape? (c : Char) : Option Char :=
  match c with
  | '"' => some '"'
  | '\\' => some '\\'
  | '/' => some '/'
  | 'b' => some '\x08'
  | 'f' => some '\x0c'
  | 'n' => some '\n'
  | 'r' => some '\r'
  | 't' => some '\t'
  | _ => none

/--
The character of an escape by numbers, where two units may stand for one character.
A unit that is half of such a pair and stands alone is no character: it is read as the
replacement character U+FFFD, so that keys which differ in such a unit only become one.
-/
def escapedChar (unit : Nat) (rest : Text) : Char × Text :=
  if 0xD800 ≤ unit ∧ unit ≤ 0xDBFF then
    match rest with
    | '\\' :: 'u' :: more =>
      match unit? more with
      | some (low, after) =>
        if 0xDC00 ≤ low ∧ low ≤ 0xDFFF ∧ after ≠ [] then
          (Char.ofNat (0x10000 + (unit - 0xD800) * 0x400 + (low - 0xDC00)), after)
        else (Char.ofNat 0xFFFD, rest)
      | none => (Char.ofNat 0xFFFD, rest)
    | _ => (Char.ofNat 0xFFFD, rest)
  else if 0xDC00 ≤ unit ∧ unit ≤ 0xDFFF then (Char.ofNat 0xFFFD, rest)
  else (Char.ofNat unit, rest)

/--
The characters of a string up to its closing quote.  `start` is the text from its
opening quote.
-/
def stringBody (start : Text) : Nat → Text → Reading Text
  | 0, _ => .error ⟨.endOfString, start⟩
  | _ + 1, [] => .error ⟨.endOfString, start⟩
  | fuel + 1, c :: rest =>
    if c = '"' then .ok ([], rest)
    else if c.toNat < 0x20 then .error ⟨.controlCharacter, c :: rest⟩
    else if c = '\\' then
      match rest with
      | [] => .error ⟨.endOfString, start⟩
      | e :: more =>
        if e = 'u' then
          match unit? more with
          | none => .error ⟨.unicodeEscape, rest⟩
          | some (_, []) => .error ⟨.unicodeEscape, rest⟩
          | some (unit, after) =>
            let (d, after) := escapedChar unit after
            (stringBody start fuel after).map fun (s, left) => (d :: s, left)
        else
          match shortEscape? e with
          | none => .error ⟨.escape, c :: rest⟩
          | some d => (stringBody start fuel more).map fun (s, left) => (d :: s, left)
    else (stringBody start fuel rest).map fun (s, left) => (c :: s, left)

/-- A string from its opening quote on. -/
def string (fuel : Nat) (s : Text) : Reading String :=
  (stringBody s fuel (s.drop 1)).map fun (body, rest) => (String.ofList body, rest)

/-! ## Numbers -/

/-- A fraction at the start of a text: its digits and what follows, or no digits at all. -/
def fractionPart : Text → Text × Text
  | '.' :: rest =>
    let digits := rest.takeWhile Char.isDigit
    if digits.isEmpty then ([], '.' :: rest) else (digits, rest.dropWhile Char.isDigit)
  | rest => ([], rest)

/-- An exponent at the start of a text, if there is a whole one, and what follows. -/
def exponentPart : Text → Option Int × Text
  | [] => (none, [])
  | c :: rest =>
    if c = 'e' ∨ c = 'E' then
      let (negative, digitsOn) := NumberReader.signOf rest
      let digits := digitsOn.takeWhile Char.isDigit
      if digits.isEmpty then (none, c :: rest)
      else
        let n : Int := NumberReader.natOf digits
        (some (if negative then -n else n), digitsOn.dropWhile Char.isDigit)
    else (none, c :: rest)

/-- The whole part of a number: a zero alone, or digits that do not start with a zero. -/
def wholePart : Text → Option (Text × Text)
  | [] => none
  | c :: rest =>
    if c = '0' then some (['0'], rest)
    else if c.isDigit then some (c :: rest.takeWhile Char.isDigit, rest.dropWhile Char.isDigit)
    else none

/-- A number: an integer unless it has a fraction or an exponent. -/
def numeral? (s : Text) : Option (Json × Text) :=
  let (negative, unsigned) :=
    match s with
    | '-' :: rest => (true, rest)
    | _ => (false, s)
  (wholePart unsigned).map fun (whole, rest) =>
    let (fraction, rest) := fractionPart rest
    let (exponent, rest) := exponentPart rest
    if fraction.isEmpty && exponent.isNone then
      let n : Int := NumberReader.natOf whole
      (.int (if negative then -n else n), rest)
    else
      let d : Decimal :=
        ⟨negative, NumberReader.natOf (whole ++ fraction),
          exponent.getD 0 - (fraction.length : Int)⟩
      (.float d.toBinary64, rest)

/-! ## Values -/

/-- The words that stand for values. -/
def words : List (Text × Json) :=
  [(['n', 'u', 'l', 'l'], .null),
   (['t', 'r', 'u', 'e'], .bool true),
   (['f', 'a', 'l', 's', 'e'], .bool false),
   (['N', 'a', 'N'], .float .nan),
   (['I', 'n', 'f', 'i', 'n', 'i', 't', 'y'], .float (.infinite false)),
   (['-', 'I', 'n', 'f', 'i', 'n', 'i', 't', 'y'], .float (.infinite true))]

/-- A value that is neither a string nor an array nor an object. -/
def scalar (s : Text) : Reading Json :=
  match words.find? fun w => w.1.isPrefixOf s with
  | some (word, value) => .ok (value, s.drop word.length)
  | none =>
    match numeral? s with
    | some found => .ok found
    | none => .error ⟨.value, s⟩

mutual

/-- A value at the start of a text. -/
def valueAt : Nat → Text → Reading Json
  | 0, s => .error ⟨.value, s⟩
  | fuel + 1, s =>
    match s with
    | '"' :: _ => (string fuel s).map fun (t, rest) => (.str t, rest)
    | '[' :: rest =>
      match skipSpace rest with
      | ']' :: rest => .ok (.arr [], rest)
      | rest => (itemsAt fuel rest).map fun (items, rest) => (.arr items, rest)
    | '\x7b' :: rest =>
      match skipSpace rest with
      | '\x7d' :: rest => .ok (.obj [], rest)
      | rest => (fieldsAt fuel [] rest).map fun (fields, rest) => (.obj fields, rest)
    | s => scalar s

/-- One or more items up to the closing bracket. -/
def itemsAt : Nat → Text → Reading (List Json)
  | 0, s => .error ⟨.value, s⟩
  | fuel + 1, s =>
    match valueAt fuel s with
    | .error e => .error e
    | .ok (item, rest) =>
      match skipSpace rest with
      | ']' :: rest => .ok ([item], rest)
      | ',' :: rest =>
        (itemsAt fuel (skipSpace rest)).map fun (items, rest) => (item :: items, rest)
      | rest => .error ⟨.comma, rest⟩

/-- One or more fields up to the closing brace, after the fields read before. -/
def fieldsAt : Nat → List (String × Json) → Text → Reading (List (String × Json))
  | 0, _, s => .error ⟨.value, s⟩
  | fuel + 1, before, s =>
    match s with
    | '"' :: _ =>
      match string fuel s with
      | .error e => .error e
      | .ok (key, rest) =>
        match skipSpace rest with
        | ':' :: rest =>
          match valueAt fuel (skipSpace rest) with
          | .error e => .error e
          | .ok (value, rest) =>
            let fields := setField key value before
            match skipSpace rest with
            | '\x7d' :: rest => .ok (fields, rest)
            | ',' :: rest => fieldsAt fuel fields (skipSpace rest)
            | rest => .error ⟨.comma, rest⟩
        | rest => .error ⟨.colon, rest⟩
    | s => .error ⟨.propertyName, s⟩

end

/-- The value that a whole text stands for.  No reader takes more than two steps for a character. -/
def parse (s : Text) : Except Refusal Json :=
  if s.head? = some (Char.ofNat 0xFEFF) then .error ⟨.byteOrderMark, s⟩
  else
    match valueAt (2 * s.length + 2) (skipSpace s) with
    | .error e => .error e
    | .ok (value, rest) =>
      match skipSpace rest with
      | [] => .ok value
      | rest => .error ⟨.endOfText, rest⟩

/-- The wording of a refusal of a text, with line, column and place counted from the start. -/
def Refusal.message (whole : Text) (r : Refusal) : String :=
  let place := whole.length - r.rest.length
  let before := whole.take place
  let line := before.count '\n' + 1
  let column := (before.reverse.takeWhile (· != '\n')).length + 1
  r.problem.message ++ ": line " ++ toString line ++ " column " ++ toString column ++
    " (char " ++ toString place ++ ")"

end Json
end QueryAlgebra
