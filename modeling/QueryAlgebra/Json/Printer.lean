import QueryAlgebra.Json.Basic

/-!
# Written JSON

The written form of a JSON value on one line: a comma and a blank between items, a
colon and a blank after a key, and every character outside printable ASCII escaped.
-/

namespace QueryAlgebra
namespace Json

/-- Four hexadecimal digits. -/
def hexDigits (n : Nat) : Text :=
  let digits := Nat.toDigits 16 n
  List.replicate (4 - digits.length) '0' ++ digits

/-- The escape of a sixteen-bit unit. -/
def unitEscape (n : Nat) : Text :=
  ['\\', 'u'] ++ hexDigits n

/-- The escape of a character by its number, in two units if it needs more than sixteen bits. -/
def numberEscape (n : Nat) : Text :=
  if n < 0x10000 then unitEscape n
  else unitEscape (0xD800 + (n - 0x10000) / 0x400) ++ unitEscape (0xDC00 + (n - 0x10000) % 0x400)

/-- A character within quotes. -/
def charText (c : Char) : Text :=
  if c = '"' then ['\\', '"']
  else if c = '\\' then ['\\', '\\']
  else if c = '\n' then ['\\', 'n']
  else if c = '\r' then ['\\', 'r']
  else if c = '\t' then ['\\', 't']
  else if c = '\x0c' then ['\\', 'f']
  else if c = '\x08' then ['\\', 'b']
  else if 0x20 ≤ c.toNat ∧ c.toNat ≤ 0x7E then [c]
  else numberEscape c.toNat

/-- A text within quotes. -/
def quoted (s : Text) : Text :=
  ['"'] ++ s.flatMap charText ++ ['"']

mutual

/-- The written form of a value. -/
def render : Json → Text
  | null => ['n', 'u', 'l', 'l']
  | bool true => ['t', 'r', 'u', 'e']
  | bool false => ['f', 'a', 'l', 's', 'e']
  | int n => intText n
  | float x => NumberStyle.json.text x
  | str s => quoted s.toList
  | arr items => '[' :: renderItems items
  | obj fields => '\x7b' :: renderFields fields

/-- The items of an array up to its closing bracket. -/
def renderItems : List Json → Text
  | [] => [']']
  | item :: rest => render item ++ renderMoreItems rest

/-- The items of an array after the first one. -/
def renderMoreItems : List Json → Text
  | [] => [']']
  | item :: rest => [',', ' '] ++ render item ++ renderMoreItems rest

/-- The fields of an object up to its closing brace. -/
def renderFields : List (String × Json) → Text
  | [] => ['\x7d']
  | (key, value) :: rest => quoted key.toList ++ [':', ' '] ++ render value ++ renderMoreFields rest

/-- The fields of an object after the first one. -/
def renderMoreFields : List (String × Json) → Text
  | [] => ['\x7d']
  | (key, value) :: rest =>
    [',', ' '] ++ quoted key.toList ++ [':', ' '] ++ render value ++ renderMoreFields rest

end

end Json
end QueryAlgebra
