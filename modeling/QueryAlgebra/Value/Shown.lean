import QueryAlgebra.Value.Basic

/-!
# Written values

Values as literals, with texts between quotes, and values as they are read, where
a text stands for itself.
-/

namespace QueryAlgebra
namespace Value

/-- A byte between quotes. -/
def quotedByte (quote : Char) (b : UInt8) : Text :=
  let c := Char.ofNat b.toNat
  if b.toNat < 0x7F then Text.quotedChar quote c else Text.numbered b.toNat

/-- Bytes between quotes. -/
def quotedBytes (data : Bytes) : Text :=
  let quote := Text.quoteFor (data.map fun b => Char.ofNat b.toNat)
  [quote] ++ data.flatMap (quotedByte quote) ++ [quote]

/-- A part of a complex number without a fraction that is zero. -/
def partText (x : Binary64) : Text :=
  let s := x.text
  if s.reverse.take 2 = ['0', '.'] then (s.reverse.drop 2).reverse else s

/-- A part of a complex number with its sign. -/
def signedPart (x : Binary64) : Text :=
  match partText x with
  | '-' :: rest => '-' :: rest
  | s => '+' :: s

/-- The real part is left out: it is zero without a sign. -/
def isPlainZero : Binary64 → Bool
  | .finite false m _ _ => m == 0
  | _ => false

/-- A complex number. -/
def complexText (re im : Binary64) : Text :=
  if isPlainZero re then partText im ++ ['j']
  else ['('] ++ partText re ++ signedPart im ++ ['j', ')']

/-- The sizes of an array: a comma follows a single one. -/
def shapeText (shape : List Nat) : Text :=
  match shape with
  | [n] => ['('] ++ decimalDigits n ++ [',', ')']
  | sizes => ['('] ++ Text.join [',', ' '] (sizes.map decimalDigits) ++ [')']

mutual

/-- The literal of a value. -/
def literalText : Value → Text
  | none => "None".toList
  | bool true => "True".toList
  | bool false => "False".toList
  | int n => intText n
  | float x => x.text
  | complex re im => complexText re im
  | text s => Text.quoted s
  | bytes .fixed data => 'b' :: quotedBytes data
  | bytes .mutable data => "bytearray(b".toList ++ quotedBytes data ++ [')']
  | bytes .view _ => "<memory>".toList
  | list items => ['['] ++ Text.join [',', ' '] (literalTexts items) ++ [']']
  | tuple [v] => ['('] ++ literalText v ++ [',', ')']
  | tuple items => ['('] ++ Text.join [',', ' '] (literalTexts items) ++ [')']
  | dict entries => ['\x7b'] ++ Text.join [',', ' '] (entryTexts entries) ++ ['\x7d']
  | set false [] => "set()".toList
  | set false members => ['\x7b'] ++ Text.join [',', ' '] (literalTexts members) ++ ['\x7d']
  | set true [] => "frozenset()".toList
  | set true members =>
    "frozenset(\x7b".toList ++ Text.join [',', ' '] (literalTexts members) ++ "\x7d)".toList
  | record fields => "DC(".toList ++ Text.join [',', ' '] (fieldTexts fields) ++ [')']
  | array a => "array".toList ++ shapeText a.shape
  | literal l => l.text

/-- The literals of a list of values. -/
def literalTexts : List Value → List Text
  | [] => []
  | v :: rest => literalText v :: literalTexts rest

/-- The entries of a dictionary. -/
def entryTexts : List (Value × Value) → List Text
  | [] => []
  | (k, v) :: rest => (literalText k ++ [':', ' '] ++ literalText v) :: entryTexts rest

/-- The fields of a record. -/
def fieldTexts : List (Text × Value) → List Text
  | [] => []
  | (name, v) :: rest => (name ++ ['='] ++ literalText v) :: fieldTexts rest

end

/-- A value as it is read. -/
def readable : Value → Text
  | text s => s
  | literal l => l.readable
  | v => literalText v

end Value
end QueryAlgebra
