import QueryAlgebra.Value.Shown

/-!
# Fingerprints

A value is written as a stream of bytes that does not depend on how it is held:
lists and tuples are written alike, texts and bytes are written alike, numbers
with a fraction keep six significant digits, and sets and dictionaries are
written in an order of their own.  The fingerprint is the digest of the stream.
Values nested too deeply are cut off, and of long lists and arrays only both ends count.

A record is walked through a copy of it in which it and the records inside it are
dictionaries.  A view of bytes cannot be copied, so a record that holds one has no
fingerprint.
-/

namespace QueryAlgebra
namespace Fingerprint

/-! ## Limits -/

/-- Values nested deeper than this are cut off. -/
def maxDepth : Int := 8

/-- Longer lists are shortened. -/
def maxItems : Nat := 2000

/-- How many items of a shortened list count at either end. -/
def keptItems : Nat := 1000

/-- Longer arrays of fractional numbers are shortened. -/
def maxElements : Nat := 4000

/-- How many elements of a shortened array count at either end. -/
def keptElements : Nat := 2000

/-- How many significant digits of a number count. -/
def significantDigits : Nat := 6

/-- The item at an index of a list of `count` items counts: all do but those amid a long list. -/
def isCounted (count index : Nat) : Bool :=
  decide (count ≤ maxItems ∨ index < keptItems ∨ count - keptItems ≤ index)

/-- All items of a list that is not long count. -/
theorem isCounted_of_le {count : Nat} (hcount : count ≤ maxItems) (index : Nat) :
    isCounted count index = true :=
  decide_eq_true (Or.inl hcount)

/-! ## Pieces of the stream -/

/-- A text in UTF-8. -/
def utf8 (s : Text) : Bytes :=
  s.flatMap String.utf8EncodeChar

/-- What stands for a value that is nested too deeply. -/
def depthMark : Bytes :=
  utf8 ['<', 'd', 'e', 'p', 't', 'h', '-', 'c', 'a', 'p', '>']

/-- A text or bytes. -/
def textStream (data : Bytes) : Bytes :=
  utf8 ['s'] ++ data

/-- What stands for the items left out of a long list, in the place of an item. -/
def gapMark (depth : Int) : Bytes :=
  if maxDepth < depth then depthMark else textStream (utf8 ['<', 'g', 'a', 'p', '>'])

/-- A letter for the kind of a container and the number of its parts. -/
def head (kind : Char) (count : Nat) : Bytes :=
  utf8 (kind :: decimalDigits count)

/-- A number with its significant digits. -/
def roundedText (x : Binary64) : Text :=
  (x.roundSignificant significantDigits).text

/-- The bytes of an integer of a fixed width, the least significant first. -/
def littleEndian (n : Int) : Nat → Bytes
  | 0 => []
  | width + 1 => UInt8.ofNat (n % 256).toNat :: littleEndian (n / 256) width

/-- The fractional numbers of an array that count: of many only those at both ends. -/
def countedElements (items : List Binary64) : List Binary64 :=
  if maxElements < items.length then
    items.take keptElements ++ items.drop (items.length - keptElements)
  else items

/-- The elements of an array: the texts of fractional numbers, and a digest of all others. -/
def elementStream : ArrayItems → Bytes
  | .integers width items => Sha256.digest (items.flatMap fun n => littleEndian n width)
  | .truths items => Sha256.digest (items.map fun b => if b then 1 else 0)
  | .floats items => (countedElements items).flatMap fun x => utf8 (roundedText x)

/-- An array of numbers. -/
def arrayStream (a : NumberArray) : Bytes :=
  utf8 ('A' :: (Value.shapeText a.shape ++ a.elementType)) ++ elementStream a.items

/-- The fingerprint of a stream. -/
def ofStream (stream : Bytes) : Text :=
  hexText (Sha256.digest stream)

/-- The texts of a list in ascending order. -/
def sorted (texts : List Text) : List Text :=
  texts.mergeSort fun s t => decide (¬ t < s)

/-- Entries given by the streams of key and value, ordered by the fingerprints of their keys. -/
def entryStream (entries : List (Bytes × Bytes)) : Bytes :=
  let keyed := entries.map fun e => (ofStream e.1, e.1 ++ e.2)
  ((keyed.mergeSort fun x y => decide (¬ y.1 < x.1)).map (·.2)).flatten

/-! ## The stream of a value -/

mutual

/--
The stream of a value that is not nested too deeply.  In a copied value the records are
dictionaries already; a record that is not takes one level more, for the copy made of it.
The members of a set are copied as they are.
-/
def body : Bool → Int → Value → Bytes
  | _, _, .none => utf8 ['N', 'o', 'n', 'e']
  | _, _, .bool true => utf8 ['T', 'r', 'u', 'e']
  | _, _, .bool false => utf8 ['F', 'a', 'l', 's', 'e']
  | _, _, .int n => utf8 (intText n)
  | _, _, .float x => utf8 (roundedText x)
  | _, _, .complex re im => utf8 ('c' :: (roundedText re ++ roundedText im))
  | _, _, .text s => textStream (utf8 s)
  | _, _, .bytes _ data => textStream data
  | copied, depth, .list items =>
    head 'L' items.length ++ itemStream copied (depth + 1) items.length 0 items
  | copied, depth, .tuple items =>
    head 'L' items.length ++ itemStream copied (depth + 1) items.length 0 items
  | copied, depth, .dict entries =>
    head 'D' entries.length ++ entryStream (entryStreams copied (depth + 1) entries)
  | _, depth, .set _ members =>
    head 'S' members.length ++ utf8 (sorted (memberPrints (depth + 1) members)).flatten
  | true, depth, .record fields =>
    head 'D' fields.length ++ entryStream (fieldStreams (depth + 1) fields)
  | false, depth, .record fields =>
    if maxDepth < depth + 1 then depthMark
    else head 'D' fields.length ++ entryStream (fieldStreams (depth + 2) fields)
  | _, _, .array a => arrayStream a
  | _, _, .literal l => utf8 l.text

/-- The streams of the items at a depth, of a list of `count` items from the item at `index` on. -/
def itemStream : Bool → Int → Nat → Nat → List Value → Bytes
  | _, _, _, _, [] => []
  | copied, depth, count, index, v :: rest =>
    (if isCounted count index then if maxDepth < depth then depthMark else body copied depth v
      else if index = keptItems then gapMark depth
      else []) ++ itemStream copied depth count (index + 1) rest

/-- The streams of the keys and values of a dictionary. -/
def entryStreams : Bool → Int → List (Value × Value) → List (Bytes × Bytes)
  | _, _, [] => []
  | copied, depth, (k, v) :: rest =>
    (if maxDepth < depth then depthMark else body copied depth k,
      if maxDepth < depth then depthMark else body copied depth v) ::
        entryStreams copied depth rest

/-- The streams of the names and values of the fields of a record that was copied. -/
def fieldStreams : Int → List (Text × Value) → List (Bytes × Bytes)
  | _, [] => []
  | depth, (name, v) :: rest =>
    (if maxDepth < depth then depthMark else textStream (utf8 name),
      if maxDepth < depth then depthMark else body true depth v) :: fieldStreams depth rest

/-- The fingerprints of the members of a set. -/
def memberPrints : Int → List Value → List Text
  | _, [] => []
  | depth, v :: rest =>
    ofStream (if maxDepth < depth then depthMark else body false depth v) ::
      memberPrints depth rest

end

/-- The stream of a value at a depth of nesting, in a copy of a record or outside of one. -/
def streamIn (copied : Bool) (depth : Int) (v : Value) : Bytes :=
  if maxDepth < depth then depthMark else body copied depth v

/-- The stream of a value at a depth of nesting. -/
def stream (depth : Int) (v : Value) : Bytes :=
  streamIn false depth v

/-- Values nested too deeply have one and the same stream. -/
@[simp]
theorem streamIn_of_lt {depth : Int} (hdepth : maxDepth < depth) (copied : Bool) (v : Value) :
    streamIn copied depth v = depthMark :=
  if_pos hdepth

@[simp]
theorem streamIn_of_le {depth : Int} (hdepth : depth ≤ maxDepth) (copied : Bool) (v : Value) :
    streamIn copied depth v = body copied depth v :=
  if_neg (Int.not_lt.mpr hdepth)

/-! ## Values without a fingerprint -/

/-- Why a value has no fingerprint. -/
inductive Fault where
  /-- A record holds a view of bytes, which cannot be copied. -/
  | viewInRecord
  deriving DecidableEq, Repr

/-- The kind of a fault. -/
def Fault.kind : Fault → String
  | .viewInRecord => "TypeError"

/-- What a fault says. -/
def Fault.message : Fault → String
  | .viewInRecord => "cannot pickle 'memoryview' object"

mutual

/-- A view of bytes stands somewhere in the value, at any depth. -/
def holdsView : Value → Bool
  | .bytes kind _ => decide (kind = .view)
  | .list items => anyHoldsView items
  | .tuple items => anyHoldsView items
  | .dict entries => entriesHoldView entries
  | .set _ members => anyHoldsView members
  | .record fields => fieldsHoldView fields
  | _ => false

/-- One of the values holds a view of bytes. -/
def anyHoldsView : List Value → Bool
  | [] => false
  | v :: rest => holdsView v || anyHoldsView rest

/-- A key or a value of the entries holds a view of bytes. -/
def entriesHoldView : List (Value × Value) → Bool
  | [] => false
  | (k, v) :: rest => holdsView k || holdsView v || entriesHoldView rest

/-- A field holds a view of bytes. -/
def fieldsHoldView : List (Text × Value) → Bool
  | [] => false
  | (_, v) :: rest => holdsView v || fieldsHoldView rest

end

mutual

/-- The walk of a value from a depth on comes to a record that holds a view of bytes. -/
def isBlocked : Int → Value → Bool
  | depth, .list items =>
    decide (depth ≤ maxDepth) && itemsBlocked (depth + 1) items.length 0 items
  | depth, .tuple items =>
    decide (depth ≤ maxDepth) && itemsBlocked (depth + 1) items.length 0 items
  | depth, .dict entries => decide (depth ≤ maxDepth) && entriesBlocked (depth + 1) entries
  | depth, .set _ members => decide (depth ≤ maxDepth) && membersBlocked (depth + 1) members
  | depth, .record fields => decide (depth ≤ maxDepth) && fieldsHoldView fields
  | _, _ => false

/-- The walk of the items that count comes to such a record. -/
def itemsBlocked : Int → Nat → Nat → List Value → Bool
  | _, _, _, [] => false
  | depth, count, index, v :: rest =>
    isCounted count index && isBlocked depth v || itemsBlocked depth count (index + 1) rest

/-- The walk of the keys and values of a dictionary comes to such a record. -/
def entriesBlocked : Int → List (Value × Value) → Bool
  | _, [] => false
  | depth, (k, v) :: rest => isBlocked depth k || isBlocked depth v || entriesBlocked depth rest

/-- The walk of the members of a set comes to such a record. -/
def membersBlocked : Int → List Value → Bool
  | _, [] => false
  | depth, v :: rest => isBlocked depth v || membersBlocked depth rest

end

end Fingerprint

/-- The fingerprint of a value at a depth of nesting. -/
def fingerprintAt (depth : Int) (v : Value) : Except Fingerprint.Fault Text :=
  if Fingerprint.isBlocked depth v then .error .viewInRecord
  else .ok (Fingerprint.ofStream (Fingerprint.stream depth v))

/-- The fingerprint of a value. -/
def fingerprint (v : Value) : Except Fingerprint.Fault Text :=
  fingerprintAt 0 v

end QueryAlgebra
