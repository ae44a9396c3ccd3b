import QueryAlgebra.Digest.Sha256
import QueryAlgebra.Value.Literal

/-!
# Values

The values that a bench may return or take as a parameter: plain data, containers
of values, records, number arrays, and atomic values with a literal.
-/

namespace QueryAlgebra

/-- How a sequence of bytes is held. -/
inductive BytesKind where
  | fixed
  | mutable
  | view
  deriving DecidableEq, Repr

/-- The elements of an array of numbers, row by row. -/
inductive ArrayItems where
  /-- Integers of a width in bytes. -/
  | integers (width : Nat) (items : List Int)
  | truths (items : List Bool)
  | floats (items : List Binary64)
  deriving DecidableEq

/-- An array of numbers. -/
structure NumberArray where
  elementType : Text
  shape : List Nat
  items : ArrayItems
  deriving DecidableEq

/-- A value. -/
inductive Value where
  | none
  | bool (b : Bool)
  | int (n : Int)
  | float (x : Binary64)
  | complex (re im : Binary64)
  | text (s : Text)
  | bytes (kind : BytesKind) (data : Bytes)
  | list (items : List Value)
  | tuple (items : List Value)
  /-- Keys with their values in the order in which the keys were first set. -/
  | dict (entries : List (Value × Value))
  | set (frozen : Bool) (members : List Value)
  /-- A record with named fields. -/
  | record (fields : List (Text × Value))
  | array (a : NumberArray)
  | literal (l : Literal)
  deriving Inhabited

namespace Value

/-- The name of the type of a value. -/
def typeName : Value → String
  | none => "NoneType"
  | bool _ => "bool"
  | int _ => "int"
  | float _ => "float"
  | complex _ _ => "complex"
  | text _ => "str"
  | bytes .fixed _ => "bytes"
  | bytes .mutable _ => "bytearray"
  | bytes .view _ => "memoryview"
  | list _ => "list"
  | tuple _ => "tuple"
  | dict _ => "dict"
  | set false _ => "set"
  | set true _ => "frozenset"
  | record _ => "DC"
  | array _ => "ndarray"
  | literal l => l.typeName

/-! ## Keys -/

/-- Why a value cannot be built from its parts. -/
inductive KeyFault where
  /-- A value of this type cannot be a key of a dictionary or a member of a set. -/
  | unhashable (typeName : String)
  deriving DecidableEq, Repr

mutual

/-- The type of the first part of a value that keeps it from being a key, if any. -/
def unhashable? : Value → Option String
  | bytes .mutable _ => some "bytearray"
  | list _ => some "list"
  | dict _ => some "dict"
  | set false _ => some "set"
  | record _ => some "DC"
  | array _ => some "numpy.ndarray"
  | tuple items => unhashableIn? items
  | _ => Option.none

/-- The type of the first part of a list of values that keeps one from being a key. -/
def unhashableIn? : List Value → Option String
  | [] => Option.none
  | v :: rest => (unhashable? v).orElse fun _ => unhashableIn? rest

end

/-- The exact value of a finite number as numerator and denominator. -/
def exactOf : Binary64 → Option (Int × Nat)
  | .finite s m q _ =>
    let r := Binary64.ratio m q
    some (if s then -(r.1 : Int) else r.1, r.2)
  | _ => Option.none

/-- The exact value of a real number of any kind. -/
def exactValue? : Value → Option (Int × Nat)
  | bool b => some (if b then 1 else 0, 1)
  | int n => some (n, 1)
  | float x => exactOf x
  | complex re im => if im.isZero then exactOf re else Option.none
  | literal (.fraction f) => some (f.num, f.den)
  | literal (.decimal (.finite d)) =>
    let r := overPowerOfTen d.coefficient 1 (-d.exponent)
    some (if d.negative then -(r.1 : Int) else r.1, r.2)
  | _ => Option.none

/-- Two exact values are equal. -/
def sameExact (x y : Int × Nat) : Bool :=
  x.1 * y.2 == y.1 * x.2

/-- The sign of a real infinity of any kind. -/
def infinity? : Value → Option Bool
  | float (.infinite s) => some s
  | literal (.decimal (.infinite s)) => some s
  | _ => Option.none

/-- The value is not equal to itself. -/
def isUnequal : Value → Bool
  | literal (.decimal (.nan _)) => true
  | _ => false

mutual

/-- Two values are equal as keys.  Numbers of different kinds are equal if their values are. -/
def sameKey : Value → Value → Bool
  | none, none => true
  | text s, text t => s == t
  | bytes _ s, bytes _ t => s == t
  | tuple xs, tuple ys => sameKeys xs ys
  | set _ xs, set _ ys => xs.length == ys.length && allIn xs ys
  | literal l, v =>
    match exactValue? (literal l), exactValue? v with
    | some x, some y => sameExact x y
    | Option.none, Option.none =>
      match v with
      | literal k => l == k && !isUnequal v
      | _ => (infinity? v).isSome && infinity? v == infinity? (literal l)
    | _, _ => false
  | float x, v =>
    match exactOf x, exactValue? v with
    | some a, some b => sameExact a b
    | Option.none, Option.none =>
      (infinity? v).isSome && infinity? v == infinity? (float x)
    | _, _ => false
  | complex a b, complex c d => Binary64.eq a c && Binary64.eq b d
  | x, y =>
    match exactValue? x, exactValue? y with
    | some a, some b => sameExact a b
    | _, _ => false

/-- Two lists of values are equal as keys, one by one. -/
def sameKeys : List Value → List Value → Bool
  | [], [] => true
  | x :: xs, y :: ys => sameKey x y && sameKeys xs ys
  | _, _ => false

/-- Every value of the first list is equal as a key to one of the second. -/
def allIn : List Value → List Value → Bool
  | [], _ => true
  | x :: xs, ys => ys.any (sameKey x) && allIn xs ys

end

/-- Sets the value of a key: in its place if the key is known, at the end otherwise. -/
def setEntry (key value : Value) : List (Value × Value) → List (Value × Value)
  | [] => [(key, value)]
  | (k, v) :: rest =>
    if sameKey k key then (k, value) :: rest else (k, v) :: setEntry key value rest

/-- Adds a member unless it is known. -/
def addMember (member : Value) (members : List Value) : List Value :=
  if members.any (sameKey member) then members else members ++ [member]

/-- The entries of a dictionary given one after another. -/
def entriesOf (given : List (Value × Value)) : Except KeyFault (List (Value × Value)) :=
  given.foldlM (fun entries e =>
    match unhashable? e.1 with
    | some name => .error (.unhashable name)
    | Option.none => .ok (setEntry e.1 e.2 entries)) []

/-- The members of a set given one after another. -/
def membersOf (given : List Value) : Except KeyFault (List Value) :=
  given.foldlM (fun members v =>
    match unhashable? v with
    | some name => .error (.unhashable name)
    | Option.none => .ok (addMember v members)) []

/-- A value wrapped in lists of one item. -/
def nested : Nat → Value → Value
  | 0, v => v
  | n + 1, v => list [nested n v]

/-- The list of the first numbers from zero on. -/
def rangeList (n : Nat) : Value :=
  list ((List.range n).map fun (i : Nat) => int (i : Int))

end Value
end QueryAlgebra
