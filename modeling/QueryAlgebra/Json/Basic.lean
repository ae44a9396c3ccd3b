import QueryAlgebra.Number.Written

/-!
# JSON values

JSON values with integers apart from other numbers, and with the fields of an
object in the order in which they were first given.
-/

namespace QueryAlgebra

/-- A JSON value. -/
inductive Json where
  | null
  | bool (b : Bool)
  | int (n : Int)
  | float (x : Binary64)
  | str (s : String)
  | arr (items : List Json)
  | obj (fields : List (String × Json))
  deriving Inhabited

namespace Json

/-- Sets a field: in its place if the object has it, at the end otherwise. -/
def setField (key : String) (value : Json) : List (String × Json) → List (String × Json)
  | [] => [(key, value)]
  | (k, v) :: rest => if k = key then (k, value) :: rest else (k, v) :: setField key value rest

/-- The value of a field. -/
def field? (key : String) : List (String × Json) → Option Json
  | [] => none
  | (k, v) :: rest => if k = key then some v else field? key rest

/-- The value of a field of an object, if the value is an object that has it. -/
def get? (key : String) : Json → Option Json
  | obj fields => field? key fields
  | _ => none

/-- The number that a value is, if it is one; truth values count as zero and one. -/
def number? : Json → Option Binary64
  | int n => some (.ofInt n)
  | float x => some x
  | bool b => some (.ofInt (if b then 1 else 0))
  | _ => none

/-- The value counts as empty: null, false, zero, or without any content. -/
def isEmpty : Json → Bool
  | null => true
  | bool b => !b
  | int n => n == 0
  | float x => x.isZero
  | str s => s.isEmpty
  | arr items => items.isEmpty
  | obj fields => fields.isEmpty

end Json
end QueryAlgebra
