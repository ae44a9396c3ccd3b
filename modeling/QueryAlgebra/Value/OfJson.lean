import QueryAlgebra.Json.Basic
import QueryAlgebra.Value.Shown

/-!
# JSON values as values

The value that a JSON value stands for, its type name and its readable text.
-/

namespace QueryAlgebra
namespace Json

mutual

/-- The value that a JSON value stands for. -/
def toValue : Json → Value
  | null => .none
  | bool b => .bool b
  | int n => .int n
  | float x => .float x
  | str s => .text s.toList
  | arr items => .list (toValues items)
  | obj fields => .dict (toEntries fields)

/-- The values of the items of an array. -/
def toValues : List Json → List Value
  | [] => []
  | item :: rest => toValue item :: toValues rest

/-- The fields of an object as entries. -/
def toEntries : List (String × Json) → List (Value × Value)
  | [] => []
  | (key, value) :: rest => (.text key.toList, toValue value) :: toEntries rest

end

/-- The value is a number that is not a number. -/
def isNaN : Json → Bool
  | float x => x.isNaN
  | _ => false

mutual

/--
Two values are the same.  Numbers of different kinds are the same if they are
equal, and the order of the fields of an object does not matter.
-/
def same : Json → Json → Bool
  | arr items, arr others => sameItems items others
  | obj fields, obj others => fields.length == others.length && sameFields fields others
  | a, b => (isNaN a && isNaN b) || a.toValue.sameKey b.toValue

/-- Two lists of values are the same one by one. -/
def sameItems : List Json → List Json → Bool
  | [], [] => true
  | a :: rest, b :: others => same a b && sameItems rest others
  | _, _ => false

/-- Every field of the first list has the same value in the second. -/
def sameFields : List (String × Json) → List (String × Json) → Bool
  | [], _ => true
  | (key, value) :: rest, others =>
    (match field? key others with
      | some other => same value other
      | none => false) && sameFields rest others

end

/-- The name of the type of a value. -/
def typeName (j : Json) : String :=
  j.toValue.typeName

/-- A value as it is read. -/
def readable (j : Json) : Text :=
  j.toValue.readable

end Json
end QueryAlgebra
