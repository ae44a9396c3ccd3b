/-!
# Entries in order of first mention

Lists of keys with values in which a key keeps the place of its first mention
and has the value of its last.
-/

namespace QueryAlgebra
namespace Entries

variable {κ ν : Type} [DecidableEq κ]

/-- Sets the value of a key: in its place if it has one, at the end otherwise. -/
def set (key : κ) (value : ν) : List (κ × ν) → List (κ × ν)
  | [] => [(key, value)]
  | (k, v) :: rest => if k = key then (k, value) :: rest else (k, v) :: set key value rest

/-- The value of a key. -/
def get? (key : κ) : List (κ × ν) → Option ν
  | [] => none
  | (k, v) :: rest => if k = key then some v else get? key rest

/-- The entries that setting keys one after another gives. -/
def ofList (given : List (κ × ν)) : List (κ × ν) :=
  given.foldl (fun entries (key, value) => set key value entries) []

end Entries
end QueryAlgebra
