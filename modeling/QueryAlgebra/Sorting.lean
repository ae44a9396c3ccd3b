/-!
# Sorting

A stable sort that is determined by the comparisons it makes, so that it also has
a definite result where some elements compare with none, as a number that is not
a number does.  The first run of the list is kept, or reversed if it falls, and
each further element is inserted at the place that halving finds for it.
-/

namespace QueryAlgebra
namespace Sorting

variable {α : Type}

/-- The elements that continue a run after its last one, and what follows them. -/
def run (continues : α → α → Bool) : α → List α → List α × List α
  | _, [] => ([], [])
  | last, x :: rest =>
    if continues last x then
      let (more, after) := run continues x rest
      (x :: more, after)
    else ([], x :: rest)

/-- The place between two places of a sorted list at which an element is inserted. -/
def place (before : α → α → Bool) (x : α) (sorted : List α) (low high : Nat) : Nat :=
  if low < high then
    let middle := low + (high - low) / 2
    match sorted[middle]? with
    | some y =>
      if before x y then place before x sorted low middle
      else place before x sorted (middle + 1) high
    | none => low
  else low
termination_by high - low

/-- Inserts an element into a sorted list. -/
def insert (before : α → α → Bool) (sorted : List α) (x : α) : List α :=
  let index := place before x sorted 0 sorted.length
  sorted.take index ++ x :: sorted.drop index

/-- The list in the order in which no element comes before one in front of it. -/
def sort (before : α → α → Bool) : List α → List α
  | [] => []
  | [x] => [x]
  | x :: y :: rest =>
    let falls := before y x
    let (first, more) := run (fun last next => before next last == falls) x (y :: rest)
    more.foldl (insert before) (if falls then (x :: first).reverse else x :: first)

end Sorting
end QueryAlgebra
