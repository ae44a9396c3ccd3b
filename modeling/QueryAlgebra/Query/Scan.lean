import QueryAlgebra.Text.Blank

/-!
# Scanning a text

Recognisers look at the start of a text and say what they found there and what
follows it.  A search tries a recogniser at every place of a text from left to
right; a repeated search goes on behind each find.
-/

namespace QueryAlgebra
namespace Scan

/-- What follows a given word at the start of a text. -/
def afterWord : Text → Text → Option Text
  | [], s => some s
  | _ :: _, [] => none
  | w :: word, c :: rest => if w = c then afterWord word rest else none

/-- What follows the blanks at the start of a text, of which there must be one or more. -/
def afterBlanks : Text → Option Text
  | [] => none
  | c :: rest => if isBlank c then some (rest.dropWhile isBlank) else none

/-- The longest run of characters of a class at the start of a text, and what follows it. -/
def run (p : Char → Bool) (s : Text) : Text × Text :=
  (s.takeWhile p, s.dropWhile p)

/-- As `run`, where the run must not be empty. -/
def someRun (p : Char → Bool) (s : Text) : Option (Text × Text) :=
  if (s.takeWhile p).isEmpty then none else some (run p s)

/-- The shortest text within a line behind which a test holds. -/
def upTo (stops : Text → Bool) : Text → Option Text
  | [] => if stops [] then some [] else none
  | c :: rest =>
    if stops (c :: rest) then some []
    else if c = '\n' then none
    else (upTo stops rest).map (c :: ·)

/--
What stands in a line between a word with its blanks and the place where a test
holds.  The blanks after the word belong to no find; only if nothing else can be
read, the last of two or more blanks stands between the empty text and its end.
-/
def between (word : Text) (stops : Text → Bool) (s : Text) : Option Text := do
  let rest ← afterWord word s
  let text ← afterBlanks rest
  match upTo stops text with
  | some found => some found
  | none =>
    if 2 ≤ (rest.takeWhile isBlank).length && stops (' ' :: text) then some []
    else none

/-- The find at the leftmost place where a recogniser succeeds. -/
def first {α : Type} (f : Text → Option α) : Text → Option α
  | [] => f []
  | c :: rest =>
    match f (c :: rest) with
    | some a => some a
    | none => first f rest

/--
The finds of a repeated search in a text, where the first `covered` characters
still belong to the find before.
-/
def allFrom {α : Type} (f : Text → Option (α × Text)) : Nat → Text → List α
  | _, [] => []
  | covered + 1, _ :: rest => allFrom f covered rest
  | 0, c :: rest =>
    match f (c :: rest) with
    | some (a, after) => a :: allFrom f (rest.length - after.length) rest
    | none => allFrom f 0 rest

/-- The finds of a repeated search, each behind the one before. -/
def all {α : Type} (f : Text → Option (α × Text)) (s : Text) : List α :=
  allFrom f 0 s

end Scan
end QueryAlgebra
