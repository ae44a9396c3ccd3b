import QueryAlgebra.Text.Blank
import QueryAlgebra.Text.WordCharacter

/-!
# The number of benches in a source text

A bench is defined at the start of a line by `def`, a space, a name that starts
with `bench_` and goes on, and an opening parenthesis.  Only a line feed ends a line here.
-/

namespace QueryAlgebra
namespace Audit
namespace BenchCount

/-- A text starts with the definition of a bench. -/
def startsBench (s : Text) : Bool :=
  let start := "def bench_".toList
  let name := s.drop start.length
  start.isPrefixOf s && (name.head?.any isWordCharacter) &&
    ((name.dropWhile isWordCharacter).dropWhile isBlank).head? == some '('

/-- The number of definitions in the rest of a text. -/
def countFrom : Bool → Text → Nat
  | _, [] => 0
  | lineStart, c :: rest =>
    (if lineStart && startsBench (c :: rest) then 1 else 0) + countFrom (c == '\n') rest

/-- The number of benches that a text defines. -/
def ofSource (source : Text) : Nat :=
  countFrom true source

end BenchCount
end Audit
end QueryAlgebra
