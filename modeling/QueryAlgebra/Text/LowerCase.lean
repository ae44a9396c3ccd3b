import QueryAlgebra.Text.Blank
import QueryAlgebra.Text.Ranges
import QueryAlgebra.Text.LowerCase.Table
import QueryAlgebra.Text.LowerCase.Context

/-!
# Lower-casing

The full lower-casing of a text.  Every character has a small form of its own,
with two exceptions: the capital I with a dot becomes a small i followed by a
combining dot, and a capital sigma becomes the final small sigma when it ends a
word and the ordinary one elsewhere.
-/

namespace QueryAlgebra
namespace LowerCase

/-- The character is passed over when looking for the letters around a capital sigma. -/
def isIgnorable (c : Char) : Bool :=
  inRanges ignorableRanges c.toNat

/-- The character is a letter with case. -/
def isCased (c : Char) : Bool :=
  if c.toNat < 0x80 then c.isAlpha else inRanges casedRanges c.toNat

/-- The small form of a single character, taken without its neighbours. -/
def small (c : Char) : Char :=
  if c.toNat < 0x80 then c.toLower
  else
    match caseRuns.find? (fun r => r.covers c.toNat) with
    | some r => Char.ofNat ((c.toNat : Int) + r.shift).toNat
    | none => c

/-- A letter with case comes next, after any characters that are passed over. -/
def casedNext (rest : Text) : Bool :=
  match rest.dropWhile isIgnorable with
  | [] => false
  | c :: _ => isCased c

/-- Whether a letter with case stands before the text that follows a character. -/
def casedAfter (cased : Bool) (c : Char) : Bool :=
  if isIgnorable c then cased else isCased c

/--
The small form of a character in its place: `cased` says that a letter with
case stands before it, and `rest` is the text after it.
-/
def smallAt (cased : Bool) (rest : Text) (c : Char) : Text :=
  if c = 'Σ' then [if cased && !casedNext rest then 'ς' else 'σ']
  else if c = 'İ' then ['i', '̇']
  else [small c]

/-- The small form of a text that follows, or does not follow, a letter with case. -/
def lowerFrom (cased : Bool) : Text → Text
  | [] => []
  | c :: rest => smallAt cased rest c ++ lowerFrom (casedAfter cased c) rest

end LowerCase

/-- The small form of a text. -/
def Text.lower (s : Text) : Text :=
  LowerCase.lowerFrom false s

end QueryAlgebra
