import QueryAlgebra.Query.Scan

/-!
# Clauses of a query

The clauses of a query in small letters: the projected columns between `select`
and `from`, the table after `from`, the tables after `join` with their conditions
after `on`, and the condition after `where`.  Each clause is looked for on its
own, so a query need not be well formed as a whole to have some of them.
-/

namespace QueryAlgebra
namespace Clause

open Scan

/-! ## Words and character classes -/

def selectWord : Text := ['s', 'e', 'l', 'e', 'c', 't']

def fromWord : Text := ['f', 'r', 'o', 'm']

def joinWord : Text := ['j', 'o', 'i', 'n']

def onWord : Text := ['o', 'n']

def whereWord : Text := ['w', 'h', 'e', 'r', 'e']

def groupWord : Text := ['g', 'r', 'o', 'u', 'p']

def orderWord : Text := ['o', 'r', 'd', 'e', 'r']

def byWord : Text := ['b', 'y']

/-- A character of a table name. -/
def isNameChar (c : Char) : Bool :=
  ('a' ≤ c && c ≤ 'z') || ('0' ≤ c && c ≤ '9') || c == '_'

/-- A character of a qualified column name. -/
def isQualifiedChar (c : Char) : Bool :=
  isNameChar c || c == '.'

/-- A character of a comparison operator. -/
def isOperatorChar (c : Char) : Bool :=
  c == '=' || c == '<' || c == '>' || c == '!'

/-! ## Projection -/

/-- What follows blanks and the word `from`. -/
def afterFrom (s : Text) : Option Text :=
  (afterBlanks s).bind (afterWord fromWord)

/-- Blanks and the word `from` come next. -/
def fromNext (s : Text) : Bool :=
  (afterFrom s).isSome

/-- The projected columns of a query: what stands in a line between `select` and `from`. -/
def projection (s : Text) : Option Text :=
  first (between selectWord fromNext) s

/-! ## Tables -/

/-- The table name after `from`, for a clause that starts here. -/
def sourceHere (s : Text) : Option Text := do
  let rest ← afterWord fromWord s
  let rest ← afterBlanks rest
  let (name, _) ← someRun isNameChar rest
  some name

/-- The table after the first `from` that a table name follows. -/
def source (s : Text) : Option Text :=
  first sourceHere s

/-- The table name after `join`, for a clause that starts here. -/
def joinedHere (s : Text) : Option (Text × Text) := do
  let rest ← afterWord joinWord s
  let rest ← afterBlanks rest
  someRun isNameChar rest

/-- The tables after `join`, with or without a condition. -/
def joined (s : Text) : List Text :=
  all joinedHere s

/-- A joined table and the comparison on which it is joined. -/
structure Join where
  table : Text
  condition : Text
  deriving DecidableEq, Repr

/-- A comparison of two qualified names at the start of a text. -/
def comparison (s : Text) : Option (Text × Text) := do
  let (left, rest) ← someRun isQualifiedChar s
  let (before, rest) := run isBlank rest
  let (operator, rest) ← someRun isOperatorChar rest
  let (after, rest) := run isBlank rest
  let (right, rest) ← someRun isQualifiedChar rest
  some (left ++ before ++ operator ++ after ++ right, rest)

/-- A joined table with its condition, for a clause that starts here. -/
def joinHere (s : Text) : Option (Join × Text) := do
  let (table, rest) ← joinedHere s
  let rest ← afterBlanks rest
  let rest ← afterWord onWord rest
  let rest ← afterBlanks rest
  let (condition, rest) ← comparison rest
  some (⟨table, condition⟩, rest)

/-- The tables that are joined on a condition. -/
def joins (s : Text) : List Join :=
  all joinHere s

/-! ## Condition -/

/-- The text goes on with blanks between the two words that open a later clause. -/
def opensWith (word : Text) (s : Text) : Bool :=
  (((afterWord word s).bind afterBlanks).bind (afterWord byWord)).isSome

/-- The text goes on with `group by` or `order by`. -/
def opensLater (s : Text) : Bool :=
  opensWith groupWord s || opensWith orderWord s

/--
A condition ends here: before blanks and a later clause, at the end, or before the
last line end.
-/
def conditionEnds (s : Text) : Bool :=
  ((afterBlanks s).any opensLater) || s.isEmpty || s == ['\n']

/-- The condition after the first `where` that has one. -/
def condition (s : Text) : Option Text :=
  first (between whereWord conditionEnds) s

/-! ## Shape of a whole query -/

/-- Blanks and then, within the same line as their last one or behind them, one more character. -/
def goesOn : Text → Bool
  | [] => false
  | c :: rest =>
    isBlank c && (rest.takeWhile isBlank).any (· != '\n') ||
      isBlank c && !(rest.dropWhile isBlank).isEmpty

/-- Blanks, the word `from`, blanks, and something more. -/
def fromFollows (s : Text) : Bool :=
  (afterFrom s).any goesOn

/-- At least one character within the line, and then `from` and something more. -/
def columnsThenFrom : Text → Bool
  | [] => false
  | c :: rest => c != '\n' && (upTo fromFollows rest).isSome

/-- One or more blanks, and then columns and `from`; the columns may begin among the blanks. -/
def blanksThenColumns : Text → Bool
  | [] => false
  | c :: rest => isBlank c && (columnsThenFrom rest || blanksThenColumns rest)

/-- The text has a `select` with something to project and a `from` with something behind it. -/
def wellFormed (s : Text) : Bool :=
  (first (fun t => (afterWord selectWord t).bind fun r =>
    if blanksThenColumns r then some () else none) s).isSome

end Clause
end QueryAlgebra
