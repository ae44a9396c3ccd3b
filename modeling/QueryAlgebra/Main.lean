import QueryAlgebra.Dialogue

/-!
# The command line

Asks for one query on standard input and answers it on standard output.
-/

open QueryAlgebra in
/-- Runs one dialogue.  Input that is at its end is an error. -/
def main : IO UInt32 := do
  let output ← IO.getStdout
  output.putStr Dialogue.prompt
  output.flush
  let input ← (← IO.getStdin).getLine
  match Dialogue.reply? input.toList with
  | some reply =>
    output.putStr reply
    return 0
  | none =>
    IO.eprintln "EOF when reading a line"
    return 1
