/-!
# Failures

How a bench, or loading the benches, can fail.
-/

namespace QueryAlgebra
namespace Audit

/--
A failure of a kind with a message.  A fatal failure ends the audit; any other
is reported and the audit goes on.
-/
structure Failure where
  kind : String
  message : String
  fatal : Bool
  deriving DecidableEq, Repr

namespace Failure

/-- The kind and the message. -/
def text (f : Failure) : String :=
  f.kind ++ ": " ++ f.message

/-- The kind in angle brackets, which stands where a result would. -/
def mark (f : Failure) : String :=
  "<" ++ f.kind ++ ">"

/-- A result, or its replacement after a failure that is not fatal. -/
def recover {α : Type} (replacement : Failure → α) : Except Failure α → Except Failure α
  | .ok a => .ok a
  | .error f => if f.fatal then .error f else .ok (replacement f)

end Failure
end Audit
end QueryAlgebra
