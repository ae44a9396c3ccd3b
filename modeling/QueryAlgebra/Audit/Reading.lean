import QueryAlgebra.Audit.Failure
import QueryAlgebra.Entries
import QueryAlgebra.Json.Parser
import QueryAlgebra.Text.Lines
import QueryAlgebra.Value.OfJson

/-!
# Reading reports

A report is a JSON text, of which the parts are expected but not certain to have
their usual form.  A runner is a child program whose last line of output is a
report.
-/

namespace QueryAlgebra
namespace Audit

/-- What became of a child program. -/
inductive Child where
  | finished (stdout stderr : Text) (code : Int)
  | failed (f : Failure)

namespace Reading

/-- Why a text, or a part of what it stands for, cannot be used. -/
inductive Fault where
  /-- The runner itself failed. -/
  | failed (f : Failure)
  /-- The text is no JSON text. -/
  | unreadable (whole : Text) (r : Json.Refusal)
  /-- A field is looked up in what is no object. -/
  | noField (found : Json) (name : String)
  /-- The text stands for no number. -/
  | noNumeral (s : Text)
  /-- The value stands for no number. -/
  | noNumber (found : Json)
  /-- The text stands for no whole number. -/
  | noWholeNumeral (s : Text)
  /-- The value stands for no whole number. -/
  | noWholeNumber (found : Json)
  /-- The number has no whole part. -/
  | noWholePart (x : Binary64)
  /-- The whole number is too large. -/
  | tooLarge
  /-- The value has no items. -/
  | noItems (found : Json)
  /-- The items of the value cannot be counted. -/
  | noLength (found : Json)
  /-- The value cannot be an entry since it has no items. -/
  | noEntry (index : Nat)
  /-- The value cannot be an entry since it has too few or too many items. -/
  | entryOf (index count : Nat)
  /-- The value is no pair since it has no items. -/
  | noPair (found : Json)
  /-- The value is no pair since it has too few or too many items. -/
  | pairOf (count : Nat)
  /-- The value has no place to look at. -/
  | noPlace (found : Json)
  /-- The fields of an object have no first ones. -/
  | noStart
  /-- The place is behind the last item. -/
  | noItemAt (found : Json) (place : Nat)
  /-- The value can be no key. -/
  | noKey (found : Json)
  /-- The value cannot be shown as a number. -/
  | notShown (found : Json)

namespace Fault

/-- The word for the kind of a fault. -/
def kind : Fault → String
  | failed f => f.kind
  | unreadable _ _ => "JSONDecodeError"
  | noField _ _ => "AttributeError"
  | noNumeral _ => "ValueError"
  | noNumber _ => "TypeError"
  | noWholeNumeral _ => "ValueError"
  | noWholeNumber _ => "TypeError"
  | noWholePart x => if x.isNaN then "ValueError" else "OverflowError"
  | tooLarge => "OverflowError"
  | noItems _ => "TypeError"
  | noLength _ => "TypeError"
  | noEntry _ => "TypeError"
  | entryOf _ _ => "ValueError"
  | noPair _ => "TypeError"
  | pairOf _ => "ValueError"
  | noPlace _ => "TypeError"
  | noStart => "TypeError"
  | noItemAt (.obj _) _ => "KeyError"
  | noItemAt _ _ => "IndexError"
  | noKey _ => "TypeError"
  | notShown (.str _) => "ValueError"
  | notShown _ => "TypeError"

/-- The wording of a fault. -/
def message : Fault → Text
  | failed f => f.message.toList
  | unreadable whole r => (r.message whole).toList
  | noField found name =>
    ("'" ++ found.typeName ++ "' object has no attribute '" ++ name ++ "'").toList
  | noNumeral s => "could not convert string to float: ".toList ++ Text.quoted s
  | noNumber found =>
    ("float() argument must be a string or a real number, not '" ++ found.typeName ++ "'").toList
  | noWholeNumeral s => "invalid literal for int() with base 10: ".toList ++ Text.quoted s
  | noWholeNumber found =>
    ("int() argument must be a string, a bytes-like object or a real number, not '" ++
      found.typeName ++ "'").toList
  | noWholePart x =>
    ("cannot convert float " ++ (if x.isNaN then "NaN" else "infinity") ++ " to integer").toList
  | tooLarge => "int too large to convert to float".toList
  | noItems found => ("'" ++ found.typeName ++ "' object is not iterable").toList
  | noLength found => ("object of type '" ++ found.typeName ++ "' has no len()").toList
  | noEntry index =>
    "cannot convert dictionary update sequence element #".toList ++ decimalDigits index ++
      " to a sequence".toList
  | entryOf index count =>
    "dictionary update sequence element #".toList ++ decimalDigits index ++ " has length ".toList ++
      decimalDigits count ++ "; 2 is required".toList
  | noPair found => ("cannot unpack non-iterable " ++ found.typeName ++ " object").toList
  | pairOf count =>
    if 2 < count then "too many values to unpack (expected 2)".toList
    else "not enough values to unpack (expected 2, got ".toList ++ decimalDigits count ++ [')']
  | noPlace found => ("'" ++ found.typeName ++ "' object is not subscriptable").toList
  | noStart => "unhashable type: 'slice'".toList
  | noItemAt (.obj _) place => decimalDigits place
  | noItemAt (.str _) _ => "string index out of range".toList
  | noItemAt _ _ => "list index out of range".toList
  | noKey found => ("unhashable type: '" ++ found.typeName ++ "'").toList
  | notShown (.str _) => "Unknown format code 'f' for object of type 'str'".toList
  | notShown found =>
    ("unsupported format string passed to " ++ found.typeName ++ ".__format__").toList

/-- The kind and the wording of a fault. -/
def text (fault : Fault) : Text :=
  fault.kind.toList ++ ": ".toList ++ fault.message

end Fault

/-! ## Numbers -/

/-- The number that a value is or that its text stands for. -/
def number : Json → Except Fault Binary64
  | .int n =>
    match Binary64.ofInt n with
    | .infinite _ => .error .tooLarge
    | x => .ok x
  | .float x => .ok x
  | .bool b => .ok (.ofInt (if b then 1 else 0))
  | .str s =>
    match NumberReader.binary64? s.toList with
    | some x => .ok x
    | none => .error (.noNumeral s.toList)
  | other => .error (.noNumber other)

/-- The whole number that a value is, that its text stands for, or that is its whole part. -/
def wholeNumber : Json → Except Fault Int
  | .int n => .ok n
  | .bool b => .ok (if b then 1 else 0)
  | .float x =>
    match x.truncate? with
    | some n => .ok n
    | none => .error (.noWholePart x)
  | .str s =>
    match NumberReader.integer? s.toList with
    | some n => .ok n
    | none => .error (.noWholeNumeral s.toList)
  | other => .error (.noWholeNumber other)

/-- The number that a value is, for being shown. -/
def shown (j : Json) : Except Fault Binary64 :=
  if j.number?.isSome then number j else .error (.notShown j)

/-! ## Parts of a value -/

/-- The fields of an object; an empty value has none. -/
def fields (use : String) : Json → Except Fault (List (String × Json))
  | .obj found => .ok found
  | other => if other.isEmpty then .ok [] else .error (.noField other use)

/-- A field of an object; a missing field is null. -/
def field (key : String) : Json → Except Fault Json
  | .obj found => .ok ((Json.field? key found).getD .null)
  | other => .error (.noField other "get")

/-- The numbers of the fields of an object, by name. -/
def numbers (found : List (String × Json)) : Except Fault (List (String × Binary64)) :=
  found.mapM fun (name, value) => (number value).map fun x => (name, x)

/-- The items of a value: of an array, of a text its characters, of an object its keys. -/
def items? : Json → Option (List Json)
  | .arr found => some found
  | .str s => some (s.toList.map fun c => .str (String.ofList [c]))
  | .obj found => some (found.map fun (key, _) => .str key)
  | _ => none

/-- The number of items of a value; an empty value has none. -/
def length (j : Json) : Except Fault Nat :=
  if j.isEmpty then .ok 0
  else
    match items? j with
    | some found => .ok found.length
    | none => .error (.noLength j)

/-- The items of a value in their order; an empty value has none. -/
def listed (j : Json) : Except Fault (List Json) :=
  if j.isEmpty then .ok []
  else
    match j, items? j with
    | .obj _, _ => .error .noStart
    | _, some found => .ok found
    | _, none => .error (.noPlace j)

/-- The two items of a pair. -/
def pair (j : Json) : Except Fault (Json × Json) :=
  match items? j with
  | none => .error (.noPair j)
  | some [a, b] => .ok (a, b)
  | some found => .error (.pairOf found.length)

/-- The item at a place; the keys of an object are no places. -/
def itemAt (place : Nat) (j : Json) : Except Fault Json :=
  match j, items? j with
  | .obj _, _ => .error (.noItemAt j place)
  | _, none => .error (.noPlace j)
  | _, some found =>
    match found[place]? with
    | some item => .ok item
    | none => .error (.noItemAt j place)

/-! ## Keys -/

/-- A value that can be a key. -/
def key (j : Json) : Except Fault Json :=
  match j with
  | .arr _ => .error (.noKey j)
  | .obj _ => .error (.noKey j)
  | _ => .ok j

/-- The values of a list that differ from those before them; all have to be keys. -/
def distinct : List Json → Except Fault (List Json)
  | [] => .ok []
  | j :: rest =>
    (key j).bind fun k =>
      (distinct rest).map fun more => k :: more.filter fun other => !k.same other

/-- Entries by their keys, from pairs from the one at an index on; only texts are looked up. -/
def entriesFrom (index : Nat) (known : List (String × Json)) :
    List Json → Except Fault (List (String × Json))
  | [] => .ok known
  | j :: rest =>
    match items? j with
    | none => .error (.noEntry index)
    | some [name, value] =>
      (key name).bind fun k =>
        match k with
        | .str s => entriesFrom (index + 1) (Entries.set s value known) rest
        | _ => entriesFrom (index + 1) known rest
    | some found => .error (.entryOf index found.length)

/-- The entries of an object or of a list of pairs; an empty value has none. -/
def entries (j : Json) : Except Fault (List (String × Json)) :=
  if j.isEmpty then .ok []
  else
    match j, items? j with
    | .obj found, _ => .ok found
    | _, some found => entriesFrom 0 [] found
    | _, none => .error (.noItems j)

/-! ## Runners -/

/-- The last line of what a runner wrote, unless it is empty. -/
def lastLine (out : Text) : Option Text :=
  match (Text.lines out).getLast? with
  | some [] => none
  | found => found

/-- What was read from a runner, and what is written to the error output about it. -/
structure Result (α : Type) where
  found : α
  stderr : Text

/-- The report of a runner's fault. -/
def complaint (runner : String) (fault : Fault) : Text :=
  ('[' :: runner.toList) ++ " runner: ".toList ++ fault.text ++ "]\n".toList

/--
Reads the last line of a runner; a runner that wrote nothing found nothing.  What
was read before a fault is kept.
-/
def ofChild {α : Type} (runner : String) (read : Json → α × Option Fault) (nothing : α) :
    Child → Result α
  | .failed f => ⟨nothing, complaint runner (.failed f)⟩
  | .finished stdout stderr _ =>
    match lastLine stdout with
    | none => ⟨nothing, stderr⟩
    | some line =>
      match Json.parse line with
      | .error r => ⟨nothing, stderr ++ complaint runner (.unreadable line r)⟩
      | .ok report =>
        match read report with
        | (found, none) => ⟨found, stderr⟩
        | (found, some fault) => ⟨found, stderr ++ complaint runner fault⟩

end Reading
end Audit
end QueryAlgebra
