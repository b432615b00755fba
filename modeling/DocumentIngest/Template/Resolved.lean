import DocumentIngest.Text.Blank
import DocumentIngest.Text.Shown

/-!
# Resolved values

What a token stands for at a row: nothing, a single value, or a list.  Nothing is
never the same as zero or an empty text.
-/

namespace DocumentIngest

/-- The result of resolving a token. -/
inductive Resolved where
  | missing
  | scalar (value : Json)
  | list (values : List Json)
deriving DecidableEq, Repr, Inhabited

namespace Resolved

/-- Lifts a value: `null` is missing, and an array is a list. -/
def ofJson : Json → Resolved
  | .null => missing
  | .array items => list items
  | value => scalar value

/-- Lifts a value that may be absent. -/
def ofOption : Option Json → Resolved
  | none => missing
  | some value => ofJson value

/-- A number; one that is not finite is missing. -/
def ofBinary64 (value : Binary64) : Resolved :=
  if value.isFinite then scalar (.number (.real value)) else missing

def ofText (text : String) : Resolved :=
  scalar (.string text)

def isMissing : Resolved → Bool
  | missing => true
  | _ => false

/-- The finite number that a value holds, as a number or as text. -/
def asBinary64? : Resolved → Option Binary64
  | scalar (.number value) =>
      if value.toBinary64.isFinite then some value.toBinary64 else none
  | scalar (.string text) =>
      (Binary64.readDecimal (Text.trim text.toList)).bind fun value =>
        if value.isFinite then some value else none
  | _ => none

/-- The text of a value inside a key: texts, numbers and truth values have one. -/
def asKey? : Resolved → Option String
  | scalar (.string text) => some text
  | scalar (.number value) => some value.render
  | scalar (.bool value) => some (if value then "true" else "false")
  | _ => none

/-- Back to a value; missing has none. -/
def toJson? : Resolved → Option Json
  | missing => none
  | scalar value => some value
  | list values => some (.array values)

/-- A value as messages show it. -/
def shown : Resolved → String
  | missing => "Missing"
  | scalar value => String.ofList ("Scalar(".toList ++ Shown.json value ++ [')'])
  | list values =>
      String.ofList ("List(".toList ++ Shown.bracketed (Shown.items values) ++ [')'])

end Resolved

end DocumentIngest
