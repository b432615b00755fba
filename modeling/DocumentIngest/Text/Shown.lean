import DocumentIngest.Text.HiddenTable
import DocumentIngest.Json.Printer

/-!
# Values as messages show them

A message that complains about a value shows its structure: `Number(1)`,
`String("warm")`, `Object {"a": Null}`.  Texts stand between quotes, and a
character without a shape of its own is shown by its number.
-/

namespace DocumentIngest

namespace Shown

/-- Whether a character is shown by its number. -/
def isHidden (c : Char) : Bool :=
  let within (ranges : List (Nat × Nat)) : Bool :=
    ranges.any fun range => decide (range.1 ≤ c.toNat) && decide (c.toNat ≤ range.2)
  within Hidden.shapelessRanges || within Hidden.attachingRanges

/-- A character inside a quoted text. -/
def character (c : Char) : List Char :=
  if c = '"' then ['\\', '"']
  else if c = '\\' then ['\\', '\\']
  else if c = '\n' then ['\\', 'n']
  else if c = '\r' then ['\\', 'r']
  else if c = '\t' then ['\\', 't']
  else if c.toNat = 0 then ['\\', '0']
  else if 32 ≤ c.toNat ∧ c.toNat < 127 then [c]
  else if isHidden c then '\\' :: 'u' :: '\x7b' :: (Nat.toDigits 16 c.toNat ++ ['\x7d'])
  else [c]

/-- A text between quotes. -/
def text (content : String) : List Char :=
  '"' :: (content.toList.flatMap character ++ ['"'])

/-- Parts with a comma and a blank between them. -/
def separated : List (List Char) → List Char
  | [] => []
  | [part] => part
  | part :: next :: rest => part ++ ',' :: ' ' :: separated (next :: rest)

mutual

def json : Json → List Char
  | .null => "Null".toList
  | .bool true => "Bool(true)".toList
  | .bool false => "Bool(false)".toList
  | .number value => "Number(".toList ++ value.render.toList ++ [')']
  | .string content => "String(".toList ++ text content ++ [')']
  | .array values => "Array [".toList ++ separated (items values) ++ [']']
  | .object entries => "Object ".toList ++ '\x7b' :: separated (fields entries) ++ ['\x7d']

/-- Each item of an array. -/
def items : List Json → List (List Char)
  | [] => []
  | item :: rest => json item :: items rest

/-- Each field of an object with its name. -/
def fields : List (String × Json) → List (List Char)
  | [] => []
  | (name, value) :: rest => (text name ++ ':' :: ' ' :: json value) :: fields rest

end

/-- A list of parts between brackets. -/
def bracketed (parts : List (List Char)) : List Char :=
  '[' :: (separated parts ++ [']'])

end Shown

end DocumentIngest
