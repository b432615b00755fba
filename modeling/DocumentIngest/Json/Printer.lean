import DocumentIngest.Json
import DocumentIngest.Binary64.Decimal

/-!
# Printing JSON

`compact` writes a value on one line without blanks; `pretty` puts every item of
an array and every field of an object on a line of its own, two blanks deeper
than its parent.  Control characters are always escaped, so compact text holds
no line feed.
-/

namespace DocumentIngest

namespace Number

/-- The text of a number. -/
def render : Number → String
  | integer value => toString value
  | real value => documentStyle.render value

end Number

namespace Json

/-- A hexadecimal digit in lower case. -/
def hexDigit (value : Nat) : Char :=
  if value < 10 then Char.ofNat ('0'.toNat + value) else Char.ofNat ('a'.toNat + value - 10)

/-- A character inside a quoted text. -/
def escapeChar (c : Char) : List Char :=
  if c = '"' then ['\\', '"']
  else if c = '\\' then ['\\', '\\']
  else if c = '\n' then ['\\', 'n']
  else if c = '\r' then ['\\', 'r']
  else if c = '\t' then ['\\', 't']
  else if c.toNat = 8 then ['\\', 'b']
  else if c.toNat = 12 then ['\\', 'f']
  else if c.toNat < 32 then
    ['\\', 'u', '0', '0', hexDigit (c.toNat / 16), hexDigit (c.toNat % 16)]
  else [c]

/-- A text between quotes. -/
def quoted (text : String) : List Char :=
  '"' :: (text.toList.flatMap escapeChar ++ ['"'])

mutual

/-- The characters of a value on one line. -/
def compactChars : Json → List Char
  | null => "null".toList
  | bool true => "true".toList
  | bool false => "false".toList
  | number value => value.render.toList
  | string text => quoted text
  | array items => '[' :: compactItems items
  | object fields => '\x7b' :: compactFields fields

/-- The items of an array and its closing bracket. -/
def compactItems : List Json → List Char
  | [] => [']']
  | [item] => compactChars item ++ [']']
  | item :: next :: rest => compactChars item ++ ',' :: compactItems (next :: rest)

/-- The fields of an object and its closing brace. -/
def compactFields : List (String × Json) → List Char
  | [] => ['\x7d']
  | [(name, value)] => quoted name ++ ':' :: compactChars value ++ ['\x7d']
  | (name, value) :: next :: rest =>
      quoted name ++ ':' :: compactChars value ++ ',' :: compactFields (next :: rest)

end

/-- The text of a value on one line. -/
def compact (value : Json) : String :=
  String.ofList value.compactChars

/-- The start of a line at a nesting depth. -/
def indent (depth : Nat) : List Char :=
  '\n' :: List.replicate (2 * depth) ' '

mutual

/-- The characters of a value whose own line is at the given depth. -/
def prettyChars (depth : Nat) : Json → List Char
  | array [] => ['[', ']']
  | array (item :: rest) => '[' :: prettyItems depth (item :: rest)
  | object [] => ['\x7b', '\x7d']
  | object (entry :: rest) => '\x7b' :: prettyFields depth (entry :: rest)
  | null => "null".toList
  | bool true => "true".toList
  | bool false => "false".toList
  | number value => value.render.toList
  | string text => quoted text

/-- The items of an array, one a line, and its closing bracket. -/
def prettyItems (depth : Nat) : List Json → List Char
  | [] => indent depth ++ [']']
  | [item] => indent (depth + 1) ++ prettyChars (depth + 1) item ++ indent depth ++ [']']
  | item :: next :: rest =>
      indent (depth + 1) ++ prettyChars (depth + 1) item ++ ',' :: prettyItems depth (next :: rest)

/-- The fields of an object, one a line, and its closing brace. -/
def prettyFields (depth : Nat) : List (String × Json) → List Char
  | [] => indent depth ++ ['\x7d']
  | [(name, value)] =>
      indent (depth + 1) ++ quoted name ++ ':' :: ' ' :: prettyChars (depth + 1) value ++
        indent depth ++ ['\x7d']
  | (name, value) :: next :: rest =>
      indent (depth + 1) ++ quoted name ++ ':' :: ' ' :: prettyChars (depth + 1) value ++
        ',' :: prettyFields depth (next :: rest)

end

/-- The text of a value over several lines. -/
def pretty (value : Json) : String :=
  String.ofList (value.prettyChars 0)

end Json

end DocumentIngest
