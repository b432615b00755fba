import DocumentIngest.Binary64.Decimal
import DocumentIngest.Text.Blank
import DocumentIngest.Text.Cutting
import DocumentIngest.Toml.Reader

/-!
# Settings in variables of the environment

The name of a variable says where its value belongs: behind a common beginning,
two underscores lead one object deeper.  Its value is a number, a truth value, a
text, or an array or object of such values; what is none of these is taken as
text, just as it stands.
-/

namespace DocumentIngest

namespace Variable

open Toml (Reading)

/-- How the names of variables that hold settings begin, in any letter case. -/
def mark : List Char := "INGX_".toList

/-- Puts a dot for every two underscores. -/
def dotted : List Char → List Char
  | '_' :: '_' :: rest => '.' :: dotted rest
  | character :: rest => character :: dotted rest
  | [] => []

/-- Where the value of a variable belongs, if it holds a setting. -/
def place? (name : String) : Option (List String) :=
  let name := Text.trim name.toList
  if (name.take mark.length).map Char.toUpper = mark then
    let steps := Text.splitOn '.' (Text.trim (dotted (name.drop mark.length)))
    if steps.any List.isEmpty then none
    else some (steps.map fun step => String.ofList (step.map Char.toLower))
  else none

def isSpace (character : Char) : Bool :=
  character == ' ' || character == '\t' || character == '\n'

def skipSpaces (text : List Char) : List Char :=
  text.dropWhile isSpace

/-- Whether a character may stand in a value without quotes. -/
def isPlain (character : Char) : Bool :=
  !"[],".toList.contains character && character != '\x7b' && character != '\x7d'

/-- An integer of 64 bits. -/
def integer? (text : List Char) : Option Json :=
  let (negative, digits) := Binary64.takeSign text
  if digits.isEmpty || !digits.all Char.isDigit then none
  else
    let magnitude := Toml.digitsValue 10 digits
    if negative then
      if magnitude ≤ 2 ^ 63 then some (.ofInt (-magnitude)) else none
    else if magnitude < 2 ^ 64 then some (.ofNat magnitude)
    else none

/-- A number with a point. -/
def real? (text : List Char) : Option Json :=
  if text.contains '.' then (Binary64.readDecimal text).map fun value => .number (.real value)
  else none

/-- A truth value. -/
def bool? (text : List Char) : Option Json :=
  if text = "true".toList then some (.bool true)
  else if text = "false".toList then some (.bool false)
  else none

/-- The value of a text without quotes. -/
def plainValue (text : List Char) : Json :=
  let text := Text.trim text
  (((real? text).or (integer? text)).or (bool? text)).getD (.string (String.ofList text))

/-- The name of a field of an object. -/
def readName (text : List Char) : Reading String :=
  match text with
  | '"' :: rest => Toml.readQuoted (rest.length + 1) [] rest
  | text =>
      let name := text.takeWhile Toml.isKeyChar
      if name.isEmpty then none else some (String.ofList name, text.dropWhile Toml.isKeyChar)

mutual

/-- A value with the blanks around it. -/
def readValue (fuel : Nat) (text : List Char) : Reading Json :=
  match fuel with
  | 0 => none
  | fuel + 1 =>
      let found : Reading Json :=
        match skipSpaces text with
        | '"' :: rest =>
            (Toml.readQuoted (rest.length + 1) [] rest).map fun (content, rest) =>
              (.string content, rest)
        | '[' :: rest => (readItems fuel [] rest).map fun (items, rest) => (.array items, rest)
        | '\x7b' :: rest =>
            (readFields fuel [] rest).map fun (fields, rest) => (.object fields, rest)
        | '\x27' :: rest =>
            match rest with
            | character :: '\x27' :: rest => some (.string character.toString, rest)
            | _ => none
        | text => some (plainValue (text.takeWhile isPlain), text.dropWhile isPlain)
      found.map fun (value, rest) => (value, skipSpaces rest)

/-- The items of an array up to its closing bracket. -/
def readItems (fuel : Nat) (taken : List Json) (text : List Char) : Reading (List Json) :=
  match fuel, text with
  | 0, _ => none
  | _, ']' :: rest => some (taken.reverse, rest)
  | fuel + 1, text =>
      match readValue fuel text with
      | some (item, ',' :: rest) => readItems fuel (item :: taken) rest
      | some (item, ']' :: rest) => some ((item :: taken).reverse, rest)
      | _ => none

/-- The fields of an object up to its closing brace. -/
def readFields (fuel : Nat) (taken : Json.Fields) (text : List Char) : Reading Json.Fields :=
  match fuel, text with
  | 0, _ => none
  | _, '\x7d' :: rest => some (taken, rest)
  | fuel + 1, text =>
      match readName (skipSpaces text) with
      | none => none
      | some (name, rest) =>
          match skipSpaces rest with
          | '=' :: rest =>
              match readValue fuel rest with
              | some (value, ',' :: rest) => readFields fuel (Keyed.insert taken name value) rest
              | some (value, '\x7d' :: rest) => some (Keyed.insert taken name value, rest)
              | _ => none
          | _ => none

end

/-- The value that the text of a variable stands for. -/
def ofText (text : String) : Json :=
  let characters := text.toList
  match readValue (2 * characters.length + 2) characters with
  | some (value, []) => value
  | _ => .string text

/-- A value at a place among fields. -/
def nested (value : Json) : List String → Json
  | [] => value
  | step :: rest => .object [(step, nested value rest)]

end Variable

end DocumentIngest
