import DocumentIngest.Toml.Item
import DocumentIngest.Toml.Scalar

/-!
# Reading TOML

A document is read line by line: a header, a key with its value, a comment, or
nothing.  The result is an object; a text that is no TOML document gives nothing.
-/

namespace DocumentIngest

namespace Toml

/-- How deeply values may lie in each other, and how many parts a key may have. -/
def deepest : Nat := 80

def isSpace (character : Char) : Bool :=
  character == ' ' || character == '\t'

def skipSpaces (text : List Char) : List Char :=
  text.dropWhile isSpace

/-- Whether a character may stand in comments and between quotes. -/
def isPrintable (character : Char) : Bool :=
  character == '\t' || (decide (32 ≤ character.toNat) && character.toNat != 127)

/-- The end of a line. -/
def readNewline (text : List Char) : Option (List Char) :=
  match text with
  | '\n' :: rest => some rest
  | '\r' :: '\n' :: rest => some rest
  | _ => none

/-- Skips a comment, if there is one. -/
def skipComment (text : List Char) : List Char :=
  match text with
  | '#' :: rest => rest.dropWhile isPrintable
  | rest => rest

/-- What may follow at the end of a line. -/
def readLineEnd (text : List Char) : Option (List Char) :=
  match skipComment (skipSpaces text) with
  | [] => some []
  | rest => readNewline rest

/-- Skips blanks, comments and line ends between the items of an array. -/
def skipLines (fuel : Nat) (text : List Char) : List Char :=
  match fuel with
  | 0 => text
  | fuel + 1 =>
      let rest := skipComment (skipSpaces text)
      match readNewline rest with
      | some rest => skipLines fuel rest
      | none => rest

/-- The character of a code in hexadecimal digits, if it is one. -/
def readCode (width : Nat) (text : List Char) : Reading Char :=
  let digits := text.take width
  if digits.length = width ∧ digits.all (isDigitIn 16) then
    let code := digitsValue 16 digits
    if code.isValidChar then some (Char.ofNat code, text.drop width) else none
  else none

/-- What stands behind a backslash. -/
def readEscape (text : List Char) : Reading Char :=
  match text with
  | 'b' :: rest => some ('\x08', rest)
  | 't' :: rest => some ('\t', rest)
  | 'n' :: rest => some ('\n', rest)
  | 'f' :: rest => some ('\x0c', rest)
  | 'r' :: rest => some ('\r', rest)
  | '"' :: rest => some ('"', rest)
  | '\\' :: rest => some ('\\', rest)
  | 'u' :: rest => readCode 4 rest
  | 'U' :: rest => readCode 8 rest
  | _ => none

/-- The rest of a text in quotes on one line. -/
def readQuoted (fuel : Nat) (taken text : List Char) : Reading String :=
  match fuel, text with
  | 0, _ => none
  | _, [] => none
  | _, '"' :: rest => some (String.ofList taken.reverse, rest)
  | fuel + 1, '\\' :: rest =>
      (readEscape rest).bind fun (character, rest) => readQuoted fuel (character :: taken) rest
  | fuel + 1, character :: rest =>
      if isPrintable character then readQuoted fuel (character :: taken) rest else none

/-- The rest of a text that stands for itself on one line. -/
def readLiteral (taken : List Char) : List Char → Reading String
  | [] => none
  | character :: rest =>
      if character = '\x27' then some (String.ofList taken.reverse, rest)
      else if isPrintable character then readLiteral (character :: taken) rest
      else none

/-- The end of a text over several lines: three quotes, with at most two more
before them that belong to the text. -/
def readClosing (quote : Char) (text : List Char) : Reading Nat :=
  let count := (text.takeWhile (· == quote)).length
  if count < 3 then none
  else
    let count := min count 5
    some (count - 3, text.drop count)

/-- Skips blanks and line ends. -/
def skipBlankLines (fuel : Nat) (text : List Char) : List Char :=
  match fuel with
  | 0 => text
  | fuel + 1 =>
      let rest := skipSpaces text
      match readNewline rest with
      | some rest => skipBlankLines fuel rest
      | none => rest

/-- The rest of a text over several lines; in quotes it has escapes, and a
backslash at the end of a line joins it to the next. -/
def readLong (quote : Char) (escapes : Bool) (fuel : Nat) (taken text : List Char) :
    Reading String :=
  match fuel, text with
  | 0, _ => none
  | _, [] => none
  | fuel + 1, character :: rest =>
      if character = quote then
        match readClosing quote text with
        | some (extra, rest) =>
            some (String.ofList (taken.reverse ++ List.replicate extra quote), rest)
        | none => readLong quote escapes fuel (character :: taken) rest
      else if escapes && character == '\\' then
        match readNewline (skipSpaces rest) with
        | some rest => readLong quote escapes fuel taken (skipBlankLines rest.length rest)
        | none =>
            (readEscape rest).bind fun (character, rest) =>
              readLong quote escapes fuel (character :: taken) rest
      else
        match readNewline text with
        | some rest => readLong quote escapes fuel ('\n' :: taken) rest
        | none =>
            if isPrintable character then readLong quote escapes fuel (character :: taken) rest
            else none

/-- A text over several lines, behind its opening quotes. -/
def readLongText (quote : Char) (escapes : Bool) (text : List Char) : Reading String :=
  let text := (readNewline text).getD text
  readLong quote escapes (text.length + 1) [] text

/-- A text on one line. -/
def readShortText (text : List Char) : Reading String :=
  match text with
  | '"' :: rest => readQuoted (rest.length + 1) [] rest
  | '\x27' :: rest => readLiteral [] rest
  | _ => none

/-- A text. -/
def readText (text : List Char) : Reading String :=
  match text with
  | '"' :: '"' :: '"' :: rest => readLongText '"' true rest
  | '\x27' :: '\x27' :: '\x27' :: rest => readLongText '\x27' false rest
  | text => readShortText text

/-- Whether a character may stand in a key without quotes. -/
def isKeyChar (character : Char) : Bool :=
  character.isAlphanum || character == '-' || character == '_'

/-- One part of a key. -/
def readKeyPart (text : List Char) : Reading String :=
  match readShortText text with
  | some found => some found
  | none =>
      let name := text.takeWhile isKeyChar
      if name.isEmpty then none else some (String.ofList name, text.dropWhile isKeyChar)

/-- A key: parts with dots between them.  It gives the parts before the last one,
and the last one. -/
def readKey (fuel : Nat) (before : List String) (text : List Char) :
    Reading (List String × String) :=
  match fuel with
  | 0 => none
  | fuel + 1 =>
      match readKeyPart text with
      | none => none
      | some (part, rest) =>
          match skipSpaces rest with
          | '.' :: next => readKey fuel (before ++ [part]) (skipSpaces next)
          | _ => some ((before, part), rest)

/-- A key with its equals sign. -/
def readAssignedKey (text : List Char) : Option ((List String × String) × List Char) := do
  let (key, rest) ← readKey deepest [] text
  let rest ← readChar '=' (skipSpaces rest)
  return (key, skipSpaces rest)

mutual

/-- A value. -/
def readValue (fuel depth : Nat) (text : List Char) : Reading Json :=
  match fuel, text with
  | 0, _ => none
  | fuel + 1, '[' :: rest =>
      if depth = 0 then none
      else
        (readItems fuel (depth - 1) [] rest).map fun (items, rest) => (.array items, rest)
  | fuel + 1, '\x7b' :: rest =>
      if depth = 0 then none
      else
        match skipSpaces rest with
        | '\x7d' :: rest => some (.object [], rest)
        | rest =>
            (readPairs fuel (depth - 1) [] rest).map fun (entries, rest) =>
              (.object (entriesToFields entries), rest)
  | _, text =>
      match text with
      | '"' :: _ => (readText text).map fun (content, rest) => (.string content, rest)
      | '\x27' :: _ => (readText text).map fun (content, rest) => (.string content, rest)
      | text => readScalar text

/-- The items of an array up to its closing bracket. -/
def readItems (fuel depth : Nat) (taken : List Json) (text : List Char) :
    Reading (List Json) :=
  match fuel with
  | 0 => none
  | fuel + 1 =>
      match skipLines text.length text with
      | ']' :: rest => some (taken.reverse, rest)
      | text =>
          match readValue fuel depth text with
          | none => none
          | some (item, rest) =>
              match skipLines rest.length rest with
              | ',' :: rest => readItems fuel depth (item :: taken) rest
              | ']' :: rest => some ((item :: taken).reverse, rest)
              | _ => none

/-- The entries of a table on one line up to its closing brace. -/
def readPairs (fuel depth : Nat) (entries : Entries) (text : List Char) : Reading Entries :=
  match fuel with
  | 0 => none
  | fuel + 1 =>
      match readAssignedKey (skipSpaces text) with
      | none => none
      | some ((path, key), rest) =>
          match readValue fuel depth rest with
          | none => none
          | some (content, rest) =>
              match addValue path key content .header entries with
              | none => none
              | some entries =>
                  match skipSpaces rest with
                  | ',' :: rest => readPairs fuel depth entries rest
                  | '\x7d' :: rest => some (entries, rest)
                  | _ => none

end

/-- A document so far: its tables, and the path that the last header named. -/
structure Draft where
  root : Entries := []
  current : List String := []

/-- A header behind its opening bracket. -/
def readHeader (draft : Draft) (text : List Char) : Option (Draft × List Char) :=
  match text with
  | '[' :: text => do
      let ((path, key), rest) ← readKey deepest [] (skipSpaces text)
      let rest ← readChar ']' (skipSpaces rest)
      let rest ← readChar ']' rest
      let root ← changeAt draft.root path (addTable key)
      return (⟨root, path ++ [key]⟩, rest)
  | text => do
      let ((path, key), rest) ← readKey deepest [] (skipSpaces text)
      let rest ← readChar ']' (skipSpaces rest)
      let root ← changeAt draft.root path (defineTable key)
      return (⟨root, path ++ [key]⟩, rest)

/-- A key with its value. -/
def readAssignment (draft : Draft) (text : List Char) : Option (Draft × List Char) := do
  let ((path, key), rest) ← readAssignedKey text
  let (content, rest) ← readValue (rest.length + 1) deepest rest
  let root ← changeAt draft.root draft.current (addValue path key content)
  return ({ draft with root }, rest)

/-- Reads line after line. -/
def readLines (fuel : Nat) (draft : Draft) (text : List Char) : Option Draft :=
  match fuel with
  | 0 => some draft
  | fuel + 1 =>
      let line : Reading Draft :=
        match skipSpaces text with
        | '[' :: rest => readHeader draft rest
        | rest =>
            match readLineEnd rest with
            | some _ => some (draft, rest)
            | none => readAssignment draft rest
      line.bind fun (draft, rest) =>
        (readLineEnd rest).bind fun rest =>
          if rest.isEmpty then some draft else readLines fuel draft rest

/-- The object that a TOML document describes. -/
def read? (text : String) : Option Json :=
  let characters :=
    match text.toList with
    | '\uFEFF' :: rest => rest
    | rest => rest
  (readLines (characters.length + 1) {} characters).map fun draft =>
    .object (entriesToFields draft.root)

end Toml

end DocumentIngest
