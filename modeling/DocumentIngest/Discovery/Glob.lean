/-!
# File patterns

A pattern stands for whole file names: a star for any text, a question mark for
one character, and everything else for itself.  Neither of the two stands for a
line feed.
-/

namespace DocumentIngest

/-- What one character of a file pattern stands for. -/
inductive GlobPart where
  | anyText
  | anyCharacter
  | exactly (character : Char)
deriving DecidableEq, Repr

/-- A file pattern, character by character. -/
abbrev Glob := List GlobPart

namespace GlobPart

def ofChar : Char → GlobPart
  | '*' => anyText
  | '?' => anyCharacter
  | character => exactly character

/-- Whether a star or a question mark stands for a character. -/
def isOrdinary (character : Char) : Bool :=
  character != '\n'

/-- The characters that a regular expression would read as more than
themselves. -/
def special : List Char :=
  ['\\', '.', '+', '*', '?', '(', ')', '|', '[', ']', '\x7b', '\x7d', '^', '$', '#', '&', '-', '~']

/-- The part as a regular expression. -/
def regexChars : GlobPart → List Char
  | anyText => ['.', '*']
  | anyCharacter => ['.']
  | exactly character =>
      if special.contains character then ['\\', character] else [character]

/-- For every suffix of a name, from the whole name to the empty one, whether
this part and those after it stand for it; `later` says so for the parts after
it alone. -/
def matchSuffixes (part : GlobPart) : List Char → List Bool → List Bool
  | [], later =>
      match part with
      | anyText => [later.headD false]
      | _ => [false]
  | character :: rest, later =>
      let shorter := matchSuffixes part rest later.tail
      let fits :=
        match part with
        | anyText => later.headD false || (isOrdinary character && shorter.headD false)
        | anyCharacter => isOrdinary character && later.tail.headD false
        | exactly expected => character == expected && later.tail.headD false
      fits :: shorter

end GlobPart

namespace Glob

def ofPattern (pattern : String) : Glob :=
  pattern.toList.map GlobPart.ofChar

/-- The pattern as a regular expression that is anchored at both ends. -/
def regex (glob : Glob) : String :=
  String.ofList ('^' :: glob.flatMap GlobPart.regexChars ++ ['$'])

/-- For every suffix of a name whether a pattern stands for it. -/
def matchSuffixes (name : List Char) : Glob → List Bool
  | [] => List.replicate name.length false ++ [true]
  | part :: rest => part.matchSuffixes name (matchSuffixes name rest)

/-- Whether a pattern stands for a whole name. -/
def matchesName (glob : Glob) (name : String) : Bool :=
  (matchSuffixes name.toList glob).headD false

end Glob

end DocumentIngest
