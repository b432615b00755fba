import DocumentIngest.Text.Cutting

/-!
# Paths

A path is text with slashes.  It is looked at through its parts: repeated
slashes and inner dots do not count, and two paths with the same parts are the
same path.
-/

namespace DocumentIngest

/-- One part of a path. -/
inductive PathPart where
  | root
  /-- A dot at the very start. -/
  | here
  | parent
  | name (text : String)
deriving DecidableEq, Repr

namespace PathPart

/-- The kind of a part, in the order in which parts are compared. -/
def rank : PathPart → Nat
  | root => 0
  | here => 1
  | parent => 2
  | name _ => 3

/-- The text of a part that is a name. -/
def text : PathPart → String
  | name text => text
  | _ => ""

/-- Whether a part comes strictly before another one. -/
def before (first second : PathPart) : Bool :=
  decide (first.rank < second.rank) ||
    (decide (first.rank = second.rank) && decide (first.text < second.text))

end PathPart

namespace Path

/-- The part that a segment between slashes stands for, if it counts. -/
def partOfSegment (segment : List Char) : Option PathPart :=
  match segment with
  | [] => none
  | ['.'] => none
  | ['.', '.'] => some .parent
  | name => some (.name (String.ofList name))

/-- The parts of a path. -/
def parts (path : String) : List PathPart :=
  let segments := Text.splitOn '/' path.toList
  let rest := segments.filterMap partOfSegment
  match segments with
  | [] :: _ :: _ => .root :: rest
  | ['.'] :: _ => .here :: rest
  | _ => rest

/-- Whether a list of parts comes strictly before another one. -/
def partsBefore : List PathPart → List PathPart → Bool
  | [], [] => false
  | [], _ :: _ => true
  | _ :: _, [] => false
  | first :: firstRest, second :: secondRest =>
      if first = second then partsBefore firstRest secondRest else first.before second

/-- Whether a path comes strictly before another one, part by part. -/
def before (first second : String) : Bool :=
  partsBefore (parts first) (parts second)

/-- The name that a path ends in, if it ends in one. -/
def fileName? (path : String) : Option String :=
  match (parts path).getLast? with
  | some (.name text) => some text
  | _ => none

/-- The name that a path ends in, or the whole path. -/
def fileName (path : String) : String :=
  (fileName? path).getD path

/-- Cuts a name at its last dot; a dot at the start does not count. -/
def cutAtLastDot (name : String) : String × Option String :=
  let reversed := name.toList.reverse
  match Text.cutAt '.' reversed with
  | (_, none) => (name, none)
  | (_, some []) => (name, none)
  | (behind, some before) =>
      (String.ofList before.reverse, some (String.ofList behind.reverse))

/-- The name that a path ends in, without its last extension. -/
def fileStem (path : String) : String :=
  match fileName? path with
  | some name => (cutAtLastDot name).1
  | none => path

/-- The extension of the name that a path ends in. -/
def extension? (path : String) : Option String :=
  (fileName? path).bind fun name => (cutAtLastDot name).2

/-- A name inside a directory. -/
def join (directory name : String) : String :=
  if directory.isEmpty then name
  else if directory.toList.getLast? = some '/' then directory ++ name
  else directory ++ "/" ++ name

end Path

end DocumentIngest
