import DocumentIngest.Template.Resolution

/-!
# Template trees

A template document is a JSON value whose texts are templates.  Resolving it at
a row gives a value of the same shape: a field whose text is missing is dropped
from its object, an array keeps `null` in its place.
-/

namespace DocumentIngest

/-- A JSON value with every text parsed. -/
inductive TemplateTree where
  | token (template : Token)
  | value (constant : Json)
  | object (fields : List (String × TemplateTree))
  | array (items : List TemplateTree)
deriving Repr, Inhabited

namespace TemplateTree

mutual

/-- Parses every text of a template document. -/
def compile : Json → Except TemplateError TemplateTree
  | .string template => (Token.ofTemplate template).map token
  | .object fields => (compileFields fields).map object
  | .array items => (compileItems items).map array
  | .null => .ok (value .null)
  | .bool flag => .ok (value (.bool flag))
  | .number number => .ok (value (.number number))

/-- Parses the fields of an object in order. -/
def compileFields : List (String × Json) → Except TemplateError (List (String × TemplateTree))
  | [] => .ok []
  | (name, child) :: rest => do
      let child ← compile child
      let rest ← compileFields rest
      .ok ((name, child) :: rest)

/-- Parses the items of an array in order. -/
def compileItems : List Json → Except TemplateError (List TemplateTree)
  | [] => .ok []
  | item :: rest => do
      let item ← compile item
      let rest ← compileItems rest
      .ok (item :: rest)

end

mutual

/-- The names of all handlers that a tree calls. -/
def handlerNames : TemplateTree → List String
  | token template => template.handlerNames
  | value _ => []
  | object fields => namesOfFields fields
  | array items => namesOfItems items

def namesOfFields : List (String × TemplateTree) → List String
  | [] => []
  | (_, child) :: rest => handlerNames child ++ namesOfFields rest

def namesOfItems : List TemplateTree → List String
  | [] => []
  | item :: rest => handlerNames item ++ namesOfItems rest

end

/-- The dotted path of a field below another path. -/
def childPath (path name : String) : String :=
  if path.isEmpty then name else path ++ "." ++ name

mutual

/-- Resolves a tree that stands at a dotted path.  Texts at the paths in
`optionally` tolerate missing pieces; the items of an array stand at the path of
the array. -/
def resolveAt (provided : List Handler) (context : RowContext) (optionally : List String)
    (path : String) : TemplateTree → Except TemplateError (Option Json)
  | value constant => .ok (some constant)
  | token template =>
      (template.resolve provided context (optionally.contains path)).map Resolved.toJson?
  | object fields =>
      (resolveFields provided context optionally path fields).map fun fields =>
        some (.object fields)
  | array items =>
      (resolveItems provided context optionally path items).map fun items =>
        some (.array items)

/-- Resolves the fields of an object, leaving out those that are missing. -/
def resolveFields (provided : List Handler) (context : RowContext) (optionally : List String)
    (path : String) : List (String × TemplateTree) → Except TemplateError Json.Fields
  | [] => .ok []
  | (name, child) :: rest => do
      let child ← resolveAt provided context optionally (childPath path name) child
      let rest ← resolveFields provided context optionally path rest
      match child with
      | some present => .ok ((name, present) :: rest)
      | none => .ok rest

/-- Resolves the items of an array, with `null` for those that are missing. -/
def resolveItems (provided : List Handler) (context : RowContext) (optionally : List String)
    (path : String) : List TemplateTree → Except TemplateError (List Json)
  | [] => .ok []
  | item :: rest => do
      let item ← resolveAt provided context optionally path item
      let rest ← resolveItems provided context optionally path rest
      .ok (item.getD .null :: rest)

end

/-- Resolves a whole tree at a row. -/
def resolve (provided : List Handler) (context : RowContext) (optionally : List String)
    (tree : TemplateTree) : Except TemplateError (Option Json) :=
  resolveAt provided context optionally "" tree

end TemplateTree

end DocumentIngest
