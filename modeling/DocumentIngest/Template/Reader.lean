import DocumentIngest.Template.Token
import DocumentIngest.Text.Cutting

/-!
# Reading templates

A template text is cut at its colons.  A segment that starts with `&` is the
head of a call, and all segments behind it are the parts of that call; every
other segment is a piece of its own.
-/

namespace DocumentIngest

/-- Why a text is not a template. -/
inductive TemplateFlaw where
  | unnamedFunction
  | unnamedVariable
  | nestedFunction
deriving DecidableEq, Repr

namespace TemplateFlaw

def message : TemplateFlaw → String
  | unnamedFunction => "a function marker must be followed by a handler name"
  | unnamedVariable => "a variable marker must be followed by a name"
  | nestedFunction => "functions cannot be nested inside an argument list; use a sub-token"

end TemplateFlaw

namespace Token

/-- A constant or a field. -/
def ofAtom : List Char → Except TemplateFlaw Token
  | ['*'] => .error .unnamedVariable
  | '*' :: name => .ok (field (String.ofList name))
  | text => .ok (literal (String.ofList text))

/-- One argument of a call. -/
def ofArgument : List Char → Except TemplateFlaw Token
  | '&' :: _ => .error .nestedFunction
  | text => ofAtom text

/-- The name and arguments in the head of a call, behind its marker. -/
def ofHead (head : List Char) : Except TemplateFlaw (String × List Token) := do
  let (name, arguments) := Text.cutAt '|' head
  if name.isEmpty then .error .unnamedFunction
  else
    match arguments with
    | none => .ok (String.ofList name, [])
    | some [] => .ok (String.ofList name, [])
    | some list => do
        let arguments ← (Text.splitOn ',' list).mapM ofArgument
        .ok (String.ofList name, arguments)

/-- The pieces of the segments between colons.  A colon with nothing behind it
directly after the head of a call adds no part. -/
def ofSegments : List (List Char) → Except TemplateFlaw (List Token)
  | [] => .ok []
  | ('&' :: head) :: rest => do
      let (name, arguments) ← ofHead head
      let parts ← if rest = [[]] then .ok [] else ofSegments rest
      .ok [call name arguments parts]
  | segment :: rest => do
      let piece ← ofAtom segment
      let pieces ← ofSegments rest
      .ok (piece :: pieces)

/-- The token of a template text. -/
def parse (template : String) : Except TemplateFlaw Token := do
  match ← ofSegments (Text.splitOn ':' template.toList) with
  | [piece] => .ok piece
  | pieces => .ok (composite pieces)

end Token

end DocumentIngest
