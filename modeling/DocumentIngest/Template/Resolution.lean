import DocumentIngest.Template.Reader
import DocumentIngest.Template.Handler

/-!
# Resolving tokens

A token is resolved at a row: a constant to its text, a field to its value, a
call to what the handler gives for its resolved inputs, and a composite to the
key texts of its pieces with colons between them.  A missing piece makes the
whole composite missing, unless the composite is optional: then it counts as
empty text.
-/

namespace DocumentIngest

/-- Why a template is not usable, or does not resolve at a row. -/
inductive TemplateError where
  | malformed (template : String) (flaw : TemplateFlaw)
  | unknownHandler (name : String)
  | handler (name : String) (fault : HandlerFault)
  /-- A list stands where a key text is needed. -/
  | listInKey (piece : Token)
  /-- A value without a key text stands where one is needed. -/
  | noKeyText (piece : Token)
deriving Repr

namespace TemplateError

def message : TemplateError → String
  | malformed template flaw => "💀 malformed template '" ++ template ++ "': " ++ flaw.message
  | unknownHandler name =>
      "💀 no handler named '" ++ name ++ "' is registered for this builder"
  | handler name fault => "💀 handler '" ++ name ++ "' failed: " ++ fault.message
  | listInKey piece =>
      "💀 bad type while resolving '" ++ piece.shown ++
        "': a list cannot be joined into a composite key"
  | noKeyText piece =>
      "💀 bad type while resolving '" ++ piece.shown ++
        "': only strings, numbers and booleans join into a key"

/-- Whether an error breaks off the whole build, not only the row. -/
def breaksOff : TemplateError → Bool
  | handler _ fault => fault.breaksOff
  | _ => false

end TemplateError

namespace Token

/-- The token of a template text, with the text named in the error. -/
def ofTemplate (template : String) : Except TemplateError Token :=
  match parse template with
  | .ok token => .ok token
  | .error flaw => .error (.malformed template flaw)

/-- The key text of a piece of a composite, or nothing when it is missing. -/
def keyOfPiece (optionally : Bool) (piece : Token) : Resolved → Except TemplateError (Option String)
  | .missing => .ok (if optionally then some "" else none)
  | .list _ => .error (.listInKey piece)
  | value =>
      match value.asKey? with
      | some part => .ok (some part)
      | none => .error (.noKeyText piece)

mutual

/-- Resolves a token with the handlers provided. -/
def resolve (provided : List Handler) (context : RowContext) (optionally : Bool) :
    Token → Except TemplateError Resolved
  | literal text => .ok (.ofText text)
  | field name => .ok (.ofOption (context.dataset.field name context.row))
  | call name arguments parts =>
      match Handler.find? provided name with
      | none => .error (.unknownHandler name)
      | some handler => do
          let arguments ← resolveEach provided context arguments
          let parts ← resolveEach provided context parts
          match handler.apply ⟨arguments, parts⟩ context with
          | .ok value => .ok value
          | .error fault => .error (.handler name fault)
  | composite pieces => do
      match ← resolvePieces provided context optionally pieces with
      | none => .ok .missing
      | some keys => .ok (.ofText (":".intercalate keys))

/-- Resolves the inputs of a call; none of them is optional. -/
def resolveEach (provided : List Handler) (context : RowContext) :
    List Token → Except TemplateError (List Resolved)
  | [] => .ok []
  | token :: rest => do
      let value ← resolve provided context false token
      let values ← resolveEach provided context rest
      .ok (value :: values)

/-- The key texts of the pieces of a composite, from left to right up to the
first missing one. -/
def resolvePieces (provided : List Handler) (context : RowContext) (optionally : Bool) :
    List Token → Except TemplateError (Option (List String))
  | [] => .ok (some [])
  | piece :: rest => do
      let value ← resolve provided context optionally piece
      match ← keyOfPiece optionally piece value with
      | none => .ok none
      | some key => do
          let keys ← resolvePieces provided context optionally rest
          .ok (keys.map (key :: ·))

end

end Token

end DocumentIngest
