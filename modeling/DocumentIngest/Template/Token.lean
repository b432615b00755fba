import DocumentIngest.Text.Shown

/-!
# Template tokens

A template text is a constant, a field `*name`, a call
`&name|argument,argument:part:part`, or several of these joined by colons.
`render` writes a token as text again, and `WellFormed` says which tokens a text
can have.
-/

namespace DocumentIngest

/-- One parsed template text. -/
inductive Token where
  | literal (text : String)
  | field (name : String)
  | call (name : String) (arguments parts : List Token)
  | composite (pieces : List Token)
deriving Repr, Inhabited

namespace Token

mutual

/-- The names of the handlers that a token calls, outer ones first. -/
def handlerNames : Token → List String
  | literal _ => []
  | field _ => []
  | call name arguments parts => name :: (namesOf arguments ++ namesOf parts)
  | composite pieces => namesOf pieces

/-- The names of the handlers that tokens call. -/
def namesOf : List Token → List String
  | [] => []
  | token :: rest => handlerNames token ++ namesOf rest

end

/-- Texts with a separator between them. -/
def joined (separator : Char) : List (List Char) → List Char
  | [] => []
  | [text] => text
  | text :: next :: rest => text ++ separator :: joined separator (next :: rest)

mutual

/-- The characters of a token as template text. -/
def renderChars : Token → List Char
  | literal text => text.toList
  | field name => '*' :: name.toList
  | call name arguments parts =>
      '&' :: name.toList ++
        (match arguments with
          | [] => []
          | _ :: _ => '|' :: joined ',' (renderEach arguments)) ++
        (match parts with
          | [] => []
          | _ :: _ => ':' :: joined ':' (renderEach parts))
  | composite pieces => joined ':' (renderEach pieces)

/-- The characters of each of several tokens. -/
def renderEach : List Token → List (List Char)
  | [] => []
  | token :: rest => renderChars token :: renderEach rest

end

/-- A token as template text. -/
def render (token : Token) : String :=
  String.ofList (renderChars token)

mutual

/-- The structure of a token, as messages show it. -/
def shownChars : Token → List Char
  | literal text => "Literal(".toList ++ Shown.text text ++ [')']
  | field name => "Variable(".toList ++ Shown.text name ++ [')']
  | call name arguments parts =>
      "Function(FunctionCall \x7b name: ".toList ++ Shown.text name ++
        ", args: ".toList ++ Shown.bracketed (shownEach arguments) ++
        ", subtokens: ".toList ++ Shown.bracketed (shownEach parts) ++ " \x7d)".toList
  | composite pieces => "Composite(".toList ++ Shown.bracketed (shownEach pieces) ++ [')']

/-- The structure of each of several tokens. -/
def shownEach : List Token → List (List Char)
  | [] => []
  | token :: rest => shownChars token :: shownEach rest

end

/-- The structure of a token, as messages show it. -/
def shown (token : Token) : String :=
  String.ofList (shownChars token)

/-- A constant or a field whose text holds none of the given separators. -/
def IsAtom (separators : List Char) : Token → Prop
  | literal text => ∀ c ∈ separators, c ∉ text.toList
  | field name => name ≠ "" ∧ ∀ c ∈ separators, c ∉ name.toList
  | call _ _ _ => False
  | composite _ => False

mutual

/-- A piece between colons: a constant, a field, or, as the last piece only, a
call. -/
def IsPiece (last : Bool) : Token → Prop
  | literal text => IsAtom [':'] (literal text)
  | field name => IsAtom [':'] (field name)
  | call name arguments parts =>
      last = true ∧ name ≠ "" ∧ (∀ c ∈ [':', '|'], c ∉ name.toList) ∧
        (∀ argument ∈ arguments, IsAtom [':', ','] argument) ∧ ArePieces parts
  | composite _ => False

/-- Pieces of which only the last may be a call. -/
def ArePieces : List Token → Prop
  | [] => True
  | [piece] => IsPiece true piece
  | piece :: next :: rest => IsPiece false piece ∧ ArePieces (next :: rest)

end

/-- A token that a template text can have: a piece, or at least two of them. -/
def WellFormed : Token → Prop
  | composite pieces => 2 ≤ pieces.length ∧ ArePieces pieces
  | token => IsPiece true token

mutual

/-- Whether a property holds of a token and of every token in it. -/
def Everywhere (P : Token → Prop) : Token → Prop
  | literal text => P (literal text)
  | field name => P (field name)
  | call name arguments parts =>
      P (call name arguments parts) ∧ EverywhereIn P arguments ∧ EverywhereIn P parts
  | composite pieces => P (composite pieces) ∧ EverywhereIn P pieces

/-- Whether a property holds of tokens and of every token in them. -/
def EverywhereIn (P : Token → Prop) : List Token → Prop
  | [] => True
  | token :: rest => Everywhere P token ∧ EverywhereIn P rest

end

/-- A constant that begins with a marker would be read as something else. -/
def IsUnmarked : Token → Prop
  | literal text => text.toList.head? ≠ some '*' ∧ text.toList.head? ≠ some '&'
  | _ => True

/-- A lone empty constant as the arguments or parts of a call would not be seen. -/
def IsTight : Token → Prop
  | call _ arguments parts => arguments ≠ [literal ""] ∧ parts ≠ [literal ""]
  | _ => True

end Token

end DocumentIngest
