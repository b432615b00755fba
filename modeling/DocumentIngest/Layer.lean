import DocumentIngest.Failure
import DocumentIngest.FileTree
import DocumentIngest.Toml.Reader

/-!
# Layers of fields

Settings and jobs are written in files, and settings may be spread over several
of them.  Each file is a layer of fields; a later layer lies over an earlier one
and covers it field by field, as deep as both hold objects.
-/

namespace DocumentIngest

namespace Layer

mutual

/-- A value over another one. -/
def coverValue (below : Json) : Json → Json
  | .object fields =>
      match below with
      | .object fieldsBelow => .object (cover fieldsBelow fields)
      | _ => .object fields
  | value => value

/-- Fields over other fields. -/
def cover (below : Json.Fields) : List (String × Json) → Json.Fields
  | [] => below
  | (name, value) :: rest =>
      let covered :=
        match Keyed.lookup below name with
        | none => value
        | some valueBelow => coverValue valueBelow value
      cover (Keyed.insert below name covered) rest

end

/-- How a layer is written. -/
inductive Format where
  | toml
  | json
deriving DecidableEq, Repr

namespace Format

/-- The value that a text describes. -/
def read? : Format → String → Option Json
  | toml, text => Toml.read? text
  | json, text => (Json.readText text).toOption

end Format

/-- The layer of a file.  A file that is not there is an empty layer. -/
def ofFile (format : Format) (files : FileTree) (path : String) :
    Except SettingsFault Json.Fields :=
  match files.read? path with
  | none => .ok []
  | some content =>
      match (String.fromUTF8? ⟨content.toArray⟩).bind format.read? with
      | some (.object fields) => .ok fields
      | _ => .error .unreadable

end Layer

end DocumentIngest
