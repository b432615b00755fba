import DocumentIngest.Json

/-!
# Building TOML documents

A TOML document defines tables in headers, in dotted keys, and inside values.
What may be added to a table later depends on how it came about: a table that was
only passed through can still be defined, one that a header defined cannot be
defined again, and one that dotted keys made takes dotted keys alone.
-/

namespace DocumentIngest

namespace Toml

/-- How a table came about. -/
inductive TableOrigin where
  /-- A header defined it. -/
  | header
  /-- A header passed through it. -/
  | passage
  /-- A dotted key passed through it. -/
  | dotted
deriving DecidableEq, Repr, Inhabited

/-- What stands under a key while a document is built. -/
inductive Item where
  /-- A value that is complete in itself. -/
  | value (content : Json)
  | table (origin : TableOrigin) (entries : List (String × Item))
  /-- Tables that headers in double brackets added one after another. -/
  | tables (elements : List (List (String × Item)))
deriving Repr, Inhabited

/-- The entries of a table under construction. -/
abbrev Entries := Keyed Item

/-- A change to the entries of a table; nothing when it is not allowed. -/
abbrev Change := TableOrigin → Entries → Option Entries

mutual

/-- The item as a value. -/
def Item.toJson : Item → Json
  | .value content => content
  | .table _ entries => .object (entriesToFields entries)
  | .tables elements => .array (elementsToItems elements)

/-- The entries of a table as the fields of an object. -/
def entriesToFields : List (String × Item) → List (String × Json)
  | [] => []
  | (key, item) :: rest => (key, item.toJson) :: entriesToFields rest

/-- Tables as objects. -/
def elementsToItems : List (List (String × Item)) → List Json
  | [] => []
  | entries :: rest => .object (entriesToFields entries) :: elementsToItems rest

end

/-- Goes down a path from a table and changes the entries of the table there.
Tables that are not there are made with the origin `passing`; of tables in a row
the last one counts. -/
def descend (passing : TableOrigin) (change : Change) (origin : TableOrigin)
    (entries : Entries) : List String → Option Entries
  | [] => change origin entries
  | key :: rest =>
      match Keyed.lookup entries key with
      | none =>
          (descend passing change passing [] rest).map fun below =>
            Keyed.insert entries key (.table passing below)
      | some (.value _) => none
      | some (.tables elements) =>
          match elements.getLast? with
          | none => none
          | some last =>
              (descend passing change .header last rest).map fun below =>
                Keyed.insert entries key (.tables (elements.dropLast ++ [below]))
      | some (.table there below) =>
          if passing = .dotted ∧ there = .header then none
          else
            (descend passing change there below rest).map fun below =>
              Keyed.insert entries key (.table there below)

/-- Adds an item under a new key. -/
def addNew (key : String) (item : Item) (entries : Entries) : Option Entries :=
  if Keyed.hasKey entries key then none else some (Keyed.insert entries key item)

/-- Adds a value under a dotted key of a table. -/
def addValue (path : List String) (key : String) (content : Json) : Change :=
  fun origin entries =>
    descend .dotted
      (fun there entries =>
        if (there = .dotted) = (path = []) then none else addNew key (.value content) entries)
      origin entries path

/-- Defines a table by a header. -/
def defineTable (key : String) : Change :=
  fun _ entries =>
    match Keyed.lookup entries key with
    | none => some (Keyed.insert entries key (.table .header []))
    | some (.table .passage below) => some (Keyed.insert entries key (.table .header below))
    | _ => none

/-- Adds a table to those in a row. -/
def addTable (key : String) : Change :=
  fun _ entries =>
    match Keyed.lookup entries key with
    | none => some (Keyed.insert entries key (.tables [[]]))
    | some (.tables elements) => some (Keyed.insert entries key (.tables (elements ++ [[]])))
    | _ => none

/-- Changes the entries of the table at a path. -/
def changeAt (root : Entries) (path : List String) (change : Change) : Option Entries :=
  descend .passage change .header root path

end Toml

end DocumentIngest
