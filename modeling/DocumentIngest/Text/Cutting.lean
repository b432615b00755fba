/-!
# Cutting texts

A text is cut at every place where a separator stands, or at the first one.
-/

namespace DocumentIngest

namespace Text

/-- Cuts a text at every separator.  There is always at least one segment. -/
def splitOn (separator : Char) : List Char → List (List Char)
  | [] => [[]]
  | c :: rest =>
      if c = separator then [] :: splitOn separator rest
      else
        match splitOn separator rest with
        | [] => [[c]]
        | segment :: segments => (c :: segment) :: segments

/-- Cuts a text at its first separator; nothing comes second when there is none. -/
def cutAt (separator : Char) : List Char → List Char × Option (List Char)
  | [] => ([], none)
  | c :: rest =>
      if c = separator then ([], some rest)
      else
        let (before, behind) := cutAt separator rest
        (c :: before, behind)

/-- Whether a text occurs in another one. -/
def occursIn (part : List Char) : List Char → Bool
  | [] => part.isEmpty
  | c :: rest => part.isPrefixOf (c :: rest) || occursIn part rest

end Text

end DocumentIngest
