import DocumentIngest.Text.CaseTable

/-!
# Upper and lower case

Whole texts are changed by the Unicode case tables, letter by letter.  Two
letters need more than a table: the dotted capital I becomes two letters in
lower case, and a capital sigma becomes a final sigma at the end of a word.
-/

namespace DocumentIngest

namespace LetterCase

/-- The other case of a letter by a table of runs; other characters stay. -/
def byRuns (runs : List (Nat × Nat × Nat × Nat)) (code : Nat) : Nat :=
  match runs with
  | [] => code
  | (first, last, step, other) :: rest =>
      if first ≤ code ∧ code ≤ last ∧ (code - first) % step = 0 then other + (code - first)
      else byRuns rest code

def inRanges (ranges : List (Nat × Nat)) (code : Nat) : Bool :=
  ranges.any fun range => decide (range.1 ≤ code) && decide (code ≤ range.2)

def upperChar (c : Char) : List Char :=
  if c.toNat < 128 then [c.toUpper]
  else
    match upperExpansions.find? fun entry => entry.1 == c.toNat with
    | some entry => entry.2.map Char.ofNat
    | none => [Char.ofNat (byRuns upperRuns c.toNat)]

/-- The text in upper case. -/
def upper (text : String) : String :=
  String.ofList (text.toList.flatMap upperChar)

/-- Whether the first character that is not passed over is a letter with case. -/
def meetsCased (text : List Char) : Bool :=
  match text.dropWhile fun c => inRanges passedOverRanges c.toNat with
  | [] => false
  | c :: _ => inRanges casedRanges c.toNat

/-- A sigma is final when a letter with case stands before it in its word and
none behind it.  `before` holds the characters before it, the nearest first. -/
def isFinalSigma (before after : List Char) : Bool :=
  meetsCased before && !meetsCased after

def lowerChar (before : List Char) (c : Char) (after : List Char) : List Char :=
  if c.toNat < 128 then [c.toLower]
  else if c = 'Σ' then [if isFinalSigma before after then 'ς' else 'σ']
  else if c = 'İ' then ['i', '\u0307']
  else [Char.ofNat (byRuns lowerRuns c.toNat)]

/-- Changes a text to lower case; `before` holds what stands before it, the
nearest character first. -/
def lowerFrom (before : List Char) : List Char → List Char
  | [] => []
  | c :: after => lowerChar before c after ++ lowerFrom (c :: before) after

/-- The text in lower case. -/
def lower (text : String) : String :=
  String.ofList (lowerFrom [] text.toList)

end LetterCase

end DocumentIngest
