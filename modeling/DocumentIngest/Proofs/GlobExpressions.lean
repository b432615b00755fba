import DocumentIngest.Proofs.GlobCuts

/-!
# Patterns as regular expressions

A pattern is written as a regular expression between two anchors and looked for in a
name.  Whoever finds such expressions as they are documented finds this one in the names
that the pattern cuts: the anchors hold at the two ends of the whole name alone, so what
is found between them is all of it.
-/

namespace DocumentIngest

/-- What the regular expressions of file patterns are made of. -/
inductive RegexItem where
  | textStart
  | textEnd
  | anyCharacter
  | anyText
  | exactly (character : Char)
deriving DecidableEq, Repr

namespace RegexItem

/-- How an item is written; a character that would be read as more than itself is
escaped. -/
def chars : RegexItem → List Char
  | textStart => ['^']
  | textEnd => ['$']
  | anyCharacter => ['.']
  | anyText => ['.', '*']
  | exactly character =>
      if GlobPart.special.contains character then ['\\', character] else [character]

def expression (items : List RegexItem) : String :=
  String.ofList (items.flatMap chars)

/-- Whether an item fits a stretch of a text, with what comes before the stretch and
behind it. -/
def Fits : RegexItem → List Char → List Char → List Char → Prop
  | textStart, before, stretch, _ => before = [] ∧ stretch = []
  | textEnd, _, stretch, behind => stretch = [] ∧ behind = []
  | anyCharacter, _, stretch, _ => ∃ character, character ≠ '\n' ∧ stretch = [character]
  | anyText, _, stretch, _ => '\n' ∉ stretch
  | exactly character, _, stretch, _ => stretch = [character]

/-- Whether items fit a stretch of a text, one behind the other. -/
def FitAll : List RegexItem → List Char → List Char → List Char → Prop
  | [], _, stretch, _ => stretch = []
  | item :: items, before, stretch, behind =>
      ∃ first second, stretch = first ++ second ∧ item.Fits before first (second ++ behind) ∧
        FitAll items (before ++ first) second behind

/-- Whether items fit some stretch of a text. -/
def FoundIn (items : List RegexItem) (text : List Char) : Prop :=
  ∃ before stretch behind, text = before ++ (stretch ++ behind) ∧
    FitAll items before stretch behind

/-- Whether every matcher that is built for an expression finds it in the texts in which
its items fit a stretch. -/
def FindsAsDocumented (compile : String → Option (String → Bool)) : Prop :=
  ∀ items matcher text, compile (expression items) = some matcher →
    (matcher text = true ↔ FoundIn items text.toList)

/-- The item that a part of a pattern is written as. -/
def ofPart : GlobPart → RegexItem
  | .anyText => anyText
  | .anyCharacter => anyCharacter
  | .exactly character => exactly character

theorem chars_ofPart (part : GlobPart) : (ofPart part).chars = part.regexChars := by
  cases part <;> rfl

theorem fits_ofPart {part : GlobPart} {before stretch behind : List Char} :
    (ofPart part).Fits before stretch behind ↔ part.Takes stretch := by
  cases part <;> rfl

/-- In front of the end of a text items fit what a pattern cuts. -/
theorem fitAll_toEnd {glob : Glob} {before stretch behind : List Char} :
    FitAll (glob.map ofPart ++ [textEnd]) before stretch behind ↔
      glob.Cuts stretch ∧ behind = [] := by
  induction glob generalizing before stretch with
  | nil =>
      constructor
      · rintro ⟨_, _, rfl, ⟨rfl, atEnd⟩, rfl⟩
        exact ⟨rfl, atEnd⟩
      · rintro ⟨rfl, rfl⟩
        exact ⟨[], [], rfl, ⟨rfl, rfl⟩, rfl⟩
  | cons part rest ih =>
      simp only [List.map_cons, List.cons_append, FitAll, Glob.Cuts, GlobPart.TakesAhead,
        fits_ofPart, ih]
      constructor
      · rintro ⟨first, second, whole, takes, cuts, atEnd⟩
        exact ⟨⟨first, second, whole, takes, cuts⟩, atEnd⟩
      · rintro ⟨⟨first, second, whole, takes, cuts⟩, atEnd⟩
        exact ⟨first, second, whole, takes, cuts, atEnd⟩

end RegexItem

namespace Glob

open RegexItem

def regexItems (glob : Glob) : List RegexItem :=
  textStart :: (glob.map ofPart ++ [textEnd])

theorem regex_eq (glob : Glob) : glob.regex = expression glob.regexItems := by
  have parts : (glob.map ofPart).flatMap chars = glob.flatMap GlobPart.regexChars := by
    simp only [List.flatMap_map, chars_ofPart]
  rw [regex, expression, regexItems, List.flatMap_cons, List.flatMap_append, parts]
  rfl

theorem foundIn_regexItems {glob : Glob} {text : List Char} :
    FoundIn glob.regexItems text ↔ glob.Cuts text := by
  constructor
  · rintro ⟨before, stretch, behind, rfl, first, second, rfl, ⟨rfl, rfl⟩, fits⟩
    obtain ⟨cuts, rfl⟩ := fitAll_toEnd.mp fits
    simpa using cuts
  · intro cuts
    exact ⟨[], text, [], by simp, [], text, rfl, ⟨rfl, rfl⟩, fitAll_toEnd.mpr ⟨cuts, rfl⟩⟩

end Glob

namespace RegexItem

/-- Reads the items of an expression. -/
def read : List Char → List RegexItem
  | '^' :: rest => textStart :: read rest
  | '$' :: rest => textEnd :: read rest
  | '.' :: '*' :: rest => anyText :: read rest
  | '.' :: rest => anyCharacter :: read rest
  | '\\' :: character :: rest => exactly character :: read rest
  | character :: rest => exactly character :: read rest
  | [] => []

instance (item : RegexItem) (before stretch behind : List Char) :
    Decidable (item.Fits before stretch behind) :=
  match item, stretch with
  | textStart, _ => inferInstanceAs (Decidable (_ ∧ _))
  | textEnd, _ => inferInstanceAs (Decidable (_ ∧ _))
  | anyCharacter, [character] =>
      decidable_of_iff (character ≠ '\n') (by simp [Fits])
  | anyCharacter, [] => isFalse (by simp [Fits])
  | anyCharacter, _ :: _ :: _ => isFalse (by simp [Fits])
  | anyText, _ => inferInstanceAs (Decidable (_ ∉ _))
  | exactly _, _ => inferInstanceAs (Decidable (_ = _))

/-- Whether items fit a stretch at the start of the rest of a text. -/
def fitAhead : List RegexItem → List Char → List Char → Bool
  | [], _, _ => true
  | item :: items, before, rest =>
      (List.range (rest.length + 1)).any fun count =>
        decide (item.Fits before (rest.take count) (rest.drop count)) &&
          fitAhead items (before ++ rest.take count) (rest.drop count)

/-- Looks for an expression in a text. -/
def search (expression text : String) : Bool :=
  (List.range (text.toList.length + 1)).any fun count =>
    fitAhead (read expression.toList) (text.toList.take count) (text.toList.drop count)

theorem star_not_ahead (items : List RegexItem) (rest : List Char) :
    items.flatMap chars ≠ '*' :: rest := by
  cases items with
  | nil => simp
  | cons item items =>
      cases item with
      | exactly character =>
          rw [List.flatMap_cons, chars]
          split
          · simp
          · next plain =>
              intro same
              rw [(List.cons.inj same).1] at plain
              exact plain (by decide)
      | _ => simp [chars]

/-- An expression reads as the items it was written from. -/
theorem read_chars (items : List RegexItem) : read (items.flatMap chars) = items := by
  induction items with
  | nil => rfl
  | cons item rest ih =>
      rw [List.flatMap_cons]
      cases item with
      | textStart => exact congrArg (textStart :: ·) ih
      | textEnd => exact congrArg (textEnd :: ·) ih
      | anyText => exact congrArg (anyText :: ·) ih
      | anyCharacter =>
          rw [chars, List.singleton_append, read, ih]
          exact fun behind starred => star_not_ahead rest behind starred
      | exactly character =>
          by_cases isSpecial : GlobPart.special.contains character
          · rw [chars, if_pos isSpecial]
            exact congrArg (exactly character :: ·) ih
          · have plain : ∀ other ∈ GlobPart.special, character ≠ other := by
              rintro other member rfl
              exact isSpecial (List.contains_iff_mem.mpr member)
            rw [chars, if_neg isSpecial, List.singleton_append, read, ih]
            · exact plain '^' (by decide)
            · exact plain '$' (by decide)
            · exact fun _ point => absurd point (plain '.' (by decide))
            · exact plain '.' (by decide)
            · exact fun _ _ escape => absurd escape (plain '\\' (by decide))

theorem any_split_iff (fits : List Char → List Char → Bool) {text : List Char} :
    ((List.range (text.length + 1)).any fun count => fits (text.take count) (text.drop count)) =
        true ↔
      ∃ first second, text = first ++ second ∧ fits first second = true := by
  rw [List.any_eq_true]
  constructor
  · rintro ⟨count, _, here⟩
    exact ⟨_, _, (List.take_append_drop count text).symm, here⟩
  · rintro ⟨first, second, rfl, here⟩
    refine ⟨first.length, List.mem_range.mpr (by rw [List.length_append]; omega), ?_⟩
    rwa [List.take_left, List.drop_left]

theorem fitAhead_iff {items : List RegexItem} {before rest : List Char} :
    fitAhead items before rest = true ↔
      ∃ stretch behind, rest = stretch ++ behind ∧ FitAll items before stretch behind := by
  induction items generalizing before rest with
  | nil => exact iff_of_true rfl ⟨[], rest, rfl, rfl⟩
  | cons item items ih =>
      rw [fitAhead, any_split_iff fun first second =>
        decide (item.Fits before first second) && fitAhead items (before ++ first) second]
      simp only [Bool.and_eq_true, decide_eq_true_eq, ih, FitAll]
      constructor
      · rintro ⟨first, _, rfl, fits, second, behind, rfl, others⟩
        exact ⟨first ++ second, behind, (List.append_assoc _ _ _).symm, first, second, rfl, fits,
          others⟩
      · rintro ⟨_, behind, rfl, first, second, rfl, fits, others⟩
        exact ⟨first, second ++ behind, List.append_assoc _ _ _, fits, second, behind, rfl, others⟩

theorem findsAsDocumented_search : FindsAsDocumented fun expression => some (search expression) := by
  intro items matcher text built
  cases built
  rw [search, any_split_iff (fitAhead (read (expression items).toList)), expression,
    String.toList_ofList, read_chars]
  simp only [fitAhead_iff, FoundIn]
  constructor
  · rintro ⟨before, _, whole, stretch, behind, rfl, fits⟩
    exact ⟨before, stretch, behind, whole, fits⟩
  · rintro ⟨before, stretch, behind, whole, fits⟩
    exact ⟨before, stretch ++ behind, whole, stretch, behind, rfl, fits⟩

end RegexItem

namespace Glob

/-- A pattern stands for whole names.  A matcher that is built for the expression of a
pattern, and finds such expressions as they are documented, matches exactly the names
that can be cut into consecutive parts, one for each character of the pattern; and these
are the names of the candidates. -/
theorem matches_whole_names {compile : String → Option (String → Bool)}
    (documented : RegexItem.FindsAsDocumented compile) {pattern : String}
    {matcher : String → Bool} (built : compile (ofPattern pattern).regex = some matcher)
    (name : String) :
    (matcher name = true ↔ IsCutBy pattern.toList name.toList) ∧
      ((ofPattern pattern).matchesName name = true ↔ IsCutBy pattern.toList name.toList) := by
  rw [regex_eq] at built
  constructor
  · exact ((documented _ matcher name built).trans foundIn_regexItems).trans isCutBy_iff.symm
  · exact (matchesName_iff (ofPattern pattern) name).trans isCutBy_iff.symm

theorem matches_whole_names_archived :
    ∃ matcher, some (RegexItem.search (ofPattern "obs_?.*n*.gz").regex) = some matcher ∧
      matcher "obs_1.ndjson.gz" = true ∧ matcher "obs_1.ndjson.gz\n" = false := by
  have agree (name : String) :=
    matches_whole_names RegexItem.findsAsDocumented_search
      (show some (RegexItem.search (ofPattern "obs_?.*n*.gz").regex) = some _ from rfl) name
  refine ⟨_, rfl, ?_, ?_⟩
  · have matched := agree "obs_1.ndjson.gz"
    exact matched.1.mpr (matched.2.mp (by decide))
  · have matched := agree "obs_1.ndjson.gz\n"
    rw [Bool.eq_false_iff, Ne, matched.1, ← matched.2]
    decide

end Glob

end DocumentIngest
