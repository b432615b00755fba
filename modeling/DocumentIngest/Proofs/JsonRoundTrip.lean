import DocumentIngest.Proofs.JsonTokens
import DocumentIngest.Proofs.KeyedMaps
import Mathlib.Tactic.IntervalCases

/-!
# Reading printed JSON

A value on one line is read back as it was, provided that it has no number with a
fraction, that its integers are of 64 bits, that the fields of its objects are in
key order and that it is not nested too deep.  For numbers with a fraction this
does not hold: the reader scales their digits with a rounding of its own.
-/

namespace DocumentIngest

/-- Whether a value, nested at most so deep, is without fractions. -/
inductive Json.IsPlain : Nat → Json → Prop where
  | null {levels : Nat} : IsPlain levels .null
  | bool {levels : Nat} (value : Bool) : IsPlain levels (.bool value)
  | integer {levels : Nat} {value : Int} (notBelow : -2 ^ 63 ≤ value) (below : value < 2 ^ 64) :
      IsPlain levels (.number (.integer value))
  | string {levels : Nat} (text : String) : IsPlain levels (.string text)
  | array {levels : Nat} {items : List Json} (plain : ∀ item ∈ items, IsPlain levels item) :
      IsPlain (levels + 1) (.array items)
  | object {levels : Nat} {fields : Json.Fields} (ascending : Keyed.Ascending fields)
      (plain : ∀ entry ∈ fields, IsPlain levels entry.2) : IsPlain (levels + 1) (.object fields)

namespace JsonReader

open Text

/-- Whether a value is read back where so many levels may be opened. -/
structure ReadsAt (depth : Nat) (value : Json) : Prop where
  leads : ∃ first behind, bytesOf value.compactChars = first :: behind ∧
    isBlank first = false ∧ first ≠ 93
  reads : ∀ fuel rest, 2 * (bytesOf value.compactChars).length ≤ fuel → Ends rest →
    readValue fuel depth (bytesOf value.compactChars ++ rest) = .ok (value, rest)

theorem skipBlanks_cons {first : UInt8} (notBlank : isBlank first = false) (behind : List UInt8) :
    skipBlanks (first :: behind) = first :: behind := by
  rw [skipBlanks, List.dropWhile_cons, notBlank]
  rfl

/-- A word is read back if the reader knows it by its first letter. -/
theorem readsAt_word {depth : Nat} {value : Json} (first : UInt8) (behind : List UInt8)
    (bytes : bytesOf value.compactChars = first :: behind) (notBlank : isBlank first = false)
    (notEnd : first ≠ 93)
    (reads : ∀ fuel rest, readValue (fuel + 1) depth (first :: (behind ++ rest)) =
      .ok (value, rest)) : ReadsAt depth value where
  leads := ⟨first, behind, bytes, notBlank, notEnd⟩
  reads := by
    intro fuel rest enough ends
    rw [bytes] at enough ⊢
    obtain ⟨fuel, rfl⟩ := Nat.exists_eq_add_one.mpr (Nat.lt_of_lt_of_le (by simp) enough)
    exact reads fuel rest

theorem readsAt_null (depth : Nat) : ReadsAt depth .null := by
  apply readsAt_word 110 [117, 108, 108] (by decide) (by decide) (by decide)
  intro fuel rest
  rw [readValue, skipBlanks_cons (by decide)]
  rfl

theorem readsAt_bool (depth : Nat) (value : Bool) : ReadsAt depth (.bool value) := by
  cases value with
  | true =>
      apply readsAt_word 116 [114, 117, 101] (by decide) (by decide) (by decide)
      intro fuel rest
      rw [readValue, skipBlanks_cons (by decide)]
      rfl
  | false =>
      apply readsAt_word 102 [97, 108, 115, 101] (by decide) (by decide) (by decide)
      intro fuel rest
      rw [readValue, skipBlanks_cons (by decide)]
      rfl

theorem bytesOf_quoted (text : String) :
    bytesOf (Json.quoted text) = 34 :: (bytesOf (text.toList.flatMap Json.escapeChar) ++ [34]) := by
  rw [Json.quoted, bytesOf_cons, bytesOf_append]
  rfl

theorem readsAt_string (depth : Nat) (text : String) : ReadsAt depth (.string text) where
  leads := ⟨34, _, bytesOf_quoted text, by decide, by decide⟩
  reads := by
    intro fuel rest enough ends
    rw [Json.compactChars, bytesOf_quoted] at enough ⊢
    obtain ⟨fuel, rfl⟩ := Nat.exists_eq_add_one.mpr (Nat.lt_of_lt_of_le (by simp) enough)
    have read : readText [] (bytesOf (text.toList.flatMap Json.escapeChar) ++ 34 :: rest).length
        (bytesOf (text.toList.flatMap Json.escapeChar) ++ 34 :: rest) = .ok (text, rest) :=
      readText_quoted text rest (by simp)
    simp only [List.cons_append, List.append_assoc, List.nil_append]
    rw [readValue, skipBlanks_cons (by decide)]
    simp only [read]

theorem leads_digit : ∀ digit < 10,
    isBlank (UInt8.ofNat (48 + digit)) = false ∧ UInt8.ofNat (48 + digit) ≠ 93 := by
  decide

theorem readValue_digit {digit : Nat} (isDigit : digit < 10) (fuel depth : Nat)
    (behind : List UInt8) :
    readValue (fuel + 1) depth (UInt8.ofNat (48 + digit) :: behind) =
      readNumber false (UInt8.ofNat (48 + digit) :: behind) := by
  rw [readValue, skipBlanks_cons (leads_digit digit isDigit).1]
  interval_cases digit <;> rfl

theorem readsAt_natural (depth : Nat) {number : Nat} (fits : number ≤ significandLimit) :
    ReadsAt depth (.ofNat number) := by
  have printed : (Json.ofNat number).compactChars = Nat.toDigits 10 number :=
    Number.toList_render_natural number
  obtain ⟨digit, behind, isDigit, _, bytes⟩ := exists_leadingDigit number
  constructor
  · rw [printed]
    exact ⟨_, _, bytes, leads_digit digit isDigit⟩
  · intro fuel rest enough ends
    rw [printed] at enough ⊢
    rw [bytes, List.length_cons] at enough
    obtain ⟨fuel, rfl⟩ := Nat.exists_eq_add_one.mpr (Nat.lt_of_lt_of_le (by simp) enough)
    have read := readNumber_toDigits false fits ends
    rw [bytes, List.cons_append] at read ⊢
    rw [readValue_digit isDigit, read]
    rfl

theorem readsAt_negative (depth : Nat) {number : Nat} (positive : 0 < number)
    (fits : number ≤ 2 ^ 63) : ReadsAt depth (.ofInt (-number)) := by
  have printed : (Json.ofInt (-number)).compactChars = '-' :: Nat.toDigits 10 number :=
    Number.toList_render_negative positive
  have bytes : bytesOf (Json.ofInt (-number)).compactChars =
      45 :: bytesOf (Nat.toDigits 10 number) := by
    rw [printed]
    rfl
  constructor
  · exact ⟨_, _, bytes, by decide, by decide⟩
  · intro fuel rest enough ends
    rw [bytes] at enough ⊢
    obtain ⟨fuel, rfl⟩ := Nat.exists_eq_add_one.mpr (Nat.lt_of_lt_of_le (by simp) enough)
    have within : number ≤ significandLimit := Nat.le_trans fits (by decide)
    have notLarge : ¬(number = 0 ∨ 2 ^ 63 < number) := by omega
    rw [List.cons_append, readValue, skipBlanks_cons (by decide)]
    simp only [readNumber_toDigits true within ends, makeInteger, if_neg notLarge, if_true]

theorem readsAt_integer (depth : Nat) {value : Int} (notBelow : -2 ^ 63 ≤ value)
    (below : value < 2 ^ 64) : ReadsAt depth (.number (.integer value)) := by
  obtain ⟨number, rfl | rfl⟩ := value.eq_nat_or_neg
  · exact readsAt_natural depth (by rw [significandLimit]; omega)
  · rcases Nat.eq_zero_or_pos number with rfl | positive
    · exact readsAt_natural depth (Nat.zero_le _)
    · exact readsAt_negative depth positive (by omega)

/-- What stands behind an item of an array. -/
def itemsBehind : List Json → List Char
  | [] => [']']
  | item :: rest => ',' :: Json.compactItems (item :: rest)

theorem compactItems_cons (item : Json) (rest : List Json) :
    Json.compactItems (item :: rest) = item.compactChars ++ itemsBehind rest := by
  cases rest <;> rfl

theorem ends_itemsBehind (items : List Json) (rest : List UInt8) :
    Ends (bytesOf (itemsBehind items) ++ rest) := by
  cases items with
  | nil => exact .inr ⟨93, rest, rfl, by decide⟩
  | cons item others => exact .inr ⟨44, _, rfl, by decide⟩

theorem readItems_comma {first : UInt8} (notBlank : isBlank first = false) (notEnd : first ≠ 93)
    (fuel depth : Nat) (taken : List Json) (behind : List UInt8) :
    readItems (fuel + 1) depth false taken (44 :: first :: behind) =
      match readValue fuel depth (first :: behind) with
      | .error fault => .error fault
      | .ok (item, rest) => readItems fuel depth false (item :: taken) rest := by
  rw [readItems, skipBlanks_cons (by decide)]
  have notClosed : ¬(44 : UInt8) = 93 := by decide
  simp only [if_neg notClosed, Bool.false_eq_true, if_false, if_true, skipBlanks_cons notBlank]
  split
  · next nothing => cases nothing
  · next closed => exact absurd (List.cons.inj closed).1 notEnd
  · rfl

/-- The items behind the first one are read with their commas. -/
theorem readItems_itemsBehind {depth : Nat} {items : List Json}
    (reads : ∀ item ∈ items, ReadsAt depth item) (taken : List Json) {fuel : Nat}
    (rest : List UInt8) (enough : 2 * (bytesOf (itemsBehind items)).length ≤ fuel) :
    readItems fuel depth false taken (bytesOf (itemsBehind items) ++ rest) =
      .ok (.array (taken.reverse ++ items), rest) := by
  induction items generalizing taken fuel with
  | nil =>
      obtain ⟨fuel, rfl⟩ := Nat.exists_eq_add_one.mpr (Nat.lt_of_lt_of_le (by decide) enough)
      rw [List.append_nil]
      have bytes : bytesOf (itemsBehind []) ++ rest = 93 :: rest := rfl
      rw [bytes, readItems, skipBlanks_cons (by decide)]
      rfl
  | cons item others ih =>
      have reading := reads item List.mem_cons_self
      obtain ⟨first, behind, bytes, notBlank, notEnd⟩ := reading.leads
      have commaBytes : bytesOf (itemsBehind (item :: others)) =
          44 :: (bytesOf item.compactChars ++ bytesOf (itemsBehind others)) := by
        rw [itemsBehind, compactItems_cons, bytesOf_cons, bytesOf_append]
        rfl
      rw [commaBytes, List.length_cons, List.length_append] at enough
      obtain ⟨fuel, rfl⟩ := Nat.exists_eq_add_one.mpr (Nat.lt_of_lt_of_le (by omega) enough)
      have read := reading.reads fuel (bytesOf (itemsBehind others) ++ rest) (by omega)
        (ends_itemsBehind others rest)
      have later := ih (fun other member => reads other (List.mem_cons_of_mem _ member))
        (item :: taken) (show 2 * (bytesOf (itemsBehind others)).length ≤ fuel by omega)
      rw [bytes, List.cons_append] at read
      rw [commaBytes, bytes, List.cons_append, List.append_assoc, List.cons_append,
        readItems_comma notBlank notEnd, read]
      simp only [later, List.reverse_cons, List.append_assoc]
      rfl

theorem readsAt_array {depth : Nat} {items : List Json}
    (positive : 0 < depth) (reads : ∀ item ∈ items, ReadsAt depth item) :
    ReadsAt (depth + 1) (.array items) := by
  have bytes : bytesOf (Json.array items).compactChars = 91 :: bytesOf (Json.compactItems items) :=
    rfl
  constructor
  · exact ⟨_, _, bytes, by decide, by decide⟩
  intro fuel rest enough ends
  rw [bytes, List.length_cons] at enough
  obtain ⟨fuel, rfl⟩ := Nat.exists_eq_add_one.mpr (Nat.lt_of_lt_of_le (by omega) enough)
  have opened :
      readValue (fuel + 1) (depth + 1) (91 :: (bytesOf (Json.compactItems items) ++ rest)) =
        readItems fuel depth true [] (bytesOf (Json.compactItems items) ++ rest) := by
    rw [readValue, skipBlanks_cons (by decide)]
    have deep : ¬depth + 1 ≤ 1 := by omega
    simp only [if_neg deep, Nat.add_sub_cancel]
  rw [bytes, List.cons_append, opened]
  cases items with
  | nil =>
      obtain ⟨fuel, rfl⟩ : ∃ less, fuel = less + 1 := Nat.exists_eq_add_one.mpr (by omega)
      have closed : bytesOf (Json.compactItems []) ++ rest = 93 :: rest := rfl
      rw [closed, readItems, skipBlanks_cons (by decide)]
      rfl
  | cons item others =>
      have reading := reads item List.mem_cons_self
      obtain ⟨first, behind, itemBytes, notBlank, notEnd⟩ := reading.leads
      rw [compactItems_cons, bytesOf_append] at enough ⊢
      rw [List.length_append] at enough
      obtain ⟨fuel, rfl⟩ : ∃ less, fuel = less + 1 := Nat.exists_eq_add_one.mpr (by omega)
      have read := reading.reads fuel (bytesOf (itemsBehind others) ++ rest) (by omega)
        (ends_itemsBehind others rest)
      have later := readItems_itemsBehind
        (fun other member => reads other (List.mem_cons_of_mem _ member)) [item] rest
        (show 2 * (bytesOf (itemsBehind others)).length ≤ fuel by omega)
      rw [List.append_assoc]
      rw [itemBytes, List.cons_append] at read ⊢
      rw [readItems, skipBlanks_cons notBlank]
      simp only [if_neg notEnd, if_true, read, later]
      rfl

/-- What stands behind a field of an object. -/
def fieldsBehind : Json.Fields → List Char
  | [] => ['\x7d']
  | entry :: rest => ',' :: Json.compactFields (entry :: rest)

/-- The bytes of a field behind the opening quote of its name. -/
def fieldBytes (name : String) (value : Json) : List UInt8 :=
  bytesOf (name.toList.flatMap Json.escapeChar) ++ 34 :: 58 :: bytesOf value.compactChars

theorem bytesOf_compactFields_cons (name : String) (value : Json) (rest : Json.Fields) :
    bytesOf (Json.compactFields ((name, value) :: rest)) =
      34 :: (fieldBytes name value ++ bytesOf (fieldsBehind rest)) := by
  have parts : Json.compactFields ((name, value) :: rest) =
      Json.quoted name ++ ':' :: value.compactChars ++ fieldsBehind rest := by
    cases rest <;> rfl
  have colon : bytesOf (':' :: value.compactChars) = 58 :: bytesOf value.compactChars := rfl
  rw [parts, bytesOf_append, bytesOf_append, bytesOf_quoted, colon, fieldBytes]
  simp only [List.cons_append, List.append_assoc, List.nil_append]

theorem ends_fieldsBehind (fields : Json.Fields) (rest : List UInt8) :
    Ends (bytesOf (fieldsBehind fields) ++ rest) := by
  cases fields with
  | nil => exact .inr ⟨125, rest, rfl, by decide⟩
  | cons entry others => exact .inr ⟨44, _, rfl, by decide⟩

/-- A field is read into the fields taken before. -/
theorem readField_fieldBytes {depth : Nat} {value : Json} (reading : ReadsAt depth value)
    (name : String) (taken : Json.Fields) {fuel : Nat} {rest : List UInt8} (ends : Ends rest)
    (enough : 2 * (bytesOf value.compactChars).length ≤ fuel) :
    readField (fuel + 1) depth taken (fieldBytes name value ++ rest) =
      readFields fuel depth false (Keyed.insert taken name value) rest := by
  have named : readText [] (fieldBytes name value ++ rest).length (fieldBytes name value ++ rest) =
      .ok (name, 58 :: (bytesOf value.compactChars ++ rest)) := by
    have read := readText_quoted name (58 :: (bytesOf value.compactChars ++ rest))
      (show (bytesOf (name.toList.flatMap Json.escapeChar)).length <
        (fieldBytes name value ++ rest).length by simp [fieldBytes])
    rw [← read, fieldBytes]
    simp only [List.cons_append, List.append_assoc]
  rw [readField, named]
  simp only
  rw [skipBlanks_cons (by decide)]
  simp only [reading.reads fuel rest enough ends]

/-- The fields behind the first one are read with their commas. -/
theorem readFields_fieldsBehind {depth : Nat} {fields : Json.Fields}
    (reads : ∀ entry ∈ fields, ReadsAt depth entry.2) (taken : Json.Fields) {fuel : Nat}
    (rest : List UInt8) (enough : 2 * (bytesOf (fieldsBehind fields)).length ≤ fuel) :
    readFields fuel depth false taken (bytesOf (fieldsBehind fields) ++ rest) =
      .ok (.object (fields.foldl (fun taken entry => Keyed.insert taken entry.1 entry.2) taken),
        rest) := by
  induction fields generalizing taken fuel with
  | nil =>
      obtain ⟨fuel, rfl⟩ := Nat.exists_eq_add_one.mpr (Nat.lt_of_lt_of_le (by decide) enough)
      have bytes : bytesOf (fieldsBehind []) ++ rest = 125 :: rest := rfl
      rw [bytes, readFields, skipBlanks_cons (by decide)]
      rfl
  | cons entry others ih =>
      obtain ⟨name, value⟩ := entry
      have reading := reads (name, value) List.mem_cons_self
      have commaBytes : bytesOf (fieldsBehind ((name, value) :: others)) =
          44 :: 34 :: (fieldBytes name value ++ bytesOf (fieldsBehind others)) := by
        rw [fieldsBehind, bytesOf_cons, bytesOf_compactFields_cons]
        rfl
      rw [commaBytes] at enough ⊢
      simp only [List.length_cons, List.length_append] at enough
      have valueLength :
          (bytesOf value.compactChars).length + 2 ≤ (fieldBytes name value).length := by
        simp [fieldBytes]
      obtain ⟨fuel, rfl⟩ : ∃ less, fuel = less + 2 := ⟨fuel - 2, by omega⟩
      have later := ih (fun other member => reads other (List.mem_cons_of_mem _ member))
        (Keyed.insert taken name value)
        (show 2 * (bytesOf (fieldsBehind others)).length ≤ fuel by omega)
      have read := readField_fieldBytes reading name taken (ends_fieldsBehind others rest)
        (show 2 * (bytesOf value.compactChars).length ≤ fuel by omega)
      simp only [List.cons_append, List.append_assoc]
      rw [readFields, skipBlanks_cons (by decide)]
      have notClosed : ¬(44 : UInt8) = 125 := by decide
      have notBlank : isBlank 34 = false := by decide
      simp only [if_neg notClosed, Bool.false_eq_true, if_false, if_true,
        skipBlanks_cons notBlank, read, later, List.foldl_cons]

theorem readsAt_object {depth : Nat} {fields : Json.Fields} (positive : 0 < depth)
    (ascending : Keyed.Ascending fields) (reads : ∀ entry ∈ fields, ReadsAt depth entry.2) :
    ReadsAt (depth + 1) (.object fields) := by
  have bytes : bytesOf (Json.object fields).compactChars =
      123 :: bytesOf (Json.compactFields fields) := rfl
  constructor
  · exact ⟨_, _, bytes, by decide, by decide⟩
  intro fuel rest enough ends
  rw [bytes, List.length_cons] at enough
  obtain ⟨fuel, rfl⟩ := Nat.exists_eq_add_one.mpr (Nat.lt_of_lt_of_le (by omega) enough)
  have opened :
      readValue (fuel + 1) (depth + 1) (123 :: (bytesOf (Json.compactFields fields) ++ rest)) =
        readFields fuel depth true [] (bytesOf (Json.compactFields fields) ++ rest) := by
    rw [readValue, skipBlanks_cons (by decide)]
    have deep : ¬depth + 1 ≤ 1 := by omega
    simp only [if_neg deep, Nat.add_sub_cancel]
  rw [bytes, List.cons_append, opened]
  cases fields with
  | nil =>
      obtain ⟨fuel, rfl⟩ : ∃ less, fuel = less + 1 := Nat.exists_eq_add_one.mpr (by omega)
      have closed : bytesOf (Json.compactFields []) ++ rest = 125 :: rest := rfl
      rw [closed, readFields, skipBlanks_cons (by decide)]
      rfl
  | cons entry others =>
      obtain ⟨name, value⟩ := entry
      have reading := reads (name, value) List.mem_cons_self
      rw [bytesOf_compactFields_cons] at enough ⊢
      simp only [List.length_cons, List.length_append] at enough
      have valueLength :
          (bytesOf value.compactChars).length + 2 ≤ (fieldBytes name value).length := by
        simp [fieldBytes]
      obtain ⟨fuel, rfl⟩ : ∃ less, fuel = less + 2 := ⟨fuel - 2, by omega⟩
      have later := readFields_fieldsBehind
        (fun other member => reads other (List.mem_cons_of_mem _ member)) [(name, value)] rest
        (show 2 * (bytesOf (fieldsBehind others)).length ≤ fuel by omega)
      have read := readField_fieldBytes reading name [] (ends_fieldsBehind others rest)
        (show 2 * (bytesOf value.compactChars).length ≤ fuel by omega)
      have kept : others.foldl (fun taken entry => Keyed.insert taken entry.1 entry.2)
          [(name, value)] = (name, value) :: others := Keyed.ofPairs_of_ascending ascending
      have notClosed : ¬(34 : UInt8) = 125 := by decide
      simp only [List.cons_append, List.append_assoc]
      rw [readFields, skipBlanks_cons (by decide)]
      simp only [if_neg notClosed, if_true, read, Keyed.insert, later, kept]

/-- A plain value is read back where it may be nested deep enough. -/
theorem readsAt_of_isPlain {levels depth : Nat} {value : Json} (plain : Json.IsPlain levels value)
    (deep : levels < depth) : ReadsAt depth value := by
  induction plain generalizing depth with
  | null => exact readsAt_null depth
  | bool value => exact readsAt_bool depth value
  | integer notBelow below => exact readsAt_integer depth notBelow below
  | string text => exact readsAt_string depth text
  | array _ ih =>
      obtain ⟨depth, rfl⟩ := Nat.exists_eq_add_one.mpr (Nat.lt_of_le_of_lt (Nat.zero_le _) deep)
      exact readsAt_array (by omega) fun item member => ih item member (by omega)
  | object ascending _ ih =>
      obtain ⟨depth, rfl⟩ := Nat.exists_eq_add_one.mpr (Nat.lt_of_le_of_lt (Nat.zero_le _) deep)
      exact readsAt_object (by omega) ascending fun entry member => ih entry member (by omega)

end JsonReader

namespace Json

/-- The text of a plain value on one line is read back. -/
theorem readText_compact {levels : Nat} {value : Json} (plain : IsPlain levels value)
    (shallow : levels < JsonReader.depthLimit) : readText value.compact = .ok value := by
  have reading := JsonReader.readsAt_of_isPlain plain shallow
  have read := reading.reads (2 * (Text.bytesOf value.compactChars).length + 2) [] (by omega)
    (.inl rfl)
  rw [List.append_nil] at read
  rw [readText, Text.toList_toUTF8, compact, String.toList_ofList, readBytes, read]
  rfl

/-- More levels do no harm. -/
theorem IsPlain.mono {levels more : Nat} {value : Json} (plain : IsPlain levels value)
    (le : levels ≤ more) : IsPlain more value := by
  induction plain generalizing more with
  | null => exact .null
  | bool value => exact .bool value
  | integer notBelow below => exact .integer notBelow below
  | string text => exact .string text
  | array _ ih =>
      obtain ⟨more, rfl⟩ := Nat.exists_eq_add_one.mpr (Nat.lt_of_lt_of_le (Nat.succ_pos _) le)
      exact .array fun item member => ih item member (Nat.le_of_succ_le_succ le)
  | object ascending _ ih =>
      obtain ⟨more, rfl⟩ := Nat.exists_eq_add_one.mpr (Nat.lt_of_lt_of_le (Nat.succ_pos _) le)
      exact .object ascending fun entry member => ih entry member (Nat.le_of_succ_le_succ le)

/-- An object is plain if its fields are, in whatever order they are given. -/
theorem IsPlain.ofFields {levels : Nat} {fields : List (String × Json)}
    (plain : ∀ entry ∈ fields, IsPlain levels entry.2) : IsPlain (levels + 1) (.ofFields fields) :=
  .object (Keyed.ascending_ofPairs fields) fun entry member =>
    plain entry (Keyed.mem_of_mem_ofPairs member)

theorem IsPlain.ofField {levels : Nat} {value : Json} (plain : IsPlain levels value)
    (name : String) : IsPlain (levels + 1) (.ofFields [(name, value)]) := by
  apply IsPlain.ofFields
  intro entry member
  cases List.mem_singleton.mp member
  exact plain

theorem IsPlain.of_field? {levels : Nat} {value field : Json} {name : String}
    (plain : IsPlain levels value) (found : value.field? name = some field) :
    IsPlain levels field := by
  cases plain with
  | object _ plain => exact (plain _ (Keyed.mem_of_lookup found)).mono (Nat.le_succ _)
  | _ => cases found

/-- Computes whether a value is plain. -/
def checkPlain (levels : Nat) (value : Json) : Bool :=
  match levels, value with
  | _, .null => true
  | _, .bool _ => true
  | _, .number (.integer value) => decide (-2 ^ 63 ≤ value ∧ value < 2 ^ 64)
  | _, .number (.real _) => false
  | _, .string _ => true
  | 0, .array _ => false
  | levels + 1, .array items => items.all fun item => checkPlain levels item
  | 0, .object _ => false
  | levels + 1, .object fields =>
      decide (Keyed.Ascending fields) && fields.all fun entry => checkPlain levels entry.2

theorem isPlain_of_checkPlain {levels : Nat} {value : Json}
    (passes : checkPlain levels value = true) : IsPlain levels value := by
  induction levels, value using checkPlain.induct with
  | case1 => exact .null
  | case2 _ value => exact .bool value
  | case3 _ value =>
      rw [checkPlain, decide_eq_true_iff] at passes
      exact .integer passes.1 passes.2
  | case4 => simp [checkPlain] at passes
  | case5 _ text => exact .string text
  | case6 => simp [checkPlain] at passes
  | case7 levels items ih =>
      rw [checkPlain, List.all_eq_true] at passes
      exact .array fun item member => ih item (passes item member)
  | case8 => simp [checkPlain] at passes
  | case9 levels fields ih =>
      rw [checkPlain, Bool.and_eq_true, decide_eq_true_iff, List.all_eq_true] at passes
      exact .object passes.1 fun entry member => ih entry (passes.2 entry member)

end Json

end DocumentIngest
