import DocumentIngest.Keyed
import DocumentIngest.Binary64

/-!
# JSON values

Integers and floating point numbers are different values: `3` is not `3.0`.
The fields of an object are met in key order, so an object is a `Keyed` map.
-/

namespace DocumentIngest

/-- A JSON number.  Integers are those of 64 bits, signed or unsigned. -/
inductive Number where
  | integer (value : Int)
  | real (value : Binary64)
deriving DecidableEq, Repr, Inhabited

namespace Number

/-- The number as floating point; a large integer goes to its nearest neighbour. -/
def toBinary64 : Number → Binary64
  | integer value => Binary64.ofInt value
  | real value => value

end Number

/-- A JSON value. -/
inductive Json where
  | null
  | bool (value : Bool)
  | number (value : Number)
  | string (text : String)
  | array (items : List Json)
  | object (fields : List (String × Json))
deriving Repr, Inhabited

namespace Json

/-- The named values of an object, in key order. -/
abbrev Fields := Keyed Json

mutual

/-- Decides equality of values. -/
def decideEq : (first second : Json) → Decidable (first = second)
  | null, null => isTrue rfl
  | bool a, bool b =>
      if same : a = b then isTrue (same ▸ rfl) else isFalse fun h => same (by cases h; rfl)
  | number a, number b =>
      if same : a = b then isTrue (same ▸ rfl) else isFalse fun h => same (by cases h; rfl)
  | string a, string b =>
      if same : a = b then isTrue (same ▸ rfl) else isFalse fun h => same (by cases h; rfl)
  | array a, array b =>
      match decideEqItems a b with
      | isTrue same => isTrue (same ▸ rfl)
      | isFalse different => isFalse fun h => different (by cases h; rfl)
  | object a, object b =>
      match decideEqFields a b with
      | isTrue same => isTrue (same ▸ rfl)
      | isFalse different => isFalse fun h => different (by cases h; rfl)
  | null, bool _ | null, number _ | null, string _ | null, array _ | null, object _
  | bool _, null | bool _, number _ | bool _, string _ | bool _, array _ | bool _, object _
  | number _, null | number _, bool _ | number _, string _ | number _, array _
  | number _, object _
  | string _, null | string _, bool _ | string _, number _ | string _, array _
  | string _, object _
  | array _, null | array _, bool _ | array _, number _ | array _, string _
  | array _, object _
  | object _, null | object _, bool _ | object _, number _ | object _, string _
  | object _, array _ => isFalse (by intro h; cases h)

/-- Decides equality of the items of two arrays. -/
def decideEqItems : (first second : List Json) → Decidable (first = second)
  | [], [] => isTrue rfl
  | [], _ :: _ => isFalse (by intro h; cases h)
  | _ :: _, [] => isFalse (by intro h; cases h)
  | a :: as, b :: bs =>
      match decideEq a b, decideEqItems as bs with
      | isTrue sameHead, isTrue sameTail => isTrue (sameHead ▸ sameTail ▸ rfl)
      | isFalse different, _ => isFalse fun h => different (by cases h; rfl)
      | _, isFalse different => isFalse fun h => different (by cases h; rfl)

/-- Decides equality of the fields of two objects. -/
def decideEqFields : (first second : List (String × Json)) → Decidable (first = second)
  | [], [] => isTrue rfl
  | [], _ :: _ => isFalse (by intro h; cases h)
  | _ :: _, [] => isFalse (by intro h; cases h)
  | (key, a) :: as, (other, b) :: bs =>
      if sameKey : key = other then
        match decideEq a b, decideEqFields as bs with
        | isTrue sameHead, isTrue sameTail => isTrue (sameKey ▸ sameHead ▸ sameTail ▸ rfl)
        | isFalse different, _ => isFalse fun h => different (by cases h; rfl)
        | _, isFalse different => isFalse fun h => different (by cases h; rfl)
      else isFalse fun h => sameKey (by cases h; rfl)

end

instance : DecidableEq Json := decideEq

/-- An integer as a value. -/
def ofInt (value : Int) : Json :=
  number (.integer value)

/-- A natural number as a value. -/
def ofNat (value : Nat) : Json :=
  number (.integer value)

/-- An optional text; absence is `null`. -/
def ofOption (text : Option String) : Json :=
  match text with
  | none => null
  | some text => string text

/-- An object from its fields in any order; of two with one name the later counts. -/
def ofFields (fields : List (String × Json)) : Json :=
  object (Keyed.ofPairs fields)

/-- The field of an object; nothing for other values. -/
def field? (value : Json) (name : String) : Option Json :=
  match value with
  | object fields => Keyed.lookup fields name
  | _ => none

def asText? : Json → Option String
  | string text => some text
  | _ => none

def asItems? : Json → Option (List Json)
  | array items => some items
  | _ => none

def asFields? : Json → Option Fields
  | object fields => some fields
  | _ => none

def asBool? : Json → Option Bool
  | bool value => some value
  | _ => none

/-- A number as floating point. -/
def asBinary64? : Json → Option Binary64
  | number value => some value.toBinary64
  | _ => none

/-- A non-negative integer. -/
def asNat? : Json → Option Nat
  | number (.integer value) => if 0 ≤ value then some value.toNat else none
  | _ => none

/-- The text of a field that holds one. -/
def textField? (value : Json) (name : String) : Option String :=
  (value.field? name).bind asText?

def isNull : Json → Bool
  | null => true
  | _ => false

end Json

end DocumentIngest
