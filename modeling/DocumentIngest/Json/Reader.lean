import DocumentIngest.Json
import DocumentIngest.Binary64.Decimal

/-!
# Reading JSON

The reader works on bytes and says whether a bad text is wrong or merely ends
too early.  Numbers without point and exponent that fit 64 bits are integers;
all others are floating point: the digits that fit 64 bits, scaled by one power
of ten.  Values may be nested 127 deep.  Of two fields with one name the later
counts.
-/

namespace DocumentIngest

/-- Why a text is not JSON. -/
inductive JsonFault where
  /-- Something stands where it must not. -/
  | misplaced
  /-- The text ends inside a value. -/
  | unfinished
deriving DecidableEq, Repr

namespace JsonReader

/-- What a reader of a part returns: the part and the rest of the text. -/
abbrev Reading (α : Type) := Except JsonFault (α × List UInt8)

/-- The nesting depth at which a value is refused. -/
def depthLimit : Nat := 128

def isBlank (byte : UInt8) : Bool :=
  byte == 32 || byte == 10 || byte == 9 || byte == 13

def skipBlanks (bytes : List UInt8) : List UInt8 :=
  bytes.dropWhile isBlank

def digitValue? (byte : UInt8) : Option Nat :=
  if 48 ≤ byte ∧ byte ≤ 57 then some (byte.toNat - 48) else none

/-- Reads the rest of a word such as `true`. -/
def readWord (word : List UInt8) (value : Json) (bytes : List UInt8) : Reading Json :=
  match word, bytes with
  | [], rest => .ok (value, rest)
  | _ :: _, [] => .error .unfinished
  | expected :: word, byte :: rest =>
      if byte = expected then readWord word value rest else .error .misplaced

/-- The largest significand that is kept. -/
def significandLimit : Nat := 2 ^ 64 - 1

/-- The digits read so far, and how many further digits were too many to keep. -/
structure Digits where
  significand : Nat
  dropped : Nat
  count : Nat

/-- Reads digits into a significand.  Once a digit does not fit, it and all
further ones are only counted. -/
def readDigits (digits : Digits) : List UInt8 → Digits × List UInt8
  | [] => (digits, [])
  | byte :: rest =>
      match digitValue? byte with
      | none => (digits, byte :: rest)
      | some digit =>
          let grown := digits.significand * 10 + digit
          if digits.dropped = 0 ∧ grown ≤ significandLimit then
            readDigits ⟨grown, 0, digits.count + 1⟩ rest
          else readDigits ⟨digits.significand, digits.dropped + 1, digits.count + 1⟩ rest

/-- Scales a significand by a power of ten, up to 308 places at a time. -/
def scale (value : Binary64) (exponent : Int) : Nat → Option Binary64
  | 0 => some value
  | steps + 1 =>
      if exponent.natAbs ≤ 308 then
        let power := Binary64.ofDecimal false 1 exponent.natAbs
        if 0 ≤ exponent then
          let scaled := Binary64.mul value power
          if scaled.isInfinite then none else some scaled
        else some (Binary64.div value power)
      else if value.isZero then some value
      else if 0 ≤ exponent then none
      else scale (Binary64.div value (Binary64.ofDecimal false 1 308)) (exponent + 308) steps

/-- A floating point number from its significand and exponent; an infinite one
is refused. -/
def makeReal (negative : Bool) (significand : Nat) (exponent : Int) (rest : List UInt8) :
    Reading Json :=
  match scale (Binary64.ofInt significand) exponent 8 with
  | none => .error .misplaced
  | some value => .ok (.number (.real (if negative then Binary64.neg value else value)), rest)

/-- The greatest exponent that is read as a number. -/
def exponentLimit : Nat := 2 ^ 31 - 1

/-- An exponent as written, or that it is too large to tell. -/
def readExponentDigits (value : Nat) (tooLarge : Bool) : List UInt8 → Nat × Bool × List UInt8
  | [] => (value, tooLarge, [])
  | byte :: rest =>
      match digitValue? byte with
      | none => (value, tooLarge, byte :: rest)
      | some digit =>
          if tooLarge then readExponentDigits value true rest
          else if value * 10 + digit ≤ exponentLimit then
            readExponentDigits (value * 10 + digit) false rest
          else readExponentDigits value true rest

/-- Reads what follows the mark of an exponent. -/
def readExponent (negative : Bool) (significand : Nat) (start : Int) (bytes : List UInt8) :
    Reading Json :=
  let (positive, bytes) :=
    match bytes with
    | 43 :: rest => (true, rest)
    | 45 :: rest => (false, rest)
    | rest => (true, rest)
  match bytes with
  | [] => .error .unfinished
  | byte :: rest =>
      match digitValue? byte with
      | none => .error .misplaced
      | some digit =>
          match readExponentDigits digit false rest with
          | (value, false, rest) =>
              makeReal negative significand (if positive then start + value else start - value) rest
          | (_, true, rest) =>
              if significand ≠ 0 ∧ positive then .error .misplaced
              else .ok (.number (.real (Binary64.ofCode negative 0)), rest)

/-- Reads what follows the digits of a floating point number. -/
def readRealEnd (negative : Bool) (significand : Nat) (exponent : Int) (bytes : List UInt8) :
    Reading Json :=
  match bytes with
  | 101 :: rest => readExponent negative significand exponent rest
  | 69 :: rest => readExponent negative significand exponent rest
  | rest => makeReal negative significand exponent rest

/-- Reads what follows a decimal point. -/
def readFraction (negative : Bool) (significand : Nat) (exponent : Int) (bytes : List UInt8) :
    Reading Json :=
  let (digits, rest) := readDigits ⟨significand, 0, 0⟩ bytes
  if digits.count = 0 then
    match rest with
    | [] => .error .unfinished
    | _ :: _ => .error .misplaced
  else
    readRealEnd negative digits.significand
      (exponent - ((digits.count - digits.dropped : Nat) : Int)) rest

/-- The integer with the given sign, if it is one of 64 bits; negative zero and
integers below that are floating point. -/
def makeInteger (negative : Bool) (significand : Nat) : Json :=
  if negative then
    if significand = 0 ∨ 2 ^ 63 < significand then
      .number (.real (Binary64.neg (Binary64.ofInt significand)))
    else .ofInt (-(significand : Int))
  else .ofNat significand

/-- Reads a number after its sign. -/
def readNumber (negative : Bool) (bytes : List UInt8) : Reading Json :=
  match bytes with
  | [] => .error .unfinished
  | first :: tail =>
      match digitValue? first with
      | none => .error .misplaced
      | some 0 =>
          match tail with
          | 46 :: rest => readFraction negative 0 0 rest
          | 101 :: rest => readExponent negative 0 0 rest
          | 69 :: rest => readExponent negative 0 0 rest
          | byte :: rest =>
              if (digitValue? byte).isSome then .error .misplaced
              else .ok (makeInteger negative 0, byte :: rest)
          | [] => .ok (makeInteger negative 0, [])
      | some _ =>
          let (digits, rest) := readDigits ⟨0, 0, 0⟩ bytes
          match rest with
          | 46 :: rest => readFraction negative digits.significand digits.dropped rest
          | rest =>
              if digits.dropped = 0 then
                match rest with
                | 101 :: _ => readRealEnd negative digits.significand 0 rest
                | 69 :: _ => readRealEnd negative digits.significand 0 rest
                | rest => .ok (makeInteger negative digits.significand, rest)
              else readRealEnd negative digits.significand digits.dropped rest

/-- The value of a hexadecimal digit. -/
def hexValue? (byte : UInt8) : Option Nat :=
  if 48 ≤ byte ∧ byte ≤ 57 then some (byte.toNat - 48)
  else if 97 ≤ byte ∧ byte ≤ 102 then some (byte.toNat - 87)
  else if 65 ≤ byte ∧ byte ≤ 70 then some (byte.toNat - 55)
  else none

/-- Reads the four hexadecimal digits of an escape. -/
def readHex (bytes : List UInt8) : Reading Nat :=
  match bytes with
  | a :: b :: c :: d :: rest =>
      match hexValue? a, hexValue? b, hexValue? c, hexValue? d with
      | some a, some b, some c, some d => .ok (((a * 16 + b) * 16 + c) * 16 + d, rest)
      | _, _, _, _ => .error .misplaced
  | _ => .error .unfinished

/-- The UTF-8 bytes of a code point. -/
def utf8 (code : Nat) : List UInt8 :=
  (String.singleton (Char.ofNat code)).toUTF8.toList

/-- Reads the second half of a character that is escaped as two units. -/
def readSecondUnit (first : Nat) (bytes : List UInt8) : Reading (List UInt8) :=
  match bytes with
  | [] => .error .unfinished
  | 92 :: [] => .error .unfinished
  | 92 :: 117 :: rest =>
      match readHex rest with
      | .error fault => .error fault
      | .ok (second, rest) =>
          if 0xDC00 ≤ second ∧ second ≤ 0xDFFF then
            .ok (utf8 (0x10000 + (first - 0xD800) * 1024 + (second - 0xDC00)), rest)
          else .error .misplaced
  | _ => .error .misplaced

/-- Reads an escape after its backslash. -/
def readEscape (bytes : List UInt8) : Reading (List UInt8) :=
  match bytes with
  | [] => .error .unfinished
  | 34 :: rest => .ok ([34], rest)
  | 92 :: rest => .ok ([92], rest)
  | 47 :: rest => .ok ([47], rest)
  | 98 :: rest => .ok ([8], rest)
  | 102 :: rest => .ok ([12], rest)
  | 110 :: rest => .ok ([10], rest)
  | 114 :: rest => .ok ([13], rest)
  | 116 :: rest => .ok ([9], rest)
  | 117 :: rest =>
      match readHex rest with
      | .error fault => .error fault
      | .ok (unit, rest) =>
          if 0xDC00 ≤ unit ∧ unit ≤ 0xDFFF then .error .misplaced
          else if 0xD800 ≤ unit ∧ unit ≤ 0xDBFF then readSecondUnit unit rest
          else .ok (utf8 unit, rest)
  | _ => .error .misplaced

/-- Reads a text after its opening quote.  `taken` holds the bytes read so far,
the last one first.  The fuel bounds the number of steps; the length of the text
is enough. -/
def readText (taken : List UInt8) (fuel : Nat) (bytes : List UInt8) : Reading String :=
  match fuel, bytes with
  | _, [] => .error .unfinished
  | 0, _ => .error .unfinished
  | fuel + 1, byte :: rest =>
      if byte = 34 then
        match String.fromUTF8? ⟨taken.reverse.toArray⟩ with
        | some text => .ok (text, rest)
        | none => .error .misplaced
      else if byte = 92 then
        match readEscape rest with
        | .error fault => .error fault
        | .ok (decoded, rest) => readText (decoded.reverse ++ taken) fuel rest
      else if byte < 32 then .error .misplaced
      else readText (byte :: taken) fuel rest

mutual

/-- Reads one value; `depth` more levels may be opened. -/
def readValue (fuel : Nat) (depth : Nat) (bytes : List UInt8) : Reading Json :=
  match fuel with
  | 0 => .error .unfinished
  | fuel + 1 =>
      match skipBlanks bytes with
      | [] => .error .unfinished
      | 110 :: rest => readWord [117, 108, 108] .null rest
      | 116 :: rest => readWord [114, 117, 101] (.bool true) rest
      | 102 :: rest => readWord [97, 108, 115, 101] (.bool false) rest
      | 45 :: rest => readNumber true rest
      | 34 :: rest =>
          match readText [] rest.length rest with
          | .error fault => .error fault
          | .ok (text, rest) => .ok (.string text, rest)
      | 91 :: rest =>
          if depth ≤ 1 then .error .misplaced else readItems fuel (depth - 1) true [] rest
      | 123 :: rest =>
          if depth ≤ 1 then .error .misplaced else readFields fuel (depth - 1) true [] rest
      | byte :: rest =>
          if (digitValue? byte).isSome then readNumber false (byte :: rest) else .error .misplaced

/-- Reads the items of an array up to its closing bracket; `taken` holds those
already read, the last one first. -/
def readItems (fuel : Nat) (depth : Nat) (first : Bool) (taken : List Json) (bytes : List UInt8) :
    Reading Json :=
  match fuel with
  | 0 => .error .unfinished
  | fuel + 1 =>
      match skipBlanks bytes with
      | [] => .error .unfinished
      | byte :: rest =>
          if byte = 93 then .ok (.array taken.reverse, rest)
          else if first then
            match readValue fuel depth (byte :: rest) with
            | .error fault => .error fault
            | .ok (item, rest) => readItems fuel depth false (item :: taken) rest
          else if byte = 44 then
            match skipBlanks rest with
            | [] => .error .unfinished
            | 93 :: _ => .error .misplaced
            | rest =>
                match readValue fuel depth rest with
                | .error fault => .error fault
                | .ok (item, rest) => readItems fuel depth false (item :: taken) rest
          else .error .misplaced

/-- Reads the fields of an object up to its closing brace. -/
def readFields (fuel : Nat) (depth : Nat) (first : Bool) (taken : Json.Fields)
    (bytes : List UInt8) : Reading Json :=
  match fuel with
  | 0 => .error .unfinished
  | fuel + 1 =>
      match skipBlanks bytes with
      | [] => .error .unfinished
      | byte :: rest =>
          if byte = 125 then .ok (.object taken, rest)
          else if first then
            if byte = 34 then readField fuel depth taken rest else .error .misplaced
          else if byte = 44 then
            match skipBlanks rest with
            | [] => .error .unfinished
            | 34 :: rest => readField fuel depth taken rest
            | _ => .error .misplaced
          else .error .misplaced

/-- Reads a field after the opening quote of its name, and the fields behind it. -/
def readField (fuel : Nat) (depth : Nat) (taken : Json.Fields) (bytes : List UInt8) :
    Reading Json :=
  match fuel with
  | 0 => .error .unfinished
  | fuel + 1 =>
      match readText [] bytes.length bytes with
      | .error fault => .error fault
      | .ok (name, rest) =>
          match skipBlanks rest with
          | [] => .error .unfinished
          | 58 :: rest =>
              match readValue fuel depth rest with
              | .error fault => .error fault
              | .ok (value, rest) =>
                  readFields fuel depth false (Keyed.insert taken name value) rest
          | _ => .error .misplaced

end

end JsonReader

namespace Json

/-- Reads a text that holds exactly one value. -/
def readBytes (bytes : List UInt8) : Except JsonFault Json :=
  match JsonReader.readValue (2 * bytes.length + 2) JsonReader.depthLimit bytes with
  | .error fault => .error fault
  | .ok (value, rest) =>
      match JsonReader.skipBlanks rest with
      | [] => .ok value
      | _ :: _ => .error .misplaced

/-- Reads a text that holds exactly one value. -/
def readText (text : String) : Except JsonFault Json :=
  readBytes text.toUTF8.toList

end Json

end DocumentIngest
