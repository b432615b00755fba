import DocumentIngest.Json.Printer
import DocumentIngest.Json.Reader
import Mathlib.Data.List.Basic

/-!
# Texts and integers in JSON

The reader gets bytes and the printer writes characters.  A quoted text is read
back whatever characters it has: those that would end it or are controls are
escaped, and all others are bytes that the reader takes as they are.  The digits
of an integer of 64 bits are read back if no digit, point or exponent follows.
-/

namespace DocumentIngest

namespace Text

/-- The UTF-8 bytes of characters. -/
def bytesOf (chars : List Char) : List UInt8 :=
  chars.flatMap String.utf8EncodeChar

@[simp]
theorem bytesOf_nil : bytesOf [] = [] := rfl

@[simp]
theorem bytesOf_cons (c : Char) (rest : List Char) :
    bytesOf (c :: rest) = String.utf8EncodeChar c ++ bytesOf rest := rfl

@[simp]
theorem bytesOf_append (first second : List Char) :
    bytesOf (first ++ second) = bytesOf first ++ bytesOf second :=
  List.flatMap_append

private theorem toList_loop (bytes : ByteArray) (index : Nat) (taken : List UInt8) :
    ByteArray.toList.loop bytes index taken = taken.reverse ++ bytes.data.toList.drop index := by
  -- induction on what is left of the array
  induction left : bytes.size - index generalizing index taken with
  | zero =>
      have beyond : ¬index < bytes.size := by omega
      have short : bytes.data.toList.length ≤ index := by
        rw [Array.length_toList]
        exact Nat.le_of_not_lt beyond
      rw [ByteArray.toList.loop, if_neg beyond, List.drop_eq_nil_of_le short, List.append_nil]
  | succ left ih =>
      have inside : index < bytes.size := by omega
      have bound : index < bytes.data.toList.length := by
        rw [Array.length_toList]
        exact inside
      have byte : bytes.get! index = bytes.data.toList[index] :=
        getElem!_pos bytes.data index inside
      rw [ByteArray.toList.loop, if_pos inside, ih (index + 1) _ (by omega), byte,
        List.drop_eq_getElem_cons bound, List.reverse_cons, List.append_assoc]
      rfl

theorem toList_toUTF8 (text : String) : text.toUTF8.toList = bytesOf text.toList := by
  have encoded : text.toUTF8 = text.toList.utf8Encode := String.utf8Encode_toList.symm
  rw [ByteArray.toList, toList_loop, encoded]
  exact List.toList_data_toByteArray

theorem fromUTF8?_bytesOf (text : String) :
    String.fromUTF8? ⟨(bytesOf text.toList).toArray⟩ = some text := by
  have encoded : (⟨(bytesOf text.toList).toArray⟩ : ByteArray) = text.toByteArray := by
    rw [← String.utf8Encode_toList]
    apply ByteArray.ext
    apply Array.ext'
    exact List.toList_data_toByteArray.symm
  rw [encoded, String.fromUTF8?, dif_pos text.isValidUTF8]
  rfl

end Text

namespace Number

theorem toList_render_natural (number : Nat) :
    (integer number).render.toList = Nat.toDigits 10 number :=
  String.toList_ofList

theorem toList_render_negative {number : Nat} (positive : 0 < number) :
    (integer (-number)).render.toList = '-' :: Nat.toDigits 10 number := by
  obtain ⟨less, rfl⟩ : ∃ less, number = less + 1 := ⟨number - 1, by omega⟩
  have text : toString (-((less + 1 : Nat) : Int)) =
      "-" ++ String.ofList (Nat.toDigits 10 (less + 1)) := rfl
  simp only [render, text, String.toList_append, String.toList_ofList]
  rfl

/-- An integer is written with the digits of its magnitude, behind a sign or not. -/
theorem toList_render_integer (value : Int) :
    (integer value).render.toList = Nat.toDigits 10 value.natAbs ∨
      (integer value).render.toList = '-' :: Nat.toDigits 10 value.natAbs := by
  obtain ⟨number, rfl | rfl⟩ := value.eq_nat_or_neg
  · exact .inl (toList_render_natural number)
  · rcases Nat.eq_zero_or_pos number with rfl | positive
    · exact .inl rfl
    · rw [Int.natAbs_neg, Int.natAbs_natCast]
      exact .inr (toList_render_negative positive)

end Number

namespace JsonReader

open Text

/-- Whether a byte inside a quoted text stands for itself. -/
def IsTextByte (byte : UInt8) : Prop :=
  byte ≠ 34 ∧ byte ≠ 92 ∧ ¬byte < 32

theorem readText_append {bytes : List UInt8} (plain : ∀ byte ∈ bytes, IsTextByte byte)
    (taken : List UInt8) (fuel : Nat) (rest : List UInt8) :
    readText taken (fuel + bytes.length) (bytes ++ rest) =
      readText (bytes.reverse ++ taken) fuel rest := by
  induction bytes generalizing taken with
  | nil => rfl
  | cons byte behind ih =>
      obtain ⟨notQuote, notEscape, notControl⟩ := plain byte List.mem_cons_self
      have later := ih (fun other member => plain other (List.mem_cons_of_mem _ member))
        (byte :: taken)
      rw [List.length_cons, ← Nat.add_assoc, List.cons_append, readText, if_neg notQuote,
        if_neg notEscape, if_neg notControl, later, List.reverse_cons, List.append_assoc]
      rfl

theorem isTextByte_ofNat {code : Nat} (bounded : code < 256) (notQuote : code ≠ 34)
    (notEscape : code ≠ 92) (notControl : 32 ≤ code) : IsTextByte (UInt8.ofNat code) := by
  have value : (UInt8.ofNat code).toNat = code := UInt8.toNat_ofNat_of_lt' bounded
  refine ⟨?_, ?_, ?_⟩
  · rintro same
    exact notQuote (value ▸ congrArg UInt8.toNat same)
  · rintro same
    exact notEscape (value ▸ congrArg UInt8.toNat same)
  · intro control
    have below : (UInt8.ofNat code).toNat < 32 := UInt8.lt_iff_toNat_lt.mp control
    omega

theorem isTextByte_of_mem_utf8EncodeChar {c : Char} (notQuote : c ≠ '"') (notEscape : c ≠ '\\')
    (notControl : ¬c.toNat < 32) {byte : UInt8} (member : byte ∈ String.utf8EncodeChar c) :
    IsTextByte byte := by
  have code : c.val.toNat ≠ 34 := fun same => notQuote (Char.ext (UInt32.toNat_inj.mp same))
  have otherCode : c.val.toNat ≠ 92 := fun same => notEscape (Char.ext (UInt32.toNat_inj.mp same))
  have printable : 32 ≤ c.val.toNat := Nat.le_of_not_lt notControl
  -- one byte for ASCII; all bytes of a longer sequence are beyond it
  unfold String.utf8EncodeChar at member
  dsimp only at member
  split at member
  · rw [List.mem_singleton.mp member]
    exact isTextByte_ofNat (by omega) code otherCode printable
  split at member
  · simp only [List.mem_cons, List.not_mem_nil, or_false] at member
    rcases member with rfl | rfl <;> apply isTextByte_ofNat <;> omega
  split at member
  · simp only [List.mem_cons, List.not_mem_nil, or_false] at member
    rcases member with rfl | rfl | rfl <;> apply isTextByte_ofNat <;> omega
  · simp only [List.mem_cons, List.not_mem_nil, or_false] at member
    rcases member with rfl | rfl | rfl | rfl <;> apply isTextByte_ofNat <;> omega

theorem hexValue?_hexDigit : ∀ value < 16, ∃ byte,
    bytesOf [Json.hexDigit value] = [byte] ∧ hexValue? byte = some value := by
  intro value bounded
  refine ⟨UInt8.ofNat (Json.hexDigit value).toNat, ?_, ?_⟩
  · revert value
    decide
  · revert value
    decide

theorem utf8_toNat (c : Char) : utf8 c.toNat = String.utf8EncodeChar c := by
  rw [utf8, Char.ofNat_toNat, toList_toUTF8]
  simp

/-- The characters that are escaped by one letter. -/
def shortEscapes : List Char :=
  ['"', '\\', '\n', '\r', '\t', '\x08', '\x0c']

theorem escapeChar_of_not_short {c : Char} (long : c ∉ shortEscapes) :
    Json.escapeChar c =
      if c.toNat < 32 then
        ['\\', 'u', '0', '0', Json.hexDigit (c.toNat / 16), Json.hexDigit (c.toNat % 16)]
      else [c] := by
  simp only [shortEscapes, List.mem_cons, List.not_mem_nil, or_false, not_or] at long
  obtain ⟨quote, escape, feed, carriage, tab, back, form⟩ := long
  have notBack : c.toNat ≠ 8 := fun same => back (Char.ext (UInt32.toNat_inj.mp same))
  have notForm : c.toNat ≠ 12 := fun same => form (Char.ext (UInt32.toNat_inj.mp same))
  simp only [Json.escapeChar, quote, escape, feed, carriage, tab, notBack, notForm, if_false]

/-- What stands for a character in a quoted text is read as that character. -/
theorem readText_escapeChar (c : Char) :
    ∃ used ≤ (bytesOf (Json.escapeChar c)).length, ∀ taken fuel rest,
      readText taken (fuel + used) (bytesOf (Json.escapeChar c) ++ rest) =
        readText ((String.utf8EncodeChar c).reverse ++ taken) fuel rest := by
  by_cases short : c ∈ shortEscapes
  · simp only [shortEscapes, List.mem_cons, List.not_mem_nil, or_false] at short
    rcases short with rfl | rfl | rfl | rfl | rfl | rfl | rfl <;>
      exact ⟨1, by decide, fun _ _ _ => rfl⟩
  rw [escapeChar_of_not_short short]
  split
  · next control =>
      obtain ⟨high, highBytes, highValue⟩ := hexValue?_hexDigit (c.toNat / 16) (by omega)
      obtain ⟨low, lowBytes, lowValue⟩ := hexValue?_hexDigit (c.toNat % 16) (by omega)
      have bytes : bytesOf ['\\', 'u', '0', '0', Json.hexDigit (c.toNat / 16),
          Json.hexDigit (c.toNat % 16)] = [92, 117, 48, 48, high, low] := by
        have split : bytesOf ['\\', 'u', '0', '0', Json.hexDigit (c.toNat / 16),
            Json.hexDigit (c.toNat % 16)] =
            bytesOf ['\\', 'u', '0', '0'] ++ bytesOf [Json.hexDigit (c.toNat / 16)] ++
              bytesOf [Json.hexDigit (c.toNat % 16)] := by simp
        rw [split, highBytes, lowBytes]
        rfl
      have unit : ((0 * 16 + 0) * 16 + c.toNat / 16) * 16 + c.toNat % 16 = c.toNat := by omega
      have escaped (rest : List UInt8) :
          readEscape (117 :: 48 :: 48 :: high :: low :: rest) =
            .ok (String.utf8EncodeChar c, rest) := by
        have zero : hexValue? 48 = some 0 := rfl
        simp only [readEscape, readHex, zero, highValue, lowValue, unit]
        rw [if_neg (by omega), if_neg (by omega), utf8_toNat]
      rw [bytes]
      refine ⟨1, Nat.le_add_left 1 5, fun taken fuel rest => ?_⟩
      simp only [List.cons_append, List.nil_append]
      rw [readText, if_neg (by decide), if_pos rfl, escaped]
  · next notControl =>
      have plain : ∀ byte ∈ String.utf8EncodeChar c, IsTextByte byte := fun byte member =>
        isTextByte_of_mem_utf8EncodeChar (by rintro rfl; exact short (by decide))
          (by rintro rfl; exact short (by decide)) notControl member
      have bytes : bytesOf [c] = String.utf8EncodeChar c := by simp
      rw [bytes]
      exact ⟨_, Nat.le_refl _, readText_append plain⟩

/-- A quoted text is read back, with whatever stands behind its closing quote. -/
theorem readText_quoted (text : String) {fuel : Nat} (rest : List UInt8)
    (enough : (bytesOf (text.toList.flatMap Json.escapeChar)).length < fuel) :
    readText [] fuel (bytesOf (text.toList.flatMap Json.escapeChar) ++ 34 :: rest) =
      .ok (text, rest) := by
  have general (chars : List Char) (taken : List UInt8) (fuel : Nat)
      (enough : (bytesOf (chars.flatMap Json.escapeChar)).length < fuel) :
      readText taken fuel (bytesOf (chars.flatMap Json.escapeChar) ++ 34 :: rest) =
        (String.fromUTF8? ⟨(taken.reverse ++ bytesOf chars).toArray⟩).elim
          (.error .misplaced) fun text => .ok (text, rest) := by
    induction chars generalizing taken fuel with
    | nil =>
        obtain ⟨fuel, rfl⟩ : ∃ less, fuel = less + 1 := ⟨fuel - 1, by simp at enough; omega⟩
        rw [bytesOf_nil, List.append_nil, List.flatMap_nil, bytesOf_nil, List.nil_append, readText,
          if_pos rfl]
        cases String.fromUTF8? ⟨taken.reverse.toArray⟩ <;> rfl
    | cons c behind ih =>
        obtain ⟨used, within, reads⟩ := readText_escapeChar c
        rw [List.flatMap_cons, bytesOf_append, List.length_append] at enough
        obtain ⟨fuel, rfl⟩ : ∃ less, fuel = less + used := ⟨fuel - used, by omega⟩
        rw [List.flatMap_cons, bytesOf_append, List.append_assoc, reads, ih _ _ (by omega)]
        simp
  rw [general text.toList [] fuel enough]
  simp [fromUTF8?_bytesOf]

/-- Whether a value ends where the given bytes follow. -/
def Ends (rest : List UInt8) : Prop :=
  rest = [] ∨ ∃ byte behind, rest = byte :: behind ∧ byte ∈ [44, 93, 125]

theorem digitValue?_digitChar : ∀ digit < 10,
    bytesOf [Nat.digitChar digit] = [UInt8.ofNat (48 + digit)] ∧
      digitValue? (UInt8.ofNat (48 + digit)) = some digit := by
  decide +kernel

theorem readDigits_of_ends {rest : List UInt8} (ends : Ends rest) (digits : Digits) :
    readDigits digits rest = (digits, rest) := by
  rcases ends with rfl | ⟨byte, behind, rfl, isEnd⟩
  · rfl
  · have noDigit : digitValue? byte = none := by
      simp only [List.mem_cons, List.not_mem_nil, or_false] at isEnd
      rcases isEnd with rfl | rfl | rfl <;> rfl
    rw [readDigits, noDigit]

/-- The digits of a number of 64 bits are read one by one. -/
theorem readDigits_toDigits (number : Nat) (fits : number ≤ significandLimit) :
    ∃ count, ∀ rest, readDigits ⟨0, 0, 0⟩ (bytesOf (Nat.toDigits 10 number) ++ rest) =
      readDigits ⟨number, 0, count⟩ rest := by
  -- the last digit stands apart from those of a tenth of the number
  induction number using Nat.strongRecOn with
  | ind number ih =>
      have last := digitValue?_digitChar (number % 10) (by omega)
      by_cases small : number < 10
      · rw [Nat.mod_eq_of_lt small] at last
        refine ⟨1, fun rest => ?_⟩
        rw [Nat.toDigits_of_lt_base small, last.1, List.singleton_append, readDigits, last.2]
        simp [fits]
      · obtain ⟨count, reads⟩ := ih (number / 10) (by omega) (by omega)
        refine ⟨count + 1, fun rest => ?_⟩
        have whole : number / 10 * 10 + number % 10 = number := by omega
        rw [Nat.toDigits_of_base_le (by decide) (by omega), bytesOf_append, List.append_assoc,
          reads, last.1, List.singleton_append, readDigits, last.2]
        simp [whole, fits]

theorem exists_leadingDigit (number : Nat) :
    ∃ digit behind, digit < 10 ∧ (0 < number → 0 < digit) ∧
      bytesOf (Nat.toDigits 10 number) = UInt8.ofNat (48 + digit) :: behind := by
  induction number using Nat.strongRecOn with
  | ind number ih =>
      by_cases small : number < 10
      · have only := (digitValue?_digitChar number small).1
        exact ⟨number, [], small, id, by rw [Nat.toDigits_of_lt_base small, only]⟩
      · obtain ⟨digit, behind, isDigit, positive, bytes⟩ := ih (number / 10) (by omega)
        refine ⟨digit, behind ++ bytesOf [Nat.digitChar (number % 10)], isDigit, ?_, ?_⟩
        · exact fun _ => positive (by omega)
        · rw [Nat.toDigits_of_base_le (by decide) (by omega), bytesOf_append, bytes,
            List.cons_append]

/-- A number without a fraction is read after its sign, if its digits fit. -/
theorem readNumber_toDigits (negative : Bool) {number : Nat} (fits : number ≤ significandLimit)
    {rest : List UInt8} (ends : Ends rest) :
    readNumber negative (bytesOf (Nat.toDigits 10 number) ++ rest) =
      .ok (makeInteger negative number, rest) := by
  rcases Nat.eq_zero_or_pos number with rfl | positive
  · rcases ends with rfl | ⟨byte, behind, rfl, isEnd⟩
    · rfl
    · simp only [List.mem_cons, List.not_mem_nil, or_false] at isEnd
      rcases isEnd with rfl | rfl | rfl <;> rfl
  obtain ⟨digit, behind, isDigit, leading, bytes⟩ := exists_leadingDigit number
  obtain ⟨first, rfl⟩ : ∃ less, digit = less + 1 := ⟨digit - 1, by have := leading positive; omega⟩
  have value := (digitValue?_digitChar (first + 1) isDigit).2
  obtain ⟨count, reads⟩ := readDigits_toDigits number fits
  have read : readDigits ⟨0, 0, 0⟩ (UInt8.ofNat (48 + (first + 1)) :: (behind ++ rest)) =
      (⟨number, 0, count⟩, rest) := by
    rw [← List.cons_append, ← bytes, reads, readDigits_of_ends ends]
  rw [bytes, List.cons_append]
  simp only [readNumber, value, read]
  rcases ends with rfl | ⟨byte, after, rfl, isEnd⟩
  · rfl
  · simp only [List.mem_cons, List.not_mem_nil, or_false] at isEnd
    rcases isEnd with rfl | rfl | rfl <;> rfl

end JsonReader

end DocumentIngest
