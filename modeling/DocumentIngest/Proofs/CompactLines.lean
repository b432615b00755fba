import DocumentIngest.Proofs.JsonTokens
import Mathlib.Data.List.Basic

/-!
# Compact text is one line

No line feed stands in the compact text of a value, neither in a text, where it is
escaped, nor in a number.
-/

namespace DocumentIngest

namespace DecimalStyle

theorem feed_not_mem_toDigits (number : Nat) : '\n' ∉ Nat.toDigits 10 number := by
  intro feed
  have digit := Nat.isDigit_of_mem_toDigits (by decide) (by decide) feed
  exact absurd digit (by decide)

theorem feed_not_mem_zeros (count : Nat) : '\n' ∉ zeros count := by
  intro feed
  exact absurd (List.eq_of_mem_replicate feed) (by decide)

theorem feed_not_mem_plain (style : DecimalStyle) {digits : List Char} (whole : '\n' ∉ digits)
    (pointAt : Int) : '\n' ∉ style.plain digits pointAt := by
  have taken (count : Nat) : '\n' ∉ digits.take count :=
    fun feed => whole (List.mem_of_mem_take feed)
  have dropped (count : Nat) : '\n' ∉ digits.drop count :=
    fun feed => whole (List.mem_of_mem_drop feed)
  rw [plain]
  split
  · simp [feed_not_mem_zeros, whole]
  split
  · split <;> simp [feed_not_mem_zeros, whole]
  · simp [taken, dropped]

theorem feed_not_mem_scientific {digits : List Char} (whole : '\n' ∉ digits) (scale : Int) :
    '\n' ∉ scientific digits scale := by
  have exponent := feed_not_mem_toDigits scale.natAbs
  have sign : (if scale < 0 then '-' else '+') ≠ '\n' := by
    split <;> decide
  rcases digits with _ | ⟨digit, _ | ⟨next, rest⟩⟩
  · simp [scientific, exponent, sign.symm]
  · simpa [scientific, exponent, sign.symm] using whole
  · simpa [scientific, exponent, sign.symm] using whole

theorem feed_not_mem_layOut (style : DecimalStyle) (decimal : Decimal) :
    '\n' ∉ style.layOut decimal := by
  have digits := feed_not_mem_toDigits decimal.digits
  exact iteInduction (motive := fun text => '\n' ∉ text)
    (fun _ => feed_not_mem_plain style digits _) fun _ => feed_not_mem_scientific digits _

theorem feed_not_mem_render (style : DecimalStyle) (value : Binary64) :
    '\n' ∉ (style.render value).toList := by
  have body : '\n' ∉
      if value.isInfinite then ['i', 'n', 'f']
      else if value.isZero then (if style.keepsPoint then ['0', '.', '0'] else ['0'])
      else style.layOut (Binary64.shortest value.code) := by
    split
    · decide
    split
    · split <;> decide
    · exact feed_not_mem_layOut style _
  rw [render]
  split
  · decide
  · rw [String.toList_ofList]
    split
    · exact fun feed => body (List.mem_of_ne_of_mem (by decide) feed)
    · exact body

end DecimalStyle

namespace Json

theorem feed_ne_hexDigit : ∀ value < 16, '\n' ≠ hexDigit value := by
  decide

theorem feed_not_mem_escapeChar (c : Char) : '\n' ∉ escapeChar c := by
  rw [escapeChar]
  split
  · decide
  split
  · decide
  split
  · decide
  next notFeed =>
    split
    · decide
    split
    · decide
    split
    · decide
    split
    · decide
    split
    · next control =>
        have high := feed_ne_hexDigit (c.toNat / 16) (by omega)
        have low := feed_ne_hexDigit (c.toNat % 16) (by omega)
        simp [high, low]
    · exact fun feed => notFeed (List.mem_singleton.mp feed).symm

theorem feed_not_mem_quoted (text : String) : '\n' ∉ quoted text := by
  simp [quoted, feed_not_mem_escapeChar]

theorem feed_not_mem_render (value : Number) : '\n' ∉ value.render.toList := by
  cases value with
  | integer value =>
      rcases Number.toList_render_integer value with digits | digits
      · rw [digits]
        exact DecimalStyle.feed_not_mem_toDigits _
      · rw [digits]
        exact fun feed => DecimalStyle.feed_not_mem_toDigits _
          (List.mem_of_ne_of_mem (by decide) feed)
  | real value => exact DecimalStyle.feed_not_mem_render _ value

mutual

/-- The compact text of a value is on one line. -/
theorem feed_not_mem_compactChars (value : Json) : '\n' ∉ value.compactChars := by
  match value with
  | .null => decide
  | .bool true => decide
  | .bool false => decide
  | .number value => exact feed_not_mem_render value
  | .string text => exact feed_not_mem_quoted text
  | .array items => simp [compactChars, feed_not_mem_compactItems items]
  | .object fields => simp [compactChars, feed_not_mem_compactFields fields]

theorem feed_not_mem_compactItems (items : List Json) : '\n' ∉ compactItems items := by
  match items with
  | [] => decide
  | [item] => simp [compactItems, feed_not_mem_compactChars item]
  | item :: next :: rest =>
      simp [compactItems, feed_not_mem_compactChars item, feed_not_mem_compactItems (next :: rest)]

theorem feed_not_mem_compactFields (fields : List (String × Json)) :
    '\n' ∉ compactFields fields := by
  match fields with
  | [] => decide
  | [(name, value)] =>
      simp [compactFields, feed_not_mem_quoted, feed_not_mem_compactChars value]
  | (name, value) :: next :: rest =>
      simp [compactFields, feed_not_mem_quoted, feed_not_mem_compactChars value,
        feed_not_mem_compactFields (next :: rest)]

end

theorem feed_not_mem_compact (value : Json) : '\n' ∉ value.compact.toList := by
  rw [compact, String.toList_ofList]
  exact feed_not_mem_compactChars value

end Json

end DocumentIngest
