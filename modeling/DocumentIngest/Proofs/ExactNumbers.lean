import DocumentIngest.Json
import Mathlib.Algebra.Order.Field.Rat
import Mathlib.Tactic.Linarith

/-!
# Numbers of the same value

A number in a JSON text stands for a rational number.  Two numbers that stand for
the same one are also equal as floating point numbers, however they are written: a
finite code is determined by its value, up to the sign of zero, and an integer that
has a code of its own is rounded to that code.
-/

namespace DocumentIngest

namespace Binary64

/-- The number of binary places of the least positive number. -/
def leastPlaces : Nat := 1074

/-- The magnitude of a code as a multiple of the least positive number. -/
def units (code : Nat) : Nat :=
  if code < binade then code else (binade + code % binade) * 2 ^ (code / binade - 1)

theorem powerOfTwo_eq (exponent : Int) : powerOfTwo exponent = (2 : Rat) ^ exponent := by
  rw [powerOfTwo]
  split
  · next natural =>
      obtain ⟨places, rfl⟩ := Int.eq_ofNat_of_zero_le natural
      rw [Int.toNat_natCast, zpow_natCast]
      push_cast
      rfl
  · next negative =>
      obtain ⟨places, isPlaces⟩ := Int.eq_ofNat_of_zero_le (show 0 ≤ -exponent by omega)
      have same : exponent = -(places : Int) := by omega
      rw [same, neg_neg, Int.toNat_natCast, zpow_neg, zpow_natCast, one_div]
      push_cast
      rfl

theorem binade_pos : 0 < binade :=
  Nat.two_pow_pos 52

theorem one_le_div_binade {code : Nat} (normal : ¬code < binade) : 1 ≤ code / binade :=
  (Nat.one_le_div_iff binade_pos).mpr (Nat.le_of_not_lt normal)

theorem magnitude_eq (code : Nat) : magnitude code = (units code : Rat) / 2 ^ leastPlaces := by
  rw [magnitude, powerOfTwo_eq, significand, exponent, units, div_eq_mul_inv, ← zpow_natCast,
    ← zpow_neg]
  split
  · rfl
  · next normal =>
      have places := one_le_div_binade normal
      have shifted : ((code / binade : Nat) : Int) - 1075 =
          ((code / binade - 1 : Nat) : Int) + -(leastPlaces : Int) := by
        rw [leastPlaces]
        omega
      rw [shifted, zpow_add₀ (by decide), zpow_natCast, ← mul_assoc]
      push_cast
      rfl

theorem magnitude_zero : magnitude 0 = 0 := by
  rw [magnitude_eq, units, if_pos binade_pos, Nat.cast_zero, zero_div]

theorem magnitude_nonneg (code : Nat) : 0 ≤ magnitude code := by
  rw [magnitude_eq]
  exact div_nonneg (Nat.cast_nonneg _) (pow_nonneg (by decide) _)

theorem units_eq_of_magnitude {code number : Nat} (same : magnitude code = number) :
    units code = number * 2 ^ leastPlaces := by
  rw [magnitude_eq, div_eq_iff (pow_ne_zero _ (by decide))] at same
  exact_mod_cast same

theorem units_bounds {code : Nat} (normal : ¬code < binade) :
    2 ^ (51 + code / binade) ≤ units code ∧ units code < 2 ^ (52 + code / binade) := by
  have isPower : binade = 2 ^ 52 := rfl
  obtain ⟨places, isPlaces⟩ := Nat.exists_eq_add_of_le' (one_le_div_binade normal)
  have below : code % binade < binade := Nat.mod_lt _ binade_pos
  have lower : 2 ^ (51 + (places + 1)) = binade * 2 ^ places := by
    rw [isPower, ← Nat.pow_add]
    congr 1
    omega
  have upper : 2 ^ (52 + (places + 1)) = (binade + binade) * 2 ^ places := by
    rw [← Nat.two_mul, isPower, Nat.mul_comm 2, ← Nat.pow_succ, ← Nat.pow_add]
    congr 1
    omega
  rw [units, if_neg normal, isPlaces, Nat.add_sub_cancel, lower, upper]
  exact ⟨Nat.mul_le_mul_right _ (Nat.le_add_right _ _),
    Nat.mul_lt_mul_of_pos_right (Nat.add_lt_add_left below _) (Nat.two_pow_pos _)⟩

theorem le_units {code : Nat} (normal : ¬code < binade) : binade ≤ units code := by
  have places := one_le_div_binade normal
  exact Nat.le_trans (Nat.pow_le_pow_right (by decide) (by omega)) (units_bounds normal).1

/-- Codes are told apart by their magnitudes. -/
theorem units_injective {first second : Nat} (same : units first = units second) :
    first = second := by
  by_cases small : first < binade
  · by_cases otherSmall : second < binade
    · rwa [units, units, if_pos small, if_pos otherSmall] at same
    · have large := le_units otherSmall
      rw [← same, units, if_pos small] at large
      omega
  · by_cases otherSmall : second < binade
    · have large := le_units small
      rw [same, units, if_pos otherSmall] at large
      omega
    · obtain ⟨lower, upper⟩ := units_bounds small
      obtain ⟨otherLower, otherUpper⟩ := units_bounds otherSmall
      -- both lie between the same powers of two, so the exponents agree
      have below : 51 + first / binade < 52 + second / binade :=
        (Nat.pow_lt_pow_iff_right (by decide)).mp
          (Nat.lt_of_le_of_lt (same ▸ lower) otherUpper)
      have above : 51 + second / binade < 52 + first / binade :=
        (Nat.pow_lt_pow_iff_right (by decide)).mp
          (Nat.lt_of_le_of_lt (same ▸ otherLower) upper)
      have sameExponent : first / binade = second / binade := by omega
      rw [units, units, if_neg small, if_neg otherSmall, sameExponent] at same
      have sameDigits := Nat.eq_of_mul_eq_mul_right (Nat.two_pow_pos _) same
      rw [← Nat.div_add_mod first binade, ← Nat.div_add_mod second binade, sameExponent,
        Nat.add_left_cancel sameDigits]

theorem magnitude_injective {first second : Nat} (same : magnitude first = magnitude second) :
    first = second := by
  rw [magnitude_eq, magnitude_eq, div_left_inj' (pow_ne_zero _ (by decide))] at same
  exact units_injective (Nat.cast_injective same)

theorem divideToNearest_exact (quotient : Nat) {denominator : Nat} (pos : 0 < denominator) :
    divideToNearest (quotient * denominator) denominator = quotient := by
  simp only [divideToNearest, Nat.mul_div_cancel _ pos, Nat.mul_mod_left]
  rw [if_pos (by omega)]

theorem gridExponent_natural {number : Nat} (pos : 0 < number) :
    gridExponent number 1 = max ((number.log2 : Int) - 52) (-1074) := by
  have leading : 2 ^ number.log2 ≤ number := Nat.log2_self_le (Nat.ne_of_gt pos)
  have estimate : (number.log2 : Int) - (Nat.log2 1 : Int) - 52 = number.log2 - 52 := by
    rw [show Nat.log2 1 = 0 from rfl]
    omega
  rw [gridExponent]
  simp only [estimate]
  split
  · next natural =>
      have places : 52 + ((number.log2 : Int) - 52).toNat = number.log2 := by omega
      rw [places, Nat.one_mul, decide_eq_false (Nat.not_lt.mpr leading)]
      rfl
  · next negative =>
      have places : number.log2 + (-((number.log2 : Int) - 52)).toNat = 52 := by omega
      have scaled : 2 ^ 52 ≤ number * 2 ^ (-((number.log2 : Int) - 52)).toNat := by
        rw [← places, Nat.pow_add]
        exact Nat.mul_le_mul_right _ leading
      rw [Nat.one_mul, decide_eq_false (Nat.not_lt.mpr scaled)]
      rfl

/-- The leading digit of an integer that has a code tells the exponent of the code. -/
theorem log2_of_units {code number : Nat} (pos : 0 < number) (normal : ¬code < binade)
    (exact : units code = number * 2 ^ leastPlaces) :
    number.log2 + leastPlaces = 51 + code / binade := by
  obtain ⟨lower, upper⟩ := units_bounds normal
  rw [exact] at lower upper
  have whole : 2 ^ leastPlaces ≤ number * 2 ^ leastPlaces := Nat.le_mul_of_pos_left _ pos
  have reaches : leastPlaces < 52 + code / binade :=
    (Nat.pow_lt_pow_iff_right (by decide)).mp (Nat.lt_of_le_of_lt whole upper)
  obtain ⟨leading, isLeading⟩ : ∃ leading, 51 + code / binade = leading + leastPlaces :=
    ⟨51 + code / binade - leastPlaces, by omega⟩
  have next : 52 + code / binade = leading + 1 + leastPlaces := by omega
  rw [isLeading, Nat.pow_add] at lower
  rw [next, Nat.pow_add] at upper
  have found : number.log2 = leading :=
    (Nat.log2_eq_iff (Nat.ne_of_gt pos)).mpr
      ⟨Nat.le_of_mul_le_mul_right lower (Nat.two_pow_pos _),
        Nat.lt_of_mul_lt_mul_right upper⟩
  rw [found, isLeading]

/-- On the grid of its exponent, an integer that has a code is the digits of the code. -/
theorem divideToNearest_onGrid {code number : Nat} (normal : ¬code < binade)
    (exact : units code = number * 2 ^ leastPlaces) :
    (if 0 ≤ ((code / binade : Nat) : Int) - 1075
      then divideToNearest number (1 * 2 ^ (((code / binade : Nat) : Int) - 1075).toNat)
      else divideToNearest (number * 2 ^ (-(((code / binade : Nat) : Int) - 1075)).toNat) 1) =
        binade + code % binade := by
  have places := one_le_div_binade normal
  have least : leastPlaces = 1074 := rfl
  rw [units, if_neg normal] at exact
  split
  · next coarse =>
      obtain ⟨further, isFurther⟩ : ∃ further, code / binade - 1 = further + leastPlaces :=
        ⟨code / binade - 1 - leastPlaces, by omega⟩
      have width : (((code / binade : Nat) : Int) - 1075).toNat = further := by omega
      rw [isFurther, Nat.pow_add, ← Nat.mul_assoc] at exact
      have digits := Nat.eq_of_mul_eq_mul_right (Nat.two_pow_pos _) exact
      rw [width, Nat.one_mul, ← digits, divideToNearest_exact _ (Nat.two_pow_pos _)]
  · next fine =>
      obtain ⟨further, isFurther⟩ : ∃ further, leastPlaces = further + (code / binade - 1) :=
        ⟨leastPlaces - (code / binade - 1), by omega⟩
      have width : (-(((code / binade : Nat) : Int) - 1075)).toNat = further := by omega
      rw [isFurther, Nat.pow_add, ← Nat.mul_assoc] at exact
      have digits := Nat.eq_of_mul_eq_mul_right (Nat.two_pow_pos _) exact
      have whole := divideToNearest_exact (number * 2 ^ further) (by decide : 0 < 1)
      rw [Nat.mul_one] at whole
      rw [width, digits, whole]

theorem code_of_parts {code : Nat} (normal : ¬code < binade) :
    (code / binade - 1) * binade + (binade + code % binade) = code := by
  obtain ⟨earlier, isEarlier⟩ := Nat.exists_eq_add_of_le' (one_le_div_binade normal)
  have whole := Nat.div_add_mod code binade
  rw [isEarlier, Nat.mul_comm, Nat.succ_mul] at whole
  rw [isEarlier, Nat.add_sub_cancel, ← Nat.add_assoc, whole]

/-- An integer that has a code is rounded to it. -/
theorem nearestCode_of_units {code number : Nat} (pos : 0 < number)
    (exact : units code = number * 2 ^ leastPlaces) (finite : code < infinityCode) :
    nearestCode number 1 = code := by
  have normal : ¬code < binade := by
    intro small
    rw [units, if_pos small] at exact
    have whole : 2 ^ leastPlaces ≤ number * 2 ^ leastPlaces := Nat.le_mul_of_pos_left _ pos
    have larger : binade ≤ 2 ^ leastPlaces := Nat.pow_le_pow_right (by decide) (by decide)
    omega
  have places := one_le_div_binade normal
  have leading := log2_of_units pos normal exact
  have least : leastPlaces = 1074 := rfl
  have grid : gridExponent number 1 = ((code / binade : Nat) : Int) - 1075 := by
    rw [gridExponent_natural pos]
    omega
  have position : (((code / binade : Nat) : Int) - 1075 + 1074).toNat = code / binade - 1 := by
    omega
  rw [nearestCode, if_neg (Nat.ne_of_gt pos)]
  simp only [grid, divideToNearest_onGrid normal exact, position, code_of_parts normal]
  exact Nat.min_eq_left (Nat.le_of_lt finite)

theorem ofCode_code (x : Binary64) : ofCode x.negative x.code = x := by
  have small := x.bits.toNat_lt
  have whole : (if x.negative = true then 2 ^ 63 + x.code else x.code) = x.bits.toNat := by
    simp only [negative, decide_eq_true_eq, code]
    split <;> omega
  rw [ofCode, whole, UInt64.ofNat_toNat]

theorem isNaN_of_isFinite {x : Binary64} (finite : x.isFinite = true) : x.isNaN = false := by
  rw [isFinite, decide_eq_true_eq] at finite
  rw [isNaN, decide_eq_false_iff_not]
  omega

theorem code_ofCode (negative : Bool) {code : Nat} (small : code < 2 ^ 63) :
    (ofCode negative code).code = code := by
  rw [Binary64.code, ofCode, UInt64.toNat_ofNat']
  cases negative <;> simp only [Bool.false_eq_true, if_true, if_false] <;> omega

theorem isNaN_nearest (negative : Bool) (numerator denominator : Nat) :
    (nearest negative numerator denominator).isNaN = false := by
  have within : nearestCode numerator denominator ≤ infinityCode := by
    rw [nearestCode]
    split
    · exact Nat.zero_le _
    · exact Nat.min_le_right _ _
  have small : nearestCode numerator denominator < 2 ^ 63 :=
    Nat.lt_of_le_of_lt within (by decide)
  rw [isNaN, nearest, code_ofCode negative small, decide_eq_false_iff_not]
  exact Nat.not_lt.mpr within

variable {x y : Binary64}

theorem ext_code (sameSign : x.negative = y.negative) (sameCode : x.code = y.code) : x = y := by
  rw [← ofCode_code x, ← ofCode_code y, sameSign, sameCode]

theorem isZero_of_magnitude_eq_zero (zero : magnitude x.code = 0) : x.isZero = true := by
  have none : x.code = 0 := magnitude_injective (zero.trans magnitude_zero.symm)
  rw [isZero, none]
  rfl

theorem eq_self (number : x.isNaN = false) : eq x x = true := by
  simp only [eq, number, Bool.not_false, Bool.true_and, decide_true, Bool.true_or]

theorem eq_symm (same : eq x y = true) : eq y x = true := by
  simp only [eq, Bool.and_eq_true, Bool.or_eq_true, decide_eq_true_eq] at same ⊢
  obtain ⟨⟨number, otherNumber⟩, equal | ⟨zero, otherZero⟩⟩ := same
  · exact ⟨⟨otherNumber, number⟩, .inl equal.symm⟩
  · exact ⟨⟨otherNumber, number⟩, .inr ⟨otherZero, zero⟩⟩

theorem toRat_eq_neg_or (finite : x.isFinite = true) :
    x.negative = true ∧ x.toRat = -magnitude x.code ∨
      x.negative = false ∧ x.toRat = magnitude x.code := by
  rw [toRat, if_pos finite]
  cases sign : x.negative with
  | true => exact .inl ⟨rfl, rfl⟩
  | false => exact .inr ⟨rfl, rfl⟩

theorem eq_of_toRat_eq (finite : x.isFinite = true) (otherFinite : y.isFinite = true)
    (same : x.toRat = y.toRat) : eq x y = true := by
  have nonneg := magnitude_nonneg x.code
  have otherNonneg := magnitude_nonneg y.code
  simp only [eq, isNaN_of_isFinite finite, isNaN_of_isFinite otherFinite, Bool.not_false,
    Bool.true_and, Bool.or_eq_true, decide_eq_true_eq, Bool.and_eq_true]
  rcases toRat_eq_neg_or finite with ⟨sign, value⟩ | ⟨sign, value⟩ <;>
    rcases toRat_eq_neg_or otherFinite with ⟨otherSign, otherValue⟩ | ⟨otherSign, otherValue⟩ <;>
    rw [value, otherValue] at same
  · exact .inl (ext_code (sign.trans otherSign.symm) (magnitude_injective (neg_inj.mp same)))
  · exact .inr ⟨isZero_of_magnitude_eq_zero (by linarith),
      isZero_of_magnitude_eq_zero (by linarith)⟩
  · exact .inr ⟨isZero_of_magnitude_eq_zero (by linarith),
      isZero_of_magnitude_eq_zero (by linarith)⟩
  · exact .inl (ext_code (sign.trans otherSign.symm) (magnitude_injective same))

theorem magnitude_of_toRat {integer : Int} (finite : x.isFinite = true)
    (same : x.toRat = integer) : magnitude x.code = integer.natAbs := by
  have nonneg := magnitude_nonneg x.code
  rw [← Int.cast_natCast]
  rcases toRat_eq_neg_or finite with ⟨_, value⟩ | ⟨_, value⟩
  · rw [value] at same
    have below : (integer : Rat) ≤ 0 := by linarith
    rw [Int.ofNat_natAbs_of_nonpos (by exact_mod_cast below)]
    push_cast
    linarith
  · rw [value] at same
    have above : (0 : Rat) ≤ integer := by linarith
    rw [Int.natAbs_of_nonneg (by exact_mod_cast above)]
    exact same

theorem negative_of_toRat {integer : Int} (finite : x.isFinite = true)
    (same : x.toRat = integer) (nonzero : integer ≠ 0) :
    decide (integer < 0) = x.negative := by
  have nonneg := magnitude_nonneg x.code
  have nonzeroValue : (integer : Rat) ≠ 0 := by exact_mod_cast nonzero
  rcases toRat_eq_neg_or finite with ⟨sign, value⟩ | ⟨sign, value⟩
  · rw [value] at same
    have below : (integer : Rat) < 0 := lt_of_le_of_ne (by linarith) nonzeroValue
    rw [sign]
    exact decide_eq_true (by exact_mod_cast below)
  · rw [value] at same
    have above : (0 : Rat) ≤ integer := by linarith
    have natural : 0 ≤ integer := by exact_mod_cast above
    rw [sign]
    exact decide_eq_false (by omega)

/-- An integer that some number stands for is rounded to that number. -/
theorem eq_ofInt_of_toRat_eq {integer : Int} (finite : x.isFinite = true)
    (same : x.toRat = integer) : eq (ofInt integer) x = true := by
  have size := magnitude_of_toRat finite same
  by_cases zero : integer = 0
  · subst integer
    have isZero := isZero_of_magnitude_eq_zero size
    simp only [eq, ofInt, isNaN_nearest, isNaN_of_isFinite finite, isZero, Bool.not_false,
      Bool.true_and, Bool.and_true, Bool.or_eq_true]
    exact .inr rfl
  · have pos : 0 < integer.natAbs := Int.natAbs_pos.mpr zero
    have small : x.code < infinityCode := of_decide_eq_true finite
    have rounded := nearestCode_of_units pos (units_eq_of_magnitude size) small
    have isNumber : ofInt integer = x := by
      rw [ofInt, nearest, rounded, negative_of_toRat finite same zero, ofCode_code]
    rw [isNumber]
    exact eq_self (isNaN_of_isFinite finite)

end Binary64

namespace Number

/-- The rational number that a number stands for; one that is not finite stands for none. -/
def value? : Number → Option Rat
  | integer value => some value
  | real value => if value.isFinite then some value.toRat else none

/-- Whether two numbers stand for the same rational number. -/
def SameValue (first second : Number) : Prop :=
  ∃ value, first.value? = some value ∧ second.value? = some value

theorem value?_real {number : Binary64} {value : Rat}
    (stands : (real number).value? = some value) :
    number.isFinite = true ∧ number.toRat = value := by
  rw [value?] at stands
  split at stands
  · next finite => exact ⟨finite, Option.some.inj stands⟩
  · cases stands

/-- Numbers of the same value are equal as floating point numbers. -/
theorem SameValue.eq_toBinary64 {first second : Number} (same : first.SameValue second) :
    Binary64.eq first.toBinary64 second.toBinary64 = true := by
  obtain ⟨value, stands, otherStands⟩ := same
  cases first with
  | integer whole =>
      obtain rfl := Option.some.inj stands
      cases second with
      | integer other =>
          have sameWhole : other = whole := Int.cast_injective (Option.some.inj otherStands)
          rw [sameWhole]
          exact Binary64.eq_self (Binary64.isNaN_nearest _ _ _)
      | real number =>
          obtain ⟨finite, isValue⟩ := value?_real otherStands
          exact Binary64.eq_ofInt_of_toRat_eq finite isValue
  | real number =>
      obtain ⟨finite, isValue⟩ := value?_real stands
      cases second with
      | integer whole =>
          obtain rfl := Option.some.inj otherStands
          exact Binary64.eq_symm (Binary64.eq_ofInt_of_toRat_eq finite isValue)
      | real other =>
          obtain ⟨otherFinite, isOther⟩ := value?_real otherStands
          exact Binary64.eq_of_toRat_eq finite otherFinite (isValue.trans isOther.symm)

end Number

end DocumentIngest
