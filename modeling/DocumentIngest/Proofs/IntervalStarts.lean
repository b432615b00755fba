import DocumentIngest.Proofs.ExactNumbers
import DocumentIngest.Proofs.JsonRoundTrip
import DocumentIngest.Template.Handler
import Mathlib.Data.Rat.Floor

/-!
# Starts of intervals

A time is put down to the multiple of its interval at or below it.  The multiple is
passed on as an integer of 64 bits: if it is one, the result is the start of the
interval that the time lies in, and if it is not, the result starts no interval at
all.  So whole numbers of seconds are safe as an interval, and fractions are not.
-/

namespace DocumentIngest

namespace Calendar

/-- Whether a number starts an interval that a time lies in.  Intervals start at the
multiples of their length. -/
structure IsStart (seconds interval start : Rat) : Prop where
  isMultiple : ∃ count : Int, start = count * interval
  le_time : start ≤ seconds
  time_lt : seconds < start + interval

/-- Whether two times lie in one interval. -/
def SameInterval (interval first second : Rat) : Prop :=
  ∃ start, IsStart first interval start ∧ IsStart second interval start

/-- Whether a number is an integer of 64 bits. -/
def FitsInt64 (value : Rat) : Prop :=
  ∃ whole : Int, value = whole ∧ -2 ^ 63 ≤ whole ∧ whole < 2 ^ 63

/-- The integer part of a number, brought into 64 bits. -/
def toInt64 (value : Rat) : Int :=
  max (-2 ^ 63) (min (2 ^ 63 - 1) (Binary64.integerPart value))

/-- The multiple of an interval at or below a time. -/
def boundary (seconds interval : Rat) : Rat :=
  ((seconds / interval).floor : Rat) * interval

/-- The start that is computed for a time by operations that do not round. -/
def exactStart (seconds interval : Rat) : Int :=
  floorWith (· / ·) (· * ·) (fun quotient => (quotient.floor : Rat)) toInt64 seconds interval

theorem exactStart_eq (seconds interval : Rat) :
    exactStart seconds interval = toInt64 (boundary seconds interval) := rfl

section Exact

variable {seconds other interval start : Rat}

theorem isStart_boundary (positive : 0 < interval) (seconds : Rat) :
    IsStart seconds interval (boundary seconds interval) where
  isMultiple := ⟨_, rfl⟩
  le_time := (le_div_iff₀ positive).mp (Int.floor_le (seconds / interval))
  time_lt := by
    have below := (div_lt_iff₀ positive).mp (Int.lt_floor_add_one (seconds / interval))
    rw [add_mul, one_mul] at below
    exact below

/-- A time lies in one interval only. -/
theorem IsStart.eq_boundary (positive : 0 < interval)
    (isStart : IsStart seconds interval start) : start = boundary seconds interval := by
  obtain ⟨⟨count, rfl⟩, notAbove, near⟩ := isStart
  have floor : ⌊seconds / interval⌋ = count := by
    rw [Int.floor_eq_iff]
    constructor
    · rwa [le_div_iff₀ positive]
    · rw [div_lt_iff₀ positive, add_mul, one_mul]
      exact near
  rw [boundary]
  exact congrArg (fun count : Int => (count : Rat) * interval) floor.symm

theorem isStart_iff (positive : 0 < interval) :
    IsStart seconds interval start ↔ start = boundary seconds interval :=
  ⟨IsStart.eq_boundary positive, fun same => same ▸ isStart_boundary positive seconds⟩

theorem sameInterval_iff (positive : 0 < interval) :
    SameInterval interval seconds other ↔ boundary seconds interval = boundary other interval := by
  constructor
  · rintro ⟨start, first, second⟩
    exact (first.eq_boundary positive).symm.trans (second.eq_boundary positive)
  · intro same
    exact ⟨boundary seconds interval, isStart_boundary positive seconds,
      same ▸ isStart_boundary positive other⟩

theorem fitsInt64_toInt64 (value : Rat) : FitsInt64 (toInt64 value) :=
  ⟨toInt64 value, rfl, le_max_left _ _, by rw [toInt64]; omega⟩

theorem fitsInt64_exactStart (seconds interval : Rat) :
    FitsInt64 (exactStart seconds interval) :=
  fitsInt64_toInt64 _

/-- An integer of 64 bits passes unchanged, and nothing else does. -/
theorem cast_toInt64_iff {value : Rat} : (toInt64 value : Rat) = value ↔ FitsInt64 value := by
  constructor
  · intro same
    exact same ▸ fitsInt64_toInt64 value
  · rintro ⟨whole, rfl, notBelow, below⟩
    have part : Binary64.integerPart (whole : Rat) = whole := Int.tdiv_one whole
    rw [toInt64, part]
    congr 1
    omega

theorem isStart_exactStart_iff (positive : 0 < interval) :
    IsStart seconds interval (exactStart seconds interval) ↔
      FitsInt64 (boundary seconds interval) := by
  rw [isStart_iff positive, exactStart_eq, cast_toInt64_iff]

/-- The start of an interval lies in it. -/
theorem boundary_boundary (positive : 0 < interval) (seconds : Rat) :
    boundary (boundary seconds interval) interval = boundary seconds interval := by
  refine (IsStart.eq_boundary positive ?_).symm
  exact ⟨⟨_, rfl⟩, le_refl _, lt_add_of_pos_right _ positive⟩

theorem exactStart_exactStart (positive : 0 < interval)
    (fits : FitsInt64 (boundary seconds interval)) :
    exactStart (exactStart seconds interval) interval = exactStart seconds interval := by
  have same := cast_toInt64_iff.mpr fits
  rw [exactStart_eq seconds, exactStart_eq, same, boundary_boundary positive]

theorem exactStart_eq_iff (positive : 0 < interval)
    (fits : FitsInt64 (boundary seconds interval))
    (otherFits : FitsInt64 (boundary other interval)) :
    exactStart seconds interval = exactStart other interval ↔
      SameInterval interval seconds other := by
  rw [sameInterval_iff positive, ← cast_toInt64_iff.mpr fits, ← cast_toInt64_iff.mpr otherFits,
    Int.cast_inj]
  rfl

/-- The multiples of a whole number are whole. -/
theorem fitsInt64_boundary {whole : Int} (bounded : -2 ^ 63 ≤ boundary seconds whole ∧
    boundary seconds whole < 2 ^ 63) : FitsInt64 (boundary seconds whole) := by
  have isWhole : boundary seconds whole = (((seconds / whole).floor * whole : Int) : Rat) := by
    rw [boundary, Int.cast_mul]
  rw [isWhole] at bounded ⊢
  exact ⟨_, rfl, by exact_mod_cast bounded.1, by exact_mod_cast bounded.2⟩

end Exact

/-- Whether a number of seconds can be the length of an interval. -/
def IsLength (interval : Binary64) : Prop :=
  interval.isFinite = true ∧ 0 < interval.toRat

theorem isLength_iff {interval : Binary64} :
    IsLength interval ↔ (interval.isFinite && !interval.negative && !interval.isZero) = true := by
  rw [IsLength]
  cases finite : interval.isFinite with
  | false => simp
  | true =>
      have nonneg := Binary64.magnitude_nonneg interval.code
      rcases Binary64.toRat_eq_neg_or finite with ⟨negative, value⟩ | ⟨positive, value⟩
      · rw [negative, value]
        exact iff_of_false (fun length => by linarith [length.2]) (by simp)
      · have isZero : interval.isZero = true ↔ 0 = Binary64.magnitude interval.code := by
          constructor
          · intro isZero
            have code : interval.code = 0 := of_decide_eq_true isZero
            rw [code, Binary64.magnitude_zero]
          · exact fun zero => Binary64.isZero_of_magnitude_eq_zero zero.symm
        rw [positive, value, nonneg.lt_iff_ne, ne_eq, ← isZero]
        simp

/-- The multiple of an interval at or below a time, as it is computed. -/
def roundedBoundary (seconds interval : Binary64) : Binary64 :=
  ((seconds.div interval).floor).mul interval

theorem intervalStart_eq {interval : Binary64} (isLength : IsLength interval)
    (seconds : Binary64) :
    intervalStart seconds interval = .ok (roundedBoundary seconds interval).toInt64 := by
  rw [intervalStart, if_pos (isLength_iff.mp isLength)]
  rfl

/-- Whether the multiple of an interval at or below a time is computed without rounding. -/
structure ComputesExactly (seconds interval : Binary64) : Prop where
  isFinite : (roundedBoundary seconds interval).isFinite = true
  toRat_eq : (roundedBoundary seconds interval).toRat = boundary seconds.toRat interval.toRat

theorem toInt64_of_isFinite {value : Binary64} (finite : value.isFinite = true) :
    value.toInt64 = toInt64 value.toRat := by
  have notInfinite : value.isInfinite = false := by
    rw [Binary64.isFinite, decide_eq_true_eq] at finite
    rw [Binary64.isInfinite, decide_eq_false_iff_not]
    omega
  rw [Binary64.toInt64, Binary64.toIntWithin, Binary64.isNaN_of_isFinite finite, notInfinite]
  rfl

theorem intervalStart_of_exact {seconds interval : Binary64} (isLength : IsLength interval)
    (exact : ComputesExactly seconds interval) :
    intervalStart seconds interval = .ok (exactStart seconds.toRat interval.toRat) := by
  rw [intervalStart_eq isLength, toInt64_of_isFinite exact.isFinite, exact.toRat_eq]
  rfl

/-- Whether a handler is asked for the start of the interval that a time lies in: the
time is a part of the call, or the value of a field. -/
inductive AsksStart (seconds interval : Binary64) :
    Handler → HandlerInputs → RowContext → Prop where
  | intervalStart {inputs : HandlerInputs} {context : RowContext} :
      inputs.argumentNumber .intervalStart 0 = .ok interval →
        inputs.firstPart.asBinary64? = some seconds →
        AsksStart seconds interval .intervalStart inputs context
  | validEpoch {inputs : HandlerInputs} {context : RowContext} {field : String} :
      inputs.argumentText .validEpoch 0 = .ok field →
        inputs.argumentNumber .validEpoch 1 = .ok interval →
        (Resolved.ofOption (context.dataset.field field context.row)).asBinary64? = some seconds →
        AsksStart seconds interval .validEpoch inputs context

theorem mapNumber_of_number {value : Resolved} {number : Binary64}
    (isNumber : value.asBinary64? = some number) (fault : Resolved → HandlerFault)
    (f : Binary64 → Except HandlerFault Resolved) :
    Handler.mapNumber fault f value = f number := by
  cases value with
  | missing => cases isNumber
  | _ => simp only [Handler.mapNumber, Resolved.isMissing, isNumber, Bool.false_eq_true, if_false]

theorem apply_of_asksStart {seconds interval : Binary64} {handler : Handler}
    {inputs : HandlerInputs} {context : RowContext}
    (asks : AsksStart seconds interval handler inputs context) :
    handler.apply inputs context =
      (intervalStart seconds interval).map fun start => .scalar (.ofInt start) := by
  cases asks with
  | intervalStart isInterval isTime =>
      simp only [Handler.apply, isInterval, bind, Except.bind, mapNumber_of_number isTime]
  | validEpoch isField isInterval isTime =>
      simp only [Handler.apply, isField, isInterval, bind, Except.bind,
        mapNumber_of_number isTime]

theorem asKey?_ofInt (value : Int) :
    (Resolved.scalar (.ofInt value)).asKey? = some (Json.ofInt value).compact := by
  rw [Json.compact, Json.ofInt, Json.compactChars, String.ofList_toList]
  rfl

/-- The text of an integer of 64 bits inside a key tells the integer. -/
theorem asKey?_ofInt_inj {first second : Int} (fits : FitsInt64 first)
    (otherFits : FitsInt64 second) :
    (Resolved.scalar (.ofInt first)).asKey? = (Resolved.scalar (.ofInt second)).asKey? ↔
      first = second := by
  refine ⟨fun same => ?_, congrArg fun value => (Resolved.scalar (.ofInt value)).asKey?⟩
  have reads : ∀ value : Int, FitsInt64 value →
      Json.readText (Json.ofInt value).compact = .ok (.ofInt value) := by
    rintro value ⟨whole, isWhole, notBelow, below⟩
    obtain rfl := Int.cast_injective isWhole
    have plain : Json.IsPlain 0 (.ofInt value) := .integer notBelow (by omega)
    exact Json.readText_compact plain (by decide)
  rw [asKey?_ofInt, asKey?_ofInt, Option.some_inj] at same
  have read := (same ▸ reads first fits).symm.trans (reads second otherFits)
  simpa [Json.ofInt] using read

/-- Where the multiple of an interval at or below a time is an integer of 64 bits, the
start that is computed without rounding is the start of the interval that the time lies
in; where it is not, it starts no interval with the time in it.  Whole intervals have
whole multiples.  A start is put down to itself, and two times have starts of one key
text just if they lie in one interval. -/
theorem floors_where_boundary_fits {interval : Binary64} (isLength : IsLength interval) :
    (∀ seconds, ∃ start, intervalStart seconds interval = .ok start) ∧
    (∀ seconds handler inputs context, AsksStart seconds interval handler inputs context →
      ComputesExactly seconds interval →
      handler.apply inputs context =
        .ok (.scalar (.ofInt (exactStart seconds.toRat interval.toRat)))) ∧
    (∀ seconds : Rat,
      (IsStart seconds interval.toRat (exactStart seconds interval.toRat) ↔
        FitsInt64 (boundary seconds interval.toRat)) ∧
      ((∃ whole : Int, interval.toRat = whole) → -2 ^ 63 ≤ boundary seconds interval.toRat →
        boundary seconds interval.toRat < 2 ^ 63 → FitsInt64 (boundary seconds interval.toRat)) ∧
      (FitsInt64 (boundary seconds interval.toRat) →
        exactStart (exactStart seconds interval.toRat) interval.toRat =
          exactStart seconds interval.toRat)) ∧
    ∀ first second : Rat, FitsInt64 (boundary first interval.toRat) →
      FitsInt64 (boundary second interval.toRat) →
      ((Resolved.scalar (.ofInt (exactStart first interval.toRat))).asKey? =
          (Resolved.scalar (.ofInt (exactStart second interval.toRat))).asKey? ↔
        SameInterval interval.toRat first second) := by
  have positive := isLength.2
  refine ⟨fun seconds => ⟨_, intervalStart_eq isLength seconds⟩, ?_, ?_, ?_⟩
  · intro seconds handler inputs context asks exact
    rw [apply_of_asksStart asks, intervalStart_of_exact isLength exact]
    rfl
  · intro seconds
    refine ⟨isStart_exactStart_iff positive, ?_, exactStart_exactStart positive⟩
    rintro ⟨whole, isWhole⟩ notBelow below
    rw [isWhole] at notBelow below ⊢
    exact fitsInt64_boundary ⟨notBelow, below⟩
  · intro first second fits otherFits
    rw [asKey?_ofInt_inj (fitsInt64_exactStart _ _) (fitsInt64_exactStart _ _),
      exactStart_eq_iff positive fits otherFits]

/-- Half a second before the epoch. -/
def justBefore : Binary64 := Binary64.ofDecimal true 5 (-1)

/-- Sixty minutes. -/
def hour : Binary64 := Binary64.ofInt 3600

theorem floors_where_boundary_fits_hourly :
    IsLength hour ∧ ComputesExactly justBefore hour ∧
      Handler.intervalStart.apply ⟨[.ofText "3600"], [.ofText "-0.5"]⟩ ⟨.empty, 0, []⟩ =
        .ok (.scalar (.ofInt (-3600))) ∧
      IsStart (-1 / 2) 3600 (-3600) ∧ SameInterval 3600 (-1 / 2) (-3600) := by
  have isLength : IsLength hour := ⟨by decide +kernel, by decide +kernel⟩
  have length : hour.toRat = 3600 := by decide +kernel
  have time : justBefore.toRat = -1 / 2 := by decide +kernel
  have exact : ComputesExactly justBefore hour := ⟨by decide +kernel, by decide +kernel⟩
  have start : exactStart (-1 / 2) 3600 = -3600 := by decide +kernel
  have fits : FitsInt64 (boundary (-1 / 2) 3600) :=
    ⟨-3600, by decide +kernel, by decide, by decide⟩
  have startFits : FitsInt64 (boundary (-3600) 3600) :=
    ⟨-3600, by decide +kernel, by decide, by decide⟩
  have asks : AsksStart justBefore hour .intervalStart ⟨[.ofText "3600"], [.ofText "-0.5"]⟩
      ⟨.empty, 0, []⟩ := .intervalStart rfl (by decide +kernel)
  obtain ⟨_, gives, floors, oneKey⟩ := floors_where_boundary_fits isLength
  have given := gives _ _ _ _ asks exact
  rw [time, length, start] at given
  rw [length] at floors oneKey
  have isStart := (floors (-1 / 2)).1.mpr fits
  have again : exactStart (-3600) 3600 = exactStart (-1 / 2) 3600 := by
    have kept := (floors (-1 / 2)).2.2 fits
    rw [start] at kept ⊢
    exact kept
  rw [start] at isStart
  exact ⟨isLength, exact, given, isStart,
    (oneKey _ _ fits startFits).mp (congrArg (fun start => (Resolved.scalar (.ofInt start)).asKey?)
      again.symm)⟩

/-- Three quarters of a second after the epoch. -/
def threeQuarters : Binary64 := Binary64.ofDecimal false 75 (-2)

/-- Half a second. -/
def half : Binary64 := Binary64.ofDecimal false 5 (-1)

/-- The multiple of half a second below three quarters is no integer, and what comes out
in its place is more than half a second away, though no operation rounds. -/
theorem not_floors_every_time :
    ¬∀ seconds interval : Binary64, seconds.isFinite = true → IsLength interval →
      ComputesExactly seconds interval → ∀ start, intervalStart seconds interval = .ok start →
        IsStart seconds.toRat interval.toRat start := by
  intro floors
  have isLength : IsLength half := ⟨by decide +kernel, by decide +kernel⟩
  have exact : ComputesExactly threeQuarters half := ⟨by decide +kernel, by decide +kernel⟩
  have time : threeQuarters.toRat = 3 / 4 := by decide +kernel
  have length : half.toRat = 1 / 2 := by decide +kernel
  have start : exactStart (3 / 4) (1 / 2) = 0 := by decide +kernel
  have found := intervalStart_of_exact isLength exact
  have near := (floors threeQuarters half (by decide +kernel) isLength exact _ found).time_lt
  rw [time, length, start] at near
  norm_num at near

end Calendar

end DocumentIngest
