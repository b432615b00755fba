import DocumentIngest.Assembly.Pool
import DocumentIngest.Proofs.HandlerNames

/-!
# Lists too long to hold

Of all handlers only `levels` makes a list of any length that is asked for, and when
that is more than a list can hold, the build breaks off.  An error that breaks off a
build therefore always names `levels` and a count beyond the longest list, and nested
rows, which have no such handler, never break off.
-/

namespace DocumentIngest

open Fallible

namespace Handler

variable {α β : Type}

/-- Whether a step never fails for a list that cannot be held. -/
def Fits (step : Except HandlerFault α) : Prop :=
  ∀ count, step ≠ .error (.overlong count)

theorem fits_ok (value : α) : Fits (.ok value) := by
  simp [Fits]

theorem Fits.bind {step : Except HandlerFault α} {next : α → Except HandlerFault β}
    (fits : Fits step) (after : ∀ value, Fits (next value)) : Fits (step >>= next) := by
  intro count failed
  rcases bind_eq_error_iff.mp failed with first | ⟨value, _, second⟩
  · exact fits count first
  · exact after value count second

theorem Fits.map {step : Except HandlerFault α} (fits : Fits step) (f : α → β) :
    Fits (step.map f) :=
  fun count failed => fits count (map_eq_error_iff.mp failed)

theorem fits_argument (inputs : HandlerInputs) (handler : Handler) (index : Nat) :
    Fits (inputs.argument handler index) := by
  unfold HandlerInputs.argument
  split <;> simp [Fits]

theorem fits_argumentText (inputs : HandlerInputs) (handler : Handler) (index : Nat) :
    Fits (inputs.argumentText handler index) := by
  refine (fits_argument inputs handler index).bind fun value => ?_
  split <;> simp [Fits]

theorem fits_argumentNumber (inputs : HandlerInputs) (handler : Handler) (index : Nat) :
    Fits (inputs.argumentNumber handler index) := by
  refine (fits_argument inputs handler index).bind fun value => ?_
  split <;> simp [Fits]

theorem fits_keyParts (values : List Resolved) : Fits (keyParts values) := by
  induction values with
  | nil => exact fits_ok _
  | cons value rest ih =>
      unfold keyParts
      split
      · exact fits_ok _
      · split
        · simp [Fits]
        · exact ih.map _

theorem fits_mapText (f : String → String) (value : Resolved) : Fits (mapText f value) := by
  unfold mapText
  split <;> simp [Fits]

theorem fits_mapNumber {fault : Resolved → HandlerFault}
    {f : Binary64 → Except HandlerFault Resolved} {value : Resolved}
    (other : (fault value).breaksOff = false) (fits : ∀ number, Fits (f number)) :
    Fits (mapNumber fault f value) := by
  unfold mapNumber
  split
  · exact fits_ok _
  · split
    · intro count failed
      rw [Except.error.inj failed] at other
      cases other
    · exact fits _

theorem fits_intervalStart (seconds interval : Binary64) :
    Fits (Calendar.intervalStart seconds interval) := by
  unfold Calendar.intervalStart
  split <;> simp [Fits]

/-- Every handler but `levels` makes do with the lists that it is given. -/
theorem fits_apply {handler : Handler} (other : handler ≠ levels) (inputs : HandlerInputs)
    (context : RowContext) : Fits (handler.apply inputs context) := by
  cases handler with
  | deriveKey =>
      refine (fits_keyParts inputs.all).bind fun parts => ?_
      cases parts <;> exact fits_ok _
  | round =>
      refine (fits_argumentNumber inputs _ 0).bind fun places => ?_
      exact fits_mapNumber rfl fun _ => fits_ok _
  | scale =>
      refine (fits_argumentNumber inputs _ 0).bind fun factor => ?_
      exact fits_mapNumber rfl fun _ => fits_ok _
  | upper => exact fits_mapText _ _
  | lower => exact fits_mapText _ _
  | coalesce => exact fits_ok _
  | isoTime =>
      refine fits_mapNumber rfl fun seconds => ?_
      split <;> simp [Fits]
  | epoch =>
      refine (fits_argumentText inputs _ 0).bind fun mask => ?_
      split
      · exact fits_ok _
      · split <;> simp [Fits]
  | intervalStart =>
      refine (fits_argumentNumber inputs _ 0).bind fun interval => ?_
      exact fits_mapNumber rfl fun seconds => (fits_intervalStart seconds interval).map _
  | parameter => exact (fits_argumentText inputs _ 0).bind fun _ => fits_ok _
  | metadata => exact (fits_argumentText inputs _ 0).bind fun _ => fits_ok _
  | rowIndex => exact fits_ok _
  | column => exact (fits_argumentText inputs _ 0).bind fun _ => fits_ok _
  | levels => exact absurd rfl other
  | validEpoch =>
      refine (fits_argumentText inputs _ 0).bind fun field => ?_
      refine (fits_argumentNumber inputs _ 1).bind fun interval => ?_
      exact fits_mapNumber rfl fun seconds => (fits_intervalStart seconds interval).map _

theorem overlong_of_apply {handler : Handler} {inputs : HandlerInputs} {context : RowContext}
    {count : Nat} (fails : handler.apply inputs context = .error (.overlong count)) :
    handler = levels ∧ longestList < count := by
  by_cases isLevels : handler = levels
  · subst isLevels
    refine ⟨rfl, ?_⟩
    rcases bind_eq_error_iff.mp fails with inArgument | ⟨number, _, fails⟩
    · exact absurd inArgument (fits_argumentNumber inputs levels 0 count)
    split at fails
    · unfold countUp at fails
      split at fails
      · cases fails
      · next tooMany =>
          cases fails
          exact Nat.lt_of_not_le tooMany
    · cases fails
  · exact absurd fails (fits_apply isLevels inputs context count)

end Handler

theorem HandlerFault.breaksOff_iff {fault : HandlerFault} :
    fault.breaksOff = true ↔ ∃ count, fault = .overlong count := by
  cases fault <;> simp [breaksOff]

namespace TemplateError

variable {provided : List Handler} {context : RowContext} {names : List String}
  {error : TemplateError}

/-- Only `levels` breaks off a build, by a count that is too large. -/
theorem ArisesIn.overlong (arises : error.ArisesIn provided context names)
    (breaks : error.breaksOff = true) :
    Handler.levels ∈ provided ∧
      ∃ count, Handler.longestList < count ∧ error = .handler "levels" (.overlong count) := by
  cases arises with
  | unknown => cases breaks
  | list => cases breaks
  | textless => cases breaks
  | fault called found fails =>
      obtain ⟨count, rfl⟩ := HandlerFault.breaksOff_iff.mp breaks
      obtain ⟨rfl, tooMany⟩ := Handler.overlong_of_apply fails
      have isName := List.find?_some found
      exact ⟨List.mem_of_find?_eq_some found, count, tooMany, by rw [← eq_of_beq isName]; rfl⟩

theorem ArisesIn.breaksOff_iff (arises : error.ArisesIn provided context names) :
    error.breaksOff = true ↔
      ∃ count, Handler.longestList < count ∧ error = .handler "levels" (.overlong count) := by
  constructor
  · exact fun breaks => (arises.overlong breaks).2
  · rintro ⟨count, _, rfl⟩
    rfl

end TemplateError

namespace CompiledDocument

/-- Whether a row asks for more levels than a list can hold: for its id or, if it has
one, for its body. -/
def AsksTooMuchAt (builder : BuilderType) (compiled : CompiledDocument) (context : RowContext) :
    Prop :=
  ∃ count, Handler.longestList < count ∧
    (compiled.id.resolve builder.handlers context false =
        .error (.handler "levels" (.overlong count)) ∨
      (∃ id, compiled.id.resolve builder.handlers context false = .ok id ∧ id ≠ .missing) ∧
        compiled.body.resolve builder.handlers context compiled.optionalFields =
          .error (.handler "levels" (.overlong count)))

/-- Whether some row of a dataset does. -/
def AsksTooMuch (builder : BuilderType) (compiled : CompiledDocument) (dataset : Dataset)
    (parameters : Json.Fields) : Prop :=
  ∃ row < dataset.rowCount, compiled.AsksTooMuchAt builder ⟨dataset, row, parameters⟩

variable {compiled : CompiledDocument}

theorem mem_handlers_of_asksTooMuchAt {builder : BuilderType} {context : RowContext}
    (asks : compiled.AsksTooMuchAt builder context) : Handler.levels ∈ builder.handlers := by
  obtain ⟨count, _, failed | ⟨_, failed⟩⟩ := asks
  · exact ((Token.arises_of_resolve _ failed).overlong rfl).1
  · exact ((TemplateTree.arises_of_resolve failed).overlong rfl).1

theorem rowBreaksOff_iff {context : RowContext} :
    RowPerDocument.rowBreaksOff compiled context = true ↔
      compiled.AsksTooMuchAt .rowPerDocument context := by
  unfold AsksTooMuchAt RowPerDocument.rowBreaksOff
  dsimp only
  split
  · next error inId =>
      simp [inId, (Token.arises_of_resolve _ inId).breaksOff_iff]
  · next inId => simp [inId]
  · next id present inId =>
      have notMissing : id ≠ .missing := present
      split
      · next error inBody =>
          simp [inId, inBody, notMissing, (TemplateTree.arises_of_resolve inBody).breaksOff_iff]
      · next inBody => simp [inId, inBody]

/-- A build breaks off exactly if some row asks for too much, whichever the builder. -/
theorem overruns_iff {builder : BuilderType} {dataset : Dataset} {parameters : Json.Fields} :
    Assembler.overruns builder compiled dataset parameters = true ↔
      compiled.AsksTooMuch builder dataset parameters := by
  cases builder with
  | rowPerDocument =>
      simp only [Assembler.overruns, RowPerDocument.breaksOff, AsksTooMuch, List.any_eq_true,
        List.mem_range, rowBreaksOff_iff]
  | nestedRows =>
      refine iff_of_false Bool.false_ne_true ?_
      rintro ⟨row, _, asks⟩
      exact absurd (mem_handlers_of_asksTooMuchAt asks) (by decide)

end CompiledDocument

end DocumentIngest
