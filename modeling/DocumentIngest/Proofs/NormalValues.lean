import DocumentIngest.Job
import DocumentIngest.Proofs.TemplateShapes

/-!
# Nothing is never a value

Whatever a token resolves to is missing, a list, or a single value that is neither `null`
nor an array, so that it can be told from its JSON form.  In a resolved template a field
that is `null` is therefore written as `null` in the template, or it belongs to an object
that a text of the template stands for as a whole.
-/

namespace DocumentIngest

open Fallible

namespace Resolved

/-- Whether nothing and lists are kept apart from single values. -/
def IsNormal : Resolved → Prop
  | .missing => True
  | .scalar value => value ≠ .null ∧ ∀ items, value ≠ .array items
  | .list _ => True

/-- Just the normal values are told by their JSON form. -/
theorem ofOption_toJson?_iff {value : Resolved} :
    ofOption value.toJson? = value ↔ value.IsNormal := by
  cases value with
  | missing => exact iff_of_true rfl trivial
  | list values => exact iff_of_true rfl trivial
  | scalar inner => cases inner <;> simp [toJson?, ofOption, ofJson, IsNormal]

theorem isNormal_ofJson (value : Json) : (ofJson value).IsNormal := by
  cases value <;> simp [ofJson, IsNormal]

theorem isNormal_ofOption (value : Option Json) : (ofOption value).IsNormal := by
  cases value with
  | none => trivial
  | some value => exact isNormal_ofJson value

theorem isNormal_ofText (text : String) : (ofText text).IsNormal := by
  simp [ofText, IsNormal]

theorem isNormal_ofInt (value : Int) : (scalar (.ofInt value)).IsNormal := by
  simp [Json.ofInt, IsNormal]

theorem isNormal_ofBinary64 (value : Binary64) : (ofBinary64 value).IsNormal := by
  rw [ofBinary64]
  split <;> simp [IsNormal]

theorem IsNormal.ne_null {value : Resolved} (normal : value.IsNormal) :
    value.toJson? ≠ some .null := by
  cases value with
  | missing => exact nofun
  | list values => simp [toJson?]
  | scalar inner => simpa [toJson?] using normal.1

end Resolved

open Resolved

namespace Handler

variable {inputs : HandlerInputs} {context : RowContext} {value result : Resolved}

theorem isNormal_mapText {f : String → String} (mapped : mapText f value = .ok result) :
    result.IsNormal := by
  rw [mapText.eq_def] at mapped
  split at mapped
  · cases mapped
    trivial
  · cases mapped
    exact isNormal_ofText _
  · cases mapped

theorem isNormal_mapNumber {fault : Resolved → HandlerFault}
    {f : Binary64 → Except HandlerFault Resolved}
    (normal : ∀ number result, f number = .ok result → result.IsNormal)
    (mapped : mapNumber fault f value = .ok result) : result.IsNormal := by
  rw [mapNumber] at mapped
  split at mapped
  · cases mapped
    trivial
  · split at mapped
    · cases mapped
    · exact normal _ _ mapped

theorem isNormal_countUp {count : Nat} (counted : countUp count = .ok result) :
    result.IsNormal := by
  rw [countUp] at counted
  split at counted
  · cases counted
    trivial
  · cases counted

/-- The start of an interval is an integer. -/
theorem isNormal_intervalStart {seconds interval : Binary64}
    (started : ((Calendar.intervalStart seconds interval).map fun start =>
      scalar (.ofInt start)) = .ok result) : result.IsNormal := by
  obtain ⟨start, _, rfl⟩ := map_eq_ok_iff.mp started
  exact isNormal_ofInt start

/-- A handler gives a normal value, provided that its inputs are normal: `coalesce` gives
one of them. -/
theorem isNormal_apply {handler : Handler}
    (normal : ∀ input ∈ inputs.all, input.IsNormal)
    (applied : handler.apply inputs context = .ok result) : result.IsNormal := by
  cases handler with
  | deriveKey =>
      obtain ⟨parts, _, applied⟩ := bind_eq_ok_iff.mp applied
      cases parts with
      | none =>
          cases applied
          trivial
      | some parts =>
          cases applied
          exact isNormal_ofText _
  | round =>
      obtain ⟨places, _, applied⟩ := bind_eq_ok_iff.mp applied
      refine isNormal_mapNumber ?_ applied
      rintro number _ ⟨⟩
      exact isNormal_ofBinary64 _
  | scale =>
      obtain ⟨factor, _, applied⟩ := bind_eq_ok_iff.mp applied
      refine isNormal_mapNumber ?_ applied
      rintro number _ ⟨⟩
      exact isNormal_ofBinary64 _
  | upper => exact isNormal_mapText applied
  | lower => exact isNormal_mapText applied
  | coalesce =>
      cases applied
      cases found : inputs.all.find? fun value => !value.isMissing with
      | none => trivial
      | some value => exact normal value (List.mem_of_find?_eq_some found)
  | isoTime =>
      refine isNormal_mapNumber ?_ applied
      intro seconds result stamped
      split at stamped
      · cases stamped
        exact isNormal_ofText _
      · cases stamped
  | epoch =>
      obtain ⟨mask, _, applied⟩ := bind_eq_ok_iff.mp applied
      split at applied
      · cases applied
        trivial
      · split at applied
        · cases applied
          exact isNormal_ofInt _
        · cases applied
  | intervalStart =>
      obtain ⟨interval, _, applied⟩ := bind_eq_ok_iff.mp applied
      exact isNormal_mapNumber (fun _ _ => isNormal_intervalStart) applied
  | parameter =>
      obtain ⟨name, _, applied⟩ := bind_eq_ok_iff.mp applied
      cases applied
      exact isNormal_ofOption _
  | metadata =>
      obtain ⟨name, _, applied⟩ := bind_eq_ok_iff.mp applied
      cases applied
      exact isNormal_ofOption _
  | rowIndex =>
      cases applied
      exact isNormal_ofInt context.row
  | column =>
      obtain ⟨name, _, applied⟩ := bind_eq_ok_iff.mp applied
      cases applied
      split <;> trivial
  | levels =>
      obtain ⟨count, _, applied⟩ := bind_eq_ok_iff.mp applied
      split at applied
      · exact isNormal_countUp applied
      · cases applied
  | validEpoch =>
      obtain ⟨field, _, applied⟩ := bind_eq_ok_iff.mp applied
      obtain ⟨interval, _, applied⟩ := bind_eq_ok_iff.mp applied
      exact isNormal_mapNumber (fun _ _ => isNormal_intervalStart) applied

end Handler

namespace Token

variable {provided : List Handler} {context : RowContext}

mutual

/-- What a token resolves to is normal, since what its calls start from is. -/
theorem isNormal_resolve {optionally : Bool} (token : Token) {resolved : Resolved}
    (resolves : token.resolve provided context optionally = .ok resolved) :
    resolved.IsNormal := by
  cases token with
  | literal text =>
      cases resolves
      exact isNormal_ofText text
  | field name =>
      cases resolves
      exact isNormal_ofOption _
  | call name arguments parts =>
      rw [resolve] at resolves
      split at resolves
      · cases resolves
      · next handler found =>
          obtain ⟨argumentValues, argumentsResolve, resolves⟩ := bind_eq_ok_iff.mp resolves
          obtain ⟨partValues, partsResolve, resolves⟩ := bind_eq_ok_iff.mp resolves
          split at resolves
          · next value applied =>
              cases resolves
              refine Handler.isNormal_apply (fun input member => ?_) applied
              rcases List.mem_append.mp member with inArguments | inParts
              · exact isNormal_resolveEach arguments argumentsResolve input inArguments
              · exact isNormal_resolveEach parts partsResolve input inParts
          · cases resolves
  | composite pieces =>
      rw [resolve] at resolves
      obtain ⟨keys, _, resolves⟩ := bind_eq_ok_iff.mp resolves
      split at resolves
      · cases resolves
        trivial
      · cases resolves
        exact isNormal_ofText _

theorem isNormal_resolveEach (tokens : List Token) {values : List Resolved}
    (resolve : resolveEach provided context tokens = .ok values) :
    ∀ value ∈ values, value.IsNormal := by
  cases tokens with
  | nil =>
      cases resolve
      exact nofun
  | cons token rest =>
      rw [resolveEach] at resolve
      obtain ⟨first, firstResolves, resolve⟩ := bind_eq_ok_iff.mp resolve
      obtain ⟨others, restResolve, resolve⟩ := bind_eq_ok_iff.mp resolve
      cases resolve
      exact List.forall_mem_cons.mpr
        ⟨isNormal_resolve token firstResolves, isNormal_resolveEach rest restResolve⟩

end

end Token

namespace Json

/-- A step from a value into it. -/
inductive Step where
  | field (key : String)
  | item (index : Nat)
deriving DecidableEq, Repr

/-- Whether a value stands in another one at the end of some steps. -/
inductive StandsAt (target : Json) : List Step → Json → Prop where
  | here : StandsAt target [] target
  | field {key : String} {child : Json} {fields : Fields} {rest : List Step} :
      (key, child) ∈ fields → StandsAt target rest child →
        StandsAt target (.field key :: rest) (.object fields)
  | item {index : Nat} {item : Json} {items : List Json} {rest : List Step} :
      items[index]? = some item → StandsAt target rest item →
        StandsAt target (.item index :: rest) (.array items)

theorem eq_nil_of_standsAt_null {target : Json} {steps : List Step}
    (stands : StandsAt target steps .null) : steps = [] := by
  cases stands
  rfl

end Json

namespace TemplateTree

open Json (Step StandsAt)

/-- The dotted path of what steps lead to, from a dotted path on. -/
def pathOf (path : String) : List Step → String
  | [] => path
  | .field key :: rest => pathOf (childPath path key) rest
  | .item _ :: rest => pathOf path rest

/-- Whether steps end at a field of an object. -/
def EndsAtField (steps : List Step) : Prop :=
  ∃ above key, steps = above ++ [.field key]

variable {provided : List Handler} {context : RowContext} {optionally : List String}
  {path : String} {template value : Json} {steps : List Step}

/-- Whether `null` stands, at the end of some steps, in what a text of the template stands
for as a whole. -/
def InsideText (provided : List Handler) (context : RowContext) (optionally : List String)
    (path : String) (template : Json) (steps : List Step) : Prop :=
  ∃ above step below text resolved found, steps = above ++ step :: below ∧
    StandsAt (.string text) above template ∧
    textAt provided context optionally (pathOf path above) text = .ok resolved ∧
    resolved.toJson? = some found ∧ StandsAt .null (step :: below) found

theorem EndsAtField.behind_item {index : Nat} {rest : List Step}
    (ends : EndsAtField (.item index :: rest)) : EndsAtField rest := by
  obtain ⟨above, key, same⟩ := ends
  cases above with
  | nil => cases same
  | cons _ above =>
      cases same
      exact ⟨above, key, rfl⟩

theorem EndsAtField.behind_field {name : String} {rest : List Step}
    (ends : EndsAtField (.field name :: rest)) : rest = [] ∨ EndsAtField rest := by
  obtain ⟨above, key, same⟩ := ends
  cases above with
  | nil =>
      cases same
      exact .inl rfl
  | cons _ above =>
      cases same
      exact .inr ⟨above, key, rfl⟩

theorem not_endsAtField_nil : ¬EndsAtField [] := by
  rintro ⟨above, key, same⟩
  simp at same

theorem isNormal_textAt {text : String} {resolved : Resolved}
    (resolves : textAt provided context optionally path text = .ok resolved) :
    resolved.IsNormal := by
  obtain ⟨token, _, resolves⟩ := bind_eq_ok_iff.mp resolves
  exact Token.isNormal_resolve token resolves

theorem InsideText.field {key : String} {child : Json} {fields : Json.Fields}
    (member : (key, child) ∈ fields)
    (inside : InsideText provided context optionally (childPath path key) child steps) :
    InsideText provided context optionally path (.object fields) (.field key :: steps) := by
  obtain ⟨above, step, below, text, resolved, found, rfl, stands, rest⟩ := inside
  exact ⟨.field key :: above, step, below, text, resolved, found, rfl, .field member stands, rest⟩

theorem InsideText.item {index : Nat} {item : Json} {items : List Json}
    (isItem : items[index]? = some item)
    (inside : InsideText provided context optionally path item steps) :
    InsideText provided context optionally path (.array items) (.item index :: steps) := by
  obtain ⟨above, step, below, text, resolved, found, rfl, stands, rest⟩ := inside
  exact ⟨.item index :: above, step, below, text, resolved, found, rfl, .item isItem stands, rest⟩

/-- A `null` at a field, or in the place of the whole template, is written there or
belongs to what a text stands for.  Only for an item of an array it may say that a text
is missing. -/
theorem Mirrors.null_cases
    (mirrors : Mirrors provided context optionally path template value)
    (stands : StandsAt .null steps value) (atField : steps = [] ∨ EndsAtField steps) :
    StandsAt .null steps template ∨
      InsideText provided context optionally path template steps := by
  induction mirrors generalizing steps with
  | @text path text resolved found resolves isFound =>
      cases steps with
      | nil =>
          cases stands
          exact absurd isFound (isNormal_textAt resolves).ne_null
      | cons step below =>
          exact .inr ⟨[], step, below, text, resolved, found, rfl, .here, resolves, isFound, stands⟩
  | constant _ => exact .inl stands
  | @array path items values same absent _ ih =>
      cases stands with
      | @item index found _ below isFound inside =>
          have ends := (atField.resolve_left nofun).behind_item
          have within := (List.getElem?_eq_some_iff.mp isFound).1
          obtain ⟨item, isItem⟩ : ∃ item, items[index]? = some item :=
            ⟨_, List.getElem?_eq_getElem (same ▸ within)⟩
          cases there : isAbsent provided context optionally path item with
          | true =>
              -- what is missing leaves a null behind, with no field below it
              have isNull := absent index _ found isItem isFound there
              rw [isNull] at inside
              rw [Json.eq_nil_of_standsAt_null inside] at ends
              exact absurd ends not_endsAtField_nil
          | false =>
              exact (ih index _ found isItem isFound there inside (.inr ends)).imp
                (.item isItem) (.item isItem)
  | @object path fields values keys _ ih =>
      cases stands with
      | @field key child _ below member inside =>
          obtain ⟨index, isFound⟩ := List.mem_iff_getElem?.mp member
          obtain ⟨⟨name, part⟩, isField, rfl⟩ := exists_mirrored keys.symm isFound
          have inFields := List.mem_of_mem_filter (List.mem_of_getElem? isField)
          have ends := (atField.resolve_left nofun).behind_field
          exact (ih index _ _ isField isFound inside ends).imp (.field inFields) (.field inFields)

/-- Whatever a token resolves to is normal, and so its JSON form lifted back is the same
again.  A field that is `null` in a resolved template is `null` in the template, or it
stands inside a list or an object that a text of the template stands for. -/
theorem resolves_to_normal_values (provided : List Handler) (context : RowContext) :
    (∀ (token : Token) (optionally : Bool) (resolved : Resolved),
      token.resolve provided context optionally = .ok resolved →
        resolved.IsNormal ∧ Resolved.ofOption resolved.toJson? = resolved) ∧
    ∀ (template : Json) (tree : TemplateTree), compile template = .ok tree →
      ∀ (optionally : List String) (value : Json),
        tree.resolve provided context optionally = .ok (some value) →
          ∀ (above : List Step) (key : String), StandsAt .null (above ++ [.field key]) value →
            StandsAt .null (above ++ [.field key]) template ∨
              InsideText provided context optionally "" template (above ++ [.field key]) := by
  constructor
  · intro token optionally resolved resolves
    have normal := Token.isNormal_resolve token resolves
    exact ⟨normal, Resolved.ofOption_toJson?_iff.mpr normal⟩
  · intro template tree compiles optionally value resolves above key stands
    have shape := (resolve_keeps_shape compiles provided context optionally).2 _ resolves
    exact (shape.1 value rfl).null_cases stands (.inr ⟨above, key, rfl⟩)

end TemplateTree

/-- A template with a note that is `null`, and with a text for a whole object. -/
def Json.surveyed : Json :=
  .object [("note", .null), ("station", .string "*meta")]

/-- A row whose station is an object without an elevation. -/
def RowContext.surveyed : RowContext :=
  ⟨.rows ⟨[], [[("meta", .object [("elev", .null), ("name", .string "KDEN")])]]⟩, 0, []⟩

theorem TemplateTree.resolves_to_normal_values_surveyed :
    ∃ tree, compile .surveyed = .ok tree ∧
      tree.resolve BuilderType.rowPerDocument.handlers .surveyed [] = .ok (some (.object
        [("note", .null), ("station", .object [("elev", .null), ("name", .string "KDEN")])])) ∧
      (Json.StandsAt .null [.field "station", .field "elev"] .surveyed ∨
        InsideText BuilderType.rowPerDocument.handlers .surveyed [] "" .surveyed
          [.field "station", .field "elev"]) := by
  have compiles : compile .surveyed =
      .ok (.object [("note", .value .null), ("station", .token (.field "meta"))]) := rfl
  refine ⟨_, compiles, rfl, ?_⟩
  exact (resolves_to_normal_values BuilderType.rowPerDocument.handlers .surveyed).2 _ _ compiles
    [] _ rfl [.field "station"] "elev"
    (.field (.tail _ (.head _)) (.field (.head _) .here))

/-- The elevation in the cell is `null` in the resolved template, which says nothing of it. -/
theorem TemplateTree.not_onlyLiteralNulls :
    ¬∀ (builder : BuilderType) (context : RowContext) (template : Json) (tree : TemplateTree),
      compile template = .ok tree → ∀ (optionally : List String) (value : Json),
        tree.resolve builder.handlers context optionally = .ok (some value) →
          ∀ (above : List Json.Step) (key : String),
            Json.StandsAt .null (above ++ [.field key]) value →
              Json.StandsAt .null (above ++ [.field key]) template := by
  intro onlyLiterals
  have stands : Json.StandsAt .null [.field "station", .field "elev"] .surveyed :=
    onlyLiterals .rowPerDocument .surveyed .surveyed
      (.object [("note", .value .null), ("station", .token (.field "meta"))]) rfl [] _ rfl
      [.field "station"] "elev" (.field (.tail _ (.head _)) (.field (.head _) .here))
  cases stands with
  | field member inside =>
      -- under the station there is a text, and nothing stands in it
      simp at member
      subst member
      cases inside

end DocumentIngest
