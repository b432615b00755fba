import DocumentIngest.Proofs.KeyJoins
import DocumentIngest.Proofs.RowwiseTemplates

/-!
# Keys written as calls

A key is written as a composite, or as a call of `derive_key`.  The composite asks every
piece for its key text as soon as the piece is resolved; the call resolves all its inputs
before it asks the first of them.  Constants and fields always resolve, so for them the two
ways of writing a key come to the same, however the inputs are shared out between arguments
and parts.
-/

namespace DocumentIngest

open Fallible

/-- Whether two attempts at a key come to the same text, both to nothing, or both fail. -/
inductive SameKey : Except TemplateError Resolved → Except TemplateError Resolved → Prop where
  | text (key : String) : SameKey (.ok (.ofText key)) (.ok (.ofText key))
  | missing : SameKey (.ok .missing) (.ok .missing)
  | failure (fault other : TemplateError) : SameKey (.error fault) (.error other)

/-- Scans that find the same in things that belong together find the same keys. -/
theorem toOption_scanKeys {α β ε δ : Type} {keyOf : α → Except ε (Option String)}
    {otherOf : β → Except δ (Option String)} {items : List α} {others : List β}
    (alike : List.Forall₂ (fun item other => (keyOf item).toOption = (otherOf other).toOption)
      items others) :
    (scanKeys keyOf items).toOption = (scanKeys otherOf others).toOption := by
  induction alike with
  | nil => rfl
  | cons same _ ih =>
      rw [scanKeys, scanKeys, toOption_bind, toOption_bind, same]
      congr 1
      funext key
      cases key with
      | none => rfl
      | some text => rw [toOption_map, toOption_map, ih]

theorem SameKey.of_toOption {first second : Except TemplateError (Option (List String))}
    (same : first.toOption = second.toOption) :
    SameKey
      (first.map fun keys => keys.elim .missing fun keys => .ofText (":".intercalate keys))
      (second.map fun keys => keys.elim .missing fun keys => .ofText (":".intercalate keys)) := by
  cases first with
  | error fault =>
      cases second with
      | error other => exact .failure fault other
      | ok keys => cases same
  | ok keys =>
      cases second with
      | error other => cases same
      | ok others =>
          cases same
          cases keys with
          | none => exact .missing
          | some texts => exact .text _

theorem Handler.find?_of_mem {provided : List Handler} {handler : Handler}
    (offered : handler ∈ provided) : find? provided handler.name = some handler := by
  have found : (find? provided handler.name).isSome :=
    List.find?_isSome.mpr ⟨handler, offered, by simp⟩
  obtain ⟨other, isOther⟩ := Option.isSome_iff_exists.mp found
  have sameName := name_of_find? isOther
  have same : other = handler := by
    cases other <;> cases handler <;> first | rfl | simp [Handler.name] at sameName
  rw [isOther, same]

namespace Token

/-- A constant or a field. -/
inductive IsPlain : Token → Prop where
  | literal (text : String) : IsPlain (.literal text)
  | field (name : String) : IsPlain (.field name)

section Inputs

variable {provided : List Handler} {context : RowContext}

theorem IsPlain.resolves {token : Token} (plain : token.IsPlain) :
    ∃ value, token.resolve provided context false = .ok value := by
  cases plain with
  | literal text => exact ⟨_, rfl⟩
  | field name => exact ⟨_, rfl⟩

theorem resolveEach_eq_ok_iff {tokens : List Token} {values : List Resolved} :
    resolveEach provided context tokens = .ok values ↔
      List.Forall₂ (fun token value => token.resolve provided context false = .ok value)
        tokens values := by
  induction tokens generalizing values with
  | nil =>
      rw [resolveEach, List.forall₂_nil_left_iff]
      exact ⟨fun same => (Except.ok.inj same).symm, fun same => same ▸ rfl⟩
  | cons token rest ih =>
      rw [resolveEach, bind_eq_ok_iff, List.forall₂_cons_left_iff]
      constructor
      · rintro ⟨value, resolves, restResolves⟩
        obtain ⟨others, othersResolve, same⟩ := bind_eq_ok_iff.mp restResolves
        cases same
        exact ⟨value, others, resolves, ih.mp othersResolve, rfl⟩
      · rintro ⟨value, others, resolves, othersResolve, rfl⟩
        exact ⟨value, resolves, bind_eq_ok_iff.mpr ⟨others, ih.mpr othersResolve, rfl⟩⟩

/-- A piece gives to a composite what its value gives to `derive_key`. -/
theorem toOption_keyIn {piece : Token} {value : Resolved}
    (resolves : piece.resolve provided context false = .ok value) :
    (keyIn provided context false piece).toOption = value.keyInput.toOption := by
  have asked : keyIn provided context false piece = keyOfPiece false piece value := by
    rw [keyIn, resolves]
    rfl
  rw [asked]
  cases value with
  | missing => rfl
  | list values => rfl
  | scalar inner =>
      simp only [keyOfPiece, Resolved.keyInput, Resolved.isMissing]
      cases (Resolved.scalar inner).asKey? <;> rfl

theorem resolve_deriveKey (offered : Handler.deriveKey ∈ provided) {arguments parts : List Token}
    {values others : List Resolved} (first : resolveEach provided context arguments = .ok values)
    (second : resolveEach provided context parts = .ok others) (optionally : Bool) :
    (call Handler.deriveKey.name arguments parts).resolve provided context optionally =
      ((scanKeys Resolved.keyInput (values ++ others)).mapError
          (.handler Handler.deriveKey.name)).map
        fun keys => keys.elim .missing fun keys => .ofText (":".intercalate keys) := by
  rw [resolve, Handler.find?_of_mem offered, first, second]
  simp only [bind, Except.bind, Handler.apply_deriveKey, HandlerInputs.all]
  cases scanKeys Resolved.keyInput (values ++ others) <;> rfl

end Inputs

/-- A call of `derive_key` and the composite of its inputs, arguments first, give the same
key, if no input is itself a call or a composite. -/
theorem deriveKey_sameKey_composite {provided : List Handler}
    (offered : Handler.deriveKey ∈ provided) (context : RowContext)
    {tokens arguments parts : List Token} (plain : ∀ token ∈ tokens, token.IsPlain)
    (shared : tokens = arguments ++ parts) :
    SameKey ((call Handler.deriveKey.name arguments parts).resolve provided context false)
      ((composite tokens).resolve provided context false) := by
  subst shared
  obtain ⟨values, argumentsResolve⟩ := exists_results_iff.mpr
    fun token member => (plain token (List.mem_append_left parts member)).resolves
  obtain ⟨others, partsResolve⟩ := exists_results_iff.mpr
    fun token member => (plain token (List.mem_append_right arguments member)).resolves
  rw [resolve_deriveKey offered (resolveEach_eq_ok_iff.mpr argumentsResolve)
    (resolveEach_eq_ok_iff.mpr partsResolve), resolve_composite]
  apply SameKey.of_toOption
  rw [toOption_mapError]
  exact (toOption_scanKeys ((List.rel_append argumentsResolve partsResolve).imp
    fun _ _ resolves => toOption_keyIn resolves)).symm

end Token

/-- A row of a station, an hour and whether it is manned. -/
def RowContext.manned : RowContext :=
  ⟨.rows ⟨[], [[("hour", .ofNat 6), ("manned", .bool true), ("station", .string "KDEN")]]⟩, 0, []⟩

theorem Token.deriveKey_sameKey_composite_manned :
    Handler.deriveKey ∈ Handler.common ∧
      (∀ token ∈ [literal "DD", .field "station", .field "hour", .field "manned"],
        token.IsPlain) ∧
      SameKey
        ((call "derive_key" [.literal "DD", .field "station"]
          [.field "hour", .field "manned"]).resolve Handler.common .manned false)
        ((composite [.literal "DD", .field "station", .field "hour", .field "manned"]).resolve
          Handler.common .manned false) ∧
      (composite [.literal "DD", .field "station", .field "hour", .field "manned"]).resolve
        Handler.common .manned false = .ok (.ofText "DD:KDEN:6:true") := by
  have offered : Handler.deriveKey ∈ Handler.common := by decide
  have plain : ∀ token ∈ [literal "DD", .field "station", .field "hour", .field "manned"],
      token.IsPlain := by
    simp only [List.forall_mem_cons, List.not_mem_nil, false_implies, implies_true, and_true]
    exact ⟨.literal _, .field _, .field _, .field _⟩
  exact ⟨offered, plain, deriveKey_sameKey_composite offered .manned plain rfl, rfl⟩

end DocumentIngest
