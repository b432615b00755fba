import DocumentIngest.Proofs.Fallible
import DocumentIngest.Template.Resolution
import Mathlib.Data.List.Forall2

/-!
# Joining key texts

A composite joins the key texts of its pieces, and `derive_key` those of its inputs.  Both
go from left to right and stop at the first one without a key text, so that one alone
decides what comes out: nothing if it is missing, and a failure if it fails or has a value
that is no key.  A missing piece behind one that fails is never seen.
-/

namespace DocumentIngest

open Fallible

/-- Whether things go on in one way until one of them is of another kind. -/
def RunInto {α : Type} (going stopping : α → Prop) (items : List α) : Prop :=
  ∃ before item behind, items = before ++ item :: behind ∧
    (∀ earlier ∈ before, going earlier) ∧ stopping item

theorem not_runInto_nil {α : Type} {going stopping : α → Prop} :
    ¬ RunInto going stopping [] := by
  rintro ⟨before, item, behind, same, _⟩
  cases before <;> cases same

theorem runInto_cons {α : Type} {going stopping : α → Prop} {item : α} {rest : List α} :
    RunInto going stopping (item :: rest) ↔
      stopping item ∨ (going item ∧ RunInto going stopping rest) := by
  constructor
  · rintro ⟨before, stop, behind, same, goes, stops⟩
    cases before with
    | nil =>
        cases same
        exact .inl stops
    | cons first others =>
        cases same
        obtain ⟨goesFirst, goesOthers⟩ := List.forall_mem_cons.mp goes
        exact .inr ⟨goesFirst, others, stop, behind, rfl, goesOthers, stops⟩
  · rintro (stops | ⟨goesFirst, before, stop, behind, rfl, goes, stops⟩)
    · exact ⟨[], item, rest, rfl, nofun, stops⟩
    · exact ⟨item :: before, stop, behind, rfl, List.forall_mem_cons.mpr ⟨goesFirst, goes⟩, stops⟩

section Scanning

variable {α ε : Type} {keyOf : α → Except ε (Option String)} {items : List α}

/-- The key texts of things from left to right, or what becomes of the first without one. -/
def scanKeys (keyOf : α → Except ε (Option String)) : List α → Except ε (Option (List String))
  | [] => .ok (some [])
  | item :: rest =>
      keyOf item >>= fun
        | none => .ok none
        | some key => (scanKeys keyOf rest).map fun keys => keys.map (key :: ·)

theorem scanKeys_congr {other : α → Except ε (Option String)}
    (same : ∀ item ∈ items, keyOf item = other item) :
    scanKeys keyOf items = scanKeys other items := by
  induction items with
  | nil => rfl
  | cons item rest ih =>
      rw [scanKeys, scanKeys, same item List.mem_cons_self,
        ih fun later member => same later (List.mem_cons_of_mem _ member)]

theorem scanKeys_eq_some_iff {keys : List String} :
    scanKeys keyOf items = .ok (some keys) ↔
      List.Forall₂ (fun item key => keyOf item = .ok (some key)) items keys := by
  induction items generalizing keys with
  | nil => simp [scanKeys, List.forall₂_nil_left_iff, eq_comm]
  | cons item rest ih =>
      rw [scanKeys, bind_eq_ok_iff, List.forall₂_cons_left_iff]
      constructor
      · rintro ⟨_ | key, isKey, scanned⟩
        · cases scanned
        · obtain ⟨found, restScanned, same⟩ := map_eq_ok_iff.mp scanned
          obtain ⟨others, rfl, rfl⟩ := Option.map_eq_some_iff.mp same
          exact ⟨key, others, isKey, ih.mp restScanned, rfl⟩
      · rintro ⟨key, others, isKey, restKeys, rfl⟩
        exact ⟨some key, isKey, map_eq_ok_iff.mpr ⟨some others, ih.mpr restKeys, rfl⟩⟩

theorem scanKeys_eq_none_iff :
    scanKeys keyOf items = .ok none ↔
      RunInto (fun item => ∃ key, keyOf item = .ok (some key)) (fun item => keyOf item = .ok none)
        items := by
  induction items with
  | nil => simp [scanKeys, not_runInto_nil]
  | cons item rest ih =>
      rw [scanKeys, runInto_cons, ← ih, bind_eq_ok_iff]
      cases keyOf item with
      | error fault => simp
      | ok key => cases key <;> simp [map_eq_ok_iff]

theorem scanKeys_eq_error_iff {fault : ε} :
    scanKeys keyOf items = .error fault ↔
      RunInto (fun item => ∃ key, keyOf item = .ok (some key))
        (fun item => keyOf item = .error fault) items := by
  induction items with
  | nil => simp [scanKeys, not_runInto_nil]
  | cons item rest ih =>
      rw [scanKeys, runInto_cons, ← ih, bind_eq_error_iff]
      cases keyOf item with
      | error other => simp
      | ok key => cases key <;> simp [map_eq_error_iff]

end Scanning

namespace Token

section HasKey

variable (provided : List Handler) (context : RowContext)

/-- The key text of a piece at a row; a missing piece has none. -/
inductive HasKey (piece : Token) : Option String → Prop where
  | missing : piece.resolve provided context false = .ok .missing → HasKey piece none
  | text {value : Resolved} {key : String} :
      piece.resolve provided context false = .ok value → value.asKey? = some key →
        HasKey piece (some key)

end HasKey

variable {provided : List Handler} {context : RowContext} {optionally : Bool} {piece : Token}

theorem keyOfPiece_eq_ok {piece : Token} {value : Resolved} {optionally : Bool}
    {found : Option String} (isKey : keyOfPiece optionally piece value = .ok found) :
    (value = .missing ∧ found = if optionally then some "" else none) ∨
      ∃ key, value.asKey? = some key ∧ found = some key := by
  cases value with
  | missing =>
      cases isKey
      exact .inl ⟨rfl, rfl⟩
  | list values => simp [keyOfPiece] at isKey
  | scalar inner =>
      simp only [keyOfPiece] at isKey
      split at isKey
      · next key text =>
          cases isKey
          exact .inr ⟨key, text, rfl⟩
      · simp at isKey

/-- What a piece gives to the key it is in. -/
def keyIn (provided : List Handler) (context : RowContext) (optionally : Bool) (piece : Token) :
    Except TemplateError (Option String) :=
  piece.resolve provided context optionally >>= keyOfPiece optionally piece

/-- Why a piece fails in a key: it does not resolve, or not to anything with a key text. -/
inductive FailsInKey (provided : List Handler) (context : RowContext) (piece : Token) :
    TemplateError → Prop where
  | fault {fault : TemplateError} :
      piece.resolve provided context false = .error fault → FailsInKey provided context piece fault
  | list {values : List Json} :
      piece.resolve provided context false = .ok (.list values) →
        FailsInKey provided context piece (.listInKey piece)
  | noText {value : Json} :
      piece.resolve provided context false = .ok (.scalar value) →
        (Resolved.scalar value).asKey? = none →
          FailsInKey provided context piece (.noKeyText piece)

theorem resolvePieces_eq_scanKeys (provided : List Handler) (context : RowContext)
    (optionally : Bool) (pieces : List Token) :
    resolvePieces provided context optionally pieces =
      scanKeys (keyIn provided context optionally) pieces := by
  induction pieces with
  | nil => rfl
  | cons piece rest ih =>
      rw [resolvePieces, scanKeys, keyIn, ih]
      cases piece.resolve provided context optionally with
      | error fault => rfl
      | ok value =>
          simp only [bind, Except.bind]
          cases keyOfPiece optionally piece value with
          | error fault => rfl
          | ok key =>
              cases key with
              | none => rfl
              | some key => cases scanKeys (keyIn provided context optionally) rest <;> rfl

theorem resolve_composite (provided : List Handler) (context : RowContext) (optionally : Bool)
    (pieces : List Token) :
    (composite pieces).resolve provided context optionally =
      (scanKeys (keyIn provided context optionally) pieces).map fun keys =>
        keys.elim .missing fun keys => .ofText (":".intercalate keys) := by
  rw [resolve, resolvePieces_eq_scanKeys]
  cases scanKeys (keyIn provided context optionally) pieces with
  | error fault => rfl
  | ok keys => cases keys <;> rfl

theorem keyIn_eq_ok_iff {key : Option String} :
    keyIn provided context false piece = .ok key ↔ HasKey provided context piece key := by
  rw [keyIn, bind_eq_ok_iff]
  constructor
  · rintro ⟨value, resolves, isKey⟩
    rcases keyOfPiece_eq_ok isKey with ⟨rfl, rfl⟩ | ⟨text, hasText, rfl⟩
    · exact .missing resolves
    · exact .text resolves hasText
  · rintro (resolves | ⟨resolves, isKey⟩)
    · exact ⟨_, resolves, rfl⟩
    · rename_i value text
      refine ⟨value, resolves, ?_⟩
      cases value with
      | missing => simp [Resolved.asKey?] at isKey
      | list values => simp [Resolved.asKey?] at isKey
      | scalar inner => simp only [keyOfPiece, isKey]

theorem keyIn_eq_error_iff {fault : TemplateError} :
    keyIn provided context false piece = .error fault ↔
      FailsInKey provided context piece fault := by
  rw [keyIn, bind_eq_error_iff]
  constructor
  · rintro (failed | ⟨value, resolves, noKey⟩)
    · exact .fault failed
    · cases value with
      | missing => simp [keyOfPiece] at noKey
      | list values =>
          cases noKey
          exact .list resolves
      | scalar inner =>
          simp only [keyOfPiece] at noKey
          split at noKey
          · cases noKey
          · next noText =>
              cases noKey
              exact .noText resolves noText
  · rintro (failed | resolves | ⟨resolves, noText⟩)
    · exact .inl failed
    · exact .inr ⟨_, resolves, rfl⟩
    · refine .inr ⟨_, resolves, ?_⟩
      simp only [keyOfPiece, noText]

end Token

namespace Resolved

variable {value : Resolved}

/-- What an input of `derive_key` gives to the key. -/
def keyInput (value : Resolved) : Except HandlerFault (Option String) :=
  if value.isMissing then .ok none
  else
    match value.asKey? with
    | none => .error .unjoinable
    | some key => .ok (some key)

theorem keyInput_eq_some_iff :
    (∃ key, value.keyInput = .ok (some key)) ↔ value.asKey? ≠ none := by
  cases value with
  | missing => simp [keyInput, isMissing, asKey?]
  | scalar inner => cases found : (scalar inner).asKey? <;> simp [keyInput, isMissing, found]
  | list values => simp [keyInput, isMissing, asKey?]

theorem keyInput_eq_none_iff : value.keyInput = .ok none ↔ value = .missing := by
  cases value with
  | missing => simp [keyInput, isMissing]
  | scalar inner => cases found : (scalar inner).asKey? <;> simp [keyInput, isMissing, found]
  | list values => simp [keyInput, isMissing, asKey?]

theorem keyInput_eq_error_iff {fault : HandlerFault} :
    value.keyInput = .error fault ↔
      fault = .unjoinable ∧ value ≠ .missing ∧ value.asKey? = none := by
  cases value with
  | missing => simp [keyInput, isMissing]
  | scalar inner =>
      cases found : (scalar inner).asKey? <;> simp [keyInput, isMissing, found, eq_comm]
  | list values => simp [keyInput, isMissing, asKey?, eq_comm]

end Resolved

namespace Handler

theorem keyParts_eq_scanKeys (values : List Resolved) :
    keyParts values = scanKeys Resolved.keyInput values := by
  induction values with
  | nil => rfl
  | cons value rest ih =>
      rw [keyParts, scanKeys, Resolved.keyInput, ih]
      split
      · rfl
      · cases value.asKey? <;> rfl

theorem apply_deriveKey (inputs : HandlerInputs) (context : RowContext) :
    deriveKey.apply inputs context =
      (scanKeys Resolved.keyInput inputs.all).map fun keys =>
        keys.elim .missing fun keys => .ofText (":".intercalate keys) := by
  rw [apply, keyParts_eq_scanKeys]
  cases scanKeys Resolved.keyInput inputs.all with
  | error fault => rfl
  | ok keys => cases keys <;> rfl

end Handler

/-- Joined keys are missing exactly if none was read off. -/
theorem map_joined_eq_missing_iff {ε : Type} {scanned : Except ε (Option (List String))} :
    (scanned.map fun keys =>
        keys.elim Resolved.missing fun keys => .ofText (":".intercalate keys)) = .ok .missing ↔
      scanned = .ok none := by
  rw [map_eq_ok_iff]
  constructor
  · rintro ⟨_ | keys, scans, same⟩
    · exact scans
    · cases same
  · exact fun scans => ⟨none, scans, rfl⟩

/-- The first piece without a key text decides about a composite, and the first input without
one about what `derive_key` gives: nothing comes out if it is missing, and a failure if it
fails or has no key text.  What stands behind it makes no difference. -/
theorem first_unkeyed_decides (provided : List Handler) (context : RowContext) :
    (∀ pieces, (Token.composite pieces).resolve provided context false = .ok .missing ↔
      RunInto (fun piece => ∃ key, Token.HasKey provided context piece (some key))
        (fun piece => Token.HasKey provided context piece none) pieces) ∧
    (∀ pieces fault, (Token.composite pieces).resolve provided context false = .error fault ↔
      RunInto (fun piece => ∃ key, Token.HasKey provided context piece (some key))
        (fun piece => Token.FailsInKey provided context piece fault) pieces) ∧
    (∀ inputs, Handler.deriveKey.apply inputs context = .ok .missing ↔
      RunInto (fun value => value.asKey? ≠ none) (fun value => value = .missing) inputs.all) ∧
    ∀ inputs fault, Handler.deriveKey.apply inputs context = .error fault ↔
      RunInto (fun value => value.asKey? ≠ none)
        (fun value => fault = .unjoinable ∧ value ≠ .missing ∧ value.asKey? = none)
          inputs.all := by
  refine ⟨fun pieces => ?_, fun pieces fault => ?_, fun inputs => ?_, fun inputs fault => ?_⟩
  · rw [Token.resolve_composite, map_joined_eq_missing_iff, scanKeys_eq_none_iff]
    simp only [Token.keyIn_eq_ok_iff]
  · rw [Token.resolve_composite, map_eq_error_iff, scanKeys_eq_error_iff]
    simp only [Token.keyIn_eq_ok_iff, Token.keyIn_eq_error_iff]
  · rw [Handler.apply_deriveKey, map_joined_eq_missing_iff, scanKeys_eq_none_iff]
    simp only [Resolved.keyInput_eq_some_iff, Resolved.keyInput_eq_none_iff]
  · rw [Handler.apply_deriveKey, map_eq_error_iff, scanKeys_eq_error_iff]
    simp only [Resolved.keyInput_eq_some_iff, Resolved.keyInput_eq_error_iff]

/-- Whether a missing piece makes every composite missing whose pieces all resolve. -/
def Token.MissingDominates : Prop :=
  ∀ provided context pieces,
    (∀ piece ∈ pieces, ∃ value, Token.resolve provided context false piece = .ok value) →
      (∃ piece ∈ pieces, Token.HasKey provided context piece none) →
        (Token.composite pieces).resolve provided context false = .ok .missing

/-- Whether `derive_key` gives nothing as soon as one of its inputs is missing. -/
def Handler.MissingDominates : Prop :=
  ∀ inputs context, Resolved.missing ∈ inputs.all →
    Handler.deriveKey.apply inputs context = .ok .missing

/-- A row that has levels and no dew point. -/
def RowContext.levelled : RowContext :=
  ⟨.rows ⟨[], [[("levels", .array [.ofNat 1, .ofNat 2])]]⟩, 0, []⟩

/-- A list in front of what is missing makes a composite fail, and `derive_key` as well. -/
theorem not_missingDominates : ¬ Token.MissingDominates ∧ ¬ Handler.MissingDominates := by
  constructor
  · intro dominates
    have resolves : ∀ piece ∈ [Token.literal "L", .field "levels", .field "dewpoint"],
        ∃ value, piece.resolve [] .levelled false = .ok value := by
      intro piece member
      simp only [List.mem_cons, List.not_mem_nil, or_false] at member
      rcases member with rfl | rfl | rfl <;> exact ⟨_, rfl⟩
    have missing : Token.HasKey [] .levelled (.field "dewpoint") none := .missing rfl
    have dominated := dominates [] .levelled _ resolves ⟨_, by simp, missing⟩
    have fails : (Token.composite [.literal "L", .field "levels", .field "dewpoint"]).resolve []
        .levelled false = .error (.listInKey (.field "levels")) := rfl
    rw [fails] at dominated
    cases dominated
  · intro dominates
    have dominated := dominates ⟨[.list [.ofNat 1, .ofNat 2], .missing], []⟩ .levelled (by
      simp [HandlerInputs.all])
    have fails : Handler.deriveKey.apply ⟨[.list [.ofNat 1, .ofNat 2], .missing], []⟩
        .levelled = .error .unjoinable := rfl
    rw [fails] at dominated
    cases dominated

end DocumentIngest
