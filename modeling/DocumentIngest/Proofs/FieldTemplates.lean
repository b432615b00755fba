import DocumentIngest.Proofs.KeyJoins
import DocumentIngest.Proofs.TemplateGrammar

/-!
# Templates without calls

A template that calls no handler is a form to fill in: every segment that names a field
becomes the key text of its value, and all else stays as it is written, colons and empty
segments included.  A field that stands alone keeps its value.  What is not a field of
the template tells nothing.
-/

namespace DocumentIngest

open Fallible

/-- A text, a number or a truth value. -/
inductive Json.IsSingle : Json → Prop where
  | string (text : String) : IsSingle (.string text)
  | number (value : Number) : IsSingle (.number value)
  | bool (value : Bool) : IsSingle (.bool value)

/-- In a key a text stands for itself, a number as it is written, and a truth value as one of
two words. -/
def Json.keyText : Json → String
  | string text => text
  | number value => value.render
  | bool true => "true"
  | bool false => "false"
  | _ => ""

namespace RowContext

/-- The key text of a field at the row at hand. -/
def keyText (context : RowContext) (name : String) : String :=
  ((context.dataset.field name context.row).map Json.keyText).getD ""

/-- Whether fields of these names hold texts, numbers and truth values at the row at hand. -/
def Fills (context : RowContext) (names : List String) : Prop :=
  ∀ name ∈ names, ∃ value, context.dataset.field name context.row = some value ∧ value.IsSingle

/-- Whether two contexts show the same in fields of these names. -/
def AgreeOn (first second : RowContext) (names : List String) : Prop :=
  ∀ name ∈ names, first.dataset.field name first.row = second.dataset.field name second.row

end RowContext

namespace Token

/-- Whether no segment of a template is the head of a call. -/
def IsCallFree (template : String) : Prop :=
  ∀ segment ∈ Text.splitOn ':' template.toList, segment.head? ≠ some '&'

/-- The field that a segment names. -/
def fieldName? : List Char → Option String
  | '*' :: name => some (String.ofList name)
  | _ => none

/-- The fields that the segments of a template name. -/
def fieldNames (template : String) : List String :=
  (Text.splitOn ':' template.toList).filterMap fieldName?

/-- A segment with its field filled in. -/
def fillIn (keyOf : String → String) (segment : List Char) : List Char :=
  ((fieldName? segment).map fun name => (keyOf name).toList).getD segment

/-- A template with its fields filled in. -/
def substitute (keyOf : String → String) (template : String) : String :=
  String.ofList (joined ':' ((Text.splitOn ':' template.toList).map (fillIn keyOf)))

theorem ofList_joined (segments : List (List Char)) :
    String.ofList (joined ':' segments) = ":".intercalate (segments.map String.ofList) := by
  induction segments with
  | nil => rfl
  | cons first rest ih =>
      cases rest with
      | nil => exact String.intercalate_singleton.symm
      | cons next behind =>
          rw [List.map_cons, List.map_cons, String.intercalate_cons_cons, ← List.map_cons, ← ih,
            Text.joined_cons (List.cons_ne_nil next behind)]
          simp [← String.toList_inj]

section Atoms

variable {segment : List Char} {segments : List (List Char)} {piece : Token}
  {pieces : List Token} {context other : RowContext}

theorem fieldName?_eq_none (notField : segment.head? ≠ some '*') : fieldName? segment = none := by
  unfold fieldName?
  split
  · simp at notField
  · rfl

/-- The piece of a segment resolves by the field that the segment names. -/
theorem resolve_congr_of_ofAtom (parsed : ofAtom segment = .ok piece)
    (agree : context.AgreeOn other (fieldName? segment).toList) (provided : List Handler)
    (optionally : Bool) :
    piece.resolve provided context optionally = piece.resolve provided other optionally := by
  rcases ofAtom_eq_ok parsed with ⟨constant, rfl, _, _⟩ | ⟨name, rfl, _, rfl⟩
  · rfl
  · have sameField := agree name (by simp [fieldName?])
    rw [resolve, resolve, sameField]

/-- A segment with its field filled in is the key text of its piece. -/
theorem keyIn_of_ofAtom (parsed : ofAtom segment = .ok piece)
    (fills : context.Fills (fieldName? segment).toList) (provided : List Handler)
    (optionally : Bool) :
    keyIn provided context optionally piece =
      .ok (some (String.ofList (fillIn context.keyText segment))) := by
  rcases ofAtom_eq_ok parsed with ⟨constant, rfl, rfl, notField⟩ | ⟨name, rfl, _, rfl⟩
  · rw [fillIn, fieldName?_eq_none notField, Option.map_none, Option.getD_none,
      String.ofList_toList]
    rfl
  · obtain ⟨value, found, single⟩ := fills name (by simp [fieldName?])
    have filled : String.ofList (fillIn context.keyText ('*' :: name.toList)) = value.keyText := by
      simp [fillIn, fieldName?, RowContext.keyText, found]
    rw [filled, keyIn, resolve, found]
    cases single with
    | string text => rfl
    | number number => rfl
    | bool truth => cases truth <;> rfl

/-- Without calls, every segment is a piece of its own. -/
theorem atoms_of_ofSegments (callFree : ∀ segment ∈ segments, segment.head? ≠ some '&')
    (parsed : ofSegments segments = .ok pieces) :
    List.Forall₂ (fun segment piece => ofAtom segment = .ok piece) segments pieces := by
  induction segments generalizing pieces with
  | nil =>
      cases parsed
      exact .nil
  | cons segment rest ih =>
      obtain ⟨notCall, restCallFree⟩ := List.forall_mem_cons.mp callFree
      rw [ofSegments_piece notCall] at parsed
      obtain ⟨piece, atom, parsed⟩ := bind_eq_ok_iff.mp parsed
      obtain ⟨others, restParsed, parsed⟩ := bind_eq_ok_iff.mp parsed
      cases parsed
      exact .cons atom (ih restCallFree restParsed)

theorem forall_fieldName_cons {P : String → Prop} :
    (∀ name ∈ (segment :: segments).filterMap fieldName?, P name) ↔
      (∀ name ∈ (fieldName? segment).toList, P name) ∧
        ∀ name ∈ segments.filterMap fieldName?, P name := by
  cases found : fieldName? segment <;> simp [found]

variable (atoms : List.Forall₂ (fun segment piece => ofAtom segment = .ok piece) segments pieces)
  (provided : List Handler) (optionally : Bool)

include atoms

theorem keyIn_congr_of_atoms (agree : context.AgreeOn other (segments.filterMap fieldName?)) :
    ∀ piece ∈ pieces,
      keyIn provided context optionally piece = keyIn provided other optionally piece := by
  induction atoms with
  | nil => simp
  | cons atom _ ih =>
      obtain ⟨here, behind⟩ := forall_fieldName_cons.mp agree
      refine List.forall_mem_cons.mpr ⟨?_, ih behind⟩
      rw [keyIn, keyIn, resolve_congr_of_ofAtom atom here]

theorem keys_of_atoms (fills : context.Fills (segments.filterMap fieldName?)) :
    List.Forall₂ (fun piece key => keyIn provided context optionally piece = .ok (some key)) pieces
      ((segments.map (fillIn context.keyText)).map String.ofList) := by
  induction atoms with
  | nil => exact .nil
  | cons atom _ ih =>
      obtain ⟨here, behind⟩ := forall_fieldName_cons.mp fills
      exact .cons (keyIn_of_ofAtom atom here provided optionally) (ih behind)

end Atoms

theorem ofPieces_of_two_le {pieces : List Token} (several : 2 ≤ pieces.length) :
    ofPieces pieces = composite pieces := by
  match pieces with
  | [] => rfl
  | [piece] => simp at several
  | first :: second :: rest => rfl

section Templates

variable {template : String} {token : Token} {context : RowContext}

theorem atoms_of_parse (parsed : parse template = .ok token) (callFree : IsCallFree template) :
    ∃ pieces, token = ofPieces pieces ∧
      List.Forall₂ (fun segment piece => ofAtom segment = .ok piece)
        (Text.splitOn ':' template.toList) pieces := by
  rw [parse_eq] at parsed
  obtain ⟨pieces, segmentsParsed, rfl⟩ := map_eq_ok_iff.mp parsed
  exact ⟨pieces, rfl, atoms_of_ofSegments callFree segmentsParsed⟩

theorem composite_of_parse (parsed : parse template = .ok token) (callFree : IsCallFree template)
    (several : ':' ∈ template.toList) :
    ∃ pieces, token = composite pieces ∧
      List.Forall₂ (fun segment piece => ofAtom segment = .ok piece)
        (Text.splitOn ':' template.toList) pieces := by
  obtain ⟨pieces, rfl, atoms⟩ := atoms_of_parse parsed callFree
  refine ⟨pieces, ofPieces_of_two_le ?_, atoms⟩
  obtain ⟨before, behind, same⟩ := List.append_of_mem several
  have first := List.length_pos_iff.mpr (@Text.splitOn_ne_nil ':' before)
  have second := List.length_pos_iff.mpr (@Text.splitOn_ne_nil ':' behind)
  rw [← atoms.length_eq, same, Text.splitOn_append, List.length_append]
  omega

theorem atom_of_parse (parsed : parse template = .ok token) (callFree : IsCallFree template)
    (alone : ':' ∉ template.toList) : ofAtom template.toList = .ok token := by
  obtain ⟨pieces, rfl, atoms⟩ := atoms_of_parse parsed callFree
  rw [Text.splitOn_of_not_mem alone] at atoms
  obtain ⟨piece, _, atom, ends, rfl⟩ := List.forall₂_cons_left_iff.mp atoms
  cases ends
  exact atom

theorem fieldNames_of_not_mem (alone : ':' ∉ template.toList) :
    fieldNames template = (fieldName? template.toList).toList := by
  rw [fieldNames, Text.splitOn_of_not_mem alone]
  cases found : fieldName? template.toList <;> simp [found]

theorem resolve_congr_of_callFree (parsed : parse template = .ok token)
    (callFree : IsCallFree template) {other : RowContext}
    (agree : context.AgreeOn other (fieldNames template)) (provided : List Handler)
    (optionally : Bool) :
    token.resolve provided context optionally = token.resolve provided other optionally := by
  by_cases several : ':' ∈ template.toList
  · obtain ⟨pieces, rfl, atoms⟩ := composite_of_parse parsed callFree several
    rw [resolve_composite, resolve_composite,
      scanKeys_congr (keyIn_congr_of_atoms atoms provided optionally agree)]
  · have atom := atom_of_parse parsed callFree several
    rw [fieldNames_of_not_mem several] at agree
    exact resolve_congr_of_ofAtom atom agree provided optionally

theorem resolve_of_colon (parsed : parse template = .ok token) (callFree : IsCallFree template)
    (several : ':' ∈ template.toList) (fills : context.Fills (fieldNames template))
    (provided : List Handler) (optionally : Bool) :
    token.resolve provided context optionally =
      .ok (.ofText (substitute context.keyText template)) := by
  obtain ⟨pieces, rfl, atoms⟩ := composite_of_parse parsed callFree several
  have scanned := scanKeys_eq_some_iff.mpr (keys_of_atoms atoms provided optionally fills)
  rw [resolve_composite, scanned, substitute, ofList_joined]
  rfl

/-- A template without calls is filled in, or stands for its one field or its own text, and
nothing but its fields counts. -/
theorem resolves_by_substitution (parsed : parse template = .ok token)
    (callFree : IsCallFree template) (fills : context.Fills (fieldNames template))
    (provided : List Handler) (optionally : Bool) :
    (':' ∈ template.toList → token.resolve provided context optionally =
      .ok (.ofText (substitute context.keyText template))) ∧
    (':' ∉ template.toList → template.toList.head? ≠ some '*' →
      token.resolve provided context optionally = .ok (.ofText template)) ∧
    (∀ name, ':' ∉ name.toList → template = "*" ++ name →
      ∃ value, context.dataset.field name context.row = some value ∧
        token.resolve provided context optionally = .ok (.scalar value)) ∧
    ∀ other : RowContext, context.AgreeOn other (fieldNames template) →
      token.resolve provided other optionally = token.resolve provided context optionally := by
  refine ⟨fun several => ?_, fun alone notField => ?_, ?_, fun other agree => ?_⟩
  · exact resolve_of_colon parsed callFree several fills provided optionally
  · have atom := atom_of_parse parsed callFree alone
    rcases ofAtom_eq_ok atom with ⟨constant, rfl, same, _⟩ | ⟨name, rfl, _, same⟩
    · rw [String.toList_inj.mp same]
      rfl
    · simp [same] at notField
  · rintro name noColon rfl
    have alone : ':' ∉ ("*" ++ name).toList := by simpa using noColon
    have named : fieldNames ("*" ++ name) = [name] := by
      rw [fieldNames_of_not_mem alone]
      simp [fieldName?]
    obtain ⟨value, found, single⟩ := fills name (by simp [named])
    refine ⟨value, found, ?_⟩
    rcases ofAtom_eq_ok (atom_of_parse parsed callFree alone) with
      ⟨constant, _, same, notField⟩ | ⟨field, rfl, _, same⟩
    · simp at notField
    · have sameName : name = field := by simpa [String.toList_inj] using same
      subst sameName
      rw [resolve, found]
      cases single <;> rfl
  · exact (resolve_congr_of_callFree parsed callFree agree provided optionally).symm

end Templates

end Token

/-- A row of a station and an hour. -/
def RowContext.hourly : RowContext :=
  ⟨.rows ⟨[], [[("hour", .ofNat 6), ("station", .string "KDEN")]]⟩, 0, []⟩

theorem Token.resolves_by_substitution_hourly :
    ∃ token, parse "DD::*station:*hour:" = .ok token ∧ IsCallFree "DD::*station:*hour:" ∧
      RowContext.hourly.Fills (fieldNames "DD::*station:*hour:") ∧
        token.resolve [] .hourly false = .ok (.ofText "DD::KDEN:6:") := by
  have parsed : parse "DD::*station:*hour:" = .ok (.composite
      [literal "DD", literal "", field "station", field "hour", literal ""]) := rfl
  have callFree : IsCallFree "DD::*station:*hour:" := by
    unfold IsCallFree
    decide
  have fills : RowContext.hourly.Fills (fieldNames "DD::*station:*hour:") := by
    have named : fieldNames "DD::*station:*hour:" = ["station", "hour"] := rfl
    rw [named]
    intro name member
    simp only [List.mem_cons, List.not_mem_nil, or_false] at member
    rcases member with rfl | rfl
    · exact ⟨.string "KDEN", rfl, .string "KDEN"⟩
    · exact ⟨.ofNat 6, rfl, .number _⟩
  have substituted :
      substitute RowContext.hourly.keyText "DD::*station:*hour:" = "DD::KDEN:6:" := rfl
  have resolves := (resolves_by_substitution parsed callFree fills [] false).1 (by decide)
  rw [substituted] at resolves
  exact ⟨_, parsed, callFree, fills, resolves⟩

end DocumentIngest
