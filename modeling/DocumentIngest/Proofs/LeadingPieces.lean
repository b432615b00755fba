import DocumentIngest.Proofs.BuiltDocuments
import DocumentIngest.Proofs.Markers

/-!
# Ids that begin with a constant

If the template of an id begins with a constant, every id that is built begins
with that constant as its first piece, and no id is a list.  If moreover the type
of the documents is another constant than that of markers, or if they have none,
no document that is built can be taken for a marker.
-/

namespace DocumentIngest

open Fallible

namespace Token

/-- The constant that a token is, or begins with. -/
def leadingLiteral? : Token → Option String
  | literal text => some text
  | composite (literal text :: _) => some text
  | _ => none

theorem eq_of_ofAtom {segment : List Char} {token : Token} {text : String}
    (parsed : ofAtom segment = .ok token) (leads : token.leadingLiteral? = some text) :
    token = literal text ∧ text.toList = segment := by
  unfold ofAtom at parsed
  split at parsed
  · simp at parsed
  · cases parsed
    simp [leadingLiteral?] at leads
  · cases parsed
    cases leads
    exact ⟨rfl, String.toList_ofList⟩

/-- What a composite begins with, its first piece begins with. -/
theorem leadingLiteral?_of_composite {piece : Token} {others : List Token} {text : String}
    (leads : (composite (piece :: others)).leadingLiteral? = some text) :
    piece.leadingLiteral? = some text := by
  cases piece with
  | literal constant => exact leads
  | field name => simp [leadingLiteral?] at leads
  | call name arguments parts => simp [leadingLiteral?] at leads
  | composite pieces => simp [leadingLiteral?] at leads

/-- What a template begins with, if it is a constant, is one of its segments. -/
theorem leadingLiteral_mem_segments {segments : List (List Char)} {pieces : List Token}
    {text : String} (parsed : ofSegments segments = .ok pieces)
    (leads : ∃ token, (pieces = [token] ∨ token = composite pieces) ∧
      token.leadingLiteral? = some text) : text.toList ∈ segments := by
  obtain ⟨token, form, leads⟩ := leads
  unfold ofSegments at parsed
  split at parsed
  · cases parsed
    rcases form with impossible | rfl
    · simp at impossible
    · simp [leadingLiteral?] at leads
  · obtain ⟨⟨name, arguments⟩, _, parsed⟩ := bind_eq_ok_iff.mp parsed
    have isCall : ∃ parts, pieces = [call name arguments parts] := by
      dsimp only at parsed
      split at parsed
      · cases parsed
        exact ⟨[], rfl⟩
      · obtain ⟨parts, _, parsed⟩ := bind_eq_ok_iff.mp parsed
        cases parsed
        exact ⟨parts, rfl⟩
    obtain ⟨parts, rfl⟩ := isCall
    rcases form with same | rfl
    · cases same
      simp [leadingLiteral?] at leads
    · simp [leadingLiteral?] at leads
  · obtain ⟨piece, atom, parsed⟩ := bind_eq_ok_iff.mp parsed
    obtain ⟨others, _, parsed⟩ := bind_eq_ok_iff.mp parsed
    cases parsed
    -- A template of one segment is its piece, any other is a composite of its pieces.
    have pieceLeads : piece.leadingLiteral? = some text := by
      rcases form with same | rfl
      · cases same
        exact leads
      · exact leadingLiteral?_of_composite leads
    rw [(eq_of_ofAtom atom pieceLeads).2]
    exact List.mem_cons_self

/-- A constant that a template begins with holds no colon. -/
theorem colon_not_mem_leadingLiteral {template text : String} {token : Token}
    (parsed : ofTemplate template = .ok token) (leads : token.leadingLiteral? = some text) :
    ':' ∉ text.toList := by
  rw [ofTemplate] at parsed
  split at parsed
  · next isToken =>
      cases parsed
      rw [parse] at isToken
      obtain ⟨pieces, segments, isToken⟩ := bind_eq_ok_iff.mp isToken
      have form : pieces = [token] ∨ token = composite pieces := by
        split at isToken
        · cases isToken
          exact .inl rfl
        · cases isToken
          exact .inr rfl
      exact Text.not_mem_of_mem_splitOn
        (leadingLiteral_mem_segments segments ⟨token, form, leads⟩)
  · simp at parsed

/-- What a token that begins with a constant resolves to: nothing, or a text that
begins with that constant as its first piece. -/
theorem resolve_of_leadingLiteral {token : Token} {text : String} {provided : List Handler}
    {context : RowContext} {resolved : Resolved} (leads : token.leadingLiteral? = some text)
    (whole : ':' ∉ text.toList) (resolves : token.resolve provided context false = .ok resolved) :
    resolved = .missing ∨ ∃ key, resolved = .ofText key ∧ firstPiece key = text.toList := by
  cases token with
  | literal constant =>
      cases leads
      cases resolves
      have first := firstPiece_intercalate whole []
      rw [String.intercalate_singleton] at first
      exact .inr ⟨text, rfl, first⟩
  | field name => simp [leadingLiteral?] at leads
  | call name arguments parts => simp [leadingLiteral?] at leads
  | composite pieces =>
      cases pieces with
      | nil => simp [leadingLiteral?] at leads
      | cons piece others =>
          cases piece with
          | literal constant =>
              cases leads
              rw [resolve] at resolves
              obtain ⟨keys, pieces, resolves⟩ := bind_eq_ok_iff.mp resolves
              cases keys with
              | none =>
                  cases resolves
                  exact .inl rfl
              | some keys =>
                  cases resolves
                  rw [resolvePieces] at pieces
                  obtain ⟨value, isText, pieces⟩ := bind_eq_ok_iff.mp pieces
                  cases isText
                  obtain ⟨key, isKey, pieces⟩ := bind_eq_ok_iff.mp pieces
                  cases isKey
                  obtain ⟨rest, _, pieces⟩ := bind_eq_ok_iff.mp pieces
                  cases rest with
                  | none => simp at pieces
                  | some rest =>
                      cases pieces
                      exact .inr ⟨_, rfl, firstPiece_intercalate whole rest⟩
          | field name => simp [leadingLiteral?] at leads
          | call name arguments parts => simp [leadingLiteral?] at leads
          | composite inner => simp [leadingLiteral?] at leads

end Token

namespace CompiledDocument

variable {compiled : CompiledDocument} {text : String}

/-- Built ids begin with the constant that their template begins with. -/
theorem ensures_firstPiece (leads : compiled.id.leadingLiteral? = some text)
    (whole : ':' ∉ text.toList) : compiled.Ensures fun id _ => firstPiece id = text.toList where
  alone := by
    intro provided context id body key resolved isKey _
    rcases Token.resolve_of_leadingLiteral leads whole resolved with rfl | ⟨text, rfl, first⟩
    · simp [Resolved.asKey?] at isKey
    · cases isKey
      exact first
  shared := by
    intro provided context ids body element key index resolved _ _ _
    rcases Token.resolve_of_leadingLiteral leads whole resolved with none | ⟨text, same, _⟩
    · simp at none
    · simp [Resolved.ofText] at same
  extended := fun _ _ _ _ first => first

/-- If the type of the documents is another constant than that of markers, or if they
have none, no document that is built can be taken for a marker. -/
theorem all_noMarker {trees : List (String × TemplateTree)} (body : compiled.body = .object trees)
    {constant : Option String} (otherType : constant ≠ some DataFileRecord.type)
    (isConstant : Keyed.lookup trees "type" = constant.map fun text => .token (.literal text))
    (documentId : String) (builder : BuilderType) (dataset : Dataset) (parameters : Json.Fields) :
    (Assembler.assemble builder compiled dataset parameters).documents.All fun _ document =>
      MemoryStore.markerOf? documentId document = none := by
  have ensures := ensures_constant body (by decide : "type" ≠ "id") (by decide : "type" ≠ "data")
    isConstant
  refine (Assembler.all_assemble ensures builder dataset parameters).imp ?_
  intro id document field
  apply MemoryStore.markerOf?_of_type_ne
  rw [Json.textField?, field]
  cases constant with
  | none => simp
  | some text => exact otherType

end CompiledDocument

end DocumentIngest
