import DocumentIngest.Proofs.CallHeads

/-!
# The grammar of templates

Which texts are templates, and of which tokens.  Reading and rendering undo each
other up to two things that a text can hold and no token shows: a bar with no
arguments behind it, and a colon at the end directly behind the head of a call.
Both work on the segments between colons, so the proofs do as well.
-/

namespace DocumentIngest

open Fallible

namespace Token

/-- Segments with tidy heads, and with nothing behind a last head. -/
def tidySegments : List (List Char) → List (List Char)
  | [] => []
  | ('&' :: head) :: rest =>
      ('&' :: tidyHead head) :: (if rest = [[]] then [] else tidySegments rest)
  | segment :: rest => segment :: tidySegments rest

/-- A template without the bars and colons that nothing follows. -/
def tidy (template : String) : String :=
  String.ofList (joined ':' (tidySegments (Text.splitOn ':' template.toList)))

section Segments

theorem call_or_piece (segment : List Char) :
    (∃ head, segment = '&' :: head) ∨ segment.head? ≠ some '&' := by
  cases segment with
  | nil => exact .inr (by simp)
  | cons c rest =>
      by_cases marker : c = '&'
      · exact .inl ⟨rest, by rw [marker]⟩
      · exact .inr (by simpa using marker)

/-- The parts of a call, from the segments behind its head. -/
def partsOf (behind : List (List Char)) : Except TemplateFlaw (List Token) :=
  if behind = [[]] then .ok [] else ofSegments behind

theorem ofSegments_call (head : List Char) (rest : List (List Char)) :
    ofSegments (('&' :: head) :: rest) =
      ofHead head >>= fun called =>
        (partsOf rest).map fun parts => [call called.1 called.2 parts] := by
  rw [ofSegments]
  cases ofHead head with
  | error flaw => rfl
  | ok called =>
      by_cases lone : rest = [[]]
      · simp [lone, partsOf, bind, Except.bind, Except.map]
      · simp only [partsOf, lone, if_false]
        cases ofSegments rest <;> rfl

variable {segment : List Char} (notCall : segment.head? ≠ some '&') (rest : List (List Char))

include notCall in
theorem ofSegments_piece :
    ofSegments (segment :: rest) = (do
      let piece ← ofAtom segment
      let pieces ← ofSegments rest
      .ok (piece :: pieces)) := by
  rw [ofSegments]
  intro head marked
  simp [marked] at notCall

include notCall in
theorem tidySegments_piece : tidySegments (segment :: rest) = segment :: tidySegments rest := by
  rw [tidySegments]
  intro head marked
  simp [marked] at notCall

include notCall in
theorem isFlawed_piece : IsFlawed segment ↔ segment = ['*'] := by
  rw [IsFlawed]
  intro head marked
  simp [marked] at notCall

theorem tidySegments_eq_nil_iff {segments : List (List Char)} :
    tidySegments segments = [] ↔ segments = [] := by
  cases segments with
  | nil => simp [tidySegments]
  | cons segment rest =>
      rcases call_or_piece segment with ⟨head, rfl⟩ | notCall
      · simp [tidySegments]
      · simp [tidySegments_piece notCall]

theorem eq_lone_of_tidySegments {segments : List (List Char)}
    (tidied : tidySegments segments = [[]]) : segments = [[]] := by
  cases segments with
  | nil => simp [tidySegments] at tidied
  | cons segment rest =>
      rcases call_or_piece segment with ⟨head, rfl⟩ | notCall
      · simp [tidySegments] at tidied
      · rw [tidySegments_piece notCall, List.cons.injEq, tidySegments_eq_nil_iff] at tidied
        rw [tidied.1, tidied.2]

theorem colon_not_mem_tidySegments {segments : List (List Char)}
    (clean : ∀ segment ∈ segments, ':' ∉ segment) :
    ∀ segment ∈ tidySegments segments, ':' ∉ segment := by
  induction segments with
  | nil => simp [tidySegments]
  | cons first rest ih =>
      have here := clean first List.mem_cons_self
      have behind := ih fun segment member => clean segment (List.mem_cons_of_mem _ member)
      intro segment member
      rcases call_or_piece first with ⟨head, rfl⟩ | notCall
      · rw [tidySegments] at member
        rcases List.mem_cons.mp member with rfl | later
        · intro inside
          rcases List.mem_cons.mp inside with marker | inside
          · exact absurd marker (by decide)
          · exact here (List.mem_cons_of_mem _ (tidyHead_subset head inside))
        · split at later
          · simp at later
          · exact behind segment later
      · rw [tidySegments_piece notCall] at member
        rcases List.mem_cons.mp member with rfl | later
        · exact here
        · exact behind segment later

/-- What is tidied away makes no difference to what is read. -/
theorem ofSegments_tidySegments (segments : List (List Char)) :
    ofSegments (tidySegments segments) = ofSegments segments := by
  induction segments with
  | nil => rfl
  | cons segment rest ih =>
      rcases call_or_piece segment with ⟨head, rfl⟩ | notCall
      · have sameParts :
            partsOf (if rest = [[]] then [] else tidySegments rest) = partsOf rest := by
          by_cases lone : rest = [[]]
          · rw [if_pos lone, lone]
            rfl
          · have stillNotLone : tidySegments rest ≠ [[]] :=
              fun tidied => lone (eq_lone_of_tidySegments tidied)
            rw [if_neg lone, partsOf, if_neg stillNotLone, partsOf, if_neg lone, ih]
        rw [tidySegments, ofSegments_call, ofSegments_call, ofHead_tidyHead, sameParts]
      · rw [tidySegments_piece notCall, ofSegments_piece notCall, ofSegments_piece notCall, ih]

/-- Reading fails at a flawed segment, and at no other. -/
theorem ofSegments_eq_error_iff {segments : List (List Char)} :
    (∃ flaw, ofSegments segments = .error flaw) ↔ ∃ segment ∈ segments, IsFlawed segment := by
  induction segments with
  | nil => simp [ofSegments]
  | cons segment rest ih =>
      simp only [List.mem_cons, exists_eq_or_imp]
      rcases call_or_piece segment with ⟨head, rfl⟩ | notCall
      · have inParts : (∃ flaw, partsOf rest = .error flaw) ↔
            ∃ segment ∈ rest, IsFlawed segment := by
          by_cases lone : rest = [[]]
          · simp [partsOf, lone, IsFlawed]
          · rw [partsOf, if_neg lone, ih]
        rw [ofSegments_call, ← ofHead_eq_error_iff, ← inParts]
        cases ofHead head with
        | error flaw => simp [bind, Except.bind]
        | ok called => cases partsOf rest <;> simp [bind, Except.bind, Except.map]
      · rw [ofSegments_piece notCall, isFlawed_piece notCall, ← ofAtom_eq_error_iff, ← ih]
        cases ofAtom segment with
        | error flaw => simp [bind, Except.bind]
        | ok piece => cases ofSegments rest <;> simp [bind, Except.bind]

end Segments

section Pieces

mutual

/-- The segments between the colons of a token. -/
def segments : Token → List (List Char)
  | literal text => [text.toList]
  | field name => ['*' :: name.toList]
  | call name arguments parts =>
      ('&' :: (name.toList ++ argumentChars arguments)) :: segmentsOf parts
  | composite pieces => segmentsOf pieces

/-- The segments of several tokens. -/
def segmentsOf : List Token → List (List Char)
  | [] => []
  | token :: rest => segments token ++ segmentsOf rest

end

variable {piece : Token} {rest : List Token}

theorem isPiece_of_isAtom {last : Bool} (isAtom : IsAtom [':'] piece) : IsPiece last piece := by
  cases piece with
  | literal text => exact isAtom
  | field name => exact isAtom
  | call name arguments parts => exact absurd isAtom id
  | composite pieces => exact absurd isAtom id

theorem arePieces_cons (isAtom : IsAtom [':'] piece) (are : ArePieces rest) :
    ArePieces (piece :: rest) := by
  cases rest with
  | nil => exact isPiece_of_isAtom isAtom
  | cons next behind => exact ⟨isPiece_of_isAtom isAtom, are⟩

/-- Pieces are constants and fields, and at the end perhaps one call, whose parts are
pieces again. -/
theorem pieces_induction {motive : (pieces : List Token) → ArePieces pieces → Prop}
    (nil : motive [] trivial)
    (atom : ∀ piece rest (isAtom : IsAtom [':'] piece) (areRest : ArePieces rest),
      motive rest areRest → motive (piece :: rest) (arePieces_cons isAtom areRest))
    (last : ∀ name arguments parts (named : name ≠ "") (clean : ∀ c ∈ [':', '|'], c ∉ name.toList)
      (areAtoms : ∀ argument ∈ arguments, IsAtom [':', ','] argument) (areParts : ArePieces parts),
      motive parts areParts →
        motive [call name arguments parts] ⟨rfl, named, clean, areAtoms, areParts⟩) :
    ∀ pieces are, motive pieces are
  | [], _ => nil
  | [literal text], are => atom (literal text) [] are trivial nil
  | [field name], are => atom (field name) [] are trivial nil
  | [call name arguments parts], ⟨_, named, clean, areAtoms, areParts⟩ =>
      last name arguments parts named clean areAtoms areParts
        (pieces_induction nil atom last parts areParts)
  | literal text :: next :: rest, are =>
      atom (literal text) _ are.1 are.2 (pieces_induction nil atom last (next :: rest) are.2)
  | field name :: next :: rest, are =>
      atom (field name) _ are.1 are.2 (pieces_induction nil atom last (next :: rest) are.2)
  | call name arguments parts :: next :: rest, are => by simp [ArePieces, IsPiece] at are
  | composite pieces :: rest, are => by cases rest <;> simp [ArePieces, IsPiece] at are

theorem segments_of_isAtom {separators : List Char} (isAtom : IsAtom separators piece) :
    segments piece = [renderChars piece] := by
  cases piece with
  | literal text => rfl
  | field name => rfl
  | call name arguments parts => exact absurd isAtom id
  | composite pieces => exact absurd isAtom id

theorem segmentsOf_cons_ne_nil (are : ArePieces (piece :: rest)) :
    segmentsOf (piece :: rest) ≠ [] := by
  cases piece with
  | literal text => simp [segmentsOf, segments]
  | field name => simp [segmentsOf, segments]
  | call name arguments parts => simp [segmentsOf, segments]
  | composite pieces => cases rest <;> simp [ArePieces, IsPiece] at are

/-- Pieces are rendered with colons between their segments. -/
theorem joined_renderEach {pieces : List Token} (are : ArePieces pieces) :
    joined ':' (renderEach pieces) = joined ':' (segmentsOf pieces) := by
  induction pieces, are using pieces_induction with
  | nil => rfl
  | atom piece rest isAtom areRest ih =>
      rw [renderEach, segmentsOf, segments_of_isAtom isAtom, List.singleton_append]
      cases rest with
      | nil => rfl
      | cons next behind =>
          rw [Text.joined_cons (by simp [renderEach]), ih,
            Text.joined_cons (segmentsOf_cons_ne_nil areRest)]
  | last name arguments parts named clean areAtoms areParts ih =>
      rw [renderEach, segmentsOf, segments, segmentsOf, List.append_nil, renderEach, joined]
      cases parts with
      | nil =>
          have whole : renderChars (call name arguments []) =
              '&' :: (name.toList ++ argumentChars arguments) ++ [] := by
            cases arguments <;> rfl
          rw [whole, List.append_nil]
          rfl
      | cons part others =>
          have whole : renderChars (call name arguments (part :: others)) =
              '&' :: (name.toList ++ argumentChars arguments) ++
                ':' :: joined ':' (renderEach (part :: others)) := by
            cases arguments <;> rfl
          rw [whole, Text.joined_cons (segmentsOf_cons_ne_nil areParts), ih]

theorem colon_not_mem_argumentChars {arguments : List Token}
    (areAtoms : ∀ argument ∈ arguments, IsAtom [':', ','] argument) :
    ':' ∉ argumentChars arguments := by
  cases arguments with
  | nil => simp [argumentChars]
  | cons argument rest =>
      intro inside
      rcases List.mem_cons.mp inside with bar | inside
      · exact absurd bar (by decide)
      · rcases Text.mem_joined inside with comma | ⟨text, member, inside⟩
        · exact absurd comma (by decide)
        · rw [renderEach_eq_map] at member
          obtain ⟨token, among, rfl⟩ := List.mem_map.mp member
          exact not_mem_renderChars (areAtoms token among) (by simp) (by decide) inside

theorem colon_not_mem_segmentsOf {pieces : List Token} (are : ArePieces pieces) :
    ∀ segment ∈ segmentsOf pieces, ':' ∉ segment := by
  induction pieces, are using pieces_induction with
  | nil => simp [segmentsOf]
  | atom piece rest isAtom areRest ih =>
      rw [segmentsOf, segments_of_isAtom isAtom]
      intro segment member
      rcases List.mem_cons.mp member with rfl | behind
      · exact not_mem_renderChars isAtom (by simp) (by decide)
      · exact ih segment behind
  | last name arguments parts named clean areAtoms areParts ih =>
      rw [segmentsOf, segments, segmentsOf, List.append_nil]
      intro segment member
      rcases List.mem_cons.mp member with rfl | behind
      · simp [clean ':' (by simp), colon_not_mem_argumentChars areAtoms]
      · exact ih segment behind

/-- Pieces are read back from their segments. -/
theorem ofSegments_segmentsOf {pieces : List Token} (are : ArePieces pieces)
    (unmarked : EverywhereIn IsUnmarked pieces) (tight : EverywhereIn IsTight pieces) :
    ofSegments (segmentsOf pieces) = .ok pieces := by
  induction pieces, are using pieces_induction with
  | nil => rfl
  | atom piece rest isAtom areRest ih =>
      obtain ⟨read, notCall⟩ := ofAtom_renderChars isAtom unmarked.1
      rw [segmentsOf, segments_of_isAtom isAtom, List.singleton_append, ofSegments_piece notCall,
        read, ih unmarked.2 tight.2]
      rfl
  | last name arguments parts named clean areAtoms areParts ih =>
      obtain ⟨⟨_, unmarkedArguments, unmarkedParts⟩, _⟩ := unmarked
      obtain ⟨⟨⟨argumentsNotLone, partsNotLone⟩, _, tightParts⟩, _⟩ := tight
      have head := ofHead_argumentChars named (clean '|' (by simp)) areAtoms unmarkedArguments
        argumentsNotLone
      have read := ih unmarkedParts tightParts
      have notLone : segmentsOf parts ≠ [[]] := by
        intro lone
        rw [lone] at read
        exact partsNotLone (Except.ok.inj read).symm
      rw [segmentsOf, segments, segmentsOf, List.append_nil, ofSegments_call, head, partsOf,
        if_neg notLone, read]
      rfl

/-- What segments without colons are read as: pieces whose segments are those, tidied. -/
theorem eq_of_ofSegments {texts : List (List Char)} {pieces : List Token}
    (clean : ∀ text ∈ texts, ':' ∉ text) (parsed : ofSegments texts = .ok pieces) :
    ArePieces pieces ∧ EverywhereIn IsUnmarked pieces ∧ EverywhereIn IsTight pieces ∧
      segmentsOf pieces = tidySegments texts := by
  induction texts generalizing pieces with
  | nil =>
      cases parsed
      exact ⟨trivial, trivial, trivial, rfl⟩
  | cons text rest ih =>
      have cleanRest : ∀ text ∈ rest, ':' ∉ text :=
        fun text member => clean text (List.mem_cons_of_mem _ member)
      rcases call_or_piece text with ⟨head, rfl⟩ | notCall
      · rw [ofSegments_call] at parsed
        obtain ⟨⟨name, arguments⟩, read, parsed⟩ := bind_eq_ok_iff.mp parsed
        obtain ⟨parts, readParts, same⟩ := map_eq_ok_iff.mp parsed
        cases same
        have noColon : ':' ∉ head :=
          fun inside => clean _ List.mem_cons_self (List.mem_cons_of_mem _ inside)
        obtain ⟨named, cleanName, areAtoms, unmarked, tight, notLone, shown⟩ :=
          eq_of_ofHead noColon read
        have inParts : ArePieces parts ∧ EverywhereIn IsUnmarked parts ∧
            EverywhereIn IsTight parts ∧ parts ≠ [literal ""] ∧
              segmentsOf parts = if rest = [[]] then [] else tidySegments rest := by
          rw [partsOf] at readParts
          split at readParts
          · next lone =>
              cases readParts
              rw [if_pos lone]
              exact ⟨trivial, trivial, trivial, by simp, rfl⟩
          · next several =>
              rw [if_neg several]
              obtain ⟨areParts, unmarkedParts, tightParts, same⟩ := ih cleanRest readParts
              refine ⟨areParts, unmarkedParts, tightParts, ?_, same⟩
              rintro rfl
              exact several (eq_lone_of_tidySegments same.symm)
        obtain ⟨areParts, unmarkedParts, tightParts, partsNotLone, sameParts⟩ := inParts
        refine ⟨⟨rfl, named, cleanName, areAtoms, areParts⟩,
          ⟨⟨trivial, unmarked, unmarkedParts⟩, trivial⟩,
          ⟨⟨⟨notLone, partsNotLone⟩, tight, tightParts⟩, trivial⟩, ?_⟩
        rw [segmentsOf, segments, segmentsOf, List.append_nil, tidySegments, shown, sameParts]
      · rw [ofSegments_piece notCall] at parsed
        obtain ⟨piece, read, parsed⟩ := bind_eq_ok_iff.mp parsed
        obtain ⟨others, readRest, same⟩ := bind_eq_ok_iff.mp parsed
        cases same
        have asAtom : IsAtom [':'] piece ∧ renderChars piece = text :=
          isAtom_of_ofAtom read (by simpa using clean text List.mem_cons_self)
        obtain ⟨isAtom, rendered⟩ := asAtom
        obtain ⟨unmarked, tight⟩ := everywhere_of_ofAtom read notCall
        obtain ⟨areRest, unmarkedRest, tightRest, sameRest⟩ := ih cleanRest readRest
        refine ⟨arePieces_cons isAtom areRest, ⟨unmarked, unmarkedRest⟩, ⟨tight, tightRest⟩, ?_⟩
        rw [segmentsOf, segments_of_isAtom isAtom, rendered, tidySegments_piece notCall, sameRest]
        rfl

/-- One piece is a token by itself, several are a composite. -/
def ofPieces : List Token → Token
  | [piece] => piece
  | pieces => composite pieces

theorem parse_eq (template : String) :
    parse template = (ofSegments (Text.splitOn ':' template.toList)).map ofPieces := by
  rw [parse]
  cases ofSegments (Text.splitOn ':' template.toList) with
  | error flaw => rfl
  | ok pieces =>
      simp only [bind, Except.bind, Except.map, ofPieces]
      split <;> simp_all

theorem everywhere_ofPieces {P : Token → Prop} (composites : ∀ pieces, P (composite pieces))
    (pieces : List Token) : Everywhere P (ofPieces pieces) ↔ EverywhereIn P pieces := by
  match pieces with
  | [] => simp [ofPieces, Everywhere, EverywhereIn, composites]
  | [piece] => simp [ofPieces, EverywhereIn]
  | first :: second :: rest => simp [ofPieces, Everywhere, composites]

theorem wellFormed_ofPieces {pieces : List Token} (some : pieces ≠ []) (are : ArePieces pieces) :
    (ofPieces pieces).WellFormed := by
  match pieces with
  | [] => exact absurd rfl some
  | [literal text] => exact are
  | [field name] => exact are
  | [call name arguments parts] => exact are
  | [composite pieces] => exact absurd are id
  | first :: second :: rest => exact ⟨by simp, are⟩

theorem exists_ofPieces {token : Token} (wellFormed : token.WellFormed) :
    ∃ pieces, pieces ≠ [] ∧ ArePieces pieces ∧ token = ofPieces pieces := by
  cases token with
  | literal text => exact ⟨[literal text], by simp, wellFormed, rfl⟩
  | field name => exact ⟨[field name], by simp, wellFormed, rfl⟩
  | call name arguments parts => exact ⟨[call name arguments parts], by simp, wellFormed, rfl⟩
  | composite pieces =>
      obtain ⟨several, are⟩ := wellFormed
      match pieces with
      | [] => simp at several
      | [piece] => simp at several
      | first :: second :: rest => exact ⟨_, by simp, are, rfl⟩

theorem render_ofPieces {pieces : List Token} (are : ArePieces pieces) :
    (ofPieces pieces).render = String.ofList (joined ':' (segmentsOf pieces)) := by
  rw [render, ← joined_renderEach are]
  match pieces with
  | [] => rfl
  | [piece] => rfl
  | first :: second :: rest => rfl

end Pieces

/-- What is rendered is read as it was. -/
theorem parse_render {token : Token} (wellFormed : token.WellFormed)
    (unmarked : token.Everywhere IsUnmarked) (tight : token.Everywhere IsTight) :
    parse token.render = .ok token := by
  obtain ⟨pieces, some, are, rfl⟩ := exists_ofPieces wellFormed
  rw [everywhere_ofPieces fun _ => trivial] at unmarked tight
  have cut : Text.splitOn ':' (joined ':' (segmentsOf pieces)) = segmentsOf pieces := by
    apply Text.splitOn_joined _ (colon_not_mem_segmentsOf are)
    cases pieces with
    | nil => exact absurd rfl some
    | cons piece rest => exact segmentsOf_cons_ne_nil are
  rw [parse_eq, render_ofPieces are, String.toList_ofList, cut,
    ofSegments_segmentsOf are unmarked tight]
  rfl

theorem parse_tidy (template : String) : parse (tidy template) = parse template := by
  have clean : ∀ segment ∈ tidySegments (Text.splitOn ':' template.toList), ':' ∉ segment :=
    colon_not_mem_tidySegments fun _ member => Text.not_mem_of_mem_splitOn member
  have some : tidySegments (Text.splitOn ':' template.toList) ≠ [] := by
    rw [ne_eq, tidySegments_eq_nil_iff]
    exact Text.splitOn_ne_nil _
  rw [parse_eq, parse_eq, tidy, String.toList_ofList, Text.splitOn_joined some clean,
    ofSegments_tidySegments]

theorem parse_eq_ok_iff {template : String} {token : Token} :
    parse template = .ok token ↔
      token.WellFormed ∧ token.Everywhere IsUnmarked ∧ token.Everywhere IsTight ∧
        token.render = tidy template := by
  constructor
  · intro parsed
    rw [parse_eq] at parsed
    obtain ⟨pieces, read, rfl⟩ := map_eq_ok_iff.mp parsed
    obtain ⟨are, unmarked, tight, same⟩ :=
      eq_of_ofSegments (fun _ member => Text.not_mem_of_mem_splitOn member) read
    have some : pieces ≠ [] := by
      rintro rfl
      exact Text.splitOn_ne_nil _ (tidySegments_eq_nil_iff.mp same.symm)
    rw [everywhere_ofPieces fun _ => trivial, everywhere_ofPieces fun _ => trivial,
      render_ofPieces are, same]
    exact ⟨wellFormed_ofPieces some are, unmarked, tight, rfl⟩
  · rintro ⟨wellFormed, unmarked, tight, same⟩
    rw [← parse_tidy, ← same]
    exact parse_render wellFormed unmarked tight

theorem parse_eq_error_iff {template : String} :
    (∃ flaw, parse template = .error flaw) ↔
      ∃ segment ∈ Text.splitOn ':' template.toList, IsFlawed segment := by
  simp only [parse_eq, map_eq_error_iff, ofSegments_eq_error_iff]

/-- Reading accepts exactly the grammar.  A template is read as a token if and only if
the token is well formed, holds no constant that begins with a marker and no lone empty
constant as a list of a call, and renders as the tidy template; it is refused if and only
if a segment is flawed; and every such token is read back from what it renders as. -/
theorem reads_exactly (template : String) :
    (∀ token, parse template = .ok token ↔
      token.WellFormed ∧ token.Everywhere IsUnmarked ∧ token.Everywhere IsTight ∧
        token.render = tidy template) ∧
    ((∃ flaw, parse template = .error flaw) ↔
      ∃ segment ∈ Text.splitOn ':' template.toList, IsFlawed segment) ∧
    ∀ token : Token, token.WellFormed → token.Everywhere IsUnmarked → token.Everywhere IsTight →
      parse token.render = .ok token :=
  ⟨fun _ => parse_eq_ok_iff, parse_eq_error_iff,
    fun _ wellFormed unmarked tight => parse_render wellFormed unmarked tight⟩

/-- A constant and, behind it, a call with an argument and a part. -/
def rounded : Token :=
  composite [literal "T", call "round" [literal "1"] [field "t"]]

theorem reads_exactly_rounded :
    rounded.WellFormed ∧ rounded.Everywhere IsUnmarked ∧ rounded.Everywhere IsTight ∧
      parse rounded.render = .ok rounded := by
  have wellFormed : rounded.WellFormed := by
    simp [rounded, WellFormed, ArePieces, IsPiece, IsAtom]
  have unmarked : rounded.Everywhere IsUnmarked := by
    simp [rounded, Everywhere, EverywhereIn, IsUnmarked]
  have tight : rounded.Everywhere IsTight := by
    simp [rounded, Everywhere, EverywhereIn, IsTight]
  exact ⟨wellFormed, unmarked, tight, (reads_exactly "").2.2 rounded wellFormed unmarked tight⟩

/-- A constant that begins with a marker is well formed by its separators, and is read as
a field. -/
theorem misreads_marked_constant :
    (literal "*x").WellFormed ∧ (literal "*x").Everywhere IsTight ∧
      parse (literal "*x").render ≠ .ok (literal "*x") := by
  have wellFormed : (literal "*x").WellFormed := by simp [WellFormed, IsPiece, IsAtom]
  have read : parse (literal "*x").render = .ok (field "x") := rfl
  refine ⟨wellFormed, trivial, ?_⟩
  rw [read]
  simp

end Token

end DocumentIngest
