import DocumentIngest.Proofs.Fallible
import DocumentIngest.Proofs.Segments
import DocumentIngest.Template.Reader

/-!
# Atoms and the heads of calls

What stands between two colons of a template is a constant, a field or the head of a
call: a name and, behind a bar, arguments between commas.  Each of them is read as what
renders to it, up to a bar with no arguments behind it, and exactly the flawed ones are
refused.
-/

namespace DocumentIngest

open Fallible

namespace Token

/-- The head of a call without the bar of an empty argument list. -/
def tidyHead (head : List Char) : List Char :=
  match Text.cutAt '|' head with
  | (name, some []) => name
  | _ => head

/-- Whether a segment between colons is a bare field marker, or the head of a call
without a name or with an argument that is a bare field marker or a call. -/
def IsFlawed : List Char → Prop
  | '&' :: head =>
      (Text.cutAt '|' head).1 = [] ∨
        ∃ list, (Text.cutAt '|' head).2 = some list ∧
          ∃ argument ∈ Text.splitOn ',' list, argument = ['*'] ∨ argument.head? = some '&'
  | segment => segment = ['*']

section Atoms

variable {text : List Char} {token : Token} {separators : List Char}

theorem ofAtom_eq_ok (parsed : ofAtom text = .ok token) :
    (∃ constant, token = literal constant ∧ text = constant.toList ∧ text.head? ≠ some '*') ∨
      ∃ name, token = field name ∧ name ≠ "" ∧ text = '*' :: name.toList := by
  unfold ofAtom at parsed
  split at parsed
  · simp at parsed
  · next name notBare =>
      cases parsed
      refine .inr ⟨_, rfl, ?_, by simp⟩
      intro empty
      have bare : name = [] := by simpa using congrArg String.toList empty
      exact notBare (by rw [bare])
  · next notBare notMarked =>
      cases parsed
      refine .inl ⟨_, rfl, by simp, ?_⟩
      intro marked
      cases text with
      | nil => simp at marked
      | cons c rest => exact notMarked rest (by simpa using marked)

theorem ofAtom_eq_error_iff : (∃ flaw, ofAtom text = .error flaw) ↔ text = ['*'] := by
  unfold ofAtom
  split <;> simp_all

theorem isAtom_of_ofAtom (parsed : ofAtom text = .ok token)
    (clean : ∀ c ∈ separators, c ∉ text) :
    IsAtom separators token ∧ renderChars token = text := by
  rcases ofAtom_eq_ok parsed with ⟨constant, rfl, rfl, _⟩ | ⟨name, rfl, named, rfl⟩
  · exact ⟨clean, rfl⟩
  · refine ⟨⟨named, fun c member inside => ?_⟩, rfl⟩
    exact clean c member (List.mem_cons_of_mem _ inside)

theorem everywhere_of_ofAtom (parsed : ofAtom text = .ok token)
    (notCall : text.head? ≠ some '&') :
    Everywhere IsUnmarked token ∧ Everywhere IsTight token := by
  rcases ofAtom_eq_ok parsed with ⟨constant, rfl, rfl, notField⟩ | ⟨name, rfl, _, _⟩
  · exact ⟨⟨notField, notCall⟩, trivial⟩
  · exact ⟨trivial, trivial⟩

theorem ofAtom_renderChars (isAtom : IsAtom separators token)
    (unmarked : Everywhere IsUnmarked token) :
    ofAtom (renderChars token) = .ok token ∧ (renderChars token).head? ≠ some '&' := by
  cases token with
  | literal constant =>
      obtain ⟨notField, notCall⟩ := unmarked
      refine ⟨?_, notCall⟩
      rw [renderChars]
      unfold ofAtom
      split
      · next bare => simp [bare] at notField
      · next name marked => simp [marked] at notField
      · rw [String.ofList_toList]
  | field name =>
      obtain ⟨named, _⟩ := isAtom
      refine ⟨?_, by simp [renderChars]⟩
      cases chars : name.toList with
      | nil => exact absurd (String.toList_inj.mp chars) named
      | cons c rest =>
          have whole : String.ofList (c :: rest) = name := by rw [← chars, String.ofList_toList]
          rw [renderChars, chars, ← whole]
          rfl
  | call name arguments parts => exact absurd isAtom id
  | composite pieces => exact absurd isAtom id

theorem not_mem_renderChars (isAtom : IsAtom separators token) {c : Char}
    (member : c ∈ separators) (notMarker : c ≠ '*') : c ∉ renderChars token := by
  cases token with
  | literal constant => exact isAtom c member
  | field name =>
      intro inside
      rcases List.mem_cons.mp inside with marker | behind
      · exact notMarker marker
      · exact isAtom.2 c member behind
  | call name arguments parts => exact absurd isAtom id
  | composite pieces => exact absurd isAtom id

theorem renderEach_eq_map (tokens : List Token) : renderEach tokens = tokens.map renderChars := by
  induction tokens with
  | nil => rfl
  | cons token rest ih => rw [renderEach, ih, List.map_cons]

end Atoms

section Arguments

theorem ofArgument_of_ne {text : List Char} (notCall : text.head? ≠ some '&') :
    ofArgument text = ofAtom text := by
  unfold ofArgument
  split
  · simp at notCall
  · rfl

theorem head?_ne_of_ofArgument {text : List Char} {token : Token}
    (parsed : ofArgument text = .ok token) : text.head? ≠ some '&' := by
  unfold ofArgument at parsed
  split at parsed
  · simp at parsed
  · next notCall =>
      intro marked
      cases text with
      | nil => simp at marked
      | cons c rest => exact notCall rest (by simpa using marked)

theorem ofArgument_eq_error_iff {text : List Char} :
    (∃ flaw, ofArgument text = .error flaw) ↔ text = ['*'] ∨ text.head? = some '&' := by
  by_cases call : text.head? = some '&'
  · cases text with
    | nil => simp at call
    | cons c rest =>
        have marker : c = '&' := by simpa using call
        subst marker
        simp [ofArgument]
  · rw [ofArgument_of_ne call, ofAtom_eq_error_iff]
    simp [call]

theorem eq_of_mapM_ofArgument {texts : List (List Char)} {arguments : List Token}
    (clean : ∀ text ∈ texts, ':' ∉ text ∧ ',' ∉ text)
    (parsed : texts.mapM ofArgument = .ok arguments) :
    renderEach arguments = texts ∧ (∀ argument ∈ arguments, IsAtom [':', ','] argument) ∧
      EverywhereIn IsUnmarked arguments ∧ EverywhereIn IsTight arguments := by
  induction texts generalizing arguments with
  | nil =>
      cases parsed
      simp [renderEach, EverywhereIn]
  | cons text rest ih =>
      rw [List.mapM_cons] at parsed
      obtain ⟨argument, first, parsed⟩ := bind_eq_ok_iff.mp parsed
      obtain ⟨others, behind, parsed⟩ := bind_eq_ok_iff.mp parsed
      cases parsed
      have notCall := head?_ne_of_ofArgument first
      rw [ofArgument_of_ne notCall] at first
      have here := clean text List.mem_cons_self
      have read : IsAtom [':', ','] argument ∧ renderChars argument = text :=
        isAtom_of_ofAtom first (by simp [here.1, here.2])
      obtain ⟨isAtom, rendered⟩ := read
      obtain ⟨unmarked, tight⟩ := everywhere_of_ofAtom first notCall
      obtain ⟨renderedRest, areAtoms, unmarkedRest, tightRest⟩ :=
        ih (fun text member => clean text (List.mem_cons_of_mem _ member)) behind
      refine ⟨by rw [renderEach, rendered, renderedRest], ?_, ⟨unmarked, unmarkedRest⟩,
        ⟨tight, tightRest⟩⟩
      intro other member
      rcases List.mem_cons.mp member with rfl | later
      · exact isAtom
      · exact areAtoms other later

theorem mapM_ofArgument_renderEach {arguments : List Token}
    (areAtoms : ∀ argument ∈ arguments, IsAtom [':', ','] argument)
    (unmarked : EverywhereIn IsUnmarked arguments) :
    (renderEach arguments).mapM ofArgument = .ok arguments := by
  induction arguments with
  | nil => rfl
  | cons argument rest ih =>
      obtain ⟨parsed, notCall⟩ :=
        ofAtom_renderChars (areAtoms argument List.mem_cons_self) unmarked.1
      have behind := ih (fun other member => areAtoms other (List.mem_cons_of_mem _ member))
        unmarked.2
      rw [renderEach, List.mapM_cons, ofArgument_of_ne notCall, parsed, behind]
      rfl

theorem mapM_ofArgument_eq_error_iff {texts : List (List Char)} :
    (∃ flaw, texts.mapM ofArgument = .error flaw) ↔
      ∃ text ∈ texts, text = ['*'] ∨ text.head? = some '&' := by
  induction texts with
  | nil => simp [pure, Except.pure]
  | cons text rest ih =>
      simp only [List.mapM_cons, List.mem_cons, exists_eq_or_imp]
      rw [← ofArgument_eq_error_iff, ← ih]
      cases ofArgument text with
      | error flaw => simp [bind, Except.bind]
      | ok argument => cases rest.mapM ofArgument <;> simp [bind, Except.bind, pure, Except.pure]

end Arguments

section Heads

variable {name : List Char}

theorem ofHead_of_not_mem (noBar : '|' ∉ name) :
    ofHead name =
      if name = [] then .error .unnamedFunction else .ok (String.ofList name, []) := by
  rw [ofHead, Text.cutAt_of_not_mem noBar]
  cases name <;> rfl

theorem ofHead_append (noBar : '|' ∉ name) (list : List Char) :
    ofHead (name ++ '|' :: list) =
      if name = [] then .error .unnamedFunction
      else if list = [] then .ok (String.ofList name, [])
      else ((Text.splitOn ',' list).mapM ofArgument).map fun arguments =>
        (String.ofList name, arguments) := by
  rw [ofHead, Text.cutAt_append noBar]
  cases name with
  | nil => rfl
  | cons c rest =>
      cases list with
      | nil => rfl
      | cons d behind =>
          simp only [List.isEmpty_cons, Bool.false_eq_true, if_false, reduceCtorEq]
          cases (Text.splitOn ',' (d :: behind)).mapM ofArgument <;> rfl

theorem tidyHead_of_not_mem (noBar : '|' ∉ name) : tidyHead name = name := by
  rw [tidyHead, Text.cutAt_of_not_mem noBar]

theorem tidyHead_append (noBar : '|' ∉ name) (list : List Char) :
    tidyHead (name ++ '|' :: list) = if list = [] then name else name ++ '|' :: list := by
  rw [tidyHead, Text.cutAt_append noBar]
  cases list <;> rfl

theorem tidyHead_subset (head : List Char) : tidyHead head ⊆ head := by
  rcases Text.cut_cases '|' head with noBar | ⟨name, list, rfl, noBar⟩
  · rw [tidyHead_of_not_mem noBar]
    exact List.Subset.refl head
  · rw [tidyHead_append noBar]
    split
    · exact List.subset_append_left name _
    · exact List.Subset.refl _

theorem ofHead_tidyHead (head : List Char) : ofHead (tidyHead head) = ofHead head := by
  rcases Text.cut_cases '|' head with noBar | ⟨name, list, rfl, noBar⟩
  · rw [tidyHead_of_not_mem noBar]
  · rw [tidyHead_append noBar]
    split
    · next empty =>
        rw [ofHead_of_not_mem noBar, ofHead_append noBar, if_pos empty]
    · rfl

theorem ofHead_eq_error_iff {head : List Char} :
    (∃ flaw, ofHead head = .error flaw) ↔ IsFlawed ('&' :: head) := by
  rcases Text.cut_cases '|' head with noBar | ⟨name, list, rfl, noBar⟩
  · rw [ofHead_of_not_mem noBar, IsFlawed, Text.cutAt_of_not_mem noBar]
    by_cases unnamed : head = [] <;> simp [unnamed]
  · rw [ofHead_append noBar, IsFlawed, Text.cutAt_append noBar]
    simp only [Option.some.injEq, exists_eq_left', ← mapM_ofArgument_eq_error_iff]
    by_cases unnamed : name = []
    · simp [unnamed]
    · by_cases empty : list = []
      · simp [unnamed, empty, Text.splitOn, ofArgument, ofAtom, pure, Except.pure, bind,
          Except.bind]
      · simp [unnamed, empty, map_eq_error_iff]

/-- The arguments of a call as they stand behind its name. -/
def argumentChars : List Token → List Char
  | [] => []
  | argument :: rest => '|' :: joined ',' (renderEach (argument :: rest))

/-- What the head of a call reads as, and that it is the tidy head of that. -/
theorem eq_of_ofHead {head : List Char} {called : String} {arguments : List Token}
    (noColon : ':' ∉ head) (parsed : ofHead head = .ok (called, arguments)) :
    called ≠ "" ∧ (∀ c ∈ [':', '|'], c ∉ called.toList) ∧
      (∀ argument ∈ arguments, IsAtom [':', ','] argument) ∧
      EverywhereIn IsUnmarked arguments ∧ EverywhereIn IsTight arguments ∧
      arguments ≠ [literal ""] ∧ called.toList ++ argumentChars arguments = tidyHead head := by
  rcases Text.cut_cases '|' head with noBar | ⟨name, list, rfl, noBar⟩
  · rw [ofHead_of_not_mem noBar] at parsed
    split at parsed
    · simp at parsed
    · next named =>
        cases parsed
        rw [tidyHead_of_not_mem noBar]
        simp [named, noColon, noBar, EverywhereIn, argumentChars]
  · have noColonName : ':' ∉ name := fun inside => noColon (List.mem_append_left _ inside)
    rw [ofHead_append noBar] at parsed
    split at parsed
    · simp at parsed
    next named =>
    split at parsed
    · next empty =>
        cases parsed
        rw [tidyHead_append noBar, if_pos empty]
        simp [named, noColonName, noBar, EverywhereIn, argumentChars]
    · next some =>
        obtain ⟨arguments, read, same⟩ := map_eq_ok_iff.mp parsed
        cases same
        have noColonList : ':' ∉ list := fun inside =>
          noColon (List.mem_append_right _ (List.mem_cons_of_mem _ inside))
        have clean : ∀ text ∈ Text.splitOn ',' list, ':' ∉ text ∧ ',' ∉ text :=
          fun text member => ⟨fun inside => noColonList (Text.mem_of_mem_splitOn member inside),
            Text.not_mem_of_mem_splitOn member⟩
        obtain ⟨rendered, areAtoms, unmarked, tight⟩ := eq_of_mapM_ofArgument clean read
        have listed : joined ',' (renderEach arguments) = list := by
          rw [rendered, Text.joined_splitOn]
        have notLone : arguments ≠ [literal ""] := by
          rintro rfl
          exact some listed.symm
        have shown : argumentChars arguments = '|' :: list := by
          cases arguments with
          | nil => exact absurd rendered.symm (Text.splitOn_ne_nil list)
          | cons argument rest => exact congrArg ('|' :: ·) listed
        rw [tidyHead_append noBar, if_neg some, shown]
        simp only [String.toList_ofList, and_true]
        refine ⟨?_, ?_, areAtoms, unmarked, tight, notLone⟩
        · simpa using named
        · simp [noColonName, noBar]

theorem ofHead_argumentChars {called : String} {arguments : List Token} (named : called ≠ "")
    (noBar : '|' ∉ called.toList)
    (areAtoms : ∀ argument ∈ arguments, IsAtom [':', ','] argument)
    (unmarked : EverywhereIn IsUnmarked arguments) (notLone : arguments ≠ [literal ""]) :
    ofHead (called.toList ++ argumentChars arguments) = .ok (called, arguments) := by
  have namedChars : called.toList ≠ [] := by simpa using named
  cases arguments with
  | nil => simp [argumentChars, ofHead_of_not_mem noBar, named]
  | cons argument rest =>
      have clean : ∀ text ∈ renderEach (argument :: rest), ',' ∉ text := by
        intro text member
        rw [renderEach_eq_map] at member
        obtain ⟨token, inside, rfl⟩ := List.mem_map.mp member
        exact not_mem_renderChars (areAtoms token inside) (by simp) (by decide)
      have cut := Text.splitOn_joined (by simp [renderEach]) clean
      have read := mapM_ofArgument_renderEach areAtoms unmarked
      have some : joined ',' (renderEach (argument :: rest)) ≠ [] := by
        intro empty
        -- An empty list would be read as a lone empty constant.
        rw [← cut, empty] at read
        exact notLone (Except.ok.inj read).symm
      rw [argumentChars, ofHead_append noBar, if_neg namedChars, if_neg some, cut, read,
        String.ofList_toList]
      rfl

end Heads

end Token

end DocumentIngest
