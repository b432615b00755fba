import DocumentIngest.Proofs.Fallible
import DocumentIngest.Template.Tree

/-!
# Where errors in templates arise

A template names its handlers, and resolving it looks handlers up.  Both walk
through the arguments and parts of calls, the pieces of composites and the
branches of trees, though in different orders and resolving not always to the
end.  What resolving fails to find, or what fails in it, is always a handler of
one of the names, so a template whose names are all provided never asks for a
handler that is not there.
-/

namespace DocumentIngest

open Fallible

/-- Whether all names are those of handlers provided. -/
def Handler.Provides (provided : List Handler) (names : List String) : Prop :=
  ∀ name ∈ names, Handler.find? provided name ≠ none

/-- Where an error in resolving a template at a row arises, by the names of the
handlers that the template calls. -/
inductive TemplateError.ArisesIn (provided : List Handler) (context : RowContext)
    (names : List String) : TemplateError → Prop where
  | unknown {name : String} (called : name ∈ names)
      (absent : Handler.find? provided name = none) :
      ArisesIn provided context names (.unknownHandler name)
  | fault {name : String} {handler : Handler} {inputs : HandlerInputs} {fault : HandlerFault}
      (called : name ∈ names) (found : Handler.find? provided name = some handler)
      (fails : handler.apply inputs context = .error fault) :
      ArisesIn provided context names (.handler name fault)
  | list (piece : Token) : ArisesIn provided context names (.listInKey piece)
  | textless (piece : Token) : ArisesIn provided context names (.noKeyText piece)

variable {provided : List Handler} {context : RowContext} {error : TemplateError}

namespace TemplateError

variable {names : List String}

theorem ArisesIn.mono {more : List String} (arises : error.ArisesIn provided context names)
    (subset : names ⊆ more) : error.ArisesIn provided context more := by
  cases arises with
  | unknown called absent => exact .unknown (subset called) absent
  | fault called found fails => exact .fault (subset called) found fails
  | list piece => exact .list piece
  | textless piece => exact .textless piece

theorem ArisesIn.ne_unknownHandler (arises : error.ArisesIn provided context names)
    (provides : Handler.Provides provided names) (name : String) :
    error ≠ .unknownHandler name := by
  rintro rfl
  cases arises with
  | unknown called absent => exact provides name called absent

end TemplateError

namespace Token

/-- The key text of a piece fails for what the piece is worth, not for a handler. -/
theorem arises_of_keyOfPiece {optionally : Bool} {piece : Token} {value : Resolved}
    (failed : keyOfPiece optionally piece value = .error error) (names : List String) :
    error.ArisesIn provided context names := by
  unfold keyOfPiece at failed
  split at failed
  · cases failed
  · cases failed
    exact .list piece
  · split at failed
    · cases failed
    · cases failed
      exact .textless piece

mutual

/-- An error in resolving a token arises from a handler that the token calls, or from a
piece of a key in it. -/
theorem arises_of_resolve {optionally : Bool} (token : Token)
    (failed : token.resolve provided context optionally = .error error) :
    error.ArisesIn provided context token.handlerNames := by
  cases token with
  | literal text => simp [resolve] at failed
  | field other => simp [resolve] at failed
  | call called arguments parts =>
      rw [resolve] at failed
      cases found : Handler.find? provided called with
      | none =>
          simp only [found] at failed
          cases failed
          exact .unknown (by simp [handlerNames]) found
      | some handler =>
          simp only [found] at failed
          rcases bind_eq_error_iff.mp failed with inArguments | ⟨_, _, failed⟩
          · exact (arises_of_resolveEach arguments inArguments).mono (by simp [handlerNames])
          rcases bind_eq_error_iff.mp failed with inParts | ⟨_, _, failed⟩
          · exact (arises_of_resolveEach parts inParts).mono (by simp [handlerNames])
          split at failed
          · cases failed
          · next fails =>
              cases failed
              exact .fault (by simp [handlerNames]) found fails
  | composite pieces =>
      rw [resolve] at failed
      rcases bind_eq_error_iff.mp failed with inPieces | ⟨_, _, failed⟩
      · exact (arises_of_resolvePieces pieces inPieces).mono (by simp [handlerNames])
      · split at failed <;> cases failed

theorem arises_of_resolveEach (tokens : List Token)
    (failed : resolveEach provided context tokens = .error error) :
    error.ArisesIn provided context (namesOf tokens) := by
  cases tokens with
  | nil => simp [resolveEach] at failed
  | cons token rest =>
      rw [resolveEach] at failed
      rcases bind_eq_error_iff.mp failed with inFirst | ⟨_, _, failed⟩
      · exact (arises_of_resolve token inFirst).mono (by simp [namesOf])
      rcases bind_eq_error_iff.mp failed with inRest | ⟨_, _, failed⟩
      · exact (arises_of_resolveEach rest inRest).mono (by simp [namesOf])
      · cases failed

theorem arises_of_resolvePieces {optionally : Bool} (pieces : List Token)
    (failed : resolvePieces provided context optionally pieces = .error error) :
    error.ArisesIn provided context (namesOf pieces) := by
  cases pieces with
  | nil => simp [resolvePieces] at failed
  | cons piece rest =>
      rw [resolvePieces] at failed
      rcases bind_eq_error_iff.mp failed with inFirst | ⟨value, _, failed⟩
      · exact (arises_of_resolve piece inFirst).mono (by simp [namesOf])
      rcases bind_eq_error_iff.mp failed with inKey | ⟨key, _, failed⟩
      · exact arises_of_keyOfPiece inKey _
      cases key with
      | none => cases failed
      | some key =>
          rcases bind_eq_error_iff.mp failed with inRest | ⟨_, _, failed⟩
          · exact (arises_of_resolvePieces rest inRest).mono (by simp [namesOf])
          · cases failed

end

end Token

namespace TemplateTree

variable {optionally : List String}

mutual

/-- An error in resolving a tree arises in one of its templates. -/
theorem arises_of_resolveAt {path : String} (tree : TemplateTree)
    (failed : tree.resolveAt provided context optionally path = .error error) :
    error.ArisesIn provided context tree.handlerNames := by
  cases tree with
  | token template =>
      rw [resolveAt, map_eq_error_iff] at failed
      exact (Token.arises_of_resolve template failed).mono (by simp [handlerNames])
  | value constant => simp [resolveAt] at failed
  | object fields =>
      rw [resolveAt, map_eq_error_iff] at failed
      exact (arises_of_resolveFields fields failed).mono (by simp [handlerNames])
  | array items =>
      rw [resolveAt, map_eq_error_iff] at failed
      exact (arises_of_resolveItems items failed).mono (by simp [handlerNames])

theorem arises_of_resolveFields {path : String} (fields : List (String × TemplateTree))
    (failed : resolveFields provided context optionally path fields = .error error) :
    error.ArisesIn provided context (namesOfFields fields) := by
  cases fields with
  | nil => simp [resolveFields] at failed
  | cons field rest =>
      obtain ⟨key, child⟩ := field
      rw [resolveFields] at failed
      rcases bind_eq_error_iff.mp failed with inChild | ⟨value, _, failed⟩
      · exact (arises_of_resolveAt child inChild).mono (by simp [namesOfFields])
      rcases bind_eq_error_iff.mp failed with inRest | ⟨_, _, failed⟩
      · exact (arises_of_resolveFields rest inRest).mono (by simp [namesOfFields])
      · cases value <;> cases failed

theorem arises_of_resolveItems {path : String} (items : List TemplateTree)
    (failed : resolveItems provided context optionally path items = .error error) :
    error.ArisesIn provided context (namesOfItems items) := by
  cases items with
  | nil => simp [resolveItems] at failed
  | cons item rest =>
      rw [resolveItems] at failed
      rcases bind_eq_error_iff.mp failed with inItem | ⟨_, _, failed⟩
      · exact (arises_of_resolveAt item inItem).mono (by simp [namesOfItems])
      rcases bind_eq_error_iff.mp failed with inRest | ⟨_, _, failed⟩
      · exact (arises_of_resolveItems rest inRest).mono (by simp [namesOfItems])
      · cases failed

end

theorem arises_of_resolve {tree : TemplateTree}
    (failed : tree.resolve provided context optionally = .error error) :
    error.ArisesIn provided context tree.handlerNames :=
  arises_of_resolveAt tree failed

end TemplateTree

end DocumentIngest
