import DocumentIngest.Discovery.Glob
import Mathlib.Data.List.Infix
import Mathlib.Data.List.Forall2

/-!
# Patterns and the names they stand for

A pattern stands for a name that can be cut into consecutive parts, one for each of its
characters: a star takes a part without line feeds, a question mark takes one character
that is no line feed, and any other character takes itself.  Which suffixes of a name
the last characters of a pattern stand for is worked out from its end.  The expression
that a pattern is written as says the same to whoever finds such expressions as they are
documented: its anchors hold at the ends of the whole name, so that what lies between
them is a cut.
-/

namespace DocumentIngest

namespace GlobPart

/-- Whether a part of a name is what a part of a pattern stands for. -/
def Takes : GlobPart → List Char → Prop
  | anyText, part => '\n' ∉ part
  | anyCharacter, part => ∃ character, character ≠ '\n' ∧ part = [character]
  | exactly character, part => part = [character]

/-- Whether a name is what a part of a pattern stands for and, behind that, something
else. -/
def TakesAhead (part : GlobPart) (Holds : List Char → Prop) (name : List Char) : Prop :=
  ∃ first second, name = first ++ second ∧ part.Takes first ∧ Holds second

variable {Holds : List Char → Prop} {name : List Char} {character : Char}

theorem takesAhead_anyText_nil : anyText.TakesAhead Holds [] ↔ Holds [] := by
  simp [TakesAhead, Takes]

theorem not_takesAhead_nil {part : GlobPart} (single : ¬part.Takes []) :
    ¬part.TakesAhead Holds [] := by
  rintro ⟨first, second, whole, takes, _⟩
  rw [(List.append_eq_nil_iff.mp whole.symm).1] at takes
  exact single takes

theorem takesAhead_anyText_cons :
    anyText.TakesAhead Holds (character :: name) ↔
      Holds (character :: name) ∨ (character ≠ '\n' ∧ anyText.TakesAhead Holds name) := by
  constructor
  · rintro ⟨first, second, whole, takes, holds⟩
    cases first with
    | nil => exact .inl (whole ▸ holds)
    | cons head rest =>
        obtain ⟨rfl, rfl⟩ := List.cons.inj whole
        exact .inr ⟨(List.ne_of_not_mem_cons takes).symm, rest, second, rfl,
          List.not_mem_of_not_mem_cons takes, holds⟩
  · rintro (holds | ⟨ordinary, first, second, rfl, takes, holds⟩)
    · exact ⟨[], _, rfl, List.not_mem_nil, holds⟩
    · exact ⟨character :: first, second, rfl, List.not_mem_cons_of_ne_of_not_mem ordinary.symm takes, holds⟩

theorem takesAhead_anyCharacter_cons :
    anyCharacter.TakesAhead Holds (character :: name) ↔ character ≠ '\n' ∧ Holds name := by
  constructor
  · rintro ⟨_, second, whole, ⟨other, ordinary, rfl⟩, holds⟩
    obtain ⟨rfl, rfl⟩ := List.cons.inj whole
    exact ⟨ordinary, holds⟩
  · rintro ⟨ordinary, holds⟩
    exact ⟨[character], name, rfl, ⟨character, ordinary, rfl⟩, holds⟩

theorem takesAhead_exactly_cons {expected : Char} :
    (exactly expected).TakesAhead Holds (character :: name) ↔ character = expected ∧ Holds name := by
  constructor
  · rintro ⟨_, second, whole, rfl, holds⟩
    obtain ⟨rfl, rfl⟩ := List.cons.inj whole
    exact ⟨rfl, holds⟩
  · rintro ⟨rfl, holds⟩
    exact ⟨[character], name, rfl, rfl, holds⟩

theorem isOrdinary_iff : isOrdinary character = true ↔ character ≠ '\n' := by
  simp [isOrdinary]

/-- Whether flags tell of each suffix of a name, the longest first, if something holds
of it. -/
def Tells (Holds : List Char → Prop) (name : List Char) (flags : List Bool) : Prop :=
  List.Forall₂ (fun flag suffix => flag = true ↔ Holds suffix) flags name.tails

variable {flags : List Bool}

theorem Tells.headD (tells : Tells Holds name flags) : flags.headD false = true ↔ Holds name := by
  cases name <;> cases tells <;> assumption

theorem Tells.tail (tells : Tells Holds (character :: name) flags) :
    Tells Holds name flags.tail := by
  cases tells
  assumption

theorem tells_nil {flag : Bool} (here : flag = true ↔ Holds []) : Tells Holds [] [flag] :=
  .cons here .nil

theorem Tells.cons {flag : Bool} (here : flag = true ↔ Holds (character :: name))
    (shorter : Tells Holds name flags) : Tells Holds (character :: name) (flag :: flags) :=
  List.Forall₂.cons here shorter

/-- From the suffixes of which something holds those are found that have a part of the
pattern ahead of it. -/
theorem tells_matchSuffixes (part : GlobPart) (tells : Tells Holds name flags) :
    Tells (part.TakesAhead Holds) name (part.matchSuffixes name flags) := by
  induction name generalizing flags with
  | nil =>
      cases part with
      | anyText => exact tells_nil (tells.headD.trans takesAhead_anyText_nil.symm)
      | anyCharacter => exact tells_nil (by simp [not_takesAhead_nil, Takes])
      | exactly expected => exact tells_nil (by simp [not_takesAhead_nil, Takes])
  | cons character rest ih =>
      have behind := tells.tail.headD
      have shorter := ih tells.tail
      refine .cons ?_ shorter
      cases part with
      | anyText =>
          rw [takesAhead_anyText_cons, ← tells.headD, ← shorter.headD, ← isOrdinary_iff,
            Bool.or_eq_true, Bool.and_eq_true]
      | anyCharacter =>
          rw [takesAhead_anyCharacter_cons, ← behind, ← isOrdinary_iff, Bool.and_eq_true]
      | exactly expected =>
          rw [takesAhead_exactly_cons, ← behind, Bool.and_eq_true, beq_iff_eq]

end GlobPart

namespace Glob

/-- Whether a name is what the parts of a pattern stand for, one behind the other. -/
def Cuts : Glob → List Char → Prop
  | [], name => name = []
  | part :: rest, name => part.TakesAhead (Cuts rest) name

theorem tells_end (name : List Char) :
    GlobPart.Tells (· = []) name (List.replicate name.length false ++ [true]) := by
  induction name with
  | nil => exact GlobPart.tells_nil (by simp)
  | cons character rest ih => exact .cons (by simp) ih

theorem tells_matchSuffixes (glob : Glob) (name : List Char) :
    GlobPart.Tells glob.Cuts name (matchSuffixes name glob) := by
  induction glob with
  | nil => exact tells_end name
  | cons part rest ih => exact part.tells_matchSuffixes ih

theorem matchesName_iff (glob : Glob) (name : String) :
    glob.matchesName name = true ↔ glob.Cuts name.toList :=
  (glob.tells_matchSuffixes name.toList).headD

/-- Whether a part of a name is what a character of a pattern stands for. -/
def StandsFor (character : Char) (part : List Char) : Prop :=
  if character = '*' then '\n' ∉ part
  else if character = '?' then ∃ other, other ≠ '\n' ∧ part = [other]
  else part = [character]

/-- Whether a name can be cut into consecutive parts, one for each character of a
pattern. -/
def IsCutBy (pattern name : List Char) : Prop :=
  ∃ parts, List.Forall₂ StandsFor pattern parts ∧ parts.flatten = name

theorem standsFor_iff {character : Char} {part : List Char} :
    StandsFor character part ↔ (GlobPart.ofChar character).Takes part := by
  rw [StandsFor]
  split
  · next star => rw [star]; rfl
  split
  · next mark => rw [mark]; rfl
  · next notStar notMark =>
      rw [GlobPart.ofChar]
      · rfl
      · exact notStar
      · exact notMark

theorem isCutBy_iff {pattern name : List Char} :
    IsCutBy pattern name ↔ Cuts (pattern.map GlobPart.ofChar) name := by
  induction pattern generalizing name with
  | nil => simp [IsCutBy, Cuts, List.forall₂_nil_left_iff, eq_comm]
  | cons character rest ih =>
      simp only [IsCutBy, List.map_cons, Cuts, GlobPart.TakesAhead, ← ih, ← standsFor_iff,
        List.forall₂_cons_left_iff]
      constructor
      · rintro ⟨_, ⟨part, parts, stands, each, rfl⟩, rfl⟩
        exact ⟨part, parts.flatten, rfl, stands, parts, each, rfl⟩
      · rintro ⟨part, _, rfl, stands, parts, each, rfl⟩
        exact ⟨part :: parts, ⟨part, parts, stands, each, rfl⟩, rfl⟩

end Glob

end DocumentIngest
