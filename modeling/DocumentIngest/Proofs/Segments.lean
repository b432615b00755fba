import DocumentIngest.Text.Cutting
import DocumentIngest.Template.Token

/-!
# Segments between separators

Cutting a text at a separator gives segments without it, and a text without it is
its only segment.  Cutting and joining undo each other, and a cut at the first
separator finds it where it stands.
-/

namespace DocumentIngest

namespace Text

variable {separator : Char}

theorem splitOn_ne_nil (text : List Char) : splitOn separator text ≠ [] := by
  cases text with
  | nil => simp [splitOn]
  | cons c rest =>
      rw [splitOn]
      split
      · simp
      · split <;> simp

theorem splitOn_of_not_mem {text : List Char} (absent : separator ∉ text) :
    splitOn separator text = [text] := by
  induction text with
  | nil => rfl
  | cons c rest ih =>
      have different : c ≠ separator := by
        rintro rfl
        exact absent List.mem_cons_self
      have absentBehind : separator ∉ rest := fun behind => absent (List.mem_cons_of_mem _ behind)
      rw [splitOn, if_neg different, ih absentBehind]

theorem splitOn_append (first second : List Char) :
    splitOn separator (first ++ separator :: second) =
      splitOn separator first ++ splitOn separator second := by
  induction first with
  | nil => simp [splitOn]
  | cons c rest ih =>
      by_cases same : c = separator
      · simp [splitOn, same, ih]
      · cases segments : splitOn separator rest with
        | nil => exact absurd segments (splitOn_ne_nil rest)
        | cons segment others => simp [splitOn, same, ih, segments]

theorem not_mem_of_mem_splitOn {text segment : List Char}
    (member : segment ∈ splitOn separator text) : separator ∉ segment := by
  induction text generalizing segment with
  | nil =>
      rw [List.mem_singleton.mp member]
      exact List.not_mem_nil
  | cons c rest ih =>
      rw [splitOn] at member
      split at member
      · rcases List.mem_cons.mp member with rfl | behind
        · exact List.not_mem_nil
        · exact ih behind
      · next different =>
          cases segments : splitOn separator rest with
          | nil => exact absurd segments (splitOn_ne_nil rest)
          | cons first others =>
              rw [segments] at member ih
              rcases List.mem_cons.mp member with rfl | behind
              · intro inside
                rcases List.mem_cons.mp inside with same | inside
                · exact different same.symm
                · exact ih List.mem_cons_self inside
              · exact ih (List.mem_cons_of_mem _ behind)

theorem joined_cons {first : List Char} {rest : List (List Char)} (more : rest ≠ []) :
    Token.joined separator (first :: rest) = first ++ separator :: Token.joined separator rest := by
  cases rest with
  | nil => exact absurd rfl more
  | cons next behind => rfl

theorem mem_joined {segments : List (List Char)} {c : Char}
    (inside : c ∈ Token.joined separator segments) :
    c = separator ∨ ∃ segment ∈ segments, c ∈ segment := by
  induction segments with
  | nil => simp [Token.joined] at inside
  | cons first rest ih =>
      cases rest with
      | nil => exact .inr ⟨first, List.mem_cons_self, inside⟩
      | cons next behind =>
          rw [joined_cons (List.cons_ne_nil next behind)] at inside
          rcases List.mem_append.mp inside with here | later
          · exact .inr ⟨first, List.mem_cons_self, here⟩
          · rcases List.mem_cons.mp later with same | later
            · exact .inl same
            · rcases ih later with same | ⟨segment, member, there⟩
              · exact .inl same
              · exact .inr ⟨segment, List.mem_cons_of_mem _ member, there⟩

theorem joined_splitOn (text : List Char) :
    Token.joined separator (splitOn separator text) = text := by
  induction text with
  | nil => rfl
  | cons c rest ih =>
      by_cases same : c = separator
      · rw [splitOn, if_pos same, joined_cons (splitOn_ne_nil rest), ih, same]
        rfl
      · cases segments : splitOn separator rest with
        | nil => exact absurd segments (splitOn_ne_nil rest)
        | cons segment others =>
            rw [segments] at ih
            simp only [splitOn, if_neg same, segments]
            cases others with
            | nil => exact congrArg (c :: ·) ih
            | cons next behind => exact congrArg (c :: ·) ih

theorem splitOn_joined {segments : List (List Char)} (some : segments ≠ [])
    (clean : ∀ segment ∈ segments, separator ∉ segment) :
    splitOn separator (Token.joined separator segments) = segments := by
  induction segments with
  | nil => exact absurd rfl some
  | cons first rest ih =>
      have alone := splitOn_of_not_mem (clean first List.mem_cons_self)
      cases rest with
      | nil => exact alone
      | cons next behind =>
          have cut := ih (List.cons_ne_nil next behind) fun segment member =>
            clean segment (List.mem_cons_of_mem _ member)
          rw [joined_cons (List.cons_ne_nil next behind), splitOn_append, alone, cut]
          rfl

theorem mem_of_mem_splitOn {text segment : List Char}
    (member : segment ∈ splitOn separator text) {c : Char} (inside : c ∈ segment) : c ∈ text := by
  have whole : Token.joined separator (splitOn separator text) = text := joined_splitOn text
  rw [← whole]
  generalize splitOn separator text = segments at member
  induction segments with
  | nil => simp at member
  | cons first rest ih =>
      cases rest with
      | nil =>
          rw [List.mem_singleton] at member
          exact member ▸ inside
      | cons next behind =>
          rw [joined_cons (List.cons_ne_nil next behind)]
          rcases List.mem_cons.mp member with rfl | later
          · exact List.mem_append_left _ inside
          · exact List.mem_append_right _ (List.mem_cons_of_mem _ (ih later))

theorem cutAt_of_not_mem {text : List Char} (absent : separator ∉ text) :
    cutAt separator text = (text, none) := by
  induction text with
  | nil => rfl
  | cons c rest ih =>
      have different : c ≠ separator := (List.ne_of_not_mem_cons absent).symm
      rw [cutAt, if_neg different, ih (List.not_mem_of_not_mem_cons absent)]

theorem cutAt_append {before : List Char} (absent : separator ∉ before) (behind : List Char) :
    cutAt separator (before ++ separator :: behind) = (before, some behind) := by
  induction before with
  | nil => simp [cutAt]
  | cons c rest ih =>
      have different : c ≠ separator := (List.ne_of_not_mem_cons absent).symm
      rw [List.cons_append, cutAt, if_neg different, ih (List.not_mem_of_not_mem_cons absent)]

theorem append_separator_inj {first second behind otherBehind : List Char}
    (absent : separator ∉ first) (otherAbsent : separator ∉ second) :
    first ++ separator :: behind = second ++ separator :: otherBehind ↔
      first = second ∧ behind = otherBehind := by
  constructor
  · intro same
    have cut := congrArg (cutAt separator) same
    rw [cutAt_append absent, cutAt_append otherAbsent, Prod.mk.injEq, Option.some.injEq] at cut
    exact cut
  · rintro ⟨rfl, rfl⟩
    rfl

/-- The same from the end: a last segment is told from what is in front of it. -/
theorem append_separator_inj_of_last {before otherBefore first second : List Char}
    (absent : separator ∉ first) (otherAbsent : separator ∉ second) :
    before ++ separator :: first = otherBefore ++ separator :: second ↔
      before = otherBefore ∧ first = second := by
  have reversed := @append_separator_inj separator first.reverse second.reverse before.reverse
    otherBefore.reverse (by simpa using absent) (by simpa using otherAbsent)
  rw [List.reverse_inj, List.reverse_inj] at reversed
  rw [← List.reverse_inj, and_comm, ← reversed]
  simp

/-- A text whose last segment is empty has its other segments each with a separator
behind it. -/
theorem eq_flatMap_of_splitOn {text : List Char} {segments : List (List Char)}
    (cut : splitOn separator text = segments ++ [[]]) :
    text = segments.flatMap (· ++ [separator]) := by
  have joined : Token.joined separator (segments ++ [[]]) =
      segments.flatMap (· ++ [separator]) := by
    clear cut
    induction segments with
    | nil => rfl
    | cons first rest ih =>
        rw [List.cons_append, joined_cons (by simp), ih]
        simp
  rw [← joined, ← cut, joined_splitOn]

/-- A text has no separator, or it is cut in front of its first one. -/
theorem cut_cases (separator : Char) (text : List Char) :
    separator ∉ text ∨
      ∃ before behind, text = before ++ separator :: behind ∧ separator ∉ before := by
  by_cases present : separator ∈ text
  · exact .inr (List.eq_append_cons_of_mem present)
  · exact .inl present

end Text

end DocumentIngest
