import DocumentIngest.Dataset.Opening
import DocumentIngest.Proofs.Fallible
import Mathlib.Data.List.Forall2

/-!
# Files of one row a line

Each line of such a file that is not blank holds one row, and a line feed behind the last of
them makes no difference.  Lines are numbered from one with the blank ones, rows from nought
without them: the first line that is not JSON is told by its number, and only if there is
none, the first row that is no object by its index.
-/

namespace DocumentIngest

open Fallible

section First

variable {α : Type} {going stopping : α → Prop} {item : α} {items : List α} {index : Nat}

/-- Whether the item at an index is of one kind and all items ahead of it of another. -/
def FirstAt (going stopping : α → Prop) (items : List α) (index : Nat) : Prop :=
  (∃ item, items[index]? = some item ∧ stopping item) ∧
    ∀ earlier < index, ∃ item, items[earlier]? = some item ∧ going item

theorem not_firstAt_nil : ¬ FirstAt going stopping [] index := by
  rintro ⟨⟨item, found, _⟩, _⟩
  simp at found

theorem firstAt_cons_zero : FirstAt going stopping (item :: items) 0 ↔ stopping item := by
  simp [FirstAt]

theorem firstAt_cons_succ :
    FirstAt going stopping (item :: items) (index + 1) ↔
      going item ∧ FirstAt going stopping items index := by
  simp only [FirstAt, List.getElem?_cons_succ, Nat.forall_lt_succ_left, List.getElem?_cons_zero]
  constructor
  · rintro ⟨stops, ⟨first, found, goes⟩, others⟩
    cases found
    exact ⟨goes, stops, others⟩
  · rintro ⟨goes, stops, others⟩
    exact ⟨stops, ⟨item, rfl, goes⟩, others⟩

/-- Either the item ahead stops, or it goes and something further on is the first to stop. -/
theorem exists_firstAt_cons {holds : Nat → Prop} :
    (∃ index, FirstAt going stopping (item :: items) index ∧ holds index) ↔
      (stopping item ∧ holds 0) ∨
        (going item ∧ ∃ index, FirstAt going stopping items index ∧ holds (index + 1)) := by
  constructor
  · rintro ⟨_ | index, first, here⟩
    · exact .inl ⟨firstAt_cons_zero.mp first, here⟩
    · obtain ⟨goes, later⟩ := firstAt_cons_succ.mp first
      exact .inr ⟨goes, index, later, here⟩
  · rintro (⟨stops, here⟩ | ⟨goes, index, later, here⟩)
    · exact ⟨0, firstAt_cons_zero.mpr stops, here⟩
    · exact ⟨index + 1, firstAt_cons_succ.mpr ⟨goes, later⟩, here⟩

theorem firstAt_iff_of_forall₂ {β : Type} {going' stopping' : β → Prop} {others : List β}
    {pairs : α → β → Prop} (goes : ∀ item other, pairs item other → (going item ↔ going' other))
    (stops : ∀ item other, pairs item other → (stopping item ↔ stopping' other))
    (paired : List.Forall₂ pairs items others) :
    FirstAt going stopping items index ↔ FirstAt going' stopping' others index := by
  induction paired generalizing index with
  | nil => exact iff_of_false not_firstAt_nil not_firstAt_nil
  | cons pair _ ih =>
      cases index with
      | zero => rw [firstAt_cons_zero, firstAt_cons_zero, stops _ _ pair]
      | succ index => rw [firstAt_cons_succ, firstAt_cons_succ, goes _ _ pair, ih]

end First

namespace RowList

variable {start : Nat} {value : Json} {rest values : List Json}

theorem fieldsOfRows_of_not_object (noObject : ∀ fields, value ≠ .object fields) :
    fieldsOfRows start (value :: rest) =
      .error (.plain s!"💀 row {start} is not a JSON object") := by
  cases value with
  | object fields => exact absurd rfl (noObject fields)
  | _ => rfl

theorem fieldsOfRows_eq_ok_iff {rows : List Json.Fields} :
    fieldsOfRows start values = .ok rows ↔ values = rows.map .object := by
  induction values generalizing start rows with
  | nil => cases rows <;> simp [fieldsOfRows]
  | cons value rest ih =>
      by_cases isObject : ∃ fields, value = .object fields
      · obtain ⟨fields, rfl⟩ := isObject
        rw [fieldsOfRows, map_eq_ok_iff]
        constructor
        · rintro ⟨others, restRead, rfl⟩
          rw [ih.mp restRead]
          rfl
        · intro same
          cases rows with
          | nil => cases same
          | cons first others =>
              obtain ⟨sameFirst, sameRest⟩ := List.cons.inj same
              cases sameFirst
              exact ⟨others, ih.mpr sameRest, rfl⟩
      · rw [fieldsOfRows_of_not_object (not_exists.mp isObject)]
        constructor
        · exact nofun
        · intro same
          cases rows with
          | nil => cases same
          | cons first others => exact absurd ⟨first, (List.cons.inj same).1⟩ isObject

theorem fieldsOfRows_eq_error_iff {failure : Failure} :
    fieldsOfRows start values = .error failure ↔
      ∃ index, FirstAt (fun value => ∃ fields, value = Json.object fields)
          (fun value => ¬ ∃ fields, value = Json.object fields) values index ∧
        failure = .plain s!"💀 row {start + index} is not a JSON object" := by
  induction values generalizing start with
  | nil => simp [fieldsOfRows, not_firstAt_nil]
  | cons value rest ih =>
      rw [exists_firstAt_cons]
      by_cases isObject : ∃ fields, value = .object fields
      · have further : fieldsOfRows start (value :: rest) = .error failure ↔
            fieldsOfRows (start + 1) rest = .error failure := by
          obtain ⟨fields, rfl⟩ := isObject
          rw [fieldsOfRows, map_eq_error_iff]
        simp only [further, ih, isObject, Nat.add_assoc, Nat.add_comm 1, not_true_eq_false,
          false_and, true_and, false_or]
      · rw [fieldsOfRows_of_not_object (not_exists.mp isObject), Except.error.injEq]
        simp only [isObject, not_false_eq_true, Nat.add_zero, true_and, false_and, or_false]
        exact eq_comm

end RowList

namespace Dataset

/-- What stands between line feeds, without a carriage return at its end. -/
def lines (bytes : List UInt8) : List (List UInt8) :=
  (bytes.splitOn 10).map withoutReturn

/-- Whether a line is more than white space. -/
def isFilled (line : List UInt8) : Bool :=
  !line.all isLineBlank

theorem linesOf_eq_splitOn (bytes : List UInt8) : linesOf bytes = bytes.splitOn 10 := by
  induction bytes with
  | nil => rfl
  | cons byte rest ih =>
      obtain ⟨line, behind, cut⟩ := List.exists_cons_of_ne_nil
        (List.splitOnP_ne_nil (· == (10 : UInt8)) rest)
      rw [linesOf, ih, List.splitOn, List.splitOn, List.splitOnP_cons_eq_if_modifyHead, cut]
      by_cases feed : byte = 10
      · simp [feed]
      · simp [feed]

theorem map_withoutReturn_linesOf (bytes : List UInt8) :
    (linesOf bytes).map withoutReturn = lines bytes := by
  rw [linesOf_eq_splitOn, lines]

theorem linesOf_append_feed (bytes : List UInt8) :
    linesOf (bytes ++ [10]) = linesOf bytes ++ [[]] := by
  rw [linesOf_eq_splitOn, linesOf_eq_splitOn, List.splitOn, List.splitOn]
  exact List.splitOnP_append_cons bytes [] (by decide)

theorem valuesOfLines_append_empty (number : Nat) (pieces : List (List UInt8)) :
    valuesOfLines number (pieces ++ [[]]) = valuesOfLines number pieces := by
  induction pieces generalizing number with
  | nil => rfl
  | cons piece rest ih =>
      rw [List.cons_append, valuesOfLines, valuesOfLines, ih]

theorem valuesOfLines_of_blank {number : Nat} {piece : List UInt8} {rest : List (List UInt8)}
    (blank : isFilled (withoutReturn piece) = false) :
    valuesOfLines number (piece :: rest) = valuesOfLines (number + 1) rest := by
  rw [isFilled, Bool.not_eq_false'] at blank
  rw [valuesOfLines]
  exact if_pos blank

theorem valuesOfLines_of_value {number : Nat} {piece : List UInt8} {rest : List (List UInt8)}
    {value : Json} (filled : isFilled (withoutReturn piece) = true)
    (reads : Json.readBytes (withoutReturn piece) = .ok value) :
    valuesOfLines number (piece :: rest) =
      (valuesOfLines (number + 1) rest).map (value :: ·) := by
  rw [isFilled, Bool.not_eq_true', ← Bool.not_eq_true] at filled
  rw [valuesOfLines]
  simp only [if_neg filled, reads]

theorem valuesOfLines_of_fault {number : Nat} {piece : List UInt8} {rest : List (List UInt8)}
    {fault : JsonFault} (filled : isFilled (withoutReturn piece) = true)
    (fails : Json.readBytes (withoutReturn piece) = .error fault) :
    valuesOfLines number (piece :: rest) =
      .error (.during s!"💀 line {number} is not valid JSON" (.of (.json fault))) := by
  rw [isFilled, Bool.not_eq_true', ← Bool.not_eq_true] at filled
  rw [valuesOfLines]
  simp only [if_neg filled, fails]

theorem valuesOfLines_eq_ok_iff {number : Nat} {pieces : List (List UInt8)} {values : List Json} :
    valuesOfLines number pieces = .ok values ↔
      List.Forall₂ (fun line value => Json.readBytes line = .ok value)
        ((pieces.map withoutReturn).filter isFilled) values := by
  induction pieces generalizing number values with
  | nil => simp [valuesOfLines, List.forall₂_nil_left_iff, eq_comm]
  | cons piece rest ih =>
      rw [List.map_cons]
      cases filled : isFilled (withoutReturn piece) with
      | false =>
          rw [valuesOfLines_of_blank filled, List.filter_cons_of_neg (by simp [filled]), ih]
      | true =>
          rw [List.filter_cons_of_pos filled, List.forall₂_cons_left_iff]
          cases reads : Json.readBytes (withoutReturn piece) with
          | error fault =>
              rw [valuesOfLines_of_fault filled reads]
              constructor
              · exact nofun
              · rintro ⟨_, _, isRead, _⟩
                cases isRead
          | ok value =>
              rw [valuesOfLines_of_value filled reads, map_eq_ok_iff]
              constructor
              · rintro ⟨others, restRead, rfl⟩
                exact ⟨value, others, rfl, ih.mp restRead, rfl⟩
              · rintro ⟨_, others, same, restRead, rfl⟩
                cases same
                exact ⟨others, ih.mpr restRead, rfl⟩

theorem valuesOfLines_eq_error_iff {number : Nat} {pieces : List (List UInt8)}
    {failure : Failure} :
    valuesOfLines number pieces = .error failure ↔
      ∃ fault index,
        FirstAt (fun line => isFilled line = true → ∃ value, Json.readBytes line = .ok value)
          (fun line => isFilled line = true ∧ Json.readBytes line = .error fault)
          (pieces.map withoutReturn) index ∧
        failure = .during s!"💀 line {number + index} is not valid JSON" (.of (.json fault)) := by
  induction pieces generalizing number with
  | nil => simp [valuesOfLines, not_firstAt_nil]
  | cons piece rest ih =>
      -- A blank line and one that reads hand over to the next number; a fault ends the count.
      simp only [List.map_cons, exists_firstAt_cons]
      cases filled : isFilled (withoutReturn piece) with
      | false =>
          simp only [valuesOfLines_of_blank filled, ih, Nat.add_assoc, Nat.add_comm 1,
            Bool.false_eq_true, false_implies, false_and, true_and, false_or]
      | true =>
          cases reads : Json.readBytes (withoutReturn piece) with
          | ok value =>
              simp only [valuesOfLines_of_value filled reads, map_eq_error_iff, ih, Nat.add_assoc,
                Nat.add_comm 1, Except.ok.injEq, exists_eq', reduceCtorEq, imp_self, and_false,
                false_and, true_and, false_or]
          | error fault =>
              simp only [valuesOfLines_of_fault filled reads, Except.error.injEq, reduceCtorEq,
                exists_false, imp_false, not_true_eq_false, Nat.add_zero, true_and, false_and,
                or_false, exists_eq_left']
              exact eq_comm

theorem reads_object_iff {line : List UInt8} {value : Json}
    (reads : Json.readBytes line = .ok value) :
    (∃ fields, Json.readBytes line = .ok (.object fields)) ↔
      ∃ fields, value = .object fields := by
  simp only [reads, Except.ok.injEq]

theorem firstAt_object_iff {filled : List (List UInt8)} {values : List Json} {index : Nat}
    (allRead : List.Forall₂ (fun line value => Json.readBytes line = .ok value) filled values) :
    FirstAt (fun line => ∃ fields, Json.readBytes line = .ok (.object fields))
        (fun line => ¬ ∃ fields, Json.readBytes line = .ok (.object fields)) filled index ↔
      FirstAt (fun value => ∃ fields, value = Json.object fields)
        (fun value => ¬ ∃ fields, value = Json.object fields) values index :=
  firstAt_iff_of_forall₂ (fun _ _ reads => reads_object_iff reads)
    (fun _ _ reads => not_congr (reads_object_iff reads)) allRead

theorem ofLines_eq_ok_iff {bytes : List UInt8} {dataset : Dataset} :
    ofLines bytes = .ok dataset ↔
      ∃ objects, dataset = rows ⟨[], objects⟩ ∧
        List.Forall₂ (fun line fields => Json.readBytes line = .ok (.object fields))
          ((lines bytes).filter isFilled) objects := by
  simp only [ofLines, RowList.ofValues, bind_eq_ok_iff, map_eq_ok_iff, valuesOfLines_eq_ok_iff,
    RowList.fieldsOfRows_eq_ok_iff, map_withoutReturn_linesOf]
  constructor
  · rintro ⟨_, allRead, _, ⟨objects, rfl, rfl⟩, rfl⟩
    exact ⟨objects, rfl, (List.forall₂_map_right_iff (f := Json.object)).mp allRead⟩
  · rintro ⟨objects, rfl, allRead⟩
    refine ⟨objects.map .object, ?_, _, ⟨objects, rfl, rfl⟩, rfl⟩
    exact List.forall₂_map_right_iff.mpr allRead

theorem ofLines_eq_error_iff {bytes : List UInt8} {failure : Failure} :
    ofLines bytes = .error failure ↔
      (∃ fault index,
        FirstAt (fun line => isFilled line = true → ∃ value, Json.readBytes line = .ok value)
          (fun line => isFilled line = true ∧ Json.readBytes line = .error fault)
          (lines bytes) index ∧
        failure = .during s!"💀 line {index + 1} is not valid JSON" (.of (.json fault))) ∨
      ((∀ line ∈ (lines bytes).filter isFilled, ∃ value, Json.readBytes line = .ok value) ∧
        ∃ index,
          FirstAt (fun line => ∃ fields, Json.readBytes line = .ok (.object fields))
            (fun line => ¬ ∃ fields, Json.readBytes line = .ok (.object fields))
            ((lines bytes).filter isFilled) index ∧
          failure = .plain s!"💀 row {index} is not a JSON object") := by
  simp only [ofLines, RowList.ofValues, bind_eq_error_iff, map_eq_error_iff,
    valuesOfLines_eq_ok_iff, valuesOfLines_eq_error_iff, RowList.fieldsOfRows_eq_error_iff,
    map_withoutReturn_linesOf, ← exists_results_iff, Nat.zero_add, Nat.add_comm 1]
  refine or_congr_right ?_
  constructor
  · rintro ⟨values, allRead, index, first, rfl⟩
    exact ⟨⟨values, allRead⟩, index, (firstAt_object_iff allRead).mpr first, rfl⟩
  · rintro ⟨⟨values, allRead⟩, index, first, rfl⟩
    exact ⟨values, allRead, index, (firstAt_object_iff allRead).mp first, rfl⟩

theorem ofLines_append_feed (bytes : List UInt8) : ofLines (bytes ++ [10]) = ofLines bytes := by
  rw [ofLines, ofLines, linesOf_append_feed, valuesOfLines_append_empty]

/-- A file of lines is read if every line that is not blank is a JSON object, and then has their
rows in order.  Otherwise it fails at the first such line that is not JSON, or, if all of them
are, at the first that is no object.  A line feed at its end makes no difference. -/
theorem ofLines_reads_lines (bytes : List UInt8) :
    (∀ dataset, ofLines bytes = .ok dataset ↔
      ∃ objects, dataset = rows ⟨[], objects⟩ ∧
        List.Forall₂ (fun line fields => Json.readBytes line = .ok (.object fields))
          ((lines bytes).filter isFilled) objects) ∧
    (∀ failure, ofLines bytes = .error failure ↔
      (∃ fault index,
        FirstAt (fun line => isFilled line = true → ∃ value, Json.readBytes line = .ok value)
          (fun line => isFilled line = true ∧ Json.readBytes line = .error fault)
          (lines bytes) index ∧
        failure = .during s!"💀 line {index + 1} is not valid JSON" (.of (.json fault))) ∨
      ((∀ line ∈ (lines bytes).filter isFilled, ∃ value, Json.readBytes line = .ok value) ∧
        ∃ index,
          FirstAt (fun line => ∃ fields, Json.readBytes line = .ok (.object fields))
            (fun line => ¬ ∃ fields, Json.readBytes line = .ok (.object fields))
            ((lines bytes).filter isFilled) index ∧
          failure = .plain s!"💀 row {index} is not a JSON object")) ∧
    ofLines (bytes ++ [10]) = ofLines bytes :=
  ⟨fun _ => ofLines_eq_ok_iff, fun _ => ofLines_eq_error_iff, ofLines_append_feed bytes⟩

end Dataset

end DocumentIngest
