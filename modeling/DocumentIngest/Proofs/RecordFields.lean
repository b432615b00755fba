import DocumentIngest.Json.Shape

/-!
# Texts in records

A record that was read from an object holds, for every text that it requires, what
stands in the object under the name of that text.
-/

namespace DocumentIngest

namespace Shape

variable {σ : Type}

theorem text_eq_ok_iff {value : Json} {content : String} :
    text value = .ok content ↔ value = .string content := by
  cases value <;> simp [text]

/-- Whether one of some fields, and no other, is read into a text of the record. -/
structure ReadsText (known : List (Field σ)) (name : String) (get : σ → String) : Prop where
  sets : ∃ field ∈ known, field.name = name
  onlyName : ∀ field ∈ known, field.name = name → field.names = [name]
  onlyField : ∀ field ∈ known, field.name ≠ name → name ∉ field.names
  stores : ∀ field ∈ known, field.name = name → ∀ record value stored,
    field.store record value = .ok stored → value = .string (get stored)
  keeps : ∀ field ∈ known, field.name ≠ name → ∀ record value stored,
    field.store record value = .ok stored → get stored = get record

/-- A text that was read once is not read again; before, it is the first one found. -/
theorem readEntries_text {known : List (Field σ)} {name : String} {get : σ → String}
    (reads : ReadsText known name get) {entries : List (String × Json)} {record final : σ}
    {seen seenInAll : List String}
    (read : readEntries known record seen entries = .ok (final, seenInAll)) :
    (name ∈ seen → get final = get record) ∧
      (name ∉ seen → name ∈ seenInAll →
        Keyed.lookup entries name = some (.string (get final))) := by
  induction entries generalizing record seen with
  | nil =>
      cases read
      exact ⟨fun _ => rfl, fun unseen isSeen => absurd isSeen unseen⟩
  | cons entry rest ih =>
      obtain ⟨key, value⟩ := entry
      rw [readEntries] at read
      split at read
      · next unknown =>
          obtain ⟨field, member, own⟩ := reads.sets
          have different : name ≠ key := by
            rintro rfl
            have absent := List.find?_eq_none.mp unknown field member
            rw [reads.onlyName field member own] at absent
            simp at absent
          rw [Keyed.lookup, if_neg different]
          exact ih read
      · next field found =>
          have member := List.mem_of_find?_eq_some found
          have named : key ∈ field.names := by
            simpa using List.find?_some found
          split at read
          · cases read
          next unseen =>
            split at read
            · cases read
            next stored store =>
              obtain ⟨kept, given⟩ := ih read
              by_cases own : field.name = name
              · rw [reads.onlyName field member own, List.mem_singleton] at named
                have isValue := reads.stores field member own _ _ _ store
                have same := kept (own ▸ List.mem_cons_self)
                rw [own] at unseen
                refine ⟨fun isSeen => absurd isSeen (by simpa using unseen), fun _ _ => ?_⟩
                rw [Keyed.lookup, if_pos named.symm, isValue, same]
              · have different : name ≠ key := by
                  rintro rfl
                  exact reads.onlyField field member own named
                have sameText := reads.keeps field member own _ _ _ store
                have still : name ∈ field.name :: seen ↔ name ∈ seen := by
                  simp [Ne.symm own]
                rw [still] at kept given
                rw [Keyed.lookup, if_neg different]
                exact ⟨fun isSeen => (kept isSeen).trans sameText, given⟩

/-- A required text of a record is what stands under its name. -/
theorem lookup_of_record {known : List (Field σ)} {name : String} {get : σ → String}
    (reads : ReadsText known name get)
    (required : ∀ field ∈ known, field.name = name → field.required = true) {mode : Mode}
    {defaults final : σ} {entries : List (String × Json)}
    (read : record mode known defaults (.object entries) = .ok final) :
    Keyed.lookup entries name = some (.string (get final)) := by
  rw [record] at read
  split at read
  · cases read
  next record seen entriesRead =>
    split at read
    · cases read
    next complete =>
      cases read
      obtain ⟨field, member, own⟩ := reads.sets
      have isSeen := List.find?_eq_none.mp complete field member
      rw [required field member own, own] at isSeen
      exact (readEntries_text reads entriesRead).2 List.not_mem_nil (by simpa using isSeen)

end Shape

end DocumentIngest
