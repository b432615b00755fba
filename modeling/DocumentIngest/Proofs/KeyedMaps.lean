import DocumentIngest.Keyed
import Mathlib.Data.List.Induction
import Mathlib.Data.String.Basic

/-!
# Maps in ascending key order

Storing a value keeps the order of a map, and in an ascending map an entry and
a lookup that finds it are the same thing.  Values under different keys may be
stored in either order.
-/

namespace DocumentIngest

namespace Keyed

variable {α : Type}

theorem mem_of_mem_insert {entries : Keyed α} {key : String} {value : α} {entry : String × α}
    (member : entry ∈ insert entries key value) : entry = (key, value) ∨ entry ∈ entries := by
  induction entries with
  | nil => exact .inl (List.mem_singleton.mp member)
  | cons head rest ih =>
      obtain ⟨other, old⟩ := head
      rw [insert] at member
      split at member
      · rcases List.mem_cons.mp member with first | behind
        · exact .inl first
        · exact .inr (List.mem_cons_of_mem _ behind)
      · split at member
        · rcases List.mem_cons.mp member with first | behind
          · exact .inl first
          · exact .inr behind
        · rcases List.mem_cons.mp member with first | behind
          · exact .inr (first ▸ List.mem_cons_self)
          · rcases ih behind with new | known
            · exact .inl new
            · exact .inr (List.mem_cons_of_mem _ known)

theorem mem_of_lookup {entries : Keyed α} {key : String} {value : α}
    (found : lookup entries key = some value) : (key, value) ∈ entries := by
  induction entries with
  | nil => simp at found
  | cons head rest ih =>
      obtain ⟨other, old⟩ := head
      rw [lookup] at found
      split at found
      · next same =>
          cases found
          rw [same]
          exact List.mem_cons_self
      · exact List.mem_cons_of_mem _ (ih found)

theorem lookup_of_mem {entries : Keyed α} (ascending : Ascending entries) {key : String}
    {value : α} (member : (key, value) ∈ entries) : lookup entries key = some value := by
  induction entries with
  | nil => simp at member
  | cons head rest ih =>
      obtain ⟨other, old⟩ := head
      obtain ⟨below, restAscending⟩ := List.pairwise_cons.mp ascending
      rcases List.mem_cons.mp member with first | behind
      · cases first
        simp [lookup]
      · have different : key ≠ other := by
          intro same
          have less := below _ behind
          rw [same] at less
          exact String.lt_irrefl other less
        rw [lookup, if_neg different]
        exact ih restAscending behind

theorem lookup_erase_self (entries : Keyed α) (key : String) :
    lookup (erase entries key) key = none := by
  induction entries with
  | nil => rfl
  | cons entry rest ih =>
      obtain ⟨other, value⟩ := entry
      by_cases same : other = key
      · simpa [erase, same] using ih
      · have kept : erase ((other, value) :: rest) key = (other, value) :: erase rest key := by
          simp [erase, same]
        rw [kept, lookup, if_neg (Ne.symm same), ih]

theorem lookup_erase_of_ne (entries : Keyed α) {key asked : String} (different : asked ≠ key) :
    lookup (erase entries key) asked = lookup entries asked := by
  induction entries with
  | nil => rfl
  | cons entry rest ih =>
      obtain ⟨other, value⟩ := entry
      by_cases same : other = key
      · have dropped : erase ((other, value) :: rest) key = erase rest key := by
          simp [erase, same]
        rw [dropped, ih, lookup, if_neg (same ▸ different)]
      · have kept : erase ((other, value) :: rest) key = (other, value) :: erase rest key := by
          simp [erase, same]
        rw [kept, lookup, lookup, ih]

/-- A value that is replaced at once leaves no trace. -/
theorem insert_insert_self (entries : Keyed α) (key : String) (first second : α) :
    insert (insert entries key first) key second = insert entries key second := by
  induction entries with
  | nil => simp [insert]
  | cons entry rest ih =>
      obtain ⟨other, old⟩ := entry
      by_cases same : key = other
      · simp [insert, same]
      · by_cases below : key < other
        · simp [insert, same, below]
        · simp [insert, same, below, ih]

theorem insert_cons_self (rest : Keyed α) (key : String) (old value : α) :
    insert ((key, old) :: rest) key value = (key, value) :: rest :=
  if_pos rfl

theorem insert_cons_of_lt (rest : Keyed α) {key other : String} (less : key < other)
    (old value : α) :
    insert ((other, old) :: rest) key value = (key, value) :: (other, old) :: rest := by
  rw [insert, if_neg (String.ne_of_lt less), if_pos less]

theorem insert_cons_of_gt (rest : Keyed α) {key other : String} (greater : other < key)
    (old value : α) :
    insert ((other, old) :: rest) key value = (other, old) :: insert rest key value := by
  rw [insert, if_neg (String.ne_of_lt greater).symm, if_neg (String.lt_asymm greater)]

theorem insert_comm_of_lt (entries : Keyed α) {first second : String} (less : first < second)
    (firstValue secondValue : α) :
    insert (insert entries first firstValue) second secondValue =
      insert (insert entries second secondValue) first firstValue := by
  induction entries with
  | nil =>
      have behind := insert_cons_of_gt [] less firstValue secondValue
      have ahead := insert_cons_of_lt [] less secondValue firstValue
      exact behind.trans ahead.symm
  | cons entry rest ih =>
      obtain ⟨other, old⟩ := entry
      rcases lt_trichotomy first other with below | rfl | above
      · rw [insert_cons_of_lt rest below, insert_cons_of_gt _ less]
        rcases lt_trichotomy second other with secondBelow | rfl | secondAbove
        · rw [insert_cons_of_lt rest secondBelow, insert_cons_of_lt _ less]
        · rw [insert_cons_self, insert_cons_of_lt _ less]
        · rw [insert_cons_of_gt rest secondAbove, insert_cons_of_lt _ below]
      · rw [insert_cons_self, insert_cons_of_gt _ less, insert_cons_of_gt _ less, insert_cons_self]
      · have secondAbove := String.lt_trans above less
        rw [insert_cons_of_gt rest above, insert_cons_of_gt _ secondAbove,
          insert_cons_of_gt _ secondAbove, insert_cons_of_gt _ above, ih]

/-- Values under different keys may be stored in either order. -/
theorem insert_comm (entries : Keyed α) {first second : String} (different : first ≠ second)
    (firstValue secondValue : α) :
    insert (insert entries first firstValue) second secondValue =
      insert (insert entries second secondValue) first firstValue := by
  rcases lt_or_gt_of_ne different with less | greater
  · exact insert_comm_of_lt entries less firstValue secondValue
  · exact (insert_comm_of_lt entries greater secondValue firstValue).symm

instance (entries : Keyed α) : Decidable (Ascending entries) :=
  inferInstanceAs (Decidable (List.Pairwise _ _))

theorem ascending_nil : Ascending ([] : Keyed α) :=
  List.Pairwise.nil

theorem ascending_insert {entries : Keyed α} (ascending : Ascending entries) (key : String)
    (value : α) : Ascending (insert entries key value) := by
  induction entries with
  | nil => exact List.pairwise_singleton _ _
  | cons head rest ih =>
      obtain ⟨other, old⟩ := head
      obtain ⟨below, restAscending⟩ := List.pairwise_cons.mp ascending
      rw [insert]
      split
      · next same =>
          subst same
          exact List.pairwise_cons.mpr ⟨below, restAscending⟩
      · next different =>
          split
          · next less =>
              refine List.pairwise_cons.mpr ⟨?_, ascending⟩
              intro entry member
              rcases List.mem_cons.mp member with first | behind
              · exact first ▸ less
              · exact String.lt_trans less (below entry behind)
          · next notLess =>
              have greater : other < key := by
                apply String.not_le.mp
                intro reverse
                exact different (String.le_antisymm reverse (String.not_lt.mp notLess))
              refine List.pairwise_cons.mpr ⟨?_, ih restAscending⟩
              intro entry member
              rcases mem_of_mem_insert member with new | known
              · exact new ▸ greater
              · exact below entry known

theorem ascending_ofPairs (pairs : List (String × α)) : Ascending (ofPairs pairs) := by
  induction pairs using List.reverseRecOn with
  | nil => exact ascending_nil
  | append_singleton earlier pair ih =>
      rw [ofPairs, List.foldl_append]
      exact ascending_insert ih pair.1 pair.2

theorem mem_of_mem_ofPairs {pairs : List (String × α)} {entry : String × α}
    (member : entry ∈ ofPairs pairs) : entry ∈ pairs := by
  induction pairs using List.reverseRecOn with
  | nil => exact member
  | append_singleton earlier pair ih =>
      rw [ofPairs, List.foldl_append] at member
      rcases mem_of_mem_insert member with new | known
      · exact List.mem_append_right _ (List.mem_singleton.mpr new)
      · exact List.mem_append_left _ (ih known)

theorem length_insert_le (entries : Keyed α) (key : String) (value : α) :
    (insert entries key value).length ≤ entries.length + 1 := by
  induction entries with
  | nil => exact Nat.le_refl 1
  | cons entry rest ih =>
      obtain ⟨other, old⟩ := entry
      rw [insert]
      split
      · exact Nat.le_succ _
      · split
        · exact Nat.le_refl _
        · exact Nat.succ_le_succ ih

theorem ne_of_lookup_eq_none {entries : Keyed α} {key : String}
    (absent : lookup entries key = none) : ∀ entry ∈ entries, entry.1 ≠ key := by
  induction entries with
  | nil => exact nofun
  | cons head rest ih =>
      obtain ⟨other, value⟩ := head
      rw [lookup] at absent
      split at absent
      · cases absent
      next different =>
      intro entry member
      rcases List.mem_cons.mp member with rfl | behind
      · exact Ne.symm different
      · exact ih absent entry behind

theorem lookup_filter {entries : Keyed α} {key : String} {value : α}
    (found : lookup entries key = some value) {alike : String × α → Bool}
    (isAlike : alike (key, value) = true) : lookup (entries.filter alike) key = some value := by
  induction entries with
  | nil => cases found
  | cons head rest ih =>
      obtain ⟨other, first⟩ := head
      rw [lookup] at found
      split at found
      · next same =>
          cases found
          subst same
          rw [List.filter_cons_of_pos isAlike, lookup, if_pos rfl]
      · next different =>
          have behind := ih found
          rw [List.filter_cons]
          split
          · rw [lookup, if_neg different]
            exact behind
          · exact behind

/-- A key above all others is stored at the end. -/
theorem insert_of_forall_lt {entries : Keyed α} {key : String} (value : α)
    (above : ∀ entry ∈ entries, entry.1 < key) :
    insert entries key value = entries ++ [(key, value)] := by
  induction entries with
  | nil => rfl
  | cons entry rest ih =>
      obtain ⟨other, old⟩ := entry
      rw [insert_cons_of_gt rest (above _ List.mem_cons_self),
        ih fun entry member => above entry (List.mem_cons_of_mem _ member)]
      rfl

/-- Pairs in key order are the map that they make. -/
theorem ofPairs_of_ascending {entries : Keyed α} (ascending : Ascending entries) :
    ofPairs entries = entries := by
  induction entries using List.reverseRecOn with
  | nil => rfl
  | append_singleton earlier entry ih =>
      obtain ⟨below, _, above⟩ := List.pairwise_append.mp ascending
      have kept : ofPairs earlier = earlier := ih below
      rw [ofPairs] at kept
      rw [ofPairs, List.foldl_append, kept, List.foldl_cons, List.foldl_nil,
        insert_of_forall_lt entry.2 fun other member =>
          above other member entry (List.mem_singleton_self _)]

end Keyed

end DocumentIngest
