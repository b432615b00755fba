/-!
# Lists of pairs in ascending key order

Objects, document maps and stores are all finite maps from text to values whose
entries are always met in key order.  They are kept here as lists of pairs with
strictly ascending keys.  The operations below keep that order, and `lookup` is
the view through which everything else speaks about them.

Text is ordered by code point, which is also the order of its UTF-8 bytes.
-/

namespace DocumentIngest

/-- A finite map from text, as its entries in ascending key order. -/
abbrev Keyed (α : Type) := List (String × α)

namespace Keyed

variable {α : Type}

/-- The keys of a map, in order. -/
def keys (entries : Keyed α) : List String :=
  entries.map Prod.fst

/-- The values of a map, in key order. -/
def values (entries : Keyed α) : List α :=
  entries.map Prod.snd

/-- The value stored under a key. -/
def lookup (entries : Keyed α) (key : String) : Option α :=
  match entries with
  | [] => none
  | (other, value) :: rest => if key = other then some value else lookup rest key

/-- Whether a key is present. -/
def hasKey (entries : Keyed α) (key : String) : Bool :=
  (lookup entries key).isSome

/-- Stores a value under a key, replacing the value that was there. -/
def insert (entries : Keyed α) (key : String) (value : α) : Keyed α :=
  match entries with
  | [] => [(key, value)]
  | (other, old) :: rest =>
      if key = other then (key, value) :: rest
      else if key < other then (key, value) :: (other, old) :: rest
      else (other, old) :: insert rest key value

/-- Removes a key and its value. -/
def erase (entries : Keyed α) (key : String) : Keyed α :=
  entries.filter fun entry => entry.1 ≠ key

/-- The map that holds exactly the given pairs; of two pairs with one key the
later one counts. -/
def ofPairs (pairs : List (String × α)) : Keyed α :=
  pairs.foldl (fun entries pair => insert entries pair.1 pair.2) []

/-- Every key is strictly below every later one. -/
def Ascending (entries : Keyed α) : Prop :=
  List.Pairwise (fun first second => first.1 < second.1) entries

@[simp]
theorem lookup_nil (key : String) : lookup ([] : Keyed α) key = none := rfl

@[simp]
theorem lookup_insert_self (entries : Keyed α) (key : String) (value : α) :
    lookup (insert entries key value) key = some value := by
  induction entries with
  | nil => simp [insert, lookup]
  | cons entry rest ih =>
      obtain ⟨other, old⟩ := entry
      by_cases same : key = other
      · simp [insert, lookup, same]
      · by_cases below : key < other
        · simp [insert, lookup, same, below]
        · simp [insert, lookup, same, below, ih]

theorem lookup_insert_of_ne (entries : Keyed α) {key asked : String} (value : α)
    (different : asked ≠ key) :
    lookup (insert entries key value) asked = lookup entries asked := by
  induction entries with
  | nil => simp [insert, lookup, different]
  | cons entry rest ih =>
      obtain ⟨other, old⟩ := entry
      by_cases same : key = other
      · subst same
        simp [insert, lookup, different]
      · by_cases below : key < other
        · simp [insert, lookup, same, below, different]
        · by_cases found : asked = other
          · simp [insert, lookup, same, below, found]
          · simp [insert, lookup, same, below, found, ih]

theorem lookup_insert (entries : Keyed α) (key asked : String) (value : α) :
    lookup (insert entries key value) asked =
      if asked = key then some value else lookup entries asked := by
  by_cases same : asked = key
  · subst asked
    simp
  · rw [lookup_insert_of_ne entries value same, if_neg same]

end Keyed

end DocumentIngest
