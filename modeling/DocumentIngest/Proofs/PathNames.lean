import DocumentIngest.Path
import DocumentIngest.Proofs.Segments

/-!
# Names in directories

A path that was joined from a directory and a name ends in that name, and different
names give different paths.
-/

namespace DocumentIngest

namespace Path

/-- Whether a text can be the name of an entry of a directory. -/
def IsName (name : String) : Prop :=
  '/' ∉ name.toList ∧ name ≠ "" ∧ name ≠ "." ∧ name ≠ ".."

instance (name : String) : Decidable (IsName name) :=
  inferInstanceAs (Decidable (_ ∧ _))

variable {name : String}

theorem partOfSegment_of_isName (isName : IsName name) :
    partOfSegment name.toList = some (.name name) := by
  obtain ⟨_, notEmpty, notHere, notParent⟩ := isName
  unfold partOfSegment
  split
  · next same => exact absurd (String.toList_inj.mp same) notEmpty
  · next same => exact absurd (String.toList_inj.mp same) notHere
  · next same => exact absurd (String.toList_inj.mp same) notParent
  · rw [String.ofList_toList]

/-- What a path joined from a directory and a name consists of: the name alone, or
something in front of a slash in front of it. -/
theorem toList_join (directory name : String) :
    (join directory name).toList = name.toList ∨
      ∃ ahead, (join directory name).toList = ahead ++ '/' :: name.toList := by
  unfold join
  split
  · exact .inl rfl
  · split
    · next slashLast =>
        obtain ⟨ahead, slash⟩ := List.getLast?_eq_some_iff.mp slashLast
        exact .inr ⟨ahead, by simp [slash]⟩
    · exact .inr ⟨directory.toList, by simp⟩

theorem getLast?_parts_join (isName : IsName name) (directory : String) :
    (parts (join directory name)).getLast? = some (.name name) := by
  have last : ∃ ahead, (Text.splitOn '/' (join directory name).toList).filterMap partOfSegment =
      ahead ++ [.name name] := by
    have alone := Text.splitOn_of_not_mem isName.1
    have part := partOfSegment_of_isName isName
    rcases toList_join directory name with same | ⟨ahead, same⟩
    · exact ⟨[], by simp [same, alone, part]⟩
    · exact ⟨_, by rw [same, Text.splitOn_append, List.filterMap_append, alone]; simp [part]; rfl⟩
  obtain ⟨ahead, ends⟩ := last
  unfold parts
  dsimp only
  rw [ends]
  split
  · rw [← List.cons_append, List.getLast?_concat]
  · rw [← List.cons_append, List.getLast?_concat]
  · rw [List.getLast?_concat]

theorem fileName_join (isName : IsName name) (directory : String) :
    fileName (join directory name) = name := by
  rw [fileName, fileName?, getLast?_parts_join isName]
  rfl

theorem join_inj {directory other : String} (isName : IsName name) (otherIsName : IsName other) :
    join directory name = join directory other ↔ name = other := by
  constructor
  · intro same
    have names := congrArg fileName same
    rwa [fileName_join isName, fileName_join otherIsName] at names
  · exact congrArg (join directory)

end Path

end DocumentIngest
