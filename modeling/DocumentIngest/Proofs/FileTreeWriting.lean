import DocumentIngest.FileTree

/-!
# Reading what was written

Writing a file puts a node at the end of the names that its path leads through.
Every folder stays a folder, since the place that is written to is not one, so
the same path leads to the same place afterwards, and the file is there.  Files in
other places stay as they are, and making a folder changes no file.
-/

namespace DocumentIngest

namespace FileTree

variable {tree after : FileTree} {content : List UInt8} {modified : Int}

theorem isFolderAt_cons {name : String} {rest : List String} :
    tree.isFolderAt (name :: rest) = true ↔
      ∃ entries, Keyed.lookup tree name = some (.folder entries) ∧
        isFolderAt entries rest = true := by
  cases found : Keyed.lookup tree name with
  | none => simp [isFolderAt, nodeAt, found]
  | some node =>
      cases node with
      | file content modified => cases rest <;> simp [isFolderAt, nodeAt, found, FileNode.entries?]
      | folder entries => cases rest <;> simp [isFolderAt, nodeAt, found, FileNode.entries?]

theorem putAt_cons_cons {node : FileNode} {name next : String} {rest : List String}
    (puts : tree.putAt node (name :: next :: rest) = some after) :
    ∃ entries entriesAfter, Keyed.lookup tree name = some (.folder entries) ∧
      putAt entries node (next :: rest) = some entriesAfter ∧
        after = Keyed.insert tree name (.folder entriesAfter) := by
  rw [putAt] at puts
  split at puts
  · next entries found =>
      obtain ⟨entriesAfter, putsInside, same⟩ := Option.map_eq_some_iff.mp puts
      exact ⟨entries, entriesAfter, found, putsInside, same.symm⟩
  · simp at puts
  · simp

theorem putAt_singleton {node : FileNode} {name : String}
    (puts : tree.putAt node [name] = some after) : after = Keyed.insert tree name node := by
  rw [putAt] at puts
  split at puts
  · exact (Option.some.inj puts).symm
  · simp at puts

theorem nodeAt_putAt {node : FileNode} {names : List String}
    (puts : tree.putAt node names = some after) : after.nodeAt names = some node := by
  induction names generalizing tree after with
  | nil => simp [putAt] at puts
  | cons name rest ih =>
      cases rest with
      | nil =>
          rw [putAt_singleton puts]
          simp [nodeAt]
      | cons next rest =>
          obtain ⟨entries, entriesAfter, _, putsInside, rfl⟩ := putAt_cons_cons puts
          simpa [nodeAt] using ih putsInside

/-- Putting a node where there is no folder leaves all folders folders. -/
theorem isFolderAt_putAt {node : FileNode} {names other : List String}
    (puts : tree.putAt node names = some after) (noFolder : tree.isFolderAt names = false)
    (isFolder : tree.isFolderAt other = true) : after.isFolderAt other = true := by
  induction names generalizing tree after other with
  | nil => simp [putAt] at puts
  | cons name rest ih =>
      cases other with
      | nil => rfl
      | cons first others =>
          obtain ⟨entries, found, inside⟩ := isFolderAt_cons.mp isFolder
          cases rest with
          | nil =>
              have different : first ≠ name := by
                rintro rfl
                have empty : isFolderAt entries [] = true := rfl
                have folder := isFolderAt_cons.mpr ⟨entries, found, empty⟩
                rw [noFolder] at folder
                exact Bool.false_ne_true folder
              rw [putAt_singleton puts]
              exact isFolderAt_cons.mpr
                ⟨entries, (Keyed.lookup_insert_of_ne tree _ different).trans found, inside⟩
          | cons next rest =>
              obtain ⟨passed, passedAfter, leads, putsInside, rfl⟩ := putAt_cons_cons puts
              by_cases same : first = name
              · subst same
                cases leads.symm.trans found
                have noFolderInside : isFolderAt entries (next :: rest) = false := by
                  apply Bool.eq_false_iff.mpr
                  intro folder
                  have whole := isFolderAt_cons.mpr ⟨entries, found, folder⟩
                  rw [noFolder] at whole
                  exact Bool.false_ne_true whole
                exact isFolderAt_cons.mpr ⟨passedAfter, Keyed.lookup_insert_self tree first _,
                  ih putsInside noFolderInside inside⟩
              · exact isFolderAt_cons.mpr
                  ⟨entries, (Keyed.lookup_insert_of_ne tree _ same).trans found, inside⟩

/-- A path leads to the same place when folders stay folders. -/
theorem locate_of_isFolderAt (stays : ∀ names, tree.isFolderAt names = true →
      after.isFolderAt names = true) {path : String} {names : List String}
    (leads : tree.locate path = some names) : after.locate path = some names := by
  have followed : ∀ (parts : List PathPart) (start : List String),
      parts.foldlM (follow tree) start = some names →
        parts.foldlM (follow after) start = some names := by
    intro parts
    induction parts with
    | nil => exact fun start same => same
    | cons part rest ih =>
        intro start leads
        rw [List.foldlM_cons] at leads ⊢
        obtain ⟨place, step, leads⟩ := Option.bind_eq_some_iff.mp leads
        have stepAfter : follow after start part = some place := by
          unfold follow at step ⊢
          split at step
          · next isFolder => rwa [if_pos (stays start isFolder)]
          · simp at step
        exact Option.bind_eq_some_iff.mpr ⟨place, stepAfter, ih place leads⟩
  exact followed (Path.parts path) [] leads

/-- What was written at a path is read from it. -/
theorem read?_write? {path : String} (writes : tree.write? path content modified = some after) :
    after.read? path = some content := by
  unfold write? at writes
  split at writes
  · simp at writes
  next proper =>
  obtain ⟨names, leads, writes⟩ := Option.bind_eq_some_iff.mp writes
  split at writes
  · simp at writes
  next noFolder =>
  have stays : ∀ other, tree.isFolderAt other = true → after.isFolderAt other = true :=
    fun other => isFolderAt_putAt writes (Bool.eq_false_iff.mpr noFolder)
  have leadsAfter := locate_of_isFolderAt stays leads
  have there := nodeAt_putAt writes
  simp only [Bool.or_eq_true, not_or, Bool.not_eq_true] at proper
  simp [read?, find?, proper.1, proper.2, leadsAfter, there, FileNode.content?]

/-- Only a folder has something behind it. -/
theorem eq_or_isFolderAt_of_prefix {node : FileNode} {names other : List String}
    (ahead : names <+: other) (found : tree.nodeAt other = some node) :
    other = names ∨ tree.isFolderAt names = true := by
  induction names generalizing tree other with
  | nil => exact .inr rfl
  | cons name rest ih =>
      obtain ⟨behind, rfl⟩ := ahead
      rw [List.cons_append, nodeAt] at found
      cases leads : Keyed.lookup tree name with
      | none => simp [leads] at found
      | some first =>
          cases first with
          | file content modified =>
              cases rest <;> cases behind <;> simp [leads] at found ⊢
          | folder entries =>
              rcases nothing : rest ++ behind with _ | ⟨next, others⟩
              · obtain ⟨rfl, rfl⟩ := List.append_eq_nil_iff.mp nothing
                exact .inl rfl
              · simp only [leads, nothing] at found
                rw [← nothing] at found
                rcases ih (List.prefix_append rest behind) found with same | isFolder
                · exact .inl (congrArg (name :: ·) same)
                · exact .inr (isFolderAt_cons.mpr ⟨entries, leads, isFolder⟩)

/-- What is put in a place that does not lead to a file leaves the file as it is. -/
theorem nodeAt_putAt_of_not_prefix {node : FileNode} {names other : List String}
    (puts : tree.putAt node names = some after) (apart : ¬names <+: other)
    (isFile : tree.nodeAt other = some (.file content modified)) :
    after.nodeAt other = some (.file content modified) := by
  induction names generalizing tree after other with
  | nil => simp [putAt] at puts
  | cons name rest ih =>
      cases other with
      | nil => simp [nodeAt] at isFile
      | cons first others =>
          by_cases same : first = name
          · subst same
            have apartInside : ¬rest <+: others := by
              rintro ⟨behind, rfl⟩
              exact apart ⟨behind, rfl⟩
            cases rest with
            | nil => exact absurd List.nil_prefix apartInside
            | cons next rest =>
                obtain ⟨entries, entriesAfter, leads, putsInside, rfl⟩ := putAt_cons_cons puts
                cases others with
                | nil => simp [nodeAt, leads] at isFile
                | cons second behind =>
                    simp only [nodeAt, leads] at isFile
                    simpa [nodeAt] using ih putsInside apartInside isFile
          · have untouched : Keyed.lookup after first = Keyed.lookup tree first := by
              cases rest with
              | nil =>
                  rw [putAt_singleton puts]
                  exact Keyed.lookup_insert_of_ne tree _ same
              | cons next rest =>
                  obtain ⟨entries, entriesAfter, _, _, rfl⟩ := putAt_cons_cons puts
                  exact Keyed.lookup_insert_of_ne tree _ same
            rwa [nodeAt, untouched, ← nodeAt]

theorem read?_eq_some_iff {path : String} :
    tree.read? path = some content ↔
      path.isEmpty = false ∧ meansFolder path = false ∧
        ∃ names modified, tree.locate path = some names ∧
          tree.nodeAt names = some (.file content modified) := by
  constructor
  · intro reads
    rw [read?, find?] at reads
    split at reads
    · simp at reads
    next notEmpty =>
    split at reads
    · next stored modified found =>
        split at reads
        · simp at reads
        next notFolder =>
        cases reads
        obtain ⟨names, leads, there⟩ := Option.bind_eq_some_iff.mp found
        exact ⟨Bool.eq_false_iff.mpr notEmpty, Bool.eq_false_iff.mpr notFolder, names, modified,
          leads, there⟩
    · next other found =>
        obtain ⟨node, isNode, isContent⟩ := Option.bind_eq_some_iff.mp reads
        cases node with
        | file stored modified => exact absurd isNode (found stored modified)
        | folder entries => simp [FileNode.content?] at isContent
  · rintro ⟨notEmpty, notFolder, names, modified, leads, there⟩
    simp [read?, find?, notEmpty, notFolder, leads, there, FileNode.content?]

/-- Whether everything but the file in one place is as it was. -/
structure KeepsBut (place : Option (List String)) (tree after : FileTree) : Prop where
  folders : ∀ names, tree.isFolderAt names = true → after.isFolderAt names = true
  files : ∀ names content modified, some names ≠ place →
    tree.nodeAt names = some (.file content modified) →
      after.nodeAt names = some (.file content modified)

theorem KeepsBut.read? {place : Option (List String)} (keeps : KeepsBut place tree after)
    {path : String} (apart : tree.locate path ≠ place) (reads : tree.read? path = some content) :
    after.read? path = some content := by
  obtain ⟨notEmpty, notFolder, names, modified, leads, there⟩ := read?_eq_some_iff.mp reads
  rw [leads] at apart
  exact read?_eq_some_iff.mpr ⟨notEmpty, notFolder, names, modified,
    locate_of_isFolderAt keeps.folders leads, keeps.files names content modified apart there⟩

theorem KeepsBut.trans {place : Option (List String)} {later : FileTree}
    (first : KeepsBut place tree after) (second : KeepsBut place after later) :
    KeepsBut place tree later where
  folders := fun names isFolder => second.folders names (first.folders names isFolder)
  files := fun names content modified apart there =>
    second.files names content modified apart (first.files names content modified apart there)

theorem keepsBut_write? {path : String} (writes : tree.write? path content modified = some after) :
    KeepsBut (tree.locate path) tree after := by
  unfold write? at writes
  split at writes
  · simp at writes
  obtain ⟨place, leads, writes⟩ := Option.bind_eq_some_iff.mp writes
  split at writes
  · simp at writes
  next noFolder =>
  constructor
  · exact fun names => isFolderAt_putAt writes (Bool.eq_false_iff.mpr noFolder)
  · intro names kept keptTime apart there
    apply nodeAt_putAt_of_not_prefix writes _ there
    intro ahead
    rcases eq_or_isFolderAt_of_prefix ahead there with same | isFolder
    · exact apart (same ▸ leads.symm)
    · exact noFolder isFolder

theorem keepsBut_enterFolder {place : FileTree × List String} {part : PathPart}
    {entered : FileTree × List String} (enters : enterFolder place part = some entered) :
    KeepsBut none place.1 entered.1 := by
  obtain ⟨tree, names⟩ := place
  rw [enterFolder] at enters
  obtain ⟨followed, _, enters⟩ := Option.bind_eq_some_iff.mp enters
  split at enters
  · cases enters
    exact ⟨fun _ isFolder => isFolder, fun _ _ _ _ there => there⟩
  · simp at enters
  · next nothing =>
      obtain ⟨after, puts, same⟩ := Option.map_eq_some_iff.mp enters
      cases same
      have noFolder : tree.isFolderAt followed = false := by
        simp [isFolderAt, nothing]
      constructor
      · exact fun other => isFolderAt_putAt puts noFolder
      · intro other kept keptTime _ there
        apply nodeAt_putAt_of_not_prefix puts _ there
        intro ahead
        rcases eq_or_isFolderAt_of_prefix ahead there with rfl | isFolder
        · exact absurd (nothing.symm.trans there) (by simp)
        · exact absurd (noFolder.symm.trans isFolder) Bool.false_ne_true

/-- Making a folder changes no file. -/
theorem keepsBut_makeFolder? {path : String} (makes : tree.makeFolder? path = some after) :
    KeepsBut none tree after := by
  have entered : ∀ (parts : List PathPart) (start last : FileTree × List String),
      parts.foldlM enterFolder start = some last → KeepsBut none start.1 last.1 := by
    intro parts
    induction parts with
    | nil =>
        intro start last same
        cases same
        exact ⟨fun _ isFolder => isFolder, fun _ _ _ _ there => there⟩
    | cons part rest ih =>
        intro start last leads
        rw [List.foldlM_cons] at leads
        obtain ⟨next, enters, leads⟩ := Option.bind_eq_some_iff.mp leads
        exact (keepsBut_enterFolder enters).trans (ih next last leads)
  obtain ⟨last, leads, rfl⟩ := Option.map_eq_some_iff.mp makes
  exact entered _ _ last leads

end FileTree

end DocumentIngest
