import DocumentIngest.Proofs.IntakePasses

/-!
# Files are ingested once

An intake offers a file exactly if it never landed or is newer than when it last did,
whatever happened before, as long as none of its own documents can be taken for one
of its markers.  A template that writes such documents can keep files from ever being
ingested.
-/

namespace DocumentIngest

open Fallible

/-- An ingest document that makes one document of each row by a template. -/
def IngestDocument.shaped (template : Json) : IngestDocument :=
  { IngestDocument.blank with id := "d", template }

def Job.shaped (template : Json) : Job :=
  ⟨"j", "", [.shaped template]⟩

/-- What the file of such a job says. -/
def Job.shapedFields (template : Json) : Json.Fields :=
  [("id", .string "j"),
    ("ingest_documents", .array
      [.object
        [("builder_type", .string BuilderType.rowPerDocument.name), ("id", .string "d"),
          ("template", template)]])]

/-- A tree with the file of such a job and a folder. -/
def FileTree.shaped (template : Json) (entries : Keyed FileNode) : FileTree :=
  [("in", .folder entries), ("job.json", .ofJson (.object (Job.shapedFields template)) 0)]

/-- Whether a path leads to a name at the top, from there or from the root. -/
def Path.IsAtTop (path name : String) : Prop :=
  path.isEmpty = false ∧ FileTree.meansFolder path = false ∧
    (parts path = [.name name] ∨ parts path = [.root, .name name])

instance (path name : String) : Decidable (Path.IsAtTop path name) :=
  inferInstanceAs (Decidable (_ ∧ _))

theorem FileTree.find?_of_isAtTop (tree : FileTree) {path name : String}
    (isAtTop : Path.IsAtTop path name) : tree.find? path = Keyed.lookup tree name := by
  obtain ⟨notEmpty, notFolder, parts⟩ := isAtTop
  have leads : tree.locate path = some [name] := by
    rcases parts with relative | absolute
    · rw [locate, relative]
      rfl
    · rw [locate, absolute]
      rfl
  simp only [find?, notEmpty, notFolder, leads, Option.bind_some, nodeAt]
  cases Keyed.lookup tree name with
  | none => rfl
  | some node => cases node <;> rfl

/-- The intake of the folder by such a job, by the paths of both. -/
def Intake.shaped (specFile directory : String) (template : Json) (compiled : CompiledDocument)
    (valid : (Job.shaped template).validate = .ok ())
    (compiles : CompiledDocument.compile (.shaped template) = .ok compiled)
    (leads : compiled.id.leadingLiteral? = some "X") : Intake where
  source := { specFile := some specFile }
  specFile := specFile
  discovery := { inputDirectory := some directory }
  directory := directory
  job := .shaped template
  document := .shaped template
  compiled := compiled
  head := "X"
  fromFile := rfl
  valid := valid
  single := rfl
  pathBased := rfl
  inDirectory := rfl
  compiles := compiles
  leads := leads
  otherHead := by decide

theorem Intake.sees_shaped {specFile directory : String} {template : Json}
    {compiled : CompiledDocument} (file : Path.IsAtTop specFile "job.json")
    (folder : Path.IsAtTop directory "in")
    (valid : (Job.shaped template).validate = .ok ())
    (compiles : CompiledDocument.compile (.shaped template) = .ok compiled)
    (leads : compiled.id.leadingLiteral? = some "X")
    (parses :
      (Job.formatOf specFile).read? (Json.object (Job.shapedFields template)).compact =
        some (.object (Job.shapedFields template)))
    (reads : (Job.ofFields (Job.shapedFields template)).toOption = some (.shaped template))
    {entries : Keyed FileNode} (ascending : Keyed.Ascending entries)
    (names : ∀ entry ∈ entries, Path.IsName entry.1) :
    (Intake.shaped specFile directory template compiled valid compiles leads).Sees
      (.shaped template entries) entries where
  loads := by
    have found := FileTree.find?_of_isAtTop (.shaped template entries) file
    exact Job.ofFile_of_read? (congrArg (·.bind FileNode.content?) found) parses
      (eq_ok_of_toOption reads)
  lists := by
    have found := FileTree.find?_of_isAtTop (.shaped template entries) folder
    exact congrArg (·.bind FileNode.entries?) found
  ascending := ascending
  names := names

/-- A file with one row without fields. -/
def FileNode.row (modified : Int) : FileNode :=
  .file (Json.array [.object []]).compact.toUTF8.data.toList modified

/-- If no document that is built can be taken for a marker, then after any history
of a directory exactly the files are offered that never landed or are newer than
when they last did, and a run after one without timeouts over the same directory
has nothing to do. -/
theorem Intake.offers_due_once {intake : Intake} (unlike : intake.BuildsNoMarkers) :
    intake.OffersWhatIsDue ∧
      ∀ documents landed, intake.History documents landed →
        ∀ pass : intake.Pass documents, pass.timeouts = 0 →
          pass.final.files = pass.files ∧
            ∀ runtime timeouts now, (intake.settings runtime).validate = .ok () →
              Run.plan (intake.settings runtime)
                  (⟨{ documents := pass.final.store.documents, timeouts }, pass.files, now⟩ :
                    Archive MemoryStore) =
                (⟨{ documents := pass.final.store.documents, timeouts }, pass.files, now⟩,
                  .ok ⟨intake.job, []⟩) := by
  constructor
  · intro documents landed history runtime timeouts files entries now runnable sees
    have reflects := history.reflects unlike
    exact ⟨_, _, plan_eq runnable sees documents timeouts now, fun _ => reflects.mem_offers sees⟩
  · intro documents landed history pass reliable
    have reflects := history.reflects unlike
    refine ⟨(pass.reflects_final unlike reflects).2.1, ?_⟩
    intro runtime timeouts now runnable
    rw [plan_eq runnable pass.sees, pass.offers_final unlike reflects reliable]

/-- An intake of documents that say nothing but their id.  Its paths are absolute. -/
def Intake.plain : Intake :=
  .shaped "/job.json" "/in" (.object [("id", .string "X")]) ⟨.literal "X", .object [], none, none, []⟩
    (eq_ok_of_isOk (by decide +kernel)) rfl rfl

theorem Intake.offers_due_once_plain :
    ∃ pass : Intake.plain.Pass [], pass.timeouts = 0 ∧
      pass.plan.items = [Intake.plain.item "a.json" 1] ∧
        Run.plan (Intake.plain.settings {})
            (⟨{ documents := pass.final.store.documents }, pass.files, 0⟩ : Archive MemoryStore) =
          (⟨{ documents := pass.final.store.documents }, pass.files, 0⟩,
            .ok ⟨Intake.plain.job, []⟩) := by
  have unlike : Intake.plain.BuildsNoMarkers := by
    intro dataset item
    exact @CompiledDocument.all_noMarker Intake.plain.compiled [] rfl none (by simp) rfl _ _ _ _
  have sees : Intake.plain.Sees (.shaped (.object [("id", .string "X")]) [("a.json", .row 1)])
      [("a.json", .row 1)] :=
    Intake.sees_shaped (by decide +kernel) (by decide +kernel) _ _ _ (by decide +kernel)
      (by decide +kernel) (List.pairwise_singleton _ _) (by decide +kernel)
  obtain ⟨pass, _, reliable, _, entries, _⟩ :=
    @Intake.exists_pass Intake.plain {} _ _ (eq_ok_of_isOk rfl) sees [] 0 0
  have offered : Intake.plain.offers [] [("a.json", .row 1)] =
      [Intake.plain.item "a.json" 1] := by decide +kernel
  refine ⟨pass, reliable, ?_, ?_⟩
  · rw [pass.planned_eq.2, entries]
    exact offered
  · exact ((Intake.offers_due_once unlike).2 [] [] .start pass reliable).2 {} 0 0
      (eq_ok_of_isOk rfl)

/-- A template of documents that read as the marker of a file. -/
def Json.lookAlike : Json :=
  .object
    [("builder_type", .string ""), ("id", .string "X"), ("ingest_document", .string "d"),
      ("mtime", .ofNat 9), ("subset", .string ""), ("type", .string DataFileRecord.type),
      ("url", .string "in/b.json")]

def Intake.lookAlike : Intake :=
  .shaped "job.json" "in" .lookAlike
    ⟨.literal "X",
      .object
        [("builder_type", .token (.literal "")), ("ingest_document", .token (.literal "d")),
          ("mtime", .value (.ofNat 9)), ("subset", .token (.literal "")),
          ("type", .token (.literal DataFileRecord.type)), ("url", .token (.literal "in/b.json"))],
      none, none, []⟩
    (eq_ok_of_isOk (by decide +kernel)) rfl rfl

theorem Intake.sees_lookAlike {entries : Keyed FileNode} (ascending : Keyed.Ascending entries)
    (names : ∀ entry ∈ entries, Path.IsName entry.1) :
    Intake.lookAlike.Sees (.shaped .lookAlike entries) entries :=
  sees_shaped (by decide +kernel) (by decide +kernel) _ _ _ (by decide +kernel)
    (by decide +kernel) ascending names

/-- The run over a directory with one file, which writes a look-alike of the marker of
another one. -/
def Intake.lookAlikePass : Intake.lookAlike.Pass [] :=
  Intake.passAlong (eq_ok_of_isOk (rfl : ((Intake.lookAlike.settings {}).validate).isOk = true))
    (sees_lookAlike (List.pairwise_singleton _ ("a.json", FileNode.row 1)) (by decide +kernel))
    [] 0 0 ([0, 0, 0, 0, 0, 0, 0] ++ [1, 1, 2, 2, 3, 3]) (by decide +kernel)

/-- After it no run offers the other file, which never landed. -/
theorem Intake.not_offersWhatIsDue : ¬∀ intake : Intake, intake.OffersWhatIsDue := by
  intro offersWhatIsDue
  let both : Keyed FileNode := [("a.json", .row 1), ("b.json", .row 2)]
  let pass := lookAlikePass
  have nothing : lookAlike.offers pass.final.store.documents both = [] := by
    rw [pass.final_eq]
    decide +kernel
  have never : lastLanding ([] ++ pass.landings) "in/b.json" = none := by decide +kernel
  have sees : lookAlike.Sees (.shaped .lookAlike both) both :=
    sees_lookAlike (List.pairwise_pair.mpr (by decide +kernel)) (by decide +kernel)
  have runnable : (lookAlike.settings {}).validate = .ok () := eq_ok_of_isOk rfl
  obtain ⟨planned, plan, plans, offers⟩ :=
    offersWhatIsDue lookAlike _ _ (.pass pass .start) {} 0 _ _ 0 runnable sees
  rw [plan_eq runnable sees, nothing, Prod.mk.injEq, Except.ok.injEq] at plans
  have eligible : lookAlike.IsEligible both "b.json" 2 :=
    ⟨⟨_, 2, List.mem_cons_of_mem _ (List.mem_singleton_self _), rfl⟩, by decide +kernel,
      by decide +kernel⟩
  have offered : lookAlike.item "b.json" 2 ∈ plan.items :=
    (offers _).mpr ⟨"b.json", 2, rfl, eligible, .inl never⟩
  rw [← plans.2] at offered
  simp at offered

end DocumentIngest
