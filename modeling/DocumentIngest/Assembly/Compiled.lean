import DocumentIngest.Failure
import DocumentIngest.Template.Tree
import DocumentIngest.WorkItem

/-!
# Compiled ingest documents

Compiling an ingest document parses every template text in it.  The `id` field
stands apart from the body, and for nested rows the `data` field and the key
under which a row enters it do as well.  `Job.validate` compiles everything and
checks every handler name, so that a mistake is found before any work starts.
-/

namespace DocumentIngest

/-- An ingest document with its templates parsed. -/
structure CompiledDocument where
  id : Token
  /-- Every template field but `id`, and for nested rows but `data`. -/
  body : TemplateTree
  data : Option TemplateTree
  dataKey : Option Token
  optionalFields : List String
deriving Repr

namespace CompiledDocument

/-- The template of the key of a row among nested rows. -/
def dataKeyTemplate (parameters : Json.Fields) : String :=
  ((Keyed.lookup parameters "data_key").bind Json.asText?).getD "*name"

/-- The data tree of nested rows, if the template has one, and the key of a row. -/
def compileData (parameters fields : Json.Fields) :
    Except TemplateError (Option TemplateTree × Option Token) := do
  let data ←
    match Keyed.lookup fields "data" with
    | none => .ok none
    | some tree => (TemplateTree.compile tree).map some
  let key ← Token.ofTemplate (dataKeyTemplate parameters)
  .ok (data, some key)

/-- Parses the templates of an ingest document. -/
def compile (document : IngestDocument) : Except SetupError CompiledDocument :=
  let parsed {α : Type} (result : Except TemplateError α) : Except SetupError α :=
    result.mapError (.malformedTemplate document.id)
  match document.template with
  | .object fields =>
      match Keyed.lookup fields "id" with
      | some (.string template) => do
          let id ← parsed (Token.ofTemplate template)
          let fields := Keyed.erase fields "id"
          match document.builder with
          | .nestedRows => do
              let (data, dataKey) ← parsed (compileData document.parameters fields)
              let body ← parsed (TemplateTree.compile (.object (Keyed.erase fields "data")))
              .ok ⟨id, body, data, dataKey, document.optionalFields⟩
          | .rowPerDocument => do
              let body ← parsed (TemplateTree.compile (.object fields))
              .ok ⟨id, body, none, none, document.optionalFields⟩
      | _ => .error (.missingField (document.id ++ ".template.id (a template string)"))
  | _ => .error (.missingField (document.id ++ ".template (must be a mapping)"))

/-- The names of all handlers that an ingest document calls. -/
def handlerNames (compiled : CompiledDocument) : List String :=
  compiled.id.handlerNames ++ compiled.body.handlerNames ++
    (compiled.data.elim [] TemplateTree.handlerNames) ++
    (compiled.dataKey.elim [] Token.handlerNames)

/-- The first handler called that a builder does not provide. -/
def firstUnknown? (compiled : CompiledDocument) (builder : BuilderType) : Option String :=
  compiled.handlerNames.find? fun name => (Handler.find? builder.handlers name).isNone

end CompiledDocument

namespace Job

/-- Checks ingest documents in order; `seen` holds the ids met before. -/
def validateDocuments (seen : List String) : List IngestDocument → Except SetupError Unit
  | [] => .ok ()
  | document :: rest =>
      if seen.contains document.id then .error (.duplicateIngestDocument document.id)
      else do
        let compiled ← CompiledDocument.compile document
        match compiled.firstUnknown? document.builder with
        | some handler => .error (.unknownHandler document.id handler document.builder.name)
        | none => validateDocuments (document.id :: seen) rest

/-- Checks that there is work, that ids differ, and that every template can be
resolved by its builder. -/
def validate (job : Job) : Except SetupError Unit :=
  if job.documents.isEmpty then .error (.noWork job.id)
  else validateDocuments [] job.documents

end Job

end DocumentIngest
