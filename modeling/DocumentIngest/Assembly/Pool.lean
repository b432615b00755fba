import DocumentIngest.Assembly.NestedRows
import DocumentIngest.Assembly.RowPerDocument

/-!
# Assemblers and their pool

An assembler builds documents in one way and keeps the ingest documents that it
has compiled.  A pool has at most one assembler of each builder type at rest, and
counts those it made.  An assembler that was taken out and never came back is
made afresh when the next one of its type is asked for.
-/

namespace DocumentIngest

/-- Builds documents of one builder type from ingest documents prepared before. -/
structure Assembler where
  builder : BuilderType
  /-- What was compiled, by the id of the ingest document. -/
  prepared : Keyed CompiledDocument := []
deriving Repr

namespace Assembler

/-- Compiles an ingest document, unless one with its id was prepared before. -/
def prepare (assembler : Assembler) (document : IngestDocument) :
    Except SetupError Assembler :=
  if Keyed.hasKey assembler.prepared document.id then .ok assembler
  else
    (CompiledDocument.compile document).map fun compiled =>
      { assembler with prepared := Keyed.insert assembler.prepared document.id compiled }

/-- Builds the rows of a dataset by a compiled ingest document. -/
def assemble (builder : BuilderType) (compiled : CompiledDocument) (dataset : Dataset)
    (parameters : Json.Fields) : BuildOutcome :=
  match builder with
  | .rowPerDocument => RowPerDocument.build compiled dataset parameters
  | .nestedRows => NestedRows.build compiled dataset parameters

/-- Whether building by a compiled ingest document breaks off at some row.  Nested rows
have no handler that asks for a list. -/
def overruns (builder : BuilderType) (compiled : CompiledDocument) (dataset : Dataset)
    (parameters : Json.Fields) : Bool :=
  match builder with
  | .rowPerDocument => RowPerDocument.breaksOff compiled dataset parameters
  | .nestedRows => false

/-- Whether the build of a work item breaks off and never has an outcome. -/
def breaksOff (assembler : Assembler) (document : IngestDocument) (item : WorkItem)
    (dataset : Dataset) : Bool :=
  (Keyed.lookup assembler.prepared document.id).any fun compiled =>
    overruns assembler.builder compiled dataset (item.parameterBag document)

/-- Builds the documents of a work item, if the build does not break off. -/
def build (assembler : Assembler) (document : IngestDocument) (item : WorkItem)
    (dataset : Dataset) : Except Failure BuildOutcome :=
  match Keyed.lookup assembler.prepared document.id with
  | none => .error (.plain ("💀 ingest document '" ++ document.id ++ "' was never prepared"))
  | some compiled =>
      .ok (assemble assembler.builder compiled dataset (item.parameterBag document))

end Assembler

/-- The assemblers of one worker: those at rest, and how many were ever made. -/
structure AssemblerPool where
  rowPerDocument : Option Assembler := none
  nestedRows : Option Assembler := none
  created : Nat := 0
deriving Repr

namespace AssemblerPool

/-- The assembler at rest of a builder type. -/
def idle (pool : AssemblerPool) : BuilderType → Option Assembler
  | .rowPerDocument => pool.rowPerDocument
  | .nestedRows => pool.nestedRows

/-- Changes what rests under a builder type. -/
def place (pool : AssemblerPool) (builder : BuilderType) (assembler : Option Assembler) :
    AssemblerPool :=
  match builder with
  | .rowPerDocument => { pool with rowPerDocument := assembler }
  | .nestedRows => { pool with nestedRows := assembler }

@[simp]
theorem idle_place (pool : AssemblerPool) (builder asked : BuilderType)
    (assembler : Option Assembler) :
    (pool.place builder assembler).idle asked =
      if asked = builder then assembler else pool.idle asked := by
  cases builder <;> cases asked <;> rfl

@[simp]
theorem created_place (pool : AssemblerPool) (builder : BuilderType)
    (assembler : Option Assembler) :
    (pool.place builder assembler).created = pool.created := by
  cases builder <;> rfl

/-- The assembler of a builder type, made if none is at rest. -/
def ready (pool : AssemblerPool) (builder : BuilderType) : AssemblerPool × Assembler :=
  match pool.idle builder with
  | some assembler => (pool, assembler)
  | none =>
      let assembler : Assembler := ⟨builder, []⟩
      ({ pool.place builder (some assembler) with created := pool.created + 1 }, assembler)

/-- The assembler for an ingest document, prepared for it and left in the pool.
One that was made stays in the pool when the document does not compile. -/
def request (pool : AssemblerPool) (document : IngestDocument) :
    AssemblerPool × Except SetupError Assembler :=
  let (pool, assembler) := pool.ready document.builder
  match assembler.prepare document with
  | .error fault => (pool, .error fault)
  | .ok prepared => (pool.place document.builder (some prepared), .ok prepared)

/-- The same, with the assembler leaving the pool. -/
def takeOut (pool : AssemblerPool) (document : IngestDocument) :
    AssemblerPool × Except SetupError Assembler :=
  match pool.request document with
  | (pool, .error fault) => (pool, .error fault)
  | (pool, .ok assembler) => (pool.place document.builder none, .ok assembler)

/-- Returns an assembler to the pool. -/
def putBack (pool : AssemblerPool) (assembler : Assembler) : AssemblerPool :=
  pool.place assembler.builder (some assembler)

end AssemblerPool

end DocumentIngest
