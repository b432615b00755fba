import DocumentIngest.Json.Reader
import DocumentIngest.Json.Shape
import DocumentIngest.Template.Resolution

/-!
# Failures

A failure is a cause with the texts of what was being attempted, the outermost
first.  Some causes have a text of their own; faults found by a reader of some
format are told by their kind alone.
-/

namespace DocumentIngest

/-- Mistakes in a job or its settings. -/
inductive SetupError where
  | unknownHandler (document handler builder : String)
  | malformedTemplate (document : String) (error : TemplateError)
  | missingField (name : String)
  | unknownIngestDocument (id : String)
  | duplicateIngestDocument (id : String)
  | noWork (job : String)
deriving Repr

namespace SetupError

def message : SetupError → String
  | unknownHandler document handler builder =>
      "💀 ingest document '" ++ document ++ "' calls '&" ++ handler ++
        "', which builder type '" ++ builder ++ "' does not provide"
  | malformedTemplate document error =>
      "💀 ingest document '" ++ document ++ "' has a malformed template: " ++ error.message
  | missingField name => "💀 " ++ name ++ " is required but missing"
  | unknownIngestDocument id => "💀 no ingest document with id '" ++ id ++ "' in this job"
  | duplicateIngestDocument id => "💀 ingest document id '" ++ id ++ "' appears more than once"
  | noWork job => "💀 job '" ++ job ++ "' has no ingest documents, so there is nothing to do"

end SetupError

/-- The ways in which a call to a document store goes wrong. -/
inductive StoreError where
  | timeout (text : String)
  | notFound (id : String)
  | failure (text : String)
deriving DecidableEq, Repr

namespace StoreError

def message : StoreError → String
  | timeout text => "⏱️ store call timed out: " ++ text
  | notFound id => "🔍 '" ++ id ++ "' is not in the store"
  | failure text => "💀 store failure: " ++ text

/-- A failure from a message and the messages of its causes, as one line. -/
def ofCauses (message : String) (causes : List String) : StoreError :=
  failure (": ".intercalate (message :: causes))

end StoreError

/-- Why settings cannot be used. -/
inductive SettingsFault where
  | unreadable
  | shape (fault : ShapeFault)
deriving DecidableEq, Repr

/-- What a failure comes down to. -/
inductive Cause where
  | setup (error : SetupError)
  | template (error : TemplateError)
  | store (error : StoreError)
  | json (fault : JsonFault)
  | shape (fault : ShapeFault)
  | settings (fault : SettingsFault)
  /-- The system refused to read or write. -/
  | system
  | plain (text : String)
deriving Repr

namespace Cause

/-- The cause's own text, if it has one. -/
def text? : Cause → Option String
  | setup error => some error.message
  | template error => some error.message
  | store error => some error.message
  | plain text => some text
  | json _ | shape _ | settings _ | system => none

end Cause

/-- A cause and what was being attempted. -/
structure Failure where
  attempts : List String
  cause : Cause
deriving Repr

namespace Failure

def of (cause : Cause) : Failure :=
  ⟨[], cause⟩

def plain (text : String) : Failure :=
  of (.plain text)

/-- Adds what was being attempted. -/
def during (attempt : String) (failure : Failure) : Failure :=
  ⟨attempt :: failure.attempts, failure.cause⟩

/-- The texts of a failure, the outermost first. -/
def texts (failure : Failure) : List String :=
  failure.attempts ++ failure.cause.text?.toList

/-- A failure on one line. -/
def message (failure : Failure) : String :=
  ": ".intercalate failure.texts

end Failure

/-- Runs a step and names it in its failure. -/
def attempting {α : Type} (attempt : String) (step : Except Failure α) : Except Failure α :=
  step.mapError (Failure.during attempt)

end DocumentIngest
