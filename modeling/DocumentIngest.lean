import DocumentIngest.Keyed
import DocumentIngest.Binary64.Decimal
import DocumentIngest.Json.Reader
import DocumentIngest.Json.Printer
import DocumentIngest.Text.Blank
import DocumentIngest.Text.LetterCase
import DocumentIngest.Text.Shown
import DocumentIngest.Json.Shape
import DocumentIngest.Calendar.Date
import DocumentIngest.Calendar.Mask
import DocumentIngest.Calendar.Stamp
import DocumentIngest.Dataset
import DocumentIngest.Text.Cutting
import DocumentIngest.Template.Token
import DocumentIngest.Template.Reader
import DocumentIngest.Template.Resolved
import DocumentIngest.Template.Handler
import DocumentIngest.Template.Resolution
import DocumentIngest.Template.Tree
import DocumentIngest.Path
import DocumentIngest.Gzip
import DocumentIngest.Failure
import DocumentIngest.Dataset.Opening
import DocumentIngest.Dataset.StoredRecord
import DocumentIngest.Job
import DocumentIngest.WorkItem
import DocumentIngest.Assembly.Compiled
import DocumentIngest.Assembly.Outcome
import DocumentIngest.Assembly.RowPerDocument
import DocumentIngest.Assembly.NestedRows
import DocumentIngest.Assembly.Pool
import DocumentIngest.FileTree
import DocumentIngest.Discovery.Glob
import DocumentIngest.Discovery
import DocumentIngest.Queue
import DocumentIngest.Text.Base64
import DocumentIngest.Web.Url
import DocumentIngest.Store
import DocumentIngest.Store.Memory
import DocumentIngest.Web.Exchange
import DocumentIngest.Store.Elasticsearch
import DocumentIngest.Delivery
import DocumentIngest.Settings
import DocumentIngest.Worker
import DocumentIngest.Toml.Item
import DocumentIngest.Toml.Scalar
import DocumentIngest.Toml.Reader
import DocumentIngest.Layer
import DocumentIngest.Settings.Variable
import DocumentIngest.Settings.Loading
import DocumentIngest.Job.Loading
import DocumentIngest.Run
import DocumentIngest.Report
import DocumentIngest.CommandLine
import DocumentIngest.CommandLine.Session
import DocumentIngest.Main
import DocumentIngest.Web.Script
import DocumentIngest.Proofs.Fallible
import DocumentIngest.Proofs.HandlerNames
import DocumentIngest.Proofs.PoolContents
import DocumentIngest.Proofs.ValidatedJobs
import DocumentIngest.Proofs.RowSteps
import DocumentIngest.Proofs.BuiltDocuments
import DocumentIngest.Proofs.Deliveries
import DocumentIngest.Proofs.ItemProcessing
import DocumentIngest.Proofs.CrewAccounts
import DocumentIngest.Proofs.FileTreeWriting
import DocumentIngest.Proofs.RunAccounts
import DocumentIngest.Proofs.PathNames
import DocumentIngest.Proofs.LeadingPieces
import DocumentIngest.Proofs.NewFiles
import DocumentIngest.Proofs.Intake
import DocumentIngest.Proofs.IntakePasses
import DocumentIngest.Proofs.FilesOnce
import DocumentIngest.Proofs.TemplateGrammar
import DocumentIngest.Proofs.NestedDocuments
import DocumentIngest.Proofs.RowwiseTemplates
import DocumentIngest.Proofs.PartialFailures
import DocumentIngest.Proofs.ItemEffects
import DocumentIngest.Proofs.Interleavings
import DocumentIngest.Proofs.MarkerIds
import DocumentIngest.Proofs.OptionalPaths
import DocumentIngest.Proofs.OutputFiles
import DocumentIngest.Proofs.PooledBuilds
import DocumentIngest.Proofs.JsonRoundTrip
import DocumentIngest.Proofs.ClusterRequests
import DocumentIngest.Proofs.MarkerPages
import DocumentIngest.Proofs.MarkerLookups
import DocumentIngest.Proofs.CompactLines
import DocumentIngest.Proofs.BulkActions
import DocumentIngest.Proofs.TransposedRows
import DocumentIngest.Proofs.WholeColumns
import DocumentIngest.Proofs.FillValues
import DocumentIngest.Proofs.GzipMembers
import DocumentIngest.Proofs.RereadDocuments
import DocumentIngest.Proofs.FailedRuns
import DocumentIngest.Proofs.StorableDocuments
import DocumentIngest.Proofs.RowCounts
import DocumentIngest.Proofs.RowOrder
import DocumentIngest.Proofs.RowShares
import DocumentIngest.Proofs.KeyJoins
import DocumentIngest.Proofs.FieldTemplates
import DocumentIngest.Proofs.DerivedKeys
import DocumentIngest.Proofs.TemplateShapes
import DocumentIngest.Proofs.WorkOrder
import DocumentIngest.Proofs.RowLines
import DocumentIngest.Proofs.BulkLines
import DocumentIngest.Proofs.GlobCuts
import DocumentIngest.Proofs.GlobExpressions
import DocumentIngest.Proofs.WorkerDeeds
import DocumentIngest.Proofs.WorkerShifts
import DocumentIngest.Proofs.Refusals
import DocumentIngest.Proofs.IntervalStarts
import DocumentIngest.Proofs.RecordLayouts
import DocumentIngest.Proofs.RecordForms
import DocumentIngest.Proofs.LostIds
import DocumentIngest.Proofs.NormalValues
