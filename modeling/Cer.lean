import Cer.Lib.PyText
import Cer.Contract.Errors
import Cer.Contract.Identity
import Cer.Contract.Enums
import Cer.Contract.Models
import Cer.Runtime.Env
import Cer.Metadata.Schema
import Cer.Metadata.Codec
import Cer.Metadata.Store
import Cer.Metadata.Effects
import Cer.Metadata.Invariant
import Cer.Metadata.Reading
import Cer.Metadata.Constraints
import Cer.Metadata.Content
import Cer.Metadata.History
import Cer.Metadata.Idempotency
import Cer.Metadata.Backing
import Cer.Metadata.Binding
import Cer.Artifacts.FsStore
import Cer.Artifacts.Integrity
import Cer.Artifacts.Sidecar
import Cer.Artifacts.PutSteps
import Cer.Artifacts.PutOrder
import Cer.Lib.DateTime
import Cer.Lib.Json
import Cer.Lib.JsonText
import Cer.Lib.JsonWire
import Cer.Lib.JsonRoundTrip
import Cer.Lib.JsonSame
import Cer.Lib.Ledger
import Cer.Lib.WriteLock
import Cer.Lib.AtomicFile
import Cer.Lib.Sql
import Cer.Lib.FloatText
import Cer.Lib.Sha256
import Cer.Metadata.ReplayPaths
import Cer.Api.Routes
import Cer.Api.Refusals
import Cer.Api.RunLifecycle
import Cer.Api.IdempotencyKeys
import Cer.Metadata.Frame
import Cer.Api.NonInterference
import Cer.Lib.Utf8Order
import Cer.Lib.Calendar
import Cer.Lib.Paging
import Cer.Metadata.Queries
import Cer.Metadata.ReadBack
import Cer.Lib.Transaction
import Cer.Metadata.Session
import Cer.Api.Failures
import Cer.Api.Responses
import Cer.Lib.Ddl
import Cer.Metadata.Migrations
import Cer.Metadata.Resumption
import Cer.Lib.DdlHistory
import Cer.Lib.DdlRows
import Cer.Lib.Workers
import Cer.Metadata.Migrators
import Cer.Metadata.Upgrade
import Cer.Metadata.LegacyRows
import Cer.Metadata.MigrationFiles
import Cer.Contract.Languages
import Cer.Contract.Version
import Cer.Contract.Wire
import Cer.Api.ArtifactLookup
import Cer.Artifacts.Presence
import Cer.Lib.WriteOnce
import Cer.Metadata.Attachment
import Cer.Api.Timestamps
import Cer.Api.Integers
import Cer.Api.ArtifactRaces
import Cer.Metadata.Fingerprints
import Cer.Metadata.GrowingPages
import Cer.Lib.Unwinding
import Cer.Lib.Redelivery
import Cer.Api.Retries
import Cer.Api.ArtifactDownloads
import Cer.Api.Readiness
import Cer.Api.Interleavings
import Cer.Lib.Connections
import Cer.Metadata.Concurrency
import Cer.Metadata.Agreement
import Cer.Metadata.Answers
import Cer.Lib.Refinement
import Cer.Client.Calls
import Cer.Client.Acknowledged
import Cer.Client.Artifacts
