import Cdngine.Relational
import Cdngine.Runs
import Cdngine.Sha256
import Cdngine.Strip
import Cdngine.Utf8
import Cdngine.ByteBuffer
import Cdngine.Chunkers
import Cdngine.ContentStore
import Cdngine.StableSort
import Cdngine.Observed
import Cdngine.PercentEncoding
import Cdngine.HeaderValues
import Cdngine.UrlPaths
import Cdngine.PosixPaths
import Cdngine.Platform
import Cdngine.Schema
import Cdngine.Store
import Cdngine.StorageLayout
import Cdngine.UploadSession
import Cdngine.Completion
import Cdngine.CompletionInterleaving
import Cdngine.Publication
import Cdngine.PublicationWorkflow
import Cdngine.Lifecycle
import Cdngine.RegistryRuns
import Cdngine.CompletionReachability
import Cdngine.WorkerRuntime
import Cdngine.JsonText
import Cdngine.ReadCommitted
import Cdngine.PublicRead
import Cdngine.PublicReadSessions
import Cdngine.AuthorizationLifecycle
import Cdngine.AuthorizationReplay
import Cdngine.DownloadLinks
import Cdngine.WorkflowDispatch
import Cdngine.DispatchClaims
import Cdngine.DispatchRecords
import Cdngine.RunProjection
import Cdngine.DispatchRuntime
import Cdngine.RunTimes
import Cdngine.IssuedRows
import Cdngine.TenantIsolation
import Cdngine.ServiceAccounts
import Cdngine.MemoryUploadStore
import Cdngine.StagedEvidence
import Cdngine.DuplicateCompletion
import Cdngine.AssetScope
import Cdngine.IdempotencyKeys
import Cdngine.VersionNumbers
import Cdngine.IssueSessions
import Cdngine.CurrentVersion
import Cdngine.MemoryPublicRead
import Cdngine.MemoryPublication
import Cdngine.MemoryDispatchStore
import Cdngine.OperatorControl
import Cdngine.UploadOutcomes
import Cdngine.RejectedCompletions
import Cdngine.UploadSessionRoutes
import Cdngine.RouteRejections
import Cdngine.SdkUploads
import Cdngine.UploadRetries
import Cdngine.ScopedIssuances
import Cdngine.ArchivePaths
import Cdngine.TarArchive
import Cdngine.ZipArchive
import Cdngine.SplitArtifacts
import Cdngine.XetEvidence
import Cdngine.EvidencePayloads
import Cdngine.XetCommands
import Cdngine.ChunkBoundaries
import Cdngine.XetSnapshots
import Cdngine.XetInterruptions
import Cdngine.JsonbColumns
import Cdngine.PublishedPayloads
import Cdngine.ReplayedSources
import Cdngine.DigestTrees
import Cdngine.TruncatedTars
import Cdngine.ArchiveErrors
import Cdngine.UnpackingLimits
import Cdngine.S3Stores
import Cdngine.UploadTargets
import Cdngine.SourceCopies
import Cdngine.StagedRows
import Cdngine.StagingSystem
import Cdngine.SharedStaging
import Cdngine.MaterializedPaths
import Cdngine.SnapshotListing
import Cdngine.XetSourceRepository
import Cdngine.SourceMigration
import Cdngine.CorpusAccounts
import Cdngine.DedupeCorpus
import Cdngine.XetRestores
import Cdngine.RecanonicalizedRows
import Cdngine.JsonReadability
import Cdngine.SortedJson
import Cdngine.OutputWorkflowReplays
import Cdngine.PresentationManifests
import Cdngine.PublishedPresentations
import Cdngine.PublicationPhases
import Cdngine.PublishedObjects
import Cdngine.PublishedDigests
import Cdngine.RegistryConsistency
import Cdngine.CompletionAccounts
import Cdngine.InsertionMaps
import Cdngine.Readers
import Cdngine.JsonParsing
import Cdngine.JsonRoundTrips
import Cdngine.IsoDates
import Cdngine.FileCrashes
import Cdngine.PersistedValues
import Cdngine.RuntimeStateFiles
import Cdngine.RuntimeRestarts
import Cdngine.StagedBlobs
