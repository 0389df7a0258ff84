import BackupTelebot.InterleavingRules
import BackupTelebot.JsonScan
import BackupTelebot.JsonRoundTrip
import BackupTelebot.Errors
import BackupTelebot.FileTree
import BackupTelebot.Pending
import BackupTelebot.Finalize
import BackupTelebot.PendingRules
import BackupTelebot.FinalizeRules
import BackupTelebot.Jobs
import BackupTelebot.Operations
import BackupTelebot.Delivery
import BackupTelebot.Worker
import BackupTelebot.Recovery
import BackupTelebot.System
import BackupTelebot.OperationRules
import BackupTelebot.CorruptSpool
import BackupTelebot.InterruptedPublication
import BackupTelebot.FailureCleanup
import BackupTelebot.SystemRules
import BackupTelebot.RowSteps
import BackupTelebot.Terminal
import BackupTelebot.Fencing
import BackupTelebot.PublicationRoundTrip
import BackupTelebot.Transport
import BackupTelebot.TransportRules
import BackupTelebot.ClientRetirement
import BackupTelebot.SessionBootstrap
import BackupTelebot.DeliveryRules
import BackupTelebot.RetryCompleteness
import BackupTelebot.StartupRecovery
import BackupTelebot.Queue
import BackupTelebot.QueueRules
import BackupTelebot.SessionRules
import BackupTelebot.ScheduleSlots
import BackupTelebot.SnapshotIntegrity
import BackupTelebot.BuildFootprints
import BackupTelebot.Revocation
import BackupTelebot.ProfileConfig
import BackupTelebot.TernaryLogic
import BackupTelebot.LocalSourcePaths
import BackupTelebot.Base64
import BackupTelebot.IsoTimestamps
import BackupTelebot.ProfileRows
import BackupTelebot.StorableRows
import BackupTelebot.RemotePaths
import BackupTelebot.Sessions
import BackupTelebot.GitlabSources
import BackupTelebot.GitlabExclusivity
import BackupTelebot.DeliveryCursor
import BackupTelebot.Timezone
import BackupTelebot.TimezoneSlots
import BackupTelebot.LockOrder
import BackupTelebot.ConfigurationLocks
import BackupTelebot.CursorInvariant
import BackupTelebot.CursorRules
import BackupTelebot.DeadlockFreedom
import BackupTelebot.CooperativeThread
import BackupTelebot.DownloadArchive
import BackupTelebot.DownloadMonitor
import BackupTelebot.NextScheduled
import BackupTelebot.RunSnapshot
import BackupTelebot.SnapshotRoundTrip
import BackupTelebot.WorkerChecks
import BackupTelebot.PathAgreement
import BackupTelebot.ScheduledTimes
import BackupTelebot.ValidationMessages
import BackupTelebot.ValidationServer
import BackupTelebot.LinkedFiles
import BackupTelebot.OwnedDirectories
import BackupTelebot.OwnedDeletion
import BackupTelebot.PythonDict
import BackupTelebot.SlidingWindow
import BackupTelebot.RetryDelay
import BackupTelebot.RateLimit
import BackupTelebot.Callbacks
import BackupTelebot.SplitArtifact
import BackupTelebot.ConversationStores
import BackupTelebot.ConversationExpiry
import BackupTelebot.PythonReplace
import BackupTelebot.AccessKeyboard
import BackupTelebot.SharedPending
import BackupTelebot.TerminalInput
import BackupTelebot.AgePassphrase
import BackupTelebot.LocalArchive
import BackupTelebot.LocalArchiveRules
import BackupTelebot.LocalArchiveExact
import BackupTelebot.EventLoop
import BackupTelebot.EventLoopRules
import BackupTelebot.StoreCalls
import BackupTelebot.WizardSecrets
import BackupTelebot.SecretOwners
import BackupTelebot.SecretCustody
import BackupTelebot.DrainTail
import BackupTelebot.NativeBackups
import BackupTelebot.TrimmedPaths
import BackupTelebot.CanonicalPaths
import BackupTelebot.CredentialGrammars
import BackupTelebot.CredentialEncoders
import BackupTelebot.ReachedPaths
import BackupTelebot.SpoolNames
import BackupTelebot.TimedAwait
import BackupTelebot.RunDeadline
import BackupTelebot.FallibleCalls
import BackupTelebot.StagedBackup
import BackupTelebot.StagedBackupAtomic
import BackupTelebot.HtmlMarkup
import BackupTelebot.FormatTemplates
import BackupTelebot.CatalogEnglish
import BackupTelebot.CatalogPersian
import BackupTelebot.TelegramMessages
import BackupTelebot.MessageMarkup
import BackupTelebot.BackupCaption
import BackupTelebot.CaptionMarkup
import BackupTelebot.CaptionLength
import BackupTelebot.SeenMessages
