import BackupTelebot.FileTree
import BackupTelebot.Finalize

/-! The control database's rows of one run, the files that belong to it, and the view of
its row that an ORM session keeps. Other runs share none of this state. -/
namespace BackupTelebot

open PyJson

inductive RunStatus where
  | queued
  | running
  | deliveryPending
  | succeeded
  | failed
  | cancelled
  | skipped
  deriving DecidableEq, Repr

inductive RunStage where
  | queued
  | backup
  | verifySource
  | compress
  | encrypt
  | checksum
  | finalize
  | pendingDelivery
  | telegramDelivery
  | cleanup
  | complete
  deriving DecidableEq, Repr

inductive DeliveryStatus where
  | pending
  | succeeded
  | skipped
  | failed
  deriving DecidableEq, Repr

inductive ArtifactKind where
  | final
  | manifest
  deriving DecidableEq, Repr

inductive Role where
  | superadmin
  | admin
  deriving DecidableEq, Repr

def activeStatuses : List RunStatus := [.queued,.running,.deliveryPending]

/-- `_TERMINAL`. -/
def terminalStatuses : List RunStatus := [.succeeded,.failed,.cancelled,.skipped]

def RunStatus.Active (status : RunStatus) : Prop := status ∈ activeStatuses

instance : DecidablePred RunStatus.Active := fun status => inferInstanceAs (Decidable (status ∈ activeStatuses))

/-- Microseconds. -/
abbrev Time := Nat

def second : Time := 1000000

/-- The name of a worker process. -/
abbrev Owner := Nat
abbrev AdminId := Nat

structure BackupRun where
  status : RunStatus
  stage : RunStage
  cancelRequested : Bool
  leaseOwner : Option Owner
  leaseExpiresAt : Option Time
  startedAt : Option Time
  finishedAt : Option Time
  updatedAt : Time
  workspacePath : Option Path
  pendingDirectory : Option Path
  failedArtifactCleanupAt : Option Time
  failedArtifactCleanedAt : Option Time
  finalFilename : Option Str
  originalSizeBytes : Option Int
  finalSizeBytes : Option Int
  finalSha256 : Option Str
  sourceMetadata : Option Str
  errorCode : Option String
  errorMessage : Option String
  deriving DecidableEq, Repr

structure BackupDelivery where
  adminId : AdminId
  status : DeliveryStatus
  attempts : Nat
  partAttempts : Nat
  nextPart : Nat
  nextAttemptAt : Option Time
  telegramFileId : Option Nat
  telegramMessageId : Option Nat
  deliveredAt : Option Time
  lastError : Option String
  deriving DecidableEq, Repr

structure BackupArtifact where
  kind : ArtifactKind
  relativePath : Str
  sizeBytes : Int
  sha256 : Str
  deriving DecidableEq, Repr

structure User where
  id : AdminId
  role : Role
  enabled : Bool
  deleted : Bool
  deriving DecidableEq, Repr

inductive Upload where
  | sent (admin : AdminId) (part : Nat)
  | acknowledged (admin : AdminId) (part : Nat)
  deriving DecidableEq, Repr

/-- Everything the tasks of all processes share. `claims` counts the successful claims and
`uploads` is the history of the transport; neither is read by any task. -/
structure World where
  now : Time
  run : BackupRun
  deliveries : List BackupDelivery
  artifacts : List BackupArtifact
  users : List User
  /-- The administrators with access to the run's profile. -/
  access : List AdminId
  spool : Path → Option Dir
  workspace : Option Posix.Tree
  claims : Nat
  uploads : List Upload
  /-- The `lease_lost` event of each execution. -/
  leaseLost : Nat → Bool

/-- What `Settings` and the run's own constants contribute. -/
structure Setup where
  os : Platform
  pendingRoot : Path
  workRoot : Path
  jobLeaseSeconds : Nat
  maxBackupRuntimeSeconds : Nat
  failedArtifactRetentionSeconds : Nat
  /-- `telegram_max_file_bytes()`. -/
  maxFileBytes : Nat
  maxFileBytes_pos : 0 < maxFileBytes
  maxAttempts : Nat
  maxAttempts_pos : 0 < maxAttempts
  retryBaseSeconds : Nat
  retryMaxSeconds : Nat
  retryMax_ge : retryBaseSeconds ≤ retryMaxSeconds
  retryJitterSeconds : Nat
  uuid : SafeText 36
  profileName : Str
  /-- The administrators in the configuration snapshot, if the run has one. -/
  snapshotAdmins : Option (List AdminId)

def Setup.workspaceRoot (c : Setup) : Path := c.workRoot ++ [c.uuid.text]

/-- An ORM object: the values last loaded or flushed, and the present attributes. -/
structure Orm where
  base : BackupRun
  cur : BackupRun
  deriving DecidableEq, Repr

def Orm.load (row : BackupRun) : Orm := ⟨row,row⟩

def Orm.dirty (run : Orm) : Bool := run.cur ≠ run.base

/-- A column is written only when its attribute has changed. -/
def column [DecidableEq α] (base cur row : α) : α := if cur = base then row else cur

@[simp] theorem column_clean [DecidableEq α] (value row : α) : column value value row = row := if_pos rfl

@[simp] theorem column_fresh [DecidableEq α] (base cur : α) : column base cur base = cur := by
  unfold column
  split
  · rename_i same
    exact same.symm
  · rfl

def Orm.flush (run : Orm) (now : Time) (row : BackupRun) : BackupRun :=
  { status := column run.base.status run.cur.status row.status
    stage := column run.base.stage run.cur.stage row.stage
    cancelRequested := column run.base.cancelRequested run.cur.cancelRequested row.cancelRequested
    leaseOwner := column run.base.leaseOwner run.cur.leaseOwner row.leaseOwner
    leaseExpiresAt := column run.base.leaseExpiresAt run.cur.leaseExpiresAt row.leaseExpiresAt
    startedAt := column run.base.startedAt run.cur.startedAt row.startedAt
    finishedAt := column run.base.finishedAt run.cur.finishedAt row.finishedAt
    updatedAt := if run.dirty then now else row.updatedAt
    workspacePath := column run.base.workspacePath run.cur.workspacePath row.workspacePath
    pendingDirectory := column run.base.pendingDirectory run.cur.pendingDirectory row.pendingDirectory
    failedArtifactCleanupAt :=
      column run.base.failedArtifactCleanupAt run.cur.failedArtifactCleanupAt row.failedArtifactCleanupAt
    failedArtifactCleanedAt :=
      column run.base.failedArtifactCleanedAt run.cur.failedArtifactCleanedAt row.failedArtifactCleanedAt
    finalFilename := column run.base.finalFilename run.cur.finalFilename row.finalFilename
    originalSizeBytes := column run.base.originalSizeBytes run.cur.originalSizeBytes row.originalSizeBytes
    finalSizeBytes := column run.base.finalSizeBytes run.cur.finalSizeBytes row.finalSizeBytes
    finalSha256 := column run.base.finalSha256 run.cur.finalSha256 row.finalSha256
    sourceMetadata := column run.base.sourceMetadata run.cur.sourceMetadata row.sourceMetadata
    errorCode := column run.base.errorCode run.cur.errorCode row.errorCode
    errorMessage := column run.base.errorMessage run.cur.errorMessage row.errorMessage }

/-- The object after a commit: nothing of it expires. -/
def Orm.flushed (run : Orm) : Orm := ⟨run.cur,run.cur⟩

/-- `session.refresh(run, ("cancel_requested", "lease_owner"))`. -/
def Orm.refreshFence (run : Orm) (row : BackupRun) : Orm :=
  let take := fun (r : BackupRun) => { r with cancelRequested := row.cancelRequested, leaseOwner := row.leaseOwner }
  ⟨take run.base,take run.cur⟩

def Orm.assign (run : Orm) (f : BackupRun → BackupRun) : Orm := ⟨run.base,f run.cur⟩

/-- A session that has just read the row writes exactly its own attributes. -/
theorem Orm.flush_fresh (run : Orm) (now : Time) (changed : run.dirty = true) :
    run.flush now run.base = { run.cur with updatedAt := now } := by
  simp [flush,changed]

/-- The delivery columns that an attempt assigns, written one by one like those of the run. -/
def flushDelivery (base cur row : BackupDelivery) : BackupDelivery :=
  { row with
    status := column base.status cur.status row.status
    attempts := column base.attempts cur.attempts row.attempts
    partAttempts := column base.partAttempts cur.partAttempts row.partAttempts
    nextPart := column base.nextPart cur.nextPart row.nextPart
    nextAttemptAt := column base.nextAttemptAt cur.nextAttemptAt row.nextAttemptAt
    telegramFileId := column base.telegramFileId cur.telegramFileId row.telegramFileId
    telegramMessageId := column base.telegramMessageId cur.telegramMessageId row.telegramMessageId
    deliveredAt := column base.deliveredAt cur.deliveredAt row.deliveredAt
    lastError := column base.lastError cur.lastError row.lastError }

def writeDelivery (base cur : BackupDelivery) (rows : List BackupDelivery) : List BackupDelivery :=
  rows.map fun row => if row.adminId = base.adminId then flushDelivery base cur row else row

end BackupTelebot
