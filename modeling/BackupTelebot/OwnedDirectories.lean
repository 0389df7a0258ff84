import BackupTelebot.LinkedFiles
import BackupTelebot.PendingRules
import BackupTelebot.RunRecords

/-! What the application deletes below its pending root, and for which rows of the run table.
The recorded paths are any texts, and the file system is any. -/
namespace BackupTelebot.Deletion

open PyJson Posix

structure Host where
  os : Platform
  /-- The working directory. -/
  cwd : Location
  pendingRoot : PurePosix.Path
  workRoot : PurePosix.Path
  failedArtifactRetentionSeconds : Nat
  /-- How long the resolution of a path may take. -/
  turns : Nat
  /-- What an interrupted removal of a directory leaves there. -/
  left : Location → Location → Bool

structure ArtifactRecord where
  relativePath : Str
  sizeBytes : Int
  sha256 : Str
  deriving DecidableEq

/-- A row of the run table, with its artifact of kind `FINAL`. -/
structure RunRow where
  id : Nat
  uuid : Str
  status : RunStatus
  stage : RunStage
  leaseOwner : Option Owner
  cancelRequested : Bool
  workspacePath : Option Str
  pendingDirectory : Option Str
  finishedAt : Option Time
  updatedAt : Time
  failedArtifactCleanupAt : Option Time
  failedArtifactCleanedAt : Option Time
  finalFilename : Option Str
  finalSizeBytes : Option Int
  finalSha256 : Option Str
  artifact : Option ArtifactRecord
  deriving DecidableEq

def valueError : Failure := .builtin "ValueError"
def osError : Failure := .builtin "OSError"

/-- `if not condition: raise error`. -/
def require (condition : Bool) (error : Failure) : Except Failure Unit := if condition then .ok () else .error error

/-- Otherwise the system calls raise a `ValueError`. -/
def encodable (path : PurePosix.Path) : Bool := path.names.all fun name => name.all fsEncodable

def absolute (place : Location) : PurePosix.Path := ⟨.single,place⟩

section Paths

variable (h : Host) (fs : FileSystem)

def start (path : PurePosix.Path) : Location := if path.isAbsolute then [] else h.cwd

def lstat (path : PurePosix.Path) : Except Errno Object := fs.status false (start h path) path.names

def exists_ (path : PurePosix.Path) : Bool :=
  encodable path && match fs.status true (start h path) path.names with
    | .ok _ => true
    | .error _ => false

/-- `Path.resolve`. A relative path needs the working directory. -/
def resolve (path : PurePosix.Path) : Except Failure Location :=
  if !encodable path then .error valueError
  else if fs.entry (start h path) ≠ some .dir then .error osError
  else match fs.realpath h.turns (start h path) path.names with
    | some place => .ok place
    | none => .error osError

/-- An object as the directory's reader meets it. -/
def viewed (place : Location) (name : Str) : Object → Entry
  | .file content readable => .plain (.file content readable)
  | .dir => .plain .dir
  | .special => .plain .special
  | .link _ => .link (match fs.status true place [name] with
      | .ok (.file content readable) => .plain (.file content readable)
      | .ok .dir => .plain .dir
      | .ok .special => .plain .special
      | _ => .broken)

def directoryAt (path : Location) : Dir :=
  match fs.walk true FileSystem.maxLinks [] path with
  | .error _ => fun _ => none
  | .ok (place,_) => fun name => (fs.entry (place ++ [name])).map (viewed fs place name)

end Paths

def isLowerHex (c : Nat) : Bool := decide (48 ≤ c ∧ c ≤ 57) || decide (97 ≤ c ∧ c ≤ 102)

/-- `str(uuid.UUID(value)) == value`. -/
def isCanonicalUuid (value : Str) : Bool :=
  decide (value.length = 36) && value.zipIdx.all fun (c,i) =>
    if i = 8 ∨ i = 13 ∨ i = 18 ∨ i = 23 then c == 45 else isLowerHex c

def canonicalUuid (value : Str) : Except Failure Str := if isCanonicalUuid value then .ok value else .error valueError

section Workspace

variable (h : Host) (fs : FileSystem)

def ownedPath (root : PurePosix.Path) (runUuid : Str) : Except Failure Location := do
  let root ← resolve h fs root
  let name ← canonicalUuid runUuid
  return root ++ [name]

def rmtree (path : Location) : FileSystem × Except Failure Unit :=
  if (fs.rmtree (h.left path) path).2 then ((fs.rmtree (h.left path) path).1,.ok ())
  else ((fs.rmtree (h.left path) path).1,.error osError)

def removeWorkspace (root : PurePosix.Path) (runUuid : Str) : FileSystem × Except Failure Unit :=
  match ownedPath h fs root runUuid with
  | .error e => (fs,.error e)
  | .ok path => if exists_ h fs (absolute path) then rmtree h fs path else (fs,.ok ())

/-- A missing path is let pass. -/
def checkDirectory (path : PurePosix.Path) : Except Failure Unit :=
  if !encodable path then .error valueError
  else match lstat h fs path with
    | .ok .dir | .error .noEntry => .ok ()
    | .ok _ => .error valueError
    | .error _ => .error osError

def validateOwnedDirectory (root path : PurePosix.Path) (runUuid : Str) : Except Failure Location := do
  checkDirectory h fs path
  let resolvedRoot ← resolve h fs root
  let resolved ← resolve h fs path
  require (resolved.dropLast.dropLast = resolvedRoot) valueError
  let runUuid ← canonicalUuid runUuid
  require (ownedName runUuid (pathName resolved) && pathName resolved.dropLast ≠ []) valueError
  return resolved

def removeOwnedDirectory (root path : PurePosix.Path) (runUuid : Str) : FileSystem × Except Failure Unit :=
  match validateOwnedDirectory h fs root path runUuid with
  | .error e => (fs,.error e)
  | .ok resolved =>
    match rmtree h fs resolved with
    | (after,.error e) => (after,.error e)
    | (after,.ok ()) => (after.rmdir resolved.dropLast,.ok ())

end Workspace

section FailedArtifacts

variable (h : Host) (fs : FileSystem)

/-- `recover_finalized`, without the metadata. -/
def recoverFinalized (directory : Location) (runUuid : Str) : Except Failure (Option FinalizedArtifact) :=
  if !exists_ h fs (absolute directory) then .ok none
  else do
    let resolved ← resolve h fs (absolute directory)
    let root ← resolve h fs h.pendingRoot
    require (resolved.dropLast.dropLast = root && ownedName runUuid (pathName resolved)) invalidPath
    let (finalized,_) ← recoverDirectory h.os resolved (directoryAt fs resolved) runUuid
    return some finalized

def agrees (run : RunRow) (finalized : FinalizedArtifact) : Bool :=
  match run.finalFilename, run.finalSizeBytes, run.finalSha256, run.artifact with
  | some filename, some size, some sha256, some record =>
      filename ≠ [] && isFileName filename && sha256 ≠ [] && finalized.name = filename && finalized.size = size &&
        finalized.checksum = sha256 && record.relativePath = filename && record.sizeBytes = size &&
        record.sha256 = sha256
  | _, _, _, _ => false

def verifiedRetainedArtifact (run : RunRow) : Except Failure FinalizedArtifact :=
  match run.pendingDirectory with
  | none => .error valueError
  | some pending => do
    let owned ← validateOwnedDirectory h fs h.pendingRoot (PurePosix.parse pending) run.uuid
    require (exists_ h fs (absolute owned)) valueError
    match ← recoverFinalized h fs owned run.uuid with
    | none => .error valueError
    | some finalized => do
      require (agrees run finalized) valueError
      return finalized

def removeVerifiedRetainedArtifact (run : RunRow) : FileSystem × Except Failure Unit :=
  match verifiedRetainedArtifact h fs run with
  | .error e => (fs,.error e)
  | .ok finalized => removeOwnedDirectory h fs h.pendingRoot (absolute finalized.directory) run.uuid

end FailedArtifacts

section Recovery

variable (h : Host)

/-- The query of `cleanup_expired_failed_artifacts`; rows that others hold are skipped. -/
def selected (now : Time) (locked : Nat → Bool) (run : RunRow) : Bool :=
  run.status = .failed && run.pendingDirectory.isSome && run.failedArtifactCleanupAt.all (· ≤ now) && !locked run.id

def retentionEnd (run : RunRow) : Time :=
  run.finishedAt.getD run.updatedAt + h.failedArtifactRetentionSeconds * second

def cleaned (now : Time) (run : RunRow) : RunRow :=
  { run with pendingDirectory := none, failedArtifactCleanedAt := some now }

def deferred (now : Time) (run : RunRow) : RunRow :=
  { run with failedArtifactCleanupAt := some (now + h.failedArtifactRetentionSeconds * second) }

/-- The body of the loop, for a selected row. -/
def cleanupFailed (now : Time) (fs : FileSystem) (run : RunRow) : FileSystem × RunRow :=
  match run.pendingDirectory, run.failedArtifactCleanupAt with
  | none, _ => (fs,run)
  | some _, none => (fs,{ run with failedArtifactCleanupAt := some (retentionEnd h run) })
  | some pending, some due =>
    if now < due then (fs,run)
    else match validateOwnedDirectory h fs h.pendingRoot (PurePosix.parse pending) run.uuid with
      | .error _ => (fs,deferred h now run)
      | .ok owned =>
        if !exists_ h fs (absolute owned) then (fs,cleaned now run)
        else match removeVerifiedRetainedArtifact h fs run with
          | (after,.error _) => (after,deferred h now run)
          | (after,.ok ()) => (after,cleaned now run)

def sweep (each : FileSystem → RunRow → FileSystem × RunRow) : FileSystem → List RunRow → FileSystem × List RunRow
  | fs, [] => (fs,[])
  | fs, run :: rest =>
      let (fs,run) := each fs run
      let (fs,rest) := sweep each fs rest
      (fs,run :: rest)

def cleanupExpiredFailedArtifacts (now : Time) (locked : Nat → Bool) (fs : FileSystem) (runs : List RunRow) :
    FileSystem × List RunRow :=
  sweep (fun fs run => if selected now locked run then cleanupFailed h now fs run else (fs,run)) fs runs

/-- `if value`, for an optional text. -/
def truthy (value : Option Str) : Option Str := value.filter (· ≠ [])

/-- The first half of the loop body in `recover_recorded_filesystem`. -/
def recoverWorkspace (fs : FileSystem) (run : RunRow) : FileSystem × Except Failure RunRow :=
  match truthy run.workspacePath with
  | none => (fs,.ok run)
  | some _ =>
    match removeWorkspace h fs h.workRoot run.uuid with
    | (after,.error e) => (after,.error e)
    | (after,.ok ()) => (after,.ok { run with workspacePath := none })

def recoverPending (fs : FileSystem) (run : RunRow) : FileSystem × Except Failure RunRow :=
  match truthy run.pendingDirectory with
  | none => (fs,.ok run)
  | some pending =>
    let finished := { run with pendingDirectory := none, stage := .complete }
    if run.status ≠ .succeeded ∧ run.status ≠ .cancelled then (fs,.ok run)
    else if exists_ h fs (PurePosix.parse pending) then
      match removeOwnedDirectory h fs h.pendingRoot (PurePosix.parse pending) run.uuid with
      | (after,.error e) => (after,.error e)
      | (after,.ok ()) => (after,.ok finished)
    else (fs,.ok finished)

def recoverRun (fs : FileSystem) (run : RunRow) : FileSystem × Except Failure RunRow :=
  if run.status ∈ terminalStatuses then
    match recoverWorkspace h fs run with
    | (after,.error e) => (after,.error e)
    | (after,.ok run) => recoverPending h after run
  else (fs,.ok run)

/-- The loop over the terminal runs. An exception ends it. -/
def recoverRuns : FileSystem → List RunRow → FileSystem × Except Failure (List RunRow)
  | fs, [] => (fs,.ok [])
  | fs, run :: rest =>
    match recoverRun h fs run with
    | (fs,.error e) => (fs,.error e)
    | (fs,.ok run) =>
      match recoverRuns fs rest with
      | (fs,.error e) => (fs,.error e)
      | (fs,.ok rest) => (fs,.ok (run :: rest))

/-- Nothing is committed after an exception. -/
def recoverRecordedFilesystem (now : Time) (locked : Nat → Bool) (fs : FileSystem) (runs : List RunRow) :
    FileSystem × List RunRow :=
  match recoverRuns h fs runs with
  | (after,.error _) => (after,runs)
  | (after,.ok runs) => cleanupExpiredFailedArtifacts h now locked after runs

end Recovery

section Runs

variable (h : Host)

def RunRow.cancellable (owner : Owner) (run : RunRow) : Bool :=
  decide run.status.Active && run.cancelRequested && run.leaseOwner = some owner

def cancelledRow (now : Time) (run : RunRow) : RunRow :=
  { run with status := .cancelled, stage := .complete, finishedAt := some now, leaseOwner := none, updatedAt := now }

/-- `_clear_cancelled_paths`. -/
def clearedPaths (workspaceCleaned pendingCleaned : Bool) (run : RunRow) : RunRow :=
  { run with
    workspacePath := if workspaceCleaned then none else run.workspacePath
    pendingDirectory := if pendingCleaned then none else run.pendingDirectory }

def isOk {α : Type} : Except Failure α → Bool
  | .ok _ => true
  | .error _ => false

def cancelWorkspace (fs : FileSystem) (run : RunRow) : FileSystem × Bool :=
  match run.workspacePath with
  | none => (fs,true)
  | some _ => ((removeWorkspace h fs h.workRoot run.uuid).1,isOk (removeWorkspace h fs h.workRoot run.uuid).2)

def cancelPending (fs : FileSystem) (run : RunRow) : FileSystem × Bool :=
  match run.pendingDirectory with
  | none => (fs,true)
  | some pending =>
    if exists_ h fs (PurePosix.parse pending) then
      ((removeOwnedDirectory h fs h.pendingRoot (PurePosix.parse pending) run.uuid).1,
        isOk (removeOwnedDirectory h fs h.pendingRoot (PurePosix.parse pending) run.uuid).2)
    else (fs,true)

/-- `_finalize_cancel_requested`, for the row that its update found. -/
def finalizeCancelRequested (now : Time) (fs : FileSystem) (run : RunRow) : FileSystem × RunRow :=
  let (fs,workspaceCleaned) := cancelWorkspace h fs run
  let (fs,pendingCleaned) := cancelPending h fs run
  (fs,clearedPaths workspaceCleaned pendingCleaned (cancelledRow now run))

def RunRow.deliverable (owner : Owner) (run : RunRow) : Bool :=
  run.status = .deliveryPending && !run.cancelRequested && run.leaseOwner = some owner

def succeededRow (now : Time) (run : RunRow) : RunRow :=
  { run with
    status := .succeeded, stage := .cleanup, finishedAt := some now, leaseOwner := none
    failedArtifactCleanupAt := none, updatedAt := now }

/-- The end of `deliver`, when every recipient has every part. -/
def completeDelivery (now : Time) (fs : FileSystem) (run : RunRow) : FileSystem × RunRow :=
  match run.pendingDirectory with
  | none => (fs,succeededRow now run)
  | some pending =>
    match removeOwnedDirectory h fs h.pendingRoot (PurePosix.parse pending) run.uuid with
    | (after,.error _) => (after,succeededRow now run)
    | (after,.ok ()) => (after,{ succeededRow now run with pendingDirectory := none, stage := .complete })

def RunRow.purgeable (run : RunRow) : Bool :=
  run.status = .failed && run.leaseOwner.isNone && run.pendingDirectory.isSome

def purgeFailedArtifact (now : Time) (fs : FileSystem) (run : RunRow) : FileSystem × RunRow :=
  match removeVerifiedRetainedArtifact h fs run with
  | (after,.error _) => (after,run)
  | (after,.ok ()) => (after,cleaned now run)

end Runs

structure World where
  fs : FileSystem
  runs : List RunRow

inductive Operation where
  | retention (now : Time) (locked : Nat → Bool)
  | purge (isSuperadmin : Bool) (id : Nat) (now : Time)
  | cancellation (id : Nat) (owner : Owner) (now : Time)
  | delivery (id : Nat) (owner : Owner) (now : Time)
  | startup (now : Time) (locked : Nat → Bool)

def onRow (id : Nat) (ready : RunRow → Bool) (work : FileSystem → RunRow → FileSystem × RunRow) (w : World) : World :=
  let (fs,runs) := sweep (fun fs run => if run.id = id ∧ ready run then work fs run else (fs,run)) w.fs w.runs
  ⟨fs,runs⟩

def perform (h : Host) (operation : Operation) (w : World) : World :=
  match operation with
  | .retention now locked =>
      let (fs,runs) := cleanupExpiredFailedArtifacts h now locked w.fs w.runs
      ⟨fs,runs⟩
  | .purge isSuperadmin id now => onRow id (fun run => isSuperadmin && run.purgeable) (purgeFailedArtifact h now) w
  | .cancellation id owner now => onRow id (RunRow.cancellable owner) (finalizeCancelRequested h now) w
  | .delivery id owner now => onRow id (RunRow.deliverable owner) (completeDelivery h now) w
  | .startup now locked =>
      let (fs,runs) := recoverRecordedFilesystem h now locked w.fs w.runs
      ⟨fs,runs⟩

end BackupTelebot.Deletion
