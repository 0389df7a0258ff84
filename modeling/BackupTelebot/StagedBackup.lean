import BackupTelebot.FallibleCalls
import BackupTelebot.NativeBackups
import BackupTelebot.Pending

/-! `_stage_verified` of the GitLab helper, call by call. What a call sees of the native file is
up to whoever changes it meanwhile, so every answer is possible. Nobody else knows the random
name of the staged file. -/
namespace BackupTelebot.StagedBackup

open PyJson FallibleCalls NativeBackups

abbrev Bytes := List ℕ

structure Status where
  regular : Bool
  inode : ℕ
  size : ℤ
  mtimeNs : ℤ
  deriving DecidableEq, Repr

/-- The calls of the block that removes the staged file when one of them raises. -/
inductive CopyStep where
  | dupSource
  | openSourceStream
  | dupTarget
  | openTargetStream
  | read
  | write
  | flush
  | fsync
  | closeTargetStream
  | closeSourceStream
  | fchown
  deriving DecidableEq, Repr

inductive Call where
  | openRoot
  | openStaging
  | uuid4
  | openSource
  | statSource
  | createTarget
  | newDigest
  | copying (step : CopyStep)
  | unlinkStaged
  | closeTarget
  | statSourceAgain
  | openStaged
  | statStaged
  | newStagedDigest
  | readStaged
  | closeStaged
  | statNative
  | unlinkNative
  | closeSource
  | closeStaging
  | closeRoot
  deriving DecidableEq, Repr

/-- `taken` is how much of what is left one `os.read` of the staged file may return. -/
inductive Answer where
  | done
  | status (status : Status)
  | bytes (chunk : Bytes)
  | taken (count : ℕ)
  deriving DecidableEq, Repr

inductive Raised where
  | call (call : Call)
  | acquisitionError (message : String)
  deriving DecidableEq, Repr

structure State where
  staged : Option Bytes
  nativeRemoved : Bool
  deriving DecidableEq, Repr

abbrev Log := List (Event Call Answer)

abbrev M (α : Type) := Program Call Answer State Raised α

def perform (call : Call) : M Unit := Program.call Raised.call call >>= fun
  | .done => pure ()
  | _ => Program.stuck

def statusOf (call : Call) : M Status := Program.call Raised.call call >>= fun
  | .status status => pure status
  | _ => Program.stuck

def bytesOf (call : Call) : M Bytes := Program.call Raised.call call >>= fun
  | .bytes chunk => pure chunk
  | _ => Program.stuck

def countOf (call : Call) : M ℕ := Program.call Raised.call call >>= fun
  | .taken count => pure count
  | _ => Program.stuck

def chunkSize : ℕ := 1048576

def createTarget : M Unit := do
  perform .createTarget
  Program.modify fun s => { s with staged := some [] }

def unlinkStaged : M Unit := do
  perform .unlinkStaged
  Program.modify fun s => { s with staged := none }

/-- `os.unlink(name, dir_fd=staging_fd)`, and then the error. -/
def discard (message : String) : M Unit := do
  unlinkStaged
  Program.raise (.acquisitionError message)

/-- One turn of `_copy_hash`. What a failed write has left of its chunk is not kept apart. -/
def copyTurn (digest : Bytes) : M (Bytes ⊕ Bytes) := do
  let chunk ← bytesOf (.copying .read)
  if chunk = [] then return .inl digest
  perform (.copying .write)
  Program.modify fun s => { s with staged := s.staged.map (· ++ chunk) }
  return .inr (digest ++ chunk)

def copyHash (turns : ℕ) : M Bytes := Program.loop copyTurn turns []

def copy (turns : ℕ) : M Bytes := do
  perform (.copying .dupSource)
  perform (.copying .openSourceStream)
  let digest ← Program.tryFinally (do
      perform (.copying .dupTarget)
      perform (.copying .openTargetStream)
      Program.tryFinally (do
        let digest ← copyHash turns
        perform (.copying .flush)
        perform (.copying .fsync)
        return digest)
        (perform (.copying .closeTargetStream)))
    (perform (.copying .closeSourceStream))
  perform (.copying .fchown)
  return digest

def copyVerified (turns : ℕ) : M Bytes := do
  createTarget
  perform .newDigest
  Program.tryFinally ((copy turns).onError unlinkStaged) (perform .closeTarget)

/-- `(st_ino, st_size, st_mtime_ns)` of a regular file. -/
def Status.isExpected (status : Status) (expected : FileState) : Bool :=
  status.regular && status.inode = expected.inode && status.size = expected.size && status.mtimeNs = expected.mtimeNs

def Status.same (first second : Status) : Bool :=
  first.inode = second.inode && first.size = second.size && first.mtimeNs = second.mtimeNs

def checkBefore (expected : FileState) : M Status := do
  let before ← statusOf .statSource
  if before.isExpected expected = false then
    Program.raise (.acquisitionError "GitLab artifact changed before acquisition")
  return before

def checkAfter (before : Status) : M Unit := do
  let after ← statusOf .statSourceAgain
  if before.same after = false then discard "GitLab artifact changed during acquisition"

/-- One turn of the loop that reads the staged file: what was read, and what is left. -/
def readTurn (progress : Bytes × Bytes) : M (Bytes ⊕ Bytes × Bytes) := do
  let count ← countOf .readStaged
  let size := max 1 (min count chunkSize)
  if progress.2.take size = [] then return .inl progress.1
  return .inr (progress.1 ++ progress.2.take size,progress.2.drop size)

def readDescriptor (turns : ℕ) : M (ℤ × Bytes) := do
  perform .statStaged
  let staged ← Program.get
  let content := staged.staged.getD []
  perform .newStagedDigest
  let digest ← Program.loop readTurn turns ([],content)
  return ((content.length : ℤ),digest)

def readStaged (turns : ℕ) : M (ℤ × Bytes) := do
  perform .openStaged
  Program.tryFinally (readDescriptor turns) (perform .closeStaged)

def checkNative (expected : FileState) : M Unit := do
  let current ← statusOf .statNative
  if current.isExpected expected = false then discard "GitLab artifact changed before cleanup"

def unlinkNative : M Unit := do
  perform .unlinkNative
  Program.modify fun s => { s with nativeRemoved := true }

variable (hash : Hash)

/-- From `os.fstat(source_fd)` on. -/
def acquire (name : Str) (expected : FileState) (turns : ℕ) : M (Str × ℤ × Str) := do
  let before ← checkBefore expected
  let digest ← copyVerified turns
  checkAfter before
  let (size,stagedDigest) ← readStaged turns
  if size ≠ before.size ∨ hash.digest stagedDigest ≠ hash.digest digest then
    discard "staged GitLab artifact failed verification"
  checkNative expected
  unlinkNative
  return (name,size,hash.digest digest)

def stageVerified (name : Str) (expected : FileState) (turns : ℕ) : M (Str × ℤ × Str) := do
  perform .openRoot
  perform .openStaging
  perform .uuid4
  Program.tryFinally (do
    perform .openSource
    Program.tryFinally (acquire hash name expected turns) (perform .closeSource))
    (do
      perform .closeStaging
      perform .closeRoot)

end BackupTelebot.StagedBackup
