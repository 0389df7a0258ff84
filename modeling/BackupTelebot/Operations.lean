import BackupTelebot.Interleaving
import BackupTelebot.Jobs

/-! The awaited operations of the worker and the operator's requests. A transaction that
locks the row, checks it and commits is one operation: nobody else can change the row
between its check and its commit. A check without a lock and the commit after it are two. -/
namespace BackupTelebot

open PyJson Interleave

inductive Phase where
  | resumed
  | rebuild
  | built
  | failing
  | cancelled
  | startup
  deriving DecidableEq, Repr

inductive Point where
  | load
  | recover
  | forgetPending
  | resumeCommit
  | removeWorkspace (phase : Phase)
  | clearWorkspacePath
  | stageRead
  | stageCommit
  | stageFenced
  | createWorkspace
  | recordWorkspace
  | boundary
  | acquire
  | persistCommit
  | transform
  | intentCommit
  | publish
  | discard
  | hashManifest
  | deliveryPending
  | fence
  | verifyArtifacts
  | liveAssigned
  | assignedAdmins
  | superadmins
  | loadDeliveries
  | createDeliveries
  | maxAttempts
  | authorize
  | skipRevoked
  | startPart
  | send
  | sendResult
  | recordFailure
  | acknowledge
  | succeeded
  | settle
  | refreshFinished
  | removeSpool
  | clearPending
  | leaseLost
  | finalizeCancel
  | removeCancelledPending
  | cancelledLoad
  | cancelledCommit
  | failLoad
  | failCommit
  | failRelease
  | retryDetails
  | retryCommit
  | purgeDetails
  | purgeCommit
  | cleanup
  | recoverySelect
  | recoveryPending
  | recoveryCommit
  deriving DecidableEq, Repr

structure Answer where
  /-- Raised after the operation has taken effect: an unacknowledged commit, a thread that
  ends before its caller's cancellation is delivered, a check that follows at once. -/
  fault : Option Exc
  metadata : Metadata
  nativeCompression : Bool
  originalSize : Nat
  originalFits : originalSize < maxSize
  /-- How often an acquisition calls its ownership check. -/
  boundaries : Nat
  workspace : Posix.Tree
  artifact : Artifact
  stamp : SafeText 40
  createdAt : SafeText 40
  extensions : SafeText 20
  torn : Nat
  sameDevice : Bool
  jitter : Nat
  messageId : Option Nat
  fileId : Option Nat
  /-- What an interrupted removal of a pending directory leaves. -/
  remains : Option Dir
  /-- Another run of the profile is active. -/
  profileBusy : Bool
  /-- The process dies between a removal and the commit that would record it. -/
  crashed : Bool

abbrev Proc (α : Type) := Prog Point Answer World Exc α

/-- An awaited operation. It may raise in place of its effect or after it. -/
def op (point : Point) (effect : Answer → World → World) (result : Answer → World → Except Exc α) : Proc α :=
  .act point (fun _ => true) effect
    (fun i s => .ret (match i.fault with
      | some e => .error e
      | none => result i s))
    (fun e => .ret (.error e))

/-- An operation that changes nothing others can see. -/
def look (point : Point) (result : World → Except Exc α) : Proc α :=
  op point (fun _ s => s) (fun _ s => result s)

/-- `except Exception`, which lets a cancellation pass. -/
def onFailure (p : Proc α) (handler : Failure → Proc α) : Proc α :=
  p.handle fun
    | .cancelled => throw .cancelled
    | .failure e => handler e

def checkFence (owner : Option Owner) (checkCancel : Bool) (row : BackupRun) : Except Exc Unit :=
  if row.leaseOwner ≠ owner then .error .leaseLost
  else if checkCancel && row.cancelRequested then .error .cancelled
  else .ok ()

/-- `_ownership_boundary`, and `_cancel_boundary` without a fence. -/
def boundary (point : Point) (owner : Option Owner) (run : Orm) : Proc (Orm × Time) :=
  look point fun s => (checkFence owner true s.run).map fun _ => (run.refreshFence s.run,s.now)

/-- A check under the row lock and the commit that releases the lock. -/
def fenced (point : Point) (owner : Option Owner) (checkCancel : Bool)
    (effect : Answer → World → World) (result : Answer → World → α) : Proc α :=
  op point
    (fun i s => match checkFence owner checkCancel s.run with
      | .ok _ => effect i s
      | .error _ => s)
    (fun i s => (checkFence owner checkCancel s.run).map fun _ => result i s)

/-- `session.commit()` with the object's changes. -/
def commit (point : Point) (run : Orm) : Proc Orm :=
  op point (fun _ s => { s with run := run.flush s.now s.run }) (fun _ _ => .ok run.flushed)

/-- `_remove_run_workspace`. -/
def removeWorkspace (phase : Phase) : Proc Unit :=
  op (.removeWorkspace phase)
    (fun _ s => { s with workspace := s.workspace.bind Posix.Tree.remove })
    (fun _ s => match s.workspace.bind Posix.Tree.remove with
      | none => .ok ()
      | some _ => .error (.failure (.builtin "PermissionError")))

def emptyWorkspace : Posix.Tree :=
  .dir .own [(str "raw",.dir .own []),(str "staging",.dir .own []),(str "final",.dir .own []),
    (str "temp",.dir .own [])]

def createWorkspace : Proc Unit :=
  op .createWorkspace
    (fun _ s => { s with workspace := some (s.workspace.getD emptyWorkspace) })
    (fun _ s => match s.workspace with
      | none => .ok ()
      | some _ => .error (.failure (.builtin "FileExistsError")))

/-- `validate_owned_directory` of a path that is no link. -/
def ownedDirectory (c : Setup) (path : Path) : Bool :=
  path.dropLast.dropLast = c.pendingRoot && ownedName c.uuid.text (pathName path) && pathName path.dropLast ≠ []

/-- `remove_owned_directory`, with what it leaves of the directory and what it raises. -/
def removeOwned (c : Setup) (path : Path) (remains : Option Dir) (spool : Path → Option Dir) :
    (Path → Option Dir) × Except Exc Unit :=
  if !ownedDirectory c path then (spool,.error (.failure (.builtin "ValueError")))
  else match spool path, remains with
    | none, _ => (spool,.error (.failure (.builtin "FileNotFoundError")))
    | some _, none => (Function.update spool path none,.ok ())
    | some _, some left => (Function.update spool path (some left),.error (.failure (.builtin "OSError")))

/-- `recover_finalized` in a thread. -/
def recover (c : Setup) (path : Path) : Proc (Option (FinalizedArtifact × Json)) :=
  look .recover fun s =>
    match recoverFinalized c.os c.pendingRoot s.spool path c.uuid.text with
    | .ok found => .ok found
    | .error e => .error (.failure e)

def manifestBytes (spool : Path → Option Dir) (path : Path) : Option (List Nat) :=
  match (spool path).bind (fun d => d manifestName) with
  | some (.plain (.file content _)) => some content
  | _ => none

/-- Python's default resolution of a missing file. -/
def notFound : Exc := .failure (.builtin "FileNotFoundError")

end BackupTelebot
