import BackupTelebot.Recovery

/-! All processes around one run: the executions that claims start, each with its heartbeat,
the requests of operators, and the passing of time. -/
namespace BackupTelebot

open PyJson Interleave

structure Execution where
  owner : Owner
  epoch : Nat
  deriving DecidableEq, Repr

inductive Heartbeat where
  | sleeping
  | renewing
  | ended
  deriving DecidableEq, Repr

structure System where
  sys : Sys Point Answer World Exc Unit
  execution : Nat → Option Execution
  heartbeat : Nat → Heartbeat
  /-- A cancellation of the task that has not been delivered to it yet. -/
  cancelling : Nat → Bool

namespace System

abbrev world (s : System) : World := s.sys.shared

abbrev row (s : System) : BackupRun := s.sys.shared.run

def pointOf (s : System) (t : Nat) : Option Point := s.sys.pointOf t

def withWorld (s : System) (world : World) : System := { s with sys := { s.sys with shared := world } }

end System

inductive Request where
  | retry
  | purge
  | cleanup
  | recovery
  deriving DecidableEq, Repr

def Request.program (c : Setup) : Request → Proc Unit
  | .retry => retryFailed c
  | .purge => purgeFailedArtifact c
  | .cleanup => cleanupExpired c
  | .recovery => recoverRecorded c

inductive Act where
  /-- The task performs the operation it waits at. -/
  | perform (t : Nat) (i : Answer)
  /-- The operation raises without taking effect. -/
  | fails (t : Nat) (e : Failure)
  /-- A cancellation of the task arrives. -/
  | deliver (t : Nat)
  /-- The process of the task shuts down. -/
  | stop (t : Nat)
  | crash (t : Nat)
  | poll (t : Nat) (renewalDue : Bool)
  | renew (t : Nat)
  | heartbeatFails (t : Nat)
  /-- `claim`, with the statuses of a worker that has the capacity for new builds or has not. -/
  | claim (t : Nat) (owner : Owner) (capacity : Bool)
  | claimCancel (t : Nat) (owner : Owner)
  | requestCancel
  | request (t : Nat) (r : Request)
  | setUsers (users : List User)
  | setAccess (access : List AdminId)
  | tick (duration : Time)

def claimStatuses (capacity : Bool) : List RunStatus :=
  if capacity then [.deliveryPending,.queued,.running] else [.deliveryPending]

namespace System

/-- `lease_lost.set()` and `parent.cancel()`. -/
def loseLease (s : System) (t : Nat) : System :=
  { s.withWorld { s.world with leaseLost := Function.update s.world.leaseLost t true } with
    heartbeat := Function.update s.heartbeat t .ended
    cancelling := Function.update s.cancelling t true }

/-- A worker that has claimed the run starts its execution with a heartbeat. -/
def start (s : System) (c : Setup) (t : Nat) (owner : Owner) : System :=
  { sys := { shared := { s.world.grant c owner with leaseLost := Function.update s.world.leaseLost t false }
             task := Function.update s.sys.task t (some (execute c owner t)) }
    execution := Function.update s.execution t (some ⟨owner,s.world.claims + 1⟩)
    heartbeat := Function.update s.heartbeat t .sleeping
    cancelling := Function.update s.cancelling t false }

def beats (s : System) (t : Nat) (at_ : Heartbeat) : Option Owner :=
  match s.execution t with
  | some e => if s.heartbeat t = at_ ∧ (s.pointOf t).isSome then some e.owner else none
  | none => none

def unused (s : System) (t : Nat) : Bool := (s.sys.task t).isNone && (s.execution t).isNone

def step (c : Setup) (s : System) : Act → Option System
  | .perform t i => (s.sys.advance t i).map fun sys => { s with sys := sys }
  | .fails t e => (s.sys.interrupt t (.failure e)).map fun sys => { s with sys := sys }
  | .deliver t =>
      if s.cancelling t then
        (s.sys.interrupt t .cancelled).map fun sys =>
          { s with sys := sys, cancelling := Function.update s.cancelling t false }
      else none
  | .stop t => some { s with cancelling := Function.update s.cancelling t true }
  | .crash t => some { s with sys := s.sys.kill t }
  | .poll t renewalDue =>
      match s.beats t .sleeping with
      | none => none
      | some owner =>
        if s.row.leaseOwner ≠ some owner then some (s.loseLease t)
        else if s.row.cancelRequested then
          some { s with
            heartbeat := Function.update s.heartbeat t .ended
            cancelling := Function.update s.cancelling t true }
        else if renewalDue then some { s with heartbeat := Function.update s.heartbeat t .renewing }
        else some s
  | .renew t =>
      match s.beats t .renewing with
      | none => none
      | some owner =>
        if s.row.leaseOwner = some owner then
          some { s.withWorld (s.world.renew c owner) with heartbeat := Function.update s.heartbeat t .sleeping }
        else some (s.loseLease t)
  | .heartbeatFails t => if s.heartbeat t ≠ .ended then some (s.loseLease t) else none
  | .claim t owner capacity =>
      if s.unused t && claimable (claimStatuses capacity) s.world then some (s.start c t owner) else none
  | .claimCancel t owner =>
      if s.unused t && cancelClaimable s.world then some (s.start c t owner) else none
  | .requestCancel => if s.row.status.Active then some (s.withWorld s.world.requestCancel) else none
  | .request t r => if s.unused t then some { s with sys := s.sys.spawn t (r.program c) } else none
  | .setUsers users => some (s.withWorld { s.world with users := users })
  | .setAccess access => some (s.withWorld { s.world with access := access })
  | .tick duration => some (s.withWorld { s.world with now := s.world.now + duration })

end System

/-- The row as `_enqueue` inserts it. -/
def BackupRun.enqueued (now : Time) : BackupRun :=
  { status := .queued, stage := .queued, cancelRequested := false, leaseOwner := none, leaseExpiresAt := none
    startedAt := none, finishedAt := none, updatedAt := now, workspacePath := none, pendingDirectory := none
    failedArtifactCleanupAt := none, failedArtifactCleanedAt := none, finalFilename := none
    originalSizeBytes := none, finalSizeBytes := none, finalSha256 := none, sourceMetadata := none
    errorCode := none, errorMessage := none }

/-- The row as `_record_skipped` inserts it. -/
def BackupRun.recordedSkipped (now : Time) : BackupRun :=
  { BackupRun.enqueued now with status := .skipped, stage := .complete, finishedAt := some now }

def World.fresh (run : BackupRun) (now : Time) (users : List User) (access : List AdminId) : World :=
  { now := now, run := run, deliveries := [], artifacts := [], users := users, access := access
    spool := fun _ => none, workspace := none, claims := 0, uploads := [], leaseLost := fun _ => false }

def System.quiet (world : World) : System :=
  ⟨⟨world,fun _ => none⟩,fun _ => none,fun _ => .ended,fun _ => false⟩

/-- A run that has just been recorded, before any process has looked at it. -/
def System.Initial (s : System) : Prop :=
  ∃ now users access, s = .quiet (.fresh (.enqueued now) now users access) ∨
    s = .quiet (.fresh (.recordedSkipped now) now users access)

abbrev Reached (c : Setup) (allowed : System → Act → Prop) : System → Prop :=
  Runs System.Initial (System.step c) allowed

def smallHash : Hash := ⟨fun _ => List.replicate 64 48,by simp,by simp⟩

def smallText (bound : Nat) (s : String) (safe : ∀ c ∈ str s, isSafe c = true) (short : (str s).length ≤ bound) :
    SafeText bound := ⟨str s,safe,short⟩

def smallSetup : Setup where
  os := ⟨smallHash,16,by decide⟩
  pendingRoot := [str "pending"]
  workRoot := [str "work"]
  jobLeaseSeconds := 30
  maxBackupRuntimeSeconds := 3600
  failedArtifactRetentionSeconds := 60
  maxFileBytes := 2
  maxFileBytes_pos := by decide
  maxAttempts := 2
  maxAttempts_pos := by decide
  retryBaseSeconds := 1
  retryMaxSeconds := 1
  retryMax_ge := by decide
  retryJitterSeconds := 0
  uuid := smallText 36 "uuid" (by decide) (by decide)
  profileName := str "profile"
  snapshotAdmins := none

/-- Nothing goes wrong: the source is three bytes, which make two parts. -/
def plainAnswer : Answer where
  fault := none
  metadata := ⟨[],⟨by decide,trivial⟩,by decide⟩
  nativeCompression := false
  originalSize := 3
  originalFits := by decide
  boundaries := 0
  workspace := emptyWorkspace
  artifact := ⟨[1,2,3],by decide⟩
  stamp := smallText 40 "stamp" (by decide) (by decide)
  createdAt := smallText 40 "created" (by decide) (by decide)
  extensions := smallText 20 ".tar" (by decide) (by decide)
  torn := 0
  sameDevice := true
  jitter := 0
  messageId := none
  fileId := none
  remains := none
  profileBusy := false
  crashed := false

def performs (t n : Nat) : List Act := List.replicate n (.perform t plainAnswer)

/-- One enabled superadmin, and nobody with access by assignment. -/
def smallStart : System := .quiet (.fresh (.enqueued 0) 0 [⟨1,.superadmin,true,false⟩] [])

theorem smallStart_initial : System.Initial smallStart := ⟨0,_,_,.inl rfl⟩

def System.follow (c : Setup) (acts : List Act) (s : System) : Option System := Runs.follow (System.step c) acts s

end BackupTelebot
