import BackupTelebot.RunRecords

/-! The statements of `RunService` on one run. Each is a single conditional update in a
transaction of its own, so it is one change of the shared state. -/
namespace BackupTelebot

def BackupDelivery.due (delivery : BackupDelivery) (now : Time) : Bool :=
  delivery.status = .pending && delivery.nextAttemptAt.all (fun due => decide (due ≤ now))

/-- `or_(lease_owner.is_(None), lease_expires_at < now)`. -/
def leaseFree (run : BackupRun) (now : Time) : Bool :=
  run.leaseOwner.isNone || run.leaseExpiresAt.any (fun expiry => decide (expiry < now))

/-- The condition under which `claim` takes the run. -/
def claimable (statuses : List RunStatus) (s : World) : Bool :=
  statuses.contains s.run.status && !s.run.cancelRequested && leaseFree s.run s.now &&
    (s.run.status ≠ .deliveryPending || s.deliveries.isEmpty || s.deliveries.any (·.due s.now))

/-- The condition under which `claim_cancel_requested` takes the run. -/
def cancelClaimable (s : World) : Bool :=
  activeStatuses.contains s.run.status && s.run.cancelRequested && leaseFree s.run s.now

/-- The update of both claims. -/
def World.grant (s : World) (c : Setup) (owner : Owner) : World :=
  { s with
    run := { s.run with
      leaseOwner := some owner
      leaseExpiresAt := some (s.now + c.jobLeaseSeconds * second)
      updatedAt := s.now }
    claims := s.claims + 1 }

/-- `finalize_cancel_requested`, when its condition holds. -/
def finalizable (owner : Owner) (run : BackupRun) : Bool :=
  activeStatuses.contains run.status && run.cancelRequested && run.leaseOwner = some owner

def BackupRun.cancelled (run : BackupRun) (now : Time) : BackupRun :=
  { run with
    status := .cancelled
    stage := .complete
    finishedAt := some now
    leaseOwner := none
    leaseExpiresAt := none
    errorCode := some "CANCELLED"
    errorMessage := some "run cancelled"
    updatedAt := now }

def World.finalizeCancelRequested (s : World) (owner : Owner) : World :=
  if finalizable owner s.run then { s with run := s.run.cancelled s.now } else s

structure CancellationCleanup where
  workspacePath : Option Path
  pendingDirectory : Option Path

/-- `renew`, when the owner still holds the lease. -/
def World.renew (s : World) (c : Setup) (owner : Owner) : World :=
  if s.run.leaseOwner = some owner then
    { s with run := { s.run with
      leaseExpiresAt := some (s.now + c.jobLeaseSeconds * second)
      updatedAt := s.now } }
  else s

/-- `request_cancel` of an active run. A queued run that nobody holds is cancelled at once. -/
def World.requestCancel (s : World) : World :=
  let requested := { s.run with cancelRequested := true, updatedAt := s.now }
  { s with run :=
    if s.run.status = .queued ∧ s.run.leaseOwner = none then
      { requested with
        status := .cancelled
        stage := .complete
        finishedAt := some s.now
        leaseExpiresAt := none
        errorCode := some "CANCELLED"
        errorMessage := some "run cancelled before execution" }
    else requested }

/-- What `retry_failed` requires of the row it locks. -/
def retryable (run : BackupRun) : Bool := run.status = .failed && run.leaseOwner.isNone

/-- The conditional update of `retry_failed`. -/
def BackupRun.resumed (run : BackupRun) (now : Time) : BackupRun :=
  { run with
    status := .deliveryPending
    stage := .pendingDelivery
    finishedAt := none
    failedArtifactCleanupAt := none
    errorCode := none
    errorMessage := none
    cancelRequested := false
    updatedAt := now }

def BackupDelivery.retried (delivery : BackupDelivery) (now : Time) : BackupDelivery :=
  { delivery with
    status := .pending
    attempts := 0
    partAttempts := 0
    nextAttemptAt := some now
    lastError := none }

/-- The deliveries that were failed when the session read them, put back to pending. -/
def retryDeliveries (loaded : List BackupDelivery) (now : Time) (rows : List BackupDelivery) :
    List BackupDelivery :=
  (loaded.filter (·.status = .failed)).foldl (fun rows delivery => writeDelivery delivery (delivery.retried now) rows)
    rows

end BackupTelebot
