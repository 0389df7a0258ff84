import BackupTelebot.Worker

/-! What is done with a run outside its executions: an operator's retry and purge, the
cleanup of retained artifacts, and the recovery at the start of a worker. -/
namespace BackupTelebot

open PyJson Interleave

/-- `verified_retained_artifact`: the fields that the session holds, the artifact row and
the directory must agree. -/
def verifiedRetained (c : Setup) (row : BackupRun) (path : Path) (artifacts : List BackupArtifact)
    (spool : Path → Option Dir) : Except Failure FinalizedArtifact :=
  let refused : Except Failure FinalizedArtifact := .error (.builtin "ValueError")
  if !ownedDirectory c path then refused
  else match recoverFinalized c.os c.pendingRoot spool path c.uuid.text with
    | .error e => .error e
    | .ok none => refused
    | .ok (some (finalized,_)) =>
      match row.finalFilename, row.finalSizeBytes, row.finalSha256, artifacts.find? (·.kind = .final) with
      | some filename, some size, some sha256, some record =>
          if filename ≠ [] ∧ isFileName filename = true ∧ sha256 ≠ [] ∧ finalized.name = filename ∧
              finalized.size = size ∧ finalized.checksum = sha256 ∧
              record.relativePath = filename ∧ record.sizeBytes = size ∧ record.sha256 = sha256 then
            .ok finalized
          else refused
      | _, _, _, _ => refused

/-- `retry_failed` of a run that keeps its artifact. Without one it creates another run and
leaves this one alone. -/
def retryFailed (c : Setup) : Proc Unit := do
  let (row,loaded) ← look .retryDetails fun s => .ok (s.run,s.deliveries)
  let verified := fun (s : World) => match s.run.pendingDirectory with
    | none => false
    | some path => retryable s.run && loaded.any (·.status = .failed) &&
        (match verifiedRetained c row path s.artifacts s.spool with
          | .ok _ => true
          | .error _ => false)
  op .retryCommit
    (fun i s => if verified s && !i.profileBusy then
      { s with run := s.run.resumed s.now, deliveries := retryDeliveries loaded s.now s.deliveries } else s)
    (fun i s => if verified s && !i.profileBusy then .ok () else .error (.failure (.builtin "NotFoundError")))

/-- The removal of a verified artifact with the commit that records it. The process may die
between the two, and an interrupted removal leaves part of the directory. -/
def World.dropRetained (s : World) (c : Setup) (path : Path) (i : Answer) : World :=
  let spool := (removeOwned c path i.remains s.spool).1
  if i.crashed ∨ i.remains.isSome then { s with spool := spool }
  else { s with
    spool := spool
    run := { s.run with
      pendingDirectory := none, failedArtifactCleanedAt := some s.now, updatedAt := s.now } }

def purgeFailedArtifact (c : Setup) : Proc Unit := do
  let row ← look .purgeDetails fun s => .ok s.run
  let purgeable := fun (s : World) => match s.run.pendingDirectory with
    | none => none
    | some path =>
      if retryable s.run then
        match verifiedRetained c row path s.artifacts s.spool with
        | .ok _ => some path
        | .error _ => none
      else none
  op .purgeCommit
    (fun i s => match purgeable s with
      | some path => s.dropRetained c path i
      | none => s)
    (fun i s => match purgeable s with
      | some _ => if i.remains.isSome then .error (.failure (.builtin "OSError")) else .ok ()
      | none => .error (.failure (.builtin "NotFoundError")))

/-- One run in `cleanup_expired_failed_artifacts`, under the row lock of its query. -/
def cleanupRun (c : Setup) (i : Answer) (s : World) : World :=
  match s.run.pendingDirectory with
  | none => s
  | some path =>
    if s.run.status ≠ .failed then s
    else match s.run.failedArtifactCleanupAt with
      | none => { s with run := { s.run with
          failedArtifactCleanupAt :=
            some (s.run.finishedAt.getD s.run.updatedAt + c.failedArtifactRetentionSeconds * second)
          updatedAt := s.now } }
      | some due =>
        let refused := { s with run := { s.run with
          failedArtifactCleanupAt := some (s.now + c.failedArtifactRetentionSeconds * second)
          updatedAt := s.now } }
        if s.now < due then s
        else if !ownedDirectory c path then refused
        else if (s.spool path).isNone then
          { s with run := { s.run with
            pendingDirectory := none, failedArtifactCleanedAt := some s.now, updatedAt := s.now } }
        else match verifiedRetained c s.run path s.artifacts s.spool with
          | .error _ => refused
          | .ok _ =>
            if i.remains.isSome ∧ ¬i.crashed then
              { refused with spool := (removeOwned c path i.remains s.spool).1 }
            else s.dropRetained c path i

def cleanupExpired (c : Setup) : Proc Unit := op .cleanup (cleanupRun c) (fun _ _ => .ok ())

def recoverWorkspace (run : Orm) : Proc Orm :=
  if run.cur.workspacePath.isSome then do
    removeWorkspace .startup
    return run.assign fun r => { r with workspacePath := none }
  else return run

/-- So is the recorded pending directory of a run that has succeeded or was cancelled. -/
def recoverPending (c : Setup) (run : Orm) : Proc Orm :=
  match run.cur.pendingDirectory with
  | none => return run
  | some path =>
    if run.cur.status = .succeeded ∨ run.cur.status = .cancelled then do
      op .recoveryPending
        (fun i s => if (s.spool path).isSome then { s with spool := (removeOwned c path i.remains s.spool).1 } else s)
        (fun i s => if (s.spool path).isSome then (removeOwned c path i.remains s.spool).2 else .ok ())
      return run.assign fun r => { r with pendingDirectory := none, stage := .complete }
    else return run

/-- `recover_recorded_filesystem` at the start of a worker. -/
def recoverRecorded (c : Setup) : Proc Unit := do
  let found ← look .recoverySelect fun s =>
    .ok (if s.run.status ∈ terminalStatuses ∧ (s.run.workspacePath.isSome ∨ s.run.pendingDirectory.isSome) then
      some (Orm.load s.run) else none)
  match found with
  | none => cleanupExpired c
  | some run => do
    let run ← recoverWorkspace run
    let run ← recoverPending c run
    let _ ← commit .recoveryCommit run
    cleanupExpired c

end BackupTelebot
