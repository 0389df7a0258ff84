import BackupTelebot.Delivery

/-! `PipelineRunner.execute`: the build with its stages, the resumption of an interrupted
publication, and the two ways in which an execution that raises is brought to an end.

A deadline that passes while the build waits ends that wait with `BACKUP_TIMEOUT`, like any
other failure there; only the check at the start of a build is a step of its own. -/
namespace BackupTelebot

open PyJson Interleave

/-- `_stage`. With unwritten attributes the refresh flushes them first, so that the row is
locked from the check to the commit; otherwise check and commit are apart. -/
def stage (owner : Owner) (run : Orm) (next : RunStage) : Proc Orm :=
  if run.dirty then
    fenced .stageFenced (some owner) true
      (fun _ s => { s with run :=
        ((run.refreshFence s.run).assign fun r => { r with stage := next }).flush s.now s.run })
      (fun _ s => ((run.refreshFence s.run).assign fun r => { r with stage := next }).flushed)
  else do
    let (run,_) ← boundary .stageRead (some owner) run
    commit .stageCommit (run.assign fun r => { r with stage := next })

structure SourceArtifact where
  metadata : Metadata
  nativeCompression : Bool
  originalSize : Nat
  originalFits : originalSize < maxSize

/-- The ownership checks that an acquisition makes on its way. -/
def ownershipChecks (owner : Owner) : Nat → Orm → Proc Orm
  | 0, run => return run
  | n + 1, run => do
      let (run,_) ← boundary .boundary (some owner) run
      ownershipChecks owner n run

def acquire (owner : Owner) (run : Orm) : Proc (Orm × SourceArtifact) := do
  let (checks,source) ← op .acquire (fun i s => { s with workspace := some i.workspace })
    (fun i _ => .ok (i.boundaries,(⟨i.metadata,i.nativeCompression,i.originalSize,i.originalFits⟩ : SourceArtifact)))
  let run ← ownershipChecks owner checks run
  return (run,source)

def persistAcquisition (owner : Owner) (run : Orm) (source : SourceArtifact) : Proc Orm := do
  let (run,_) ← boundary .boundary (some owner) run
  commit .persistCommit (run.assign fun r => { r with
    sourceMetadata := some source.metadata.json.dump
    originalSizeBytes := some source.originalSize
    stage := .verifySource })

/-- Compression or encryption; the answer holds the artifact and the moment that names it. -/
def transform : Proc (Artifact × SafeText 40 × SafeText 40 × SafeText 20) :=
  op .transform (fun i s => { s with workspace := some i.workspace })
    (fun i _ => .ok (i.artifact,i.stamp,i.createdAt,i.extensions))

def stepEffect (path : Path) (step : FsStep) (s : World) : World :=
  { s with spool := Function.update s.spool path (step.apply (s.spool path)) }

/-- The filesystem steps after the directory was made. -/
def runSteps (path : Path) : List FsStep → Proc Unit
  | [] => return ()
  | step :: rest => do
      op .publish (fun _ s => stepEffect path step s)
        (fun _ s => if (s.spool path).isSome then .ok () else .error notFound)
      runSteps path rest

/-- `shutil.rmtree` of the unfinished directory. -/
def discard (path : Path) : Proc Unit :=
  op .discard (fun i s => { s with spool := Function.update s.spool path ((s.spool path).bind fun _ => i.remains) })
    (fun i _ => if i.remains.isSome then .error (.failure (.builtin "OSError")) else .ok ())

/-- `finalize_artifact` in a thread. Whatever stops it once the directory is made removes
the directory again. -/
def finalizeArtifact (c : Setup) (p : Publication) : Proc FinalizedArtifact := do
  let path := p.directory c.pendingRoot
  let (torn,sameDevice) ← op .publish
    (fun _ s => if (s.spool path).isSome then s else stepEffect path .mkdir s)
    (fun i s => if (s.spool path).isSome then .error (.failure (.builtin "FileExistsError"))
      else .ok (i.torn,i.sameDevice))
  if !sameDevice then do
    discard path
    throw (.pipeline "NON_ATOMIC_SPOOL")
  else do
    (runSteps path ((p.steps c.os c.maxFileBytes torn).drop 1)).handle fun e => do
      discard path
      throw e
    return p.finalized c.os c.pendingRoot c.maxFileBytes

def artifactRows (c : Setup) (filename : Str) (size : Int) (sha256 : Str) (manifest : List Nat) :
    List BackupArtifact :=
  [⟨.final,filename,size,sha256⟩,⟨.manifest,manifestName,manifest.length,c.os.hash.digest manifest⟩]

/-- Of these rows, the ones whose kind the run does not have yet. -/
def missingRows (present rows : List BackupArtifact) : List BackupArtifact :=
  rows.filter fun row => !present.any (·.kind = row.kind)

/-- The rows that a resumption adds. The manifest is measured only for a row of its own. -/
def resumedRows (c : Setup) (finalized : FinalizedArtifact) (s : World) : Option (List BackupArtifact) :=
  if s.artifacts.any (·.kind = .manifest) then
    some (missingRows s.artifacts [⟨.final,finalized.name,finalized.size,finalized.checksum⟩])
  else (manifestBytes s.spool finalized.directory).map fun manifest =>
    missingRows s.artifacts (artifactRows c finalized.name finalized.size finalized.checksum manifest)

def BackupRun.resumedFrom (run : BackupRun) (finalized : FinalizedArtifact) (metadata : Json) : BackupRun :=
  { run with
    finalFilename := some finalized.name
    originalSizeBytes := finalized.originalSizeBytes.or run.originalSizeBytes
    finalSizeBytes := some finalized.size
    finalSha256 := some finalized.checksum
    sourceMetadata := some metadata.dump
    status := .deliveryPending
    stage := .pendingDelivery }

/-- The commit of a resumption: no ownership is checked. -/
def resumeCommit (c : Setup) (run : Orm) (finalized : FinalizedArtifact) : Proc Orm :=
  op .resumeCommit
    (fun _ s => match resumedRows c finalized s with
      | none => s
      | some added => { s with run := run.flush s.now s.run, artifacts := s.artifacts ++ added })
    (fun _ s => match resumedRows c finalized s with
      | none => .error notFound
      | some _ => .ok run.flushed)

/-- `_resume_finalized`. The result says whether the build is done, and when it was asked. -/
def resumeFinalized (c : Setup) (run : Orm) (now : Time) : Proc (Bool × Orm × Time) :=
  match run.cur.pendingDirectory with
  | none => return (false,run,now)
  | some path => do
    match ← recover c path with
    | none => do
        let run := run.assign fun r => { r with pendingDirectory := none, finalFilename := none }
        op .forgetPending (fun _ s => { s with run := run.flush s.now s.run })
          (fun _ s => .ok (false,run.flushed,s.now))
    | some (finalized,metadata) =>
      match finalized.originalSizeBytes, run.cur.originalSizeBytes with
      | some found, some recorded =>
          if found ≠ recorded then throw (.pipeline "INVALID_MANIFEST")
          else resume finalized metadata
      | _, _ => resume finalized metadata
where
  resume (finalized : FinalizedArtifact) (metadata : Json) : Proc (Bool × Orm × Time) := do
    let run ← resumeCommit c (run.assign (·.resumedFrom finalized metadata)) finalized
    removeWorkspace .resumed
    let run ← commit .clearWorkspacePath (run.assign fun r => { r with workspacePath := none })
    return (true,run,now)

/-- The last commit of a build, under the row lock that its flush has taken. -/
def deliveryPendingCommit (c : Setup) (owner : Owner) (run : Orm) (finalized : FinalizedArtifact)
    (manifest : List Nat) : Proc Orm := do
  let added := artifactRows c finalized.artifact finalized.size finalized.checksum manifest
  let (run,clash) ← fenced .deliveryPending (some owner) true
    (fun _ s => if missingRows s.artifacts added ≠ added then s else
      { s with run := (run.refreshFence s.run).flush s.now s.run, artifacts := s.artifacts ++ added })
    (fun _ s => ((run.refreshFence s.run).flushed,decide (missingRows s.artifacts added ≠ added)))
  if clash then throw (.failure (.builtin "IntegrityError")) else return run

def BackupRun.finalizedAs (run : BackupRun) (finalized : FinalizedArtifact) : BackupRun :=
  { run with
    pendingDirectory := some finalized.directory
    finalFilename := some finalized.artifact
    finalSizeBytes := some finalized.size
    finalSha256 := some finalized.checksum
    status := .deliveryPending
    stage := .pendingDelivery }

def Metadata.skipSecondary (metadata : Metadata) : Metadata where
  fields := assign (str "secondary_compression_skipped") (.bool true) metadata.fields
  encodable := encodable_assign metadata.encodable (strOk_of_ascii (by decide)) trivial
  shallow := depth_assign_le metadata.shallow (Nat.zero_le _)

/-- From the empty workspace to the artifact that will be published. -/
def prepare (c : Setup) (owner : Owner) (run : Orm) : Proc (Orm × Publication) := do
  let run ← stage owner run .backup
  removeWorkspace .rebuild
  createWorkspace
  let run ← commit .recordWorkspace (run.assign fun r => { r with workspacePath := some c.workspaceRoot })
  let (run,source) ← acquire owner run
  let run ← persistAcquisition owner run source
  let run ← stage owner run .compress
  let metadata := if source.nativeCompression then source.metadata.skipSecondary else source.metadata
  let run := if source.nativeCompression then
    run.assign fun r => { r with sourceMetadata := some metadata.json.dump } else run
  let _ ← transform
  let run ← stage owner run .encrypt
  let (artifact,stamp,createdAt,extensions) ← transform
  let run ← stage owner run .checksum
  let run ← stage owner run .finalize
  return (run,⟨c.uuid,c.profileName,stamp,createdAt,extensions,metadata,artifact,source.originalSize,
    source.originalFits⟩)

/-- From the recorded intention to the commit that makes the run deliverable. -/
def publish (c : Setup) (owner : Owner) (run : Orm) (p : Publication) : Proc Orm := do
  let run ← commit .intentCommit (run.assign fun r => { r with
    pendingDirectory := some (p.directory c.pendingRoot), finalFilename := some p.filename })
  let finalized ← finalizeArtifact c p
  let (run,_) ← boundary .boundary (some owner) run
  let run := run.assign (·.finalizedAs finalized)
  let manifest ← look .hashManifest fun s => match manifestBytes s.spool finalized.directory with
    | some manifest => .ok manifest
    | none => .error notFound
  let run ← deliveryPendingCommit c owner run finalized manifest
  removeWorkspace .built
  commit .clearWorkspacePath (run.assign fun r => { r with workspacePath := none })

def build (c : Setup) (owner : Owner) (run : Orm) (now : Time) : Proc Orm := do
  let (resumed,run,now) ← resumeFinalized c run now
  if resumed then return run
  else do
    let run := run.assign fun r => { r with status := .running, startedAt := r.startedAt.or (some now) }
    let (run,p) ← prepare c owner run
    publish c owner run p

def clearCancelledPaths (cleanup : CancellationCleanup) (workspaceCleaned pendingCleaned : Bool) : Proc Unit := do
  let found ← look .cancelledLoad fun s =>
    .ok (if s.run.status = .cancelled then some (Orm.load s.run) else none)
  match found with
  | none => return ()
  | some run => do
    let _ ← commit .cancelledCommit (run.assign fun r => { r with
      workspacePath :=
        if workspaceCleaned ∧ r.workspacePath = cleanup.workspacePath then none else r.workspacePath
      pendingDirectory :=
        if pendingCleaned ∧ r.pendingDirectory = cleanup.pendingDirectory then none else r.pendingDirectory })
    return ()

/-- The removal of a cancelled run's pending directory, if there is one. -/
def removeCancelledPending (c : Setup) (path : Path) : Proc Unit :=
  op .removeCancelledPending
    (fun i s => if (s.spool path).isSome then { s with spool := (removeOwned c path i.remains s.spool).1 } else s)
    (fun i s => if (s.spool path).isSome then (removeOwned c path i.remains s.spool).2 else .ok ())

def finalizeCancelRequested (c : Setup) (owner : Owner) : Proc Bool := do
  let found ← op .finalizeCancel (fun _ s => s.finalizeCancelRequested owner)
    (fun _ s => .ok (if finalizable owner s.run then
      some (⟨s.run.workspacePath,s.run.pendingDirectory⟩ : CancellationCleanup) else none))
  match found with
  | none => return false
  | some cleanup => do
    let workspaceCleaned ← match cleanup.workspacePath with
      | none => pure true
      | some _ => onFailure (do removeWorkspace .cancelled; return true) (fun _ => return false)
    let pendingCleaned ← match cleanup.pendingDirectory with
      | none => pure true
      | some path => onFailure (do removeCancelledPending c path; return true) (fun _ => return false)
    if workspaceCleaned || pendingCleaned then clearCancelledPaths cleanup workspaceCleaned pendingCleaned
    return true

def terminalCodes : List String :=
  ["PENDING_ARTIFACT_MISSING","PENDING_CHECKSUM_MISMATCH","UPLOAD_LIMIT","INVALID_MANIFEST","INVALID_PENDING_PATH"]

/-- `str(code)[:64]`, where an exception without a code is a failure of the pipeline. -/
def safeCode (code : Option String) : String := String.ofList (((code.getD "PIPELINE_FAILED").toList).take 64)

def BackupRun.completed (run : BackupRun) (now : Time) : BackupRun :=
  { run with status := .failed, stage := .complete, finishedAt := some now }

/-- The attributes that `_fail` assigns. A run that is being delivered fails only with one
of the terminal codes; otherwise it is released to be claimed again. -/
def BackupRun.failedWith (run : BackupRun) (c : Setup) (code : String) (now : Time) : BackupRun :=
  let ended :=
    if run.status = .deliveryPending then
      if terminalCodes.contains code then run.completed now else run
    else { run.completed now with workspacePath := none }
  { ended with
    leaseOwner := none
    leaseExpiresAt := none
    errorCode := some code
    errorMessage := some "backup operation failed; consult server logs using the run ID"
    failedArtifactCleanupAt :=
      if ended.status = .failed ∧ ended.pendingDirectory ≠ none then
        some (now + c.failedArtifactRetentionSeconds * second)
      else ended.failedArtifactCleanupAt }

/-- Where `_fail` commits: a run that is being delivered ends only with a terminal code. -/
def failPoint (row : BackupRun) (code : String) : Point :=
  if row.status = .deliveryPending ∧ !terminalCodes.contains code then .failRelease else .failCommit

/-- `_fail`: a plain read, the removal of the workspace, and a commit by primary key. -/
def fail (c : Setup) (owner : Owner) (code : String) : Proc Unit := do
  let found ← look .failLoad fun s =>
    .ok (if s.run.status.Active ∧ s.run.leaseOwner = some owner then some s.run else none)
  match found with
  | none => return ()
  | some row => do
    if row.status ≠ .deliveryPending then removeWorkspace .failing
    op (failPoint row code)
      (fun _ s => { s with run := ((Orm.load row).assign (·.failedWith c code s.now)).flush s.now s.run })
      (fun _ _ => .ok ())

/-- The two `except` branches of `execute`. -/
def handleException (c : Setup) (owner : Owner) (task : Nat) (e : Exc) : Proc Unit := do
  if ← look .leaseLost fun s => .ok (s.leaseLost task) then return ()
  else if ← finalizeCancelRequested c owner then return ()
  else match e with
    | .cancelled => throw .cancelled
    | .failure e => fail c owner (safeCode e.code)

/-- `RunDeadline(...)`: the moment at which the build must be over. -/
def deadline (c : Setup) (run : BackupRun) (now : Time) : Time :=
  let elapsed := match run.startedAt with
    | some started => now - started
    | none => 0
  now + (c.maxBackupRuntimeSeconds * second - elapsed)

/-- The protected part of `execute`. -/
def work (c : Setup) (owner : Owner) : Proc Unit := do
  let (run,now) ← look .load fun s => .ok (Orm.load s.run,s.now)
  if run.cur.cancelRequested then throw .cancelled
  else if run.cur.status = .deliveryPending then attempt c run
  else if deadline c run.cur now ≤ now then throw (.pipeline "BACKUP_TIMEOUT")
  else do
    let run ← build c owner run now
    attempt c run

/-- `execute`, as the task with this number. -/
def execute (c : Setup) (owner : Owner) (task : Nat) : Proc Unit :=
  (work c owner).handle (handleException c owner task)

end BackupTelebot
