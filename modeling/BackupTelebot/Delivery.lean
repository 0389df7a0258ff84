import BackupTelebot.Operations

/-! `DeliveryService.attempt`: one pass over the recipients of a finalized artifact. -/
namespace BackupTelebot

open PyJson Interleave

/-- `_retry_delay`; `jitter` is the random draw before it is held to its interval. -/
def retryDelay (c : Setup) (attempts : Nat) (floodWait : Option Nat) (jitter : Nat) : Time :=
  let delay := min c.retryMaxSeconds (c.retryBaseSeconds * 2 ^ min (attempts - 1) 30)
  let limit := min c.retryJitterSeconds (c.retryMaxSeconds - delay)
  let delayed :=
    if limit ≠ 0 then delay * second + min jitter (limit * second)
    else if delay = c.retryMaxSeconds ∧ c.retryJitterSeconds ≠ 0 then
      delay * second - min jitter (min c.retryJitterSeconds (delay - c.retryBaseSeconds) * second)
    else delay * second
  match floodWait with
  | some seconds => max delayed (seconds * second)
  | none => delayed

def isDue (delivery : BackupDelivery) (now : Time) : Bool :=
  match delivery.nextAttemptAt with
  | none => true
  | some due => due ≤ now

def DeliveryErrorKind.value : DeliveryErrorKind → String
  | .transient => "TRANSIENT"
  | .permanent => "PERMANENT"
  | .floodWait => "FLOOD_WAIT"

def User.available (user : User) : Bool := user.enabled && !user.deleted

/-- The users a session holds: the first row it loads for an identity stays. -/
def identities (admins superadmins : List User) : List User :=
  admins ++ superadmins.filter fun user => !admins.any (·.id = user.id)

def selectedIds (users : List User) : List AdminId :=
  (users.map User.id).dedup.insertionSort (· ≤ ·)

def newDelivery (admin : AdminId) (now : Time) : BackupDelivery :=
  ⟨admin,.pending,0,0,1,some now,none,none,none,none⟩

def BackupDelivery.revoked (delivery : BackupDelivery) : BackupDelivery :=
  { delivery with status := .skipped, nextAttemptAt := none, lastError := some "assignment revoked" }

/-- The loaded deliveries after those of unselected recipients are skipped. -/
def revokeUnselected (selected : List AdminId) (loaded : List BackupDelivery) : List BackupDelivery :=
  loaded.map fun delivery =>
    if delivery.adminId ∉ selected ∧ delivery.status ≠ .succeeded then delivery.revoked else delivery

def freshIds (selected : List AdminId) (loaded : List BackupDelivery) : List AdminId :=
  selected.filter fun admin => !loaded.any (·.adminId = admin)

/-- Skips and creates deliveries in one transaction, which a recipient's uniqueness can
refuse. -/
def createDeliveries (selected : List AdminId) (loaded : List BackupDelivery) : Proc (List BackupDelivery) :=
  let fresh := freshIds selected loaded
  let clash := fun (s : World) => s.deliveries.any (fun delivery => fresh.contains delivery.adminId)
  let revoke := fun (rows : List BackupDelivery) => loaded.foldl (fun rows delivery =>
    if delivery.adminId ∉ selected ∧ delivery.status ≠ .succeeded then
      writeDelivery delivery delivery.revoked rows else rows) rows
  op .createDeliveries
    (fun _ s => if clash s then s else
      { s with deliveries := revoke s.deliveries ++ fresh.map (newDelivery · s.now) })
    (fun _ s => if clash s then .error (.failure (.builtin "IntegrityError")) else
      .ok (revokeUnselected selected loaded ++ fresh.map (newDelivery · s.now)))

/-- The session during an attempt: the run and the deliveries as it holds them. -/
structure Session where
  run : Orm
  deliveries : List BackupDelivery

def Session.store (session : Session) (base cur : BackupDelivery) : Session :=
  ⟨session.run.flushed,session.deliveries.map fun delivery => if delivery.adminId = base.adminId then cur else delivery⟩

def World.store (s : World) (session : Session) (base cur : BackupDelivery) : World :=
  { s with run := session.run.flush s.now s.run, deliveries := writeDelivery base cur s.deliveries }

/-- Assigns to a delivery and commits, without looking at the row first. -/
def commitDelivery (point : Point) (session : Session) (base : BackupDelivery)
    (assigned : Time → BackupDelivery) : Proc (Session × BackupDelivery) :=
  op point (fun _ s => s.store session base (assigned s.now))
    (fun _ s => .ok (session.store base (assigned s.now),assigned s.now))

/-- The same behind an ownership check under the row lock. -/
def fencedDelivery (point : Point) (owner : Option Owner) (checkCancel : Bool) (session : Session)
    (base : BackupDelivery) (assigned : Answer → Time → BackupDelivery) : Proc (Session × BackupDelivery) :=
  fenced point owner checkCancel
    (fun i s => s.store { session with run := session.run.refreshFence s.run } base (assigned i s.now))
    (fun i s => ({ session with run := session.run.refreshFence s.run }.store base (assigned i s.now),
      assigned i s.now))

/-- The attempt is counted before the upload starts. -/
def BackupDelivery.started (delivery : BackupDelivery) (c : Setup) (jitter : Nat) (now : Time) : BackupDelivery :=
  { delivery with
    attempts := delivery.attempts + 1
    partAttempts := delivery.partAttempts + 1
    nextAttemptAt := some (now + retryDelay c (delivery.partAttempts + 1) none jitter) }

def BackupDelivery.failed (delivery : BackupDelivery) (c : Setup) (e : Failure) (jitter : Nat) (now : Time) :
    BackupDelivery :=
  let delivery := { delivery with lastError := some (e.kind.value ++ ":" ++ e.name) }
  if e.kind = .permanent ∨ c.maxAttempts ≤ delivery.partAttempts then
    { delivery with status := .failed, nextAttemptAt := none }
  else { delivery with nextAttemptAt := some (now + retryDelay c delivery.partAttempts e.seconds jitter) }

def BackupDelivery.acknowledged (delivery : BackupDelivery) (part : Nat) (messageId fileId : Option Nat)
    (now : Time) : BackupDelivery :=
  { delivery with
    nextPart := part + 1
    partAttempts := 0
    telegramMessageId := messageId
    telegramFileId := fileId
    lastError := none
    nextAttemptAt := some now }

def BackupDelivery.delivered (delivery : BackupDelivery) (now : Time) : BackupDelivery :=
  { delivery with status := .succeeded, nextAttemptAt := none, deliveredAt := some now }

def BackupDelivery.exhausted (delivery : BackupDelivery) : BackupDelivery :=
  { delivery with status := .failed, nextAttemptAt := none, lastError := some "PERMANENT:MAX_ATTEMPTS" }

def BackupDelivery.unauthorized (delivery : BackupDelivery) : BackupDelivery :=
  { delivery with
    status := .skipped, nextAttemptAt := none, lastError := some "recipient authorization revoked" }

/-- `transport.send_file`: a failure is a value here, a cancellation is not. -/
def sendFile (admin : AdminId) (part : Nat) : Proc (Except Failure (Option Nat × Option Nat)) :=
  onFailure (do
      op .send (fun _ s => { s with uploads := s.uploads ++ [.sent admin part] }) (fun _ _ => .ok ())
      let message ← op .sendResult
        (fun _ s => { s with uploads := s.uploads ++ [.acknowledged admin part] })
        (fun i _ => .ok (i.messageId,i.fileId))
      return .ok message)
    (fun e => return .error e)

/-- The loop over the remaining parts of one recipient, which a failed upload ends. -/
def sendParts (c : Setup) (owner : Option Owner) (admin : AdminId) :
    List ArtifactPart → Session → BackupDelivery → Proc (Session × BackupDelivery)
  | [], session, delivery => return (session,delivery)
  | artifact :: rest, session, delivery => do
      let (session,delivery) ← fencedDelivery .startPart owner true session delivery
        fun i now => delivery.started c i.jitter now
      match ← sendFile admin artifact.number with
      | .error e =>
          fencedDelivery .recordFailure owner true session delivery
            fun i now => delivery.failed c e i.jitter now
      | .ok (messageId,fileId) => do
          let (session,delivery) ← fencedDelivery .acknowledge owner false session delivery
            fun _ now => delivery.acknowledged artifact.number messageId fileId now
          sendParts c owner admin rest session delivery

/-- Whether the recipient may still be served: a superadmin by what the session holds of
the user, an administrator by a query. -/
def authorize (users : List User) (admin : AdminId) : Proc Bool :=
  match users.find? (·.id = admin) with
  | none => return false
  | some user =>
    if user.role = .superadmin then return user.available
    else look .authorize fun s => .ok (s.access.contains admin &&
      s.users.any fun user => user.id = admin && user.role = .admin && user.available)

structure Round where
  owner : Option Owner
  artifacts : List ArtifactPart
  users : List User

def serve (c : Setup) (round : Round) (admin : AdminId) (session : Session) : Proc Session := do
  let (run,now) ← boundary .fence round.owner session.run
  let session := { session with run := run }
  match session.deliveries.find? (·.adminId = admin) with
  | none => return session
  | some delivery =>
    if delivery.status ≠ .pending || !isDue delivery now then return session
    else if c.maxAttempts ≤ delivery.partAttempts then do
      let (session,_) ← commitDelivery .maxAttempts session delivery fun _ => delivery.exhausted
      return session
    else if !(← authorize round.users admin) then do
      let (session,_) ← commitDelivery .skipRevoked session delivery fun _ => delivery.unauthorized
      return session
    else do
      let (session,delivery) ← sendParts c round.owner admin (round.artifacts.drop (delivery.nextPart - 1))
        session delivery
      if round.artifacts.length < delivery.nextPart then do
        let (session,_) ← commitDelivery .succeeded session delivery fun now => delivery.delivered now
        return session
      else return session

def serveAll (c : Setup) (round : Round) : List AdminId → Session → Proc Session
  | [], session => return session
  | admin :: rest, session => do
      let session ← serve c round admin session
      serveAll c round rest session

def BackupRun.released (run : BackupRun) : BackupRun :=
  { run with
    status := .deliveryPending
    stage := .pendingDelivery
    leaseOwner := none
    leaseExpiresAt := none }

/-- The conditional update of `_finish`. -/
def BackupRun.finished (run : BackupRun) (c : Setup) (status : RunStatus) (now : Time) : BackupRun :=
  { run with
    status := status
    stage := if status = .failed then .complete else .cleanup
    finishedAt := some now
    leaseOwner := none
    leaseExpiresAt := none
    errorCode := if status = .failed then some "DELIVERY_ACTION_REQUIRED" else none
    errorMessage :=
      if status = .failed then some "automatic Telegram delivery stopped; operator action required" else none
    failedArtifactCleanupAt :=
      if status = .failed then some (now + c.failedArtifactRetentionSeconds * second) else none
    updatedAt := now }

inductive Settlement where
  | released
  | finished (status : RunStatus)
  /-- The update of `_finish` matched no row. -/
  | lost
  deriving DecidableEq

def outcome (deliveries : List BackupDelivery) : Option RunStatus :=
  if deliveries.any (·.status = .pending) then none
  else if deliveries.any (·.status = .failed) then some .failed
  else some .succeeded

/-- The last boundary with the commit that follows it under its lock. -/
def settle (c : Setup) (owner : Option Owner) (session : Session) : Proc Settlement :=
  fenced .settle owner true
    (fun _ s =>
      let run := session.run.refreshFence s.run
      match outcome session.deliveries with
      | none => { s with run := (run.assign BackupRun.released).flush s.now s.run }
      | some status =>
        if s.run.status = .deliveryPending then
          { s with run := (run.flush s.now s.run).finished c status s.now }
        else s)
    (fun _ s => match outcome session.deliveries with
      | none => .released
      | some status => if s.run.status = .deliveryPending then .finished status else .lost)

def removeDelivered (c : Setup) (run : Orm) : Proc Unit :=
  match run.cur.pendingDirectory with
  | none => throw (.failure (.builtin "TypeError"))
  | some path => do
      op .removeSpool (fun i s => { s with spool := (removeOwned c path i.remains s.spool).1 })
        (fun i s => (removeOwned c path i.remains s.spool).2)
      let _ ← commit .clearPending (run.assign fun r => { r with pendingDirectory := none, stage := .complete })
      return ()

def recordedArtifact (run : BackupRun) : Option (Path × Str × Int × Str) := do
  let path ← run.pendingDirectory
  let filename ← run.finalFilename
  let size ← run.finalSizeBytes
  let sha256 ← run.finalSha256
  if filename = [] ∨ sha256 = [] then none else some (path,filename,size,sha256)

/-- `delivery_artifacts` in a thread, with the check of the upload limit. -/
def verifyArtifacts (c : Setup) (recorded : Path × Str × Int × Str) : Proc (List ArtifactPart) :=
  let (path,filename,size,sha256) := recorded
  look .verifyArtifacts fun s =>
    match deliveryArtifacts c.os ((s.spool path).getD Dir.empty) filename size sha256 with
    | .error e => .error (.failure e)
    | .ok artifacts =>
      if artifacts.any (fun artifact => (c.maxFileBytes : Int) < artifact.size) then .error (.pipeline "UPLOAD_LIMIT")
      else .ok artifacts

def selectUsers (c : Setup) : Proc (List User) := do
  let live ← look .liveAssigned fun s => .ok s.access
  let assigned := match c.snapshotAdmins with
    | some ids => live.filter (ids.contains ·)
    | none => live
  let admins ← look .assignedAdmins fun s => .ok
    (s.users.filter fun user => assigned.contains user.id && user.role = .admin && user.available)
  let superadmins ← look .superadmins fun s => .ok
    (s.users.filter fun user => user.role = .superadmin && user.available)
  return identities admins superadmins

/-- `attempt`. The owner is whoever the loaded row names. -/
def attempt (c : Setup) (run : Orm) : Proc Unit := do
  let owner := run.cur.leaseOwner
  let (run,_) ← boundary .fence owner run
  match recordedArtifact run.cur with
  | none => throw (.failure (.builtin "ValueError"))
  | some recorded => do
    let artifacts ← verifyArtifacts c recorded
    let users ← selectUsers c
    let selected := selectedIds users
    let loaded ← look .loadDeliveries fun s => .ok s.deliveries
    let deliveries ← createDeliveries selected loaded
    let (run,_) ← boundary .fence owner run
    let session ← serveAll c ⟨owner,artifacts,users⟩ selected
      ⟨run.assign fun r => { r with stage := .telegramDelivery },deliveries⟩
    match ← settle c owner session with
    | .released => return ()
    | .lost => do
        let _ ← boundary .fence owner session.run
        throw .leaseLost
    | .finished status => do
        let run ← look .refreshFinished fun s => .ok (Orm.load s.run)
        if status = .failed then return () else removeDelivered c run

end BackupTelebot
