import BackupTelebot.Interleaving
import BackupTelebot.RunRecords
import BackupTelebot.Transactions
import Mathlib.Data.List.MinMax

/-! How runs are queued: by the scheduler's tick, by a manual request and by an operator's
retry that starts over, among the edits of profiles, servers and assignments. Every one of
them is a session on PostgreSQL at READ COMMITTED. `κ` stands for the columns of a row
that are copied and never looked at. -/
namespace BackupTelebot.Queue

open PyJson Interleave Transactions

inductive RunTrigger where
  | manual
  | scheduled
  deriving DecidableEq, Repr

inductive ScheduleKind where
  | manual
  | once
  | everyNMinutes
  | everyNHours
  | everyNDays
  | daily
  | weekly
  | monthly
  | cron
  deriving DecidableEq, Repr

inductive SourceType where
  | database
  | filesDirectories
  | gitlab
  deriving DecidableEq, Repr

abbrev ProfileId := Nat
abbrev ServerId := Nat
abbrev RunId := Nat

structure BackupProfile (κ : Type) where
  enabled : Bool
  archivedAt : Option Time
  scheduleKind : ScheduleKind
  nextScheduledAt : Option Time
  columns : κ
  deriving DecidableEq

/-- The row of a profile's source, which is of one of three tables. -/
structure Source (κ : Type) where
  type : SourceType
  columns : κ
  remoteServerId : Option ServerId
  deriving DecidableEq

/-- What `serialize_run_config` writes down. -/
structure RunConfig (κ : Type) where
  enabled : Bool
  scheduleKind : ScheduleKind
  nextScheduledAt : Option Time
  columns : κ
  source : Option (Source κ)
  paths : List κ
  remoteServer : Option κ
  assignedAdminIds : List AdminId
  deriving DecidableEq

structure Run (κ : Type) where
  id : RunId
  profileId : ProfileId
  trigger : RunTrigger
  scheduledFor : Option Time
  status : RunStatus
  configurationSnapshot : Option (RunConfig κ)
  deriving DecidableEq

variable {κ : Type}

/-- `uq_backup_runs_active_profile` and `uq_backup_runs_schedule_slot`, in which a missing
slot differs from every other. -/
def Clash (a b : Run κ) : Prop :=
  a.profileId = b.profileId ∧
    (a.status.Active ∧ b.status.Active ∨
      a.trigger = b.trigger ∧ a.scheduledFor = b.scheduledFor ∧ a.scheduledFor.isSome = true)

instance : DecidableRel (Clash : Run κ → Run κ → Prop) := fun a b => by
  unfold Clash
  infer_instance

def Run.fills (run : Run κ) (p : ProfileId) (slot : Time) : Bool :=
  run.profileId = p && run.trigger = .scheduled && run.scheduledFor = some slot

/-- The tables beside that of the runs. A foreign key never leads to a missing server. -/
structure Contents (κ : Type) where
  backupTimezone : Option Str
  profile : ProfileId → Option (BackupProfile κ)
  source : ProfileId → Option (Source κ)
  paths : ProfileId → List κ
  server : ServerId → κ
  access : List (ProfileId × AdminId)

inductive Key where
  | settings
  | profile (p : ProfileId)
  | server (id : ServerId)
  deriving DecidableEq

namespace Contents

/-- The two agree on what the lock of a row protects: a profile's covers its source. -/
def Same : Key → Contents κ → Contents κ → Prop
  | .settings, a, b => b.backupTimezone = a.backupTimezone
  | .profile p, a, b => b.profile p = a.profile p ∧ b.source p = a.source p ∧ b.paths p = a.paths p
  | .server id, a, b => b.server id = a.server id

def admins (c : Contents κ) (p : ProfileId) : List AdminId := (c.access.filter (·.1 = p)).map Prod.snd

def setProfile (c : Contents κ) (p : ProfileId) (row : BackupProfile κ) : Contents κ :=
  { c with profile := Function.update c.profile p ((c.profile p).map fun _ => row) }

def setSource (c : Contents κ) (p : ProfileId) (source : Option (Source κ)) (paths : List κ) : Contents κ :=
  { c with source := Function.update c.source p source, paths := Function.update c.paths p paths }

def replaceForProfile (c : Contents κ) (p : ProfileId) (admins : List AdminId) : Contents κ :=
  { c with access := c.access.filter (·.1 ≠ p) ++ admins.dedup.map (p,·) }

/-- `AccessRepository.replace`. -/
def replaceForAdmin (c : Contents κ) (admin : AdminId) (profiles : List ProfileId) : Contents κ :=
  { c with access := c.access.filter (·.2 ≠ admin) ++ profiles.dedup.map (·,admin) }

def setCursors (c : Contents κ) (cursors : List (ProfileId × Option Time)) : Contents κ :=
  { c with profile := fun p =>
    match cursors.lookup p with
    | some cursor => (c.profile p).map fun row => { row with nextScheduledAt := cursor }
    | none => c.profile p }

end Contents

def hasPaths (source : Option (Source κ)) : Bool := source.any (·.type = .filesDirectories)

def serializeRunConfig (profile : BackupProfile κ) (source : Option (Source κ)) (paths : List κ)
    (remoteServer : Option κ) (admins : List AdminId) : RunConfig κ :=
  { enabled := profile.enabled
    scheduleKind := profile.scheduleKind
    nextScheduledAt := profile.nextScheduledAt
    columns := profile.columns
    source := source
    paths := paths
    remoteServer := remoteServer
    assignedAdminIds := admins.dedup.insertionSort (· ≤ ·) }

def Contents.configuration (c : Contents κ) (p : ProfileId) : Option (RunConfig κ) :=
  (c.profile p).map fun profile =>
    serializeRunConfig profile (c.source p) (if hasPaths (c.source p) then c.paths p else [])
      (((c.source p).bind Source.remoteServerId).map c.server) (c.admins p)

/-- The database with what each session holds of it. `serial` numbers the runs, `held` are
the profile objects of a session's identity map, and `sawActive` records for which
profiles a session has found an active run; nobody reads it. -/
structure Control (κ : Type) where
  db : Db (Contents κ) Key (Run κ)
  serial : RunId
  held : Nat → ProfileId → Option (BackupProfile κ)
  sawActive : Nat → List ProfileId

inductive Point where
  | settings
  | select
  | scan (p : ProfileId)
  | loadProfile
  | lockProfile (p : ProfileId)
  | reserve (p : ProfileId)
  | loadSource
  | loadPaths
  | lockServer
  | loadAccess
  | findSlot
  | findActive
  | insertRun
  | insertSkipped
  | loadRun
  | lockRun
  | flush
  | commit
  | rollback
  deriving DecidableEq

structure Reply where
  /-- Raised after the statement has taken effect. -/
  fault : Option Failure
  /-- The profiles that a statement finds, in the order in which it meets them. -/
  scan : List ProfileId
  distinct : scan.Nodup
  /-- `utc_now()`. -/
  now : Time

abbrev Proc (κ α : Type) := Prog Point Reply (Control κ) Failure α

/-- One statement, which may have to wait. It may raise in place of its effect or after it. -/
def stmt {α : Type} (point : Point) (guard : Control κ → Bool) (effect : Reply → Control κ → Control κ)
    (result : Reply → Control κ → Except Failure α) : Proc κ α :=
  .act point guard effect
    (fun i s => .ret (match i.fault with
      | some e => .error e
      | none => result i s))
    (fun e => .ret (.error e))

def ask {α : Type} (point : Point) (result : Control κ → Except Failure α) : Proc κ α :=
  stmt point (fun _ => true) (fun _ s => s) (fun _ s => result s)

namespace Control

def sees (s : Control κ) (t : Nat) : Contents κ := s.db.sees t

/-- The session's object for a row it has read: the one it holds already, if any. -/
def identity (s : Control κ) (t : Nat) (p : ProfileId) (row : BackupProfile κ) : BackupProfile κ :=
  (s.held t p).getD row

def remember (s : Control κ) (t : Nat) (p : ProfileId) (row : BackupProfile κ) : Control κ :=
  { s with held := Function.update s.held t (Function.update (s.held t) p (some row)) }

def lockRow (s : Control κ) (t : Nat) (p : ProfileId) : Control κ :=
  if ((s.sees t).profile p).isSome then { s with db := s.db.lock t (.profile p) } else s

end Control

/-- `NotFoundError`. -/
def notFound : Failure := .builtin "NotFoundError"

/-- `select(BackupProfile).with_for_update()` of one row, without `populate_existing`. -/
def selectForUpdate (t : Nat) (p : ProfileId) : Proc κ (Option (BackupProfile κ)) :=
  stmt (.lockProfile p) (fun s => s.db.free t (.profile p))
    (fun _ s => match (s.sees t).profile p with
      | some row => (s.lockRow t p).remember t p (s.identity t p row)
      | none => s)
    (fun _ s => .ok (((s.sees t).profile p).map (s.identity t p)))

def commit (t : Nat) : Proc κ Unit :=
  stmt .commit (fun _ => true) (fun _ s => { s with db := s.db.commit t }) (fun _ _ => .ok ())

structure EnqueueResult (κ : Type) where
  run : Run κ
  created : Bool

/-- The insertion in a savepoint: what the keys refuse leaves nothing but a used number. -/
def insertRow (point : Point) (t : Nat) (row : RunId → Run κ) : Proc κ (Option (Run κ)) :=
  stmt point (fun s => s.db.clear Clash t (row s.serial))
    (fun _ s =>
      { s with
        serial := s.serial + 1
        db := if s.db.taken Clash t (row s.serial) then s.db else s.db.insert t (row s.serial) })
    (fun _ s => .ok (if s.db.taken Clash t (row s.serial) then none else some (row s.serial)))

def findSlot (t : Nat) (p : ProfileId) (slot : Time) : Proc κ (Option (Run κ)) :=
  ask .findSlot fun s => .ok ((s.db.table t).find? (·.fills p slot))

/-- `active_for_profile`: the newest one. -/
def activeOf (rows : List (Run κ)) (p : ProfileId) : Option (Run κ) :=
  (rows.filter fun run => run.profileId = p && decide run.status.Active).argmax Run.id

def activeForProfile (t : Nat) (p : ProfileId) : Proc κ (Option (Run κ)) :=
  stmt .findActive (fun _ => true)
    (fun _ s => if (activeOf (s.db.table t) p).isSome then
      { s with sawActive := Function.update s.sawActive t (p :: s.sawActive t) } else s)
    (fun _ s => .ok (activeOf (s.db.table t) p))

def skippedRun (p : ProfileId) (scheduledFor : Option Time) (id : RunId) : Run κ :=
  ⟨id,p,.scheduled,scheduledFor,.skipped,none⟩

def integrityError : Failure := .builtin "IntegrityError"

/-- The run of the slot of a scheduled request, if there is one. No run has an empty slot. -/
def existingSlot (t : Nat) (p : ProfileId) (trigger : RunTrigger) (scheduledFor : Option Time) :
    Proc κ (Option (Run κ)) :=
  match trigger, scheduledFor with
  | .scheduled, some slot => findSlot t p slot
  | _, _ => return none

def created (t : Nat) (commits : Bool) (run : Run κ) : Proc κ (EnqueueResult κ) :=
  if commits then do
    commit t
    return ⟨run,true⟩
  else return ⟨run,true⟩

def recordSkipped (t : Nat) (p : ProfileId) (scheduledFor : Option Time) (commits : Bool) : Proc κ (EnqueueResult κ) := do
  match ← insertRow .insertSkipped t (skippedRun p scheduledFor) with
  | some skipped => created t commits skipped
  | none => do
      match ← existingSlot t p .scheduled scheduledFor with
      | some run => return ⟨run,false⟩
      | none => throw integrityError

def whenActive (t : Nat) (p : ProfileId) (trigger : RunTrigger) (scheduledFor : Option Time) (commits : Bool)
    (active : Run κ) : Proc κ (EnqueueResult κ) :=
  match trigger with
  | .manual => return ⟨active,false⟩
  | .scheduled => recordSkipped t p scheduledFor commits

def lockServer (t : Nat) (id : ServerId) : Proc κ (Option κ) :=
  stmt .lockServer (fun s => s.db.free t (.server id)) (fun _ s => { s with db := s.db.lock t (.server id) })
    (fun _ s => .ok (some ((s.sees t).server id)))

def loadPaths (t : Nat) (p : ProfileId) (source : Option (Source κ)) : Proc κ (List κ) :=
  if hasPaths source then ask .loadPaths fun s => .ok ((s.sees t).paths p) else return []

def remoteServer (t : Nat) (source : Option (Source κ)) : Proc κ (Option κ) :=
  match source.bind Source.remoteServerId with
  | none => return none
  | some id => lockServer t id

/-- The configuration of the profile as `_enqueue` gathers it for the snapshot. -/
def gather (t : Nat) (p : ProfileId) : Proc κ (RunConfig κ) := do
  match ← selectForUpdate t p with
  | none => throw notFound
  | some profile =>
    if profile.archivedAt.isSome || !profile.enabled then throw notFound
    else do
      let source ← ask .loadSource fun s => .ok ((s.sees t).source p)
      let paths ← loadPaths t p source
      let server ← remoteServer t source
      let admins ← ask .loadAccess fun s => .ok ((s.sees t).admins p)
      return serializeRunConfig profile source paths server admins

def enqueue (t : Nat) (p : ProfileId) (trigger : RunTrigger) (scheduledFor : Option Time) (commits : Bool) :
    Proc κ (EnqueueResult κ) := do
  let config ← gather t p
  match ← existingSlot t p trigger scheduledFor with
  | some existing => return ⟨existing,false⟩
  | none => do
    match ← activeForProfile t p with
    | some active => whenActive t p trigger scheduledFor commits active
    | none => do
      match ← insertRow .insertRun t fun id => ⟨id,p,trigger,scheduledFor,.queued,some config⟩ with
      | some run => created t commits run
      | none => do
          match ← existingSlot t p trigger scheduledFor with
          | some existing => return ⟨existing,false⟩
          | none => do
            match ← activeForProfile t p with
            | none => throw integrityError
            | some active => whenActive t p trigger scheduledFor commits active

def enqueueManual (t : Nat) (p : ProfileId) : Proc κ (EnqueueResult κ) := do
  let result ← enqueue t p .manual none true
  commit t
  return result

/-- `retry_failed` of a run without an artifact: the session has loaded the run with its
profile before it asks for a new one. The resumption of a run that keeps its artifact is a
change of that run's status. -/
def retryFailed (t : Nat) (id : RunId) : Proc κ Unit := do
  let run ← ask .loadRun fun s => match (s.db.table t).find? (·.id = id) with
    | some run => .ok run
    | none => .error notFound
  stmt .loadProfile (fun _ => true)
    (fun _ s => match (s.sees t).profile run.profileId with
      | some row => s.remember t run.profileId (s.identity t run.profileId row)
      | none => s)
    (fun _ _ => .ok ())
  let status ← ask .lockRun fun s => match (s.db.table t).find? (·.id = id) with
    | some run => .ok run.status
    | none => .error (.builtin "InvalidRequestError")
  if status ≠ .failed then throw notFound
  else do
    let result ← enqueueManual t run.profileId
    if result.created then return () else throw notFound

/-- `next_scheduled_time` under the rules of the time zones. -/
abbrev Calendar (κ : Type) := BackupProfile κ → Time → Str → Except Failure (Option Time)

/-- The condition of the tick's query. -/
def BackupProfile.scheduled (profile : BackupProfile κ) : Bool :=
  profile.enabled && profile.archivedAt.isNone && profile.scheduleKind ≠ .manual

/-- Locks the rows of the tick's query one after another and reads each anew. -/
def scanProfiles (t : Nat) : List ProfileId → Proc κ (List (ProfileId × BackupProfile κ))
  | [] => return []
  | p :: rest => do
      let row ← stmt (.scan p) (fun s => s.db.free t (.profile p))
        (fun _ s => match (s.sees t).profile p with
          | some row => (s.lockRow t p).remember t p row
          | none => s)
        (fun _ s => .ok ((s.sees t).profile p))
      let others ← scanProfiles t rest
      return ((row.filter BackupProfile.scheduled).map (p,·)).toList ++ others

/-- One profile in the loop of a tick: what is reported, and the cursor it is assigned. -/
def visit (calendar : Calendar κ) (t : Nat) (now : Time) (timezone : Str) (p : ProfileId) (profile : BackupProfile κ) :
    Proc κ (Option (RunId × RunStatus) × Option (Option Time)) :=
  match profile.nextScheduledAt with
  | none =>
    if profile.scheduleKind = .once then return (none,none)
    else match calendar profile now timezone with
      | .error e => throw e
      | .ok cursor => return (none,some cursor)
  | some due =>
    if due ≤ now then do
      let queued ← enqueue t p .scheduled (some due) false
      if profile.scheduleKind = .once then return (some (queued.run.id,queued.run.status),some none)
      else match calendar profile (max due now) timezone with
        | .error e => throw e
        | .ok cursor => return (some (queued.run.id,queued.run.status),some cursor)
    else return (none,none)

def visitAll (calendar : Calendar κ) (t : Nat) (now : Time) (timezone : Str) :
    List (ProfileId × BackupProfile κ) →
      Proc κ (List (RunId × RunStatus) × List (ProfileId × Option Time))
  | [] => return ([],[])
  | (p,profile) :: rest => do
      let (result,cursor) ← visit calendar t now timezone p profile
      let (results,cursors) ← visitAll calendar t now timezone rest
      return (result.toList ++ results,(cursor.map (p,·)).toList ++ cursors)

def tick (calendar : Calendar κ) (t : Nat) (now : Time) (timezone : Str) : Proc κ (List (RunId × RunStatus)) := do
  let stored ← stmt .settings (fun s => s.db.free t .settings) (fun _ s => { s with db := s.db.lock t .settings })
    (fun _ s => .ok (s.sees t).backupTimezone)
  let timezone := (stored.filter (· ≠ [])).getD timezone
  let order ← stmt .select (fun _ => true) (fun _ s => s) (fun i _ => .ok i.scan)
  let profiles ← scanProfiles t order
  let (results,cursors) ← visitAll calendar t now timezone profiles
  stmt .commit (fun _ => true) (fun _ s => { s with db := (s.db.write t (·.setCursors cursors)).commit t })
    (fun _ _ => .ok ())
  return results

/-- `UPDATE backup_profiles SET updated_at = updated_at`: the write fence of a profile. -/
def reserve (t : Nat) (p : ProfileId) : Proc κ Unit :=
  stmt (.reserve p) (fun s => s.db.free t (.profile p)) (fun _ s => s.lockRow t p)
    (fun _ s => if ((s.sees t).profile p).isSome then .ok () else .error notFound)

/-- `_active`: `session.get` of a profile that is not archived. -/
def active (t : Nat) (p : ProfileId) : Proc κ (BackupProfile κ) :=
  stmt .loadProfile (fun _ => true)
    (fun _ s => match (s.sees t).profile p with
      | some row => s.remember t p (s.identity t p row)
      | none => s)
    (fun _ s => match ((s.sees t).profile p).map (s.identity t p) with
      | some profile => if profile.archivedAt.isSome then .error notFound else .ok profile
      | none => .error notFound)

def flush (t : Nat) (change : Contents κ → Contents κ) : Proc κ Unit :=
  stmt .flush (fun _ => true) (fun _ s => { s with db := s.db.write t change }) (fun _ _ => .ok ())

def lockSettings (t : Nat) : Proc κ (Option Str) :=
  stmt .settings (fun s => s.db.free t .settings) (fun _ s => { s with db := s.db.lock t .settings })
    (fun _ s => .ok (s.sees t).backupTimezone)

def registerSchedule (calendar : Calendar κ) (profile : BackupProfile κ) (now : Time) (timezone : Str) :
    Except Failure (Option Time) :=
  if profile.scheduleKind = .manual ∨ profile.enabled = false then .ok none
  else if profile.scheduleKind = .cron then calendar profile now timezone
  else .ok (some now)

/-- The arguments of `update_configuration`; what it keeps of the old columns and of the
old source is a part of the change. -/
structure ConfigurationUpdate (κ : Type) where
  enabled : Bool
  scheduleKind : ScheduleKind
  columns : κ → κ
  source : Option (Source κ) → Source κ
  paths : List κ
  adminIds : List AdminId

/-- The profile with the attributes that `update_configuration` assigns. -/
def BackupProfile.configured (calendar : Calendar κ) (u : ConfigurationUpdate κ) (now : Time) (timezone : Str)
    (old : BackupProfile κ) : Except Failure (BackupProfile κ) :=
  let profile := { old with enabled := u.enabled, scheduleKind := u.scheduleKind, columns := u.columns old.columns }
  let cursor : Except Failure (Option Time) :=
    if u.scheduleKind = .manual then .ok none
    else if u.scheduleKind = .once then .ok (if old.scheduleKind = .once then old.nextScheduledAt else some now)
    else if u.enabled = false then .ok none
    else registerSchedule calendar profile now timezone
  cursor.map fun cursor => { profile with nextScheduledAt := cursor }

def updateConfiguration (calendar : Calendar κ) (t : Nat) (p : ProfileId) (u : ConfigurationUpdate κ) : Proc κ Unit := do
  let timezone ← lockSettings t
  let profile ← active t p
  reserve t p
  let (old,now) ← stmt .loadSource (fun _ => true) (fun _ s => s) (fun i s => .ok ((s.sees t).source p,i.now))
  match profile.configured calendar u now (timezone.getD []) with
  | .error e => throw e
  | .ok row => do
    let source := u.source old
    flush t fun c =>
      ((c.setProfile p row).setSource p (some source)
        (if source.type = .filesDirectories then u.paths else [])).replaceForProfile p u.adminIds
    commit t

def BackupProfile.edited (calendar : Calendar κ) (columns : κ → κ) (enabled : Option Bool) (now : Time) (timezone : Str)
    (old : BackupProfile κ) : Except Failure (BackupProfile κ) :=
  let profile := { old with columns := columns old.columns }
  match enabled with
  | none => .ok profile
  | some enabled =>
    let profile := { profile with enabled := enabled }
    if profile.scheduleKind = .manual ∨ enabled = false ∧ profile.scheduleKind ≠ .once then
      .ok { profile with nextScheduledAt := none }
    else if old.enabled = false ∧ profile.scheduleKind ≠ .once then
      (registerSchedule calendar profile now timezone).map fun cursor => { profile with nextScheduledAt := cursor }
    else .ok profile

def edit (calendar : Calendar κ) (t : Nat) (p : ProfileId) (columns : κ → κ) (enabled : Option Bool) : Proc κ Unit := do
  let timezone ← lockSettings t
  let _ ← active t p
  reserve t p
  -- the refreshed object; nothing in this session reads the identity map after it
  let (profile,now) ← stmt .loadProfile (fun _ => true) (fun _ s => s)
    (fun i s => match (s.sees t).profile p with
      | some row => .ok (row,i.now)
      | none => .error (.builtin "InvalidRequestError"))
  match profile.edited calendar columns enabled now (timezone.getD []) with
  | .error e => throw e
  | .ok row => do
    flush t fun c => c.setProfile p row
    commit t

def assignAdmins (t : Nat) (p : ProfileId) (admins : List AdminId) : Proc κ Unit := do
  let _ ← active t p
  reserve t p
  flush t fun c => c.replaceForProfile p admins
  commit t

def reserveAll (t : Nat) : List ProfileId → Proc κ Unit
  | [] => return ()
  | p :: rest => do
      stmt (.reserve p) (fun s => s.db.free t (.profile p)) (fun _ s => s.lockRow t p) (fun _ _ => .ok ())
      reserveAll t rest

/-- `AdminService.assign`: every profile that the administrator has or will have is
reserved, in the order in which the statement meets them. -/
def assign (t : Nat) (admin : AdminId) (profiles : List ProfileId) : Proc κ Unit := do
  let previous ← ask .loadAccess fun s => .ok (((s.sees t).access.filter (·.2 = admin)).map Prod.fst)
  let affected := (previous ++ profiles).dedup
  let order ← stmt .select (fun _ => true) (fun _ s => s) (fun i _ => .ok i.scan)
  reserveAll t (order.filter (affected.contains ·) ++ affected.filter (!order.contains ·))
  flush t fun c => c.replaceForAdmin admin profiles
  commit t

/-- The operations of `RemoteServerService` on one server. -/
def updateServer (t : Nat) (id : ServerId) (change : κ → κ) : Proc κ Unit := do
  let _ ← lockServer t id
  flush t fun c => { c with server := Function.update c.server id (change (c.server id)) }
  commit t

inductive Job (κ : Type) where
  | tick (now : Time) (timezone : Str)
  | manual (p : ProfileId)
  | retry (run : RunId)
  | updateConfiguration (p : ProfileId) (u : ConfigurationUpdate κ)
  | edit (p : ProfileId) (columns : κ → κ) (enabled : Option Bool)
  | assignAdmins (p : ProfileId) (admins : List AdminId)
  | assign (admin : AdminId) (profiles : List ProfileId)
  | updateServer (id : ServerId) (change : κ → κ)

def Job.body (calendar : Calendar κ) (t : Nat) : Job κ → Proc κ Unit
  | .tick now timezone => do let _ ← Queue.tick calendar t now timezone; return ()
  | .manual p => do let _ ← enqueueManual t p; return ()
  | .retry run => retryFailed t run
  | .updateConfiguration p u => Queue.updateConfiguration calendar t p u
  | .edit p columns enabled => Queue.edit calendar t p columns enabled
  | .assignAdmins p admins => Queue.assignAdmins t p admins
  | .assign admin profiles => Queue.assign t admin profiles
  | .updateServer id change => Queue.updateServer t id change

/-- A session that is left by an exception rolls back. -/
def Job.program (calendar : Calendar κ) (t : Nat) (job : Job κ) : Proc κ Unit :=
  (job.body calendar t).handle fun e => do
    stmt .rollback (fun _ => true) (fun _ s => { s with db := s.db.rollback t }) (fun _ _ => .ok ())
    throw e

structure System (κ : Type) where
  sys : Sys Point Reply (Control κ) Failure Unit
  job : Nat → Option (Job κ)

inductive Act (κ : Type) where
  | perform (t : Nat) (i : Reply)
  /-- The statement raises without taking effect. -/
  | fails (t : Nat) (e : Failure)
  | crash (t : Nat)
  /-- The server notices that a session is gone. -/
  | lost (t : Nat)
  | start (t : Nat) (job : Job κ)
  /-- A worker or an operator moves a run on, in a transaction of its own that the keys
  may refuse: the run is cancelled, ended or resumed. -/
  | progress (id : RunId) (status : RunStatus)

def Run.moved (run : Run κ) (id : RunId) (status : RunStatus) : Run κ :=
  if run.id = id then { run with status := status } else run

namespace System

abbrev control (s : System κ) : Control κ := s.sys.shared

abbrev db (s : System κ) : Db (Contents κ) Key (Run κ) := s.sys.shared.db

def step (calendar : Calendar κ) (s : System κ) : Act κ → Option (System κ)
  | .perform t i => (s.sys.advance t i).map fun sys => { s with sys := sys }
  | .fails t e => (s.sys.interrupt t e).map fun sys => { s with sys := sys }
  | .crash t => some { s with sys := s.sys.kill t }
  | .lost t =>
      if (s.job t).isSome && (s.sys.pointOf t).isNone then
        some { s with sys := { s.sys with shared := { s.control with db := s.db.rollback t } } }
      else none
  | .start t job =>
      if (s.sys.task t).isNone && (s.job t).isNone then
        some ⟨s.sys.spawn t (job.program calendar t),Function.update s.job t (some job)⟩
      else none
  | .progress id status =>
      let after := s.db.amend (·.moved id status)
      if after.Unique Clash then some { s with sys := { s.sys with shared := { s.control with db := after } } }
      else none

def fresh (contents : Contents κ) : System κ :=
  ⟨⟨⟨⟨contents,fun _ => id,fun _ => none,[],[],[contents]⟩,0,fun _ _ => none,fun _ => []⟩,fun _ => none⟩,fun _ => none⟩

def Initial (s : System κ) : Prop := ∃ contents, s = fresh contents

end System

abbrev Reached (calendar : Calendar κ) (allowed : System κ → Act κ → Prop) : System κ → Prop :=
  Runs System.Initial (System.step calendar) allowed

end BackupTelebot.Queue
