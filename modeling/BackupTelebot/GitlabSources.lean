import BackupTelebot.Errors
import BackupTelebot.ProfileRows
import BackupTelebot.Sessions
import BackupTelebot.Transactions

/-! How profiles come to manage GitLab sources: creations, updates of configurations and
deletions, each a session on PostgreSQL at READ COMMITTED. Of the tables of profiles and
sources only the columns that they compare are kept. -/
namespace BackupTelebot.Gitlab

open PyJson Interleave Transactions Config

abbrev ProfileId := Nat

/-- A row of `backup_profiles` with the row of `gitlab_sources` that belongs to it. -/
structure Row where
  id : ProfileId
  archived : Bool
  gitlab : Option GitLabSource
  deriving DecidableEq

structure Contents where
  profiles : List Row
  /-- Whether a server that is not deleted is enabled. -/
  server : Int → Option Bool

inductive Key where
  | settings
  | profile (p : ProfileId)
  deriving DecidableEq

namespace Contents

def find (c : Contents) (p : ProfileId) : Option Row := c.profiles.find? (·.id = p)

def change (c : Contents) (p : ProfileId) (f : Row → Row) : Contents :=
  { c with profiles := c.profiles.map fun row => if row.id = p then f row else row }

def setGitlab (c : Contents) (p : ProfileId) (gitlab : Option GitLabSource) : Contents :=
  c.change p fun row => { row with gitlab := gitlab }

/-- The session deletes the source that it has loaded, if any. -/
def archive (c : Contents) (p : ProfileId) (loaded : Bool) : Contents :=
  c.change p fun row => { row with archived := true, gitlab := if loaded then none else row.gitlab }

def addProfile (c : Contents) (p : ProfileId) : Contents := { c with profiles := c.profiles ++ [⟨p,false,none⟩] }

end Contents

def SameSource (a b : GitLabSource) : Prop :=
  match a.location, b.location with
  | .localHost,.localHost => a.containerName = b.containerName
  | .remoteServer,.remoteServer =>
      a.remoteServerId = b.remoteServerId ∧ a.backupPath.map PurePosix.parse = b.backupPath.map PurePosix.parse
  | _,_ => False

def Contents.Manages (c : Contents) (p : ProfileId) (g : GitLabSource) : Prop :=
  ∃ row ∈ c.profiles, row.id = p ∧ row.archived = false ∧ row.gitlab = some g

def Exclusive (c : Contents) : Prop := ∀ p q g g', p ≠ q → c.Manages p g → c.Manages q g' → ¬SameSource g g'

/-- The condition of the query: texts are compared as they were typed. -/
def matchesRow (config : GitLabConfig) (row : GitLabSource) : Bool :=
  row.location = config.location && row.remoteServerId = config.remoteServerId &&
    if config.location = .localHost then row.containerName = config.containerName
    else row.backupPath = config.backupPath

def Contents.managed (c : Contents) (config : GitLabConfig) (excludeProfileId : Option ProfileId) : Bool :=
  c.profiles.any fun row =>
    !row.archived && row.gitlab.any (matchesRow config) && excludeProfileId.all (· ≠ row.id)

/-- The database, the numbers of new profiles, and the source that a session has asked for
in its check; nobody reads the last. -/
structure Control where
  db : Db Contents Key Empty
  serial : ProfileId
  checked : Nat → Option GitLabSource

inductive Point where
  | settings
  | loadProfile
  | reserve
  | loadSource
  | loadServer
  | checkRoot (config : GitLabConfig) (excludeProfileId : Option ProfileId)
  | insertProfile
  | flush
  | commit
  | rollback
  deriving DecidableEq

abbrev Reply := Option Failure

abbrev Proc (α : Type) := Prog Point Reply Control Failure α

def stmt {α : Type} (point : Point) (guard : Control → Bool) (effect : Control → Control)
    (result : Control → Except Failure α) : Proc α :=
  .act point guard (fun _ s => effect s) (fun i s => .ret (match i with
    | some e => .error e
    | none => result s)) (fun e => .ret (.error e))

def ask {α : Type} (point : Point) (result : Control → Except Failure α) : Proc α :=
  stmt point (fun _ => true) (fun s => s) result

def Control.sees (s : Control) (t : Nat) : Contents := s.db.sees t

def notFound : Failure := .builtin "NotFoundError"

def valueError : Failure := .builtin "ValueError"

def write (point : Point) (t : Nat) (f : Contents → Contents) : Proc Unit :=
  stmt point (fun _ => true) (fun s => { s with db := s.db.write t f }) fun _ => .ok ()

def commit (t : Nat) : Proc Unit :=
  stmt .commit (fun _ => true) (fun s => { s with db := s.db.commit t }) fun _ => .ok ()

/-- `SettingsRepository.get(for_update=True)`. -/
def lockSettings (t : Nat) : Proc Unit :=
  stmt .settings (fun s => s.db.free t .settings) (fun s => { s with db := s.db.lock t .settings }) fun _ => .ok ()

def active (t : Nat) (p : ProfileId) : Proc Unit :=
  ask .loadProfile fun s => match (s.sees t).find p with
    | some row => if row.archived then .error notFound else .ok ()
    | none => .error notFound

/-- `_reserve_profile`. -/
def reserve (t : Nat) (p : ProfileId) : Proc Unit :=
  stmt .reserve (fun s => s.db.free t (.profile p))
    (fun s => if ((s.sees t).find p).isSome then { s with db := s.db.lock t (.profile p) } else s)
    (fun s => if ((s.sees t).find p).isSome then .ok () else .error notFound)

def requireServer (t : Nat) (config : GitLabConfig) : Proc Unit :=
  match config.remoteServerId with
  | none => return ()
  | some id => ask .loadServer fun s => match (s.sees t).server id with
    | none => .error notFound
    | some enabled => if enabled then .ok () else .error valueError

def validateGitlabRootAvailable (t : Nat) (config : GitLabConfig) (excludeProfileId : Option ProfileId) : Proc Unit :=
  stmt (.checkRoot config excludeProfileId) (fun _ => true)
    (fun s => { s with checked := Function.update s.checked t (some (gitlabSource config)) })
    (fun s => if (s.sees t).managed config excludeProfileId then .error valueError else .ok ())

def createDraft (t : Nat) : Proc ProfileId :=
  stmt .insertProfile (fun _ => true)
    (fun s => { s with serial := s.serial + 1, db := s.db.write t fun c => c.addProfile s.serial })
    (fun s => .ok s.serial)

/-- `create_gitlab_profile`. The check of the source comes before the lock of the settings,
under which `_create_configured` inserts. -/
def createGitlabProfile (t : Nat) (config : GitLabConfig) : Proc Unit :=
  match config.validate with
  | .error _ => throw valueError
  | .ok _ => do
      requireServer t config
      validateGitlabRootAvailable t config none
      lockSettings t
      let id ← createDraft t
      write .flush t fun c => c.setGitlab id (some (gitlabSource config))
      commit t

/-- The part of `update_configuration` that looks at a GitLab source, if it gets one. -/
def checkGitlab (t : Nat) (p : ProfileId) : Option GitLabConfig → Proc Unit
  | none => return ()
  | some config =>
    match config.validate with
    | .error _ => throw valueError
    | .ok _ => do
        requireServer t config
        validateGitlabRootAvailable t config (some p)

/-- `update_configuration`, with a GitLab source or with one of another type. -/
def updateConfiguration (t : Nat) (p : ProfileId) (gitlab : Option GitLabConfig) : Proc Unit := do
  lockSettings t
  active t p
  reserve t p
  checkGitlab t p gitlab
  write .flush t fun c => c.setGitlab p none
  write .flush t fun c => c.setGitlab p (gitlab.map gitlabSource)
  commit t

/-- `delete`, which takes the lock of the profile only as it writes. -/
def delete (t : Nat) (p : ProfileId) : Proc Unit := do
  active t p
  let loaded ← ask .loadSource fun s => .ok (((s.sees t).find p).any fun row => row.gitlab.isSome)
  stmt .flush (fun s => s.db.free t (.profile p))
    (fun s => { s with db := (s.db.lock t (.profile p)).write t fun c => c.archive p loaded }) fun _ => .ok ()
  commit t

inductive Job where
  | create (config : GitLabConfig)
  | update (p : ProfileId) (gitlab : Option GitLabConfig)
  | delete (p : ProfileId)

def Job.body (t : Nat) : Job → Proc Unit
  | .create config => createGitlabProfile t config
  | .update p gitlab => updateConfiguration t p gitlab
  | .delete p => Gitlab.delete t p

/-- A session that is left by an exception rolls back. -/
def Job.program (t : Nat) (job : Job) : Proc Unit :=
  (job.body t).handle fun e => do
    stmt .rollback (fun _ => true) (fun s => { s with db := s.db.rollback t }) fun _ => .ok ()
    throw e

def sessions : Sessions Point Reply Control Failure Job where
  program := Job.program
  rollback := fun t s => { s with db := s.db.rollback t }

abbrev System := Sessions.State Point Reply Control Failure Job

abbrev Act := Sessions.Act Reply Failure Job

abbrev System.control (s : System) : Control := s.sys.shared

abbrev System.contents (s : System) : Contents := s.sys.shared.db.contents

def fresh (contents : Contents) (serial : ProfileId) : System :=
  Sessions.fresh ⟨⟨contents,fun _ => id,fun _ => none,[],[],[]⟩,serial,fun _ => none⟩

def Initial (s : System) : Prop := ∃ contents serial, Exclusive contents ∧ s = fresh contents serial

abbrev Reached (allowed : System → Act → Prop) : System → Prop := Runs Initial sessions.step allowed

end BackupTelebot.Gitlab
