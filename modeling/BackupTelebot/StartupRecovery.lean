import BackupTelebot.System

/-! `recover_recorded_filesystem` over all run records and any file system. Its loop has no
handler: the first removal that raises ends it, and with it the worker's start, before the
one commit after the loop. `cleanup_expired_failed_artifacts` after it handles every record
by itself. -/
namespace BackupTelebot.Startup

open PyJson

/-- What the code asks of the file system, in its present state. -/
structure Files (φ : Type) where
  /-- `Path.exists`, which follows links. -/
  exists_ : φ → Path → Except Failure Bool
  /-- `Path.lstat`: whether a directory is there, if anything is. -/
  lstat : φ → Path → Except Failure (Option Bool)
  /-- `Path.resolve`. -/
  resolve : φ → Path → Except Failure Path
  /-- The files of a pending directory. -/
  contents : φ → Path → Option Dir
  /-- `shutil.rmtree`, with what it leaves when it raises. -/
  rmtree : φ → Path → φ × Except Failure Unit
  /-- `Path.rmdir`, where a refusal is suppressed. -/
  rmdir : φ → Path → φ

/-- Code between file system calls; what it has done stays when it raises. -/
abbrev Fs (φ : Type) := EStateM Failure φ

structure Record where
  uuid : SafeText 36
  run : BackupRun
  artifacts : List BackupArtifact

variable {φ : Type}

namespace Files

def ask (query : φ → Except Failure α) : Fs φ α := fun s =>
  match query s with
  | .ok value => .ok value s
  | .error e => .error e s

def removeTree (files : Files φ) (path : Path) : Fs φ Unit := fun s =>
  match files.rmtree s path with
  | (s',.ok ()) => .ok () s'
  | (s',.error e) => .error e s'

def removeEmpty (files : Files φ) (path : Path) : Fs φ Unit := fun s => .ok () (files.rmdir s path)

end Files

def valueError : Failure := .builtin "ValueError"

/-- `str(uuid.UUID(value)) == value`. -/
def isCanonicalUuid (value : Str) : Bool :=
  value.length = 36 && value.zipIdx.all fun (c,i) =>
    if i = 8 ∨ i = 13 ∨ i = 18 ∨ i = 23 then c = 45
    else decide (48 ≤ c ∧ c ≤ 57) || decide (97 ≤ c ∧ c ≤ 102)

def ownedPath (files : Files φ) (root : Path) (runUuid : Str) : Fs φ Path := do
  let resolvedRoot ← Files.ask (files.resolve · root)
  if isCanonicalUuid runUuid then return resolvedRoot ++ [runUuid] else throw valueError

def removeWorkspace (files : Files φ) (root : Path) (runUuid : Str) : Fs φ Unit := do
  let path ← ownedPath files root runUuid
  if ← Files.ask (files.exists_ · path) then files.removeTree path

def validateOwnedDirectory (files : Files φ) (c : Setup) (path : Path) : Fs φ Path := do
  if (← Files.ask (files.lstat · path)) = some false then throw valueError
  let resolvedRoot ← Files.ask (files.resolve · c.pendingRoot)
  let resolved ← Files.ask (files.resolve · path)
  if isCanonicalUuid c.uuid.text && ownedDirectory { c with pendingRoot := resolvedRoot } resolved then
    return resolved
  else throw valueError

def removeOwnedDirectory (files : Files φ) (c : Setup) (path : Path) : Fs φ Unit := do
  let resolved ← validateOwnedDirectory files c path
  files.removeTree resolved
  files.removeEmpty resolved.dropLast

def Record.setup (r : Record) (c : Setup) : Setup := { c with uuid := r.uuid }

def Record.recorded (r : Record) : Bool :=
  r.run.status ∈ terminalStatuses && (r.run.workspacePath.isSome || r.run.pendingDirectory.isSome)

def Record.withoutWorkspace (r : Record) (now : Time) : Record :=
  { r with run := { r.run with workspacePath := none, updatedAt := now } }

def Record.withoutPending (r : Record) (now : Time) : Record :=
  { r with run := { r.run with pendingDirectory := none, stage := .complete, updatedAt := now } }

def recoverWorkspace (files : Files φ) (c : Setup) (now : Time) (r : Record) : Fs φ Record := do
  if r.run.workspacePath.isSome then
    removeWorkspace files c.workRoot r.uuid.text
    return r.withoutWorkspace now
  else return r

def recoverPending (files : Files φ) (c : Setup) (now : Time) (r : Record) : Fs φ Record :=
  match r.run.pendingDirectory with
  | none => return r
  | some pending =>
    if r.run.status = .succeeded ∨ r.run.status = .cancelled then do
      if ← Files.ask (files.exists_ · pending) then removeOwnedDirectory files (r.setup c) pending
      return r.withoutPending now
    else return r

/-- One turn of the loop. -/
def recoverRecord (files : Files φ) (c : Setup) (now : Time) (r : Record) : Fs φ Record := do
  if r.recorded then recoverPending files c now (← recoverWorkspace files c now r) else return r

def recoverRecords (files : Files φ) (c : Setup) (now : Time) : List Record → Fs φ (List Record)
  | [] => return []
  | r :: rest => do
    let r' ← recoverRecord files c now r
    return r' :: (← recoverRecords files c now rest)

/-- `remove_verified_retained_artifact`. -/
def removeVerified (files : Files φ) (c : Setup) (r : Record) (pending : Path) : Fs φ Unit := do
  let owned ← validateOwnedDirectory files (r.setup c) pending
  if ← Files.ask (files.exists_ · owned) then
    let finalized ← Files.ask fun s => verifiedRetained (r.setup c) r.run owned r.artifacts (files.contents s)
    removeOwnedDirectory files (r.setup c) finalized.directory
  else throw valueError

/-- The part of the loop of `cleanup_expired_failed_artifacts` that is tried. -/
def removeExpired (files : Files φ) (c : Setup) (r : Record) (pending : Path) : Fs φ Unit := do
  let owned ← validateOwnedDirectory files (r.setup c) pending
  if ← Files.ask (files.exists_ · owned) then removeVerified files c r pending

def Record.postponed (r : Record) (now due : Time) : Record :=
  { r with run := { r.run with failedArtifactCleanupAt := some due, updatedAt := now } }

def Record.cleaned (r : Record) (now : Time) : Record :=
  { r with run := { r.run with pendingDirectory := none, failedArtifactCleanedAt := some now, updatedAt := now } }

/-- One turn of that loop. -/
def cleanupRecord (files : Files φ) (c : Setup) (now : Time) (r : Record) (s : φ) : Record × φ :=
  match r.run.pendingDirectory with
  | none => (r,s)
  | some pending =>
    if r.run.status ≠ .failed then (r,s)
    else match r.run.failedArtifactCleanupAt with
      | none => (r.postponed now (r.run.finishedAt.getD r.run.updatedAt + c.failedArtifactRetentionSeconds * second),s)
      | some due =>
        if now < due then (r,s)
        else match removeExpired files c r pending s with
          | .error _ s' => (r.postponed now (now + c.failedArtifactRetentionSeconds * second),s')
          | .ok () s' => (r.cleaned now,s')

def cleanupRecords (files : Files φ) (c : Setup) (now : Time) : List Record → φ → List Record × φ
  | [], s => ([],s)
  | r :: rest, s =>
    let (r',s') := cleanupRecord files c now r s
    let (rest',s'') := cleanupRecords files c now rest s'
    (r' :: rest',s'')

/-- What `recover_recorded_filesystem` does: its outcome, the records as they are then
committed, and the files. -/
def recoverRecordedFilesystem (files : Files φ) (c : Setup) (now : Time) (records : List Record) (s : φ) :
    Except Failure Unit × List Record × φ :=
  match recoverRecords files c now records s with
  | .error e s' => (.error e,records,s')
  | .ok records' s' => (.ok (),cleanupRecords files c now records' s')

/-- A missing path or a real directory, which resolves to a run directory of the root that
carries the run's identifier. -/
def Owned (files : Files φ) (c : Setup) (path resolved : Path) (s : φ) : Prop :=
  (files.lstat s path = .ok none ∨ files.lstat s path = .ok (some true)) ∧
    ∃ root, files.resolve s c.pendingRoot = .ok root ∧ files.resolve s path = .ok resolved ∧
      isCanonicalUuid c.uuid.text = true ∧ ownedDirectory { c with pendingRoot := root } resolved = true

def Record.recovered (r : Record) (now : Time) : Record :=
  if r.recorded then
    let r' := if r.run.workspacePath.isSome then r.withoutWorkspace now else r
    if r.run.pendingDirectory.isSome ∧ (r.run.status = .succeeded ∨ r.run.status = .cancelled) then
      r'.withoutPending now
    else r'
  else r

section Trees

open Posix

end Trees

end BackupTelebot.Startup
