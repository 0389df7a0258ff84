import BackupTelebot.Pending
import BackupTelebot.ProfileRows
import Mathlib.Data.Finset.Sort

/-! The configuration of a run as the row of the run holds it: a document that is written
from the rows of the profile and read back into rows of the same shape. Secrets go through
it as they are encrypted. -/
namespace BackupTelebot.Config

open PyJson Queue Base64 IsoTime

/-- Every member is found by its value, which is plain ASCII. -/
def Proper {α : Type} (members : List α) (value : α → Str) : Prop :=
  ∀ a, members.find? (fun b => decide (value b = value a)) = some a ∧ ∀ c ∈ value a, c ≤ 0x7F

class StrEnum (α : Type) where
  members : List α
  value : α → Str
  proper : Proper members value

def sourceTypeValue : SourceType → Str
  | .database => str "DATABASE"
  | .filesDirectories => str "FILES_DIRECTORIES"
  | .gitlab => str "GITLAB"

theorem sourceType_proper : Proper [.database,.filesDirectories,.gitlab] sourceTypeValue := by
  intro a
  cases a <;> decide

instance : StrEnum SourceType := ⟨_,_,sourceType_proper⟩

def databaseEngineValue : DatabaseEngine → Str
  | .postgresql => str "POSTGRESQL"
  | .mysqlMariadb => str "MYSQL_MARIADB"
  | .mssql => str "MSSQL"

theorem databaseEngine_proper : Proper [.postgresql,.mysqlMariadb,.mssql] databaseEngineValue := by
  intro a
  cases a <;> decide

instance : StrEnum DatabaseEngine := ⟨_,_,databaseEngine_proper⟩

def tlsModeValue : TLSMode → Str
  | .disabled => str "DISABLED"
  | .preferred => str "PREFERRED"
  | .required => str "REQUIRED"
  | .verifyCa => str "VERIFY_CA"
  | .verifyFull => str "VERIFY_FULL"

theorem tlsMode_proper : Proper [.disabled,.preferred,.required,.verifyCa,.verifyFull] tlsModeValue := by
  intro a
  cases a <;> decide

instance : StrEnum TLSMode := ⟨_,_,tlsMode_proper⟩

def sourceLocationValue : SourceLocation → Str
  | .localHost => str "LOCAL"
  | .remoteServer => str "REMOTE_SERVER"

theorem sourceLocation_proper : Proper [.localHost,.remoteServer] sourceLocationValue := by
  intro a
  cases a <;> decide

instance : StrEnum SourceLocation := ⟨_,_,sourceLocation_proper⟩

def sshAuthenticationMethodValue : SSHAuthenticationMethod → Str
  | .privateKey => str "PRIVATE_KEY"

theorem sshAuthenticationMethod_proper : Proper [.privateKey] sshAuthenticationMethodValue := by
  intro a
  cases a
  decide

instance : StrEnum SSHAuthenticationMethod := ⟨_,_,sshAuthenticationMethod_proper⟩

def scheduleKindValue : ScheduleKind → Str
  | .manual => str "MANUAL"
  | .once => str "ONCE"
  | .everyNMinutes => str "EVERY_N_MINUTES"
  | .everyNHours => str "EVERY_N_HOURS"
  | .everyNDays => str "EVERY_N_DAYS"
  | .daily => str "DAILY"
  | .weekly => str "WEEKLY"
  | .monthly => str "MONTHLY"
  | .cron => str "CRON"

theorem scheduleKind_proper :
    Proper [.manual,.once,.everyNMinutes,.everyNHours,.everyNDays,.daily,.weekly,.monthly,.cron] scheduleKindValue := by
  intro a
  cases a <;> decide

instance : StrEnum ScheduleKind := ⟨_,_,scheduleKind_proper⟩

def compressionFormatValue : CompressionFormat → Str
  | .none => str "NONE"
  | .zstandard => str "ZSTANDARD"
  | .gzip => str "GZIP"
  | .xz => str "XZ"
  | .bzip2 => str "BZIP2"
  | .zip => str "ZIP"
  | .sevenZ => str "SEVEN_Z"

theorem compressionFormat_proper : Proper [.none,.zstandard,.gzip,.xz,.bzip2,.zip,.sevenZ] compressionFormatValue := by
  intro a
  cases a <;> decide

instance : StrEnum CompressionFormat := ⟨_,_,compressionFormat_proper⟩

def archiveFormatValue : ArchiveFormat → Str
  | .tar => str "TAR"
  | .zip => str "ZIP"
  | .sevenZ => str "SEVEN_Z"

theorem archiveFormat_proper : Proper [.tar,.zip,.sevenZ] archiveFormatValue := by
  intro a
  cases a <;> decide

instance : StrEnum ArchiveFormat := ⟨_,_,archiveFormat_proper⟩

def compressionAlgorithmValue : CompressionAlgorithm → Str
  | .none => str "NONE"
  | .gzip => str "GZIP"
  | .bzip2 => str "BZIP2"
  | .xz => str "XZ"
  | .zstandard => str "ZSTANDARD"
  | .lz4 => str "LZ4"

theorem compressionAlgorithm_proper : Proper [.none,.gzip,.bzip2,.xz,.zstandard,.lz4] compressionAlgorithmValue := by
  intro a
  cases a <;> decide

instance : StrEnum CompressionAlgorithm := ⟨_,_,compressionAlgorithm_proper⟩

def compressionPresetValue : CompressionPreset → Str
  | .fast => str "FAST"
  | .balanced => str "BALANCED"
  | .high => str "HIGH"
  | .maximum => str "MAXIMUM"

theorem compressionPreset_proper : Proper [.fast,.balanced,.high,.maximum] compressionPresetValue := by
  intro a
  cases a <;> decide

instance : StrEnum CompressionPreset := ⟨_,_,compressionPreset_proper⟩

def encryptionModeValue : EncryptionMode → Str
  | .none => str "NONE"
  | .agePublicKey => str "AGE_PUBLIC_KEY"
  | .agePassphrase => str "AGE_PASSPHRASE"

theorem encryptionMode_proper : Proper [.none,.agePublicKey,.agePassphrase] encryptionModeValue := by
  intro a
  cases a <;> decide

instance : StrEnum EncryptionMode := ⟨_,_,encryptionMode_proper⟩

def profileStatusValue : ProfileStatus → Str
  | .draft => str "DRAFT"
  | .archived => str "ARCHIVED"

theorem profileStatus_proper : Proper [.draft,.archived] profileStatusValue := by
  intro a
  cases a <;> decide

instance : StrEnum ProfileStatus := ⟨_,_,profileStatus_proper⟩

structure Sourced (α : Type) where
  row : α
  server : Option RemoteServer
  deriving DecidableEq

structure LoadedProfile where
  profile : BackupProfile
  databaseSource : Option (Sourced DatabaseSource)
  filesSource : Option (Sourced FilesSource)
  gitlabSource : Option (Sourced GitLabSource)
  deriving DecidableEq

/-- `f(x) if x is not None else None`. -/
def orNull {α : Type} (f : α → Json) : Option α → Json
  | none => .null
  | some a => f a

def memberJson {α : Type} [StrEnum α] (a : α) : Json := .str (StrEnum.value a)

def momentJson (moment : DateTime) : Json := .str (isoformat moment)

def encrypted (value : Option Bytes) : Json := orNull (fun bytes => .str (encode bytes)) value

def remoteFields (server : RemoteServer) : List (Str × Json) := [
  (str "id",.int server.id),
  (str "name",.str server.name),
  (str "host",.str server.host),
  (str "ssh_port",.int server.sshPort),
  (str "ssh_username",.str server.sshUsername),
  (str "authentication_method",memberJson server.authenticationMethod),
  (str "encrypted_private_key",encrypted (some server.encryptedPrivateKey)),
  (str "encrypted_key_passphrase",encrypted server.encryptedKeyPassphrase),
  (str "host_key_fingerprint",.str server.hostKeyFingerprint),
  (str "enabled",.bool server.enabled)]

def remote (server : Option RemoteServer) : Json := orNull (fun server => .obj (remoteFields server)) server

def profileFields (profile : BackupProfile) : List (Str × Json) := [
  (str "id",.int profile.id),
  (str "uuid",.str profile.uuid),
  (str "name",.str profile.name),
  (str "description",orNull .str profile.description),
  (str "source_type",memberJson profile.sourceType),
  (str "enabled",.bool profile.enabled),
  (str "status",memberJson profile.status),
  (str "schedule_kind",memberJson profile.scheduleKind),
  (str "schedule_interval",orNull .int profile.scheduleInterval),
  (str "schedule_time",orNull .str profile.scheduleTime),
  (str "schedule_weekday",orNull .int profile.scheduleWeekday),
  (str "schedule_monthday",orNull .int profile.scheduleMonthday),
  (str "schedule_cron",orNull .str profile.scheduleCron),
  (str "next_scheduled_at",orNull momentJson profile.nextScheduledAt),
  (str "compression_format",memberJson profile.compressionFormat),
  (str "archive_format",memberJson profile.archiveFormat),
  (str "compression_algorithm",memberJson profile.compressionAlgorithm),
  (str "compression_preset",orNull memberJson profile.compressionPreset),
  (str "encryption_mode",memberJson profile.encryptionMode),
  (str "age_recipients",orNull .str profile.ageRecipients),
  (str "encrypted_age_passphrase",encrypted profile.encryptedAgePassphrase),
  (str "created_by",.int profile.createdBy)]

def databaseFields (database : Sourced DatabaseSource) : List (Str × Json) := [
  (str "engine",memberJson database.row.engine),
  (str "host",.str database.row.host),
  (str "port",.int database.row.port),
  (str "database_name",.str database.row.databaseName),
  (str "username",.str database.row.username),
  (str "encrypted_password",encrypted (some database.row.encryptedPassword)),
  (str "tls_mode",memberJson database.row.tlsMode),
  (str "tls_ca_certificate",orNull .str database.row.tlsCaCertificate),
  (str "mssql_in_docker",.bool database.row.mssqlInDocker),
  (str "mssql_backup_path",orNull .str database.row.mssqlBackupPath),
  (str "mssql_host_backup_path",orNull .str database.row.mssqlHostBackupPath),
  (str "artifact_remote_server_id",orNull .int database.row.artifactRemoteServerId),
  (str "artifact_remote_server",remote database.server)]

def pathFields (item : BackupPath) : List (Str × Json) := [
  (str "path",.str item.path),
  (str "sqlite_snapshot_candidate",.bool item.sqliteSnapshotCandidate)]

def filesFields (files : Sourced FilesSource) : List (Str × Json) := [
  (str "location",memberJson files.row.location),
  (str "remote_server_id",orNull .int files.row.remoteServerId),
  (str "remote_server",remote files.server),
  (str "paths",.arr (files.row.paths.map fun item => .obj (pathFields item)))]

/-- The backup path is written for a remote source only. -/
def gitlabFields (gitlab : Sourced GitLabSource) : List (Str × Json) := [
  (str "location",memberJson gitlab.row.location),
  (str "remote_server_id",orNull .int gitlab.row.remoteServerId),
  (str "remote_server",remote gitlab.server),
  (str "container_name",.str gitlab.row.containerName)] ++
  if gitlab.row.location = .remoteServer then [(str "backup_path",orNull .str gitlab.row.backupPath)] else []

/-- `sorted(admin_ids or set())`. -/
def sortedIds (adminIds : Option (Finset Int)) : List Int := (adminIds.getD ∅).sort (· ≤ ·)

def payloadFields (loaded : LoadedProfile) (adminIds : Option (Finset Int)) : List (Str × Json) := [
  (str "schema",.int 1),
  (str "profile",.obj (profileFields loaded.profile)),
  (str "database",orNull (fun database => .obj (databaseFields database)) loaded.databaseSource),
  (str "files",orNull (fun files => .obj (filesFields files)) loaded.filesSource),
  (str "gitlab",orNull (fun gitlab => .obj (gitlabFields gitlab)) loaded.gitlabSource),
  (str "assigned_admin_ids",.arr ((sortedIds adminIds).map .int))]

/-- Sorted keys, and no space after a separator. -/
def serializeRunConfig (loaded : LoadedProfile) (adminIds : Option (Finset Int)) : Str :=
  (Json.obj (payloadFields loaded adminIds)).dumpGap []

inductive SnapshotError where
  | json (fault : Fault)
  | key (name : Str)
  | value (message : String)
  | notAMember (value : Json)
  | notBase64 (value : Str)
  | notIsoformat (value : Str)
  /-- A value of another type than the column's. Python turns some of them into text or
  numbers; the writer leaves none. -/
  | mistyped

/-- `data[key]`. -/
def item (data : Json) (key : Str) : Except SnapshotError Json :=
  match data.get key with
  | some value => .ok value
  | none => .error (if data.isObj then .key key else .mistyped)

/-- `data.get(key)`. -/
def itemOrNull (data : Json) (key : Str) : Except SnapshotError Json :=
  if data.isObj then .ok ((data.get key).getD .null) else .error .mistyped

abbrev Read (α : Type) := Json → Except SnapshotError α

def readInt : Read Int := fun value =>
  match value.asInt with
  | some n => .ok n
  | none => .error .mistyped

def readText : Read Str := fun value =>
  match value.asStr with
  | some s => .ok s
  | none => .error .mistyped

/-- `bool(value)`. -/
def readBool : Read Bool := fun value =>
  .ok (match value with
    | .null => false
    | .bool b => b
    | .int n => n != 0
    | .float literal => !floatEq literal 0
    | .str s => s != []
    | .arr items => !items.isEmpty
    | .obj fields => !fields.isEmpty)

def readOptional {α : Type} (read : Read α) : Read (Option α)
  | .null => .ok none
  | value => (read value).map some

def readMember {α : Type} [StrEnum α] : Read α := fun value =>
  match (StrEnum.members (α := α)).find? fun a => value.eqStr (StrEnum.value a) with
  | some a => .ok a
  | none => .error (.notAMember value)

def readMoment : Read DateTime := fun value => do
  let s ← readText value
  match fromisoformat s with
  | some moment => return moment
  | none => .error (.notIsoformat s)

/-- `base64.b64decode(value, validate=True)`. -/
def b64decode : Read Bytes := fun value => do
  let s ← readText value
  match decode s with
  | some bytes => return bytes
  | none => .error (.notBase64 s)

def decodeEncrypted : Read (Option Bytes) := readOptional b64decode

/-- `if value is None: raise ValueError(message)`. -/
def present {α : Type} (message : String) : Option α → Except SnapshotError α
  | some a => .ok a
  | none => .error (.value message)

/-- `read(data[key])`. -/
def column {α : Type} (read : Read α) (data : Json) (key : Str) : Except SnapshotError α := do
  let value ← item data key
  read value

/-- `read(data.get(key))`. -/
def columnOrNull {α : Type} (read : Read α) (data : Json) (key : Str) : Except SnapshotError α := do
  let value ← itemOrNull data key
  read value

def readList {α : Type} (read : Read α) : Read (List α)
  | .arr items => items.mapM read
  | _ => .error .mistyped

/-- `_restore_remote`, where there is a server. -/
def restoreServer : Read RemoteServer := fun data => do
  let privateKey ← column decodeEncrypted data (str "encrypted_private_key")
  let privateKey ← present "run snapshot has no encrypted SSH private key" privateKey
  return {
    id := ← column readInt data (str "id")
    name := ← column readText data (str "name")
    host := ← column readText data (str "host")
    sshPort := ← column readInt data (str "ssh_port")
    sshUsername := ← column readText data (str "ssh_username")
    authenticationMethod := ← column readMember data (str "authentication_method")
    encryptedPrivateKey := privateKey
    encryptedKeyPassphrase := ← column decodeEncrypted data (str "encrypted_key_passphrase")
    hostKeyFingerprint := ← column readText data (str "host_key_fingerprint")
    enabled := ← column readBool data (str "enabled")
    deletedAt := none }

def restoreRemote : Read (Option RemoteServer) := readOptional restoreServer

def restoreProfile : Read BackupProfile := fun data => do
  let passphrase ← column decodeEncrypted data (str "encrypted_age_passphrase")
  return {
    id := ← column readInt data (str "id")
    uuid := ← column readText data (str "uuid")
    name := ← column readText data (str "name")
    description := ← column (readOptional readText) data (str "description")
    sourceType := ← column readMember data (str "source_type")
    enabled := ← column readBool data (str "enabled")
    status := ← column readMember data (str "status")
    scheduleKind := ← column readMember data (str "schedule_kind")
    scheduleInterval := ← column (readOptional readInt) data (str "schedule_interval")
    scheduleTime := ← column (readOptional readText) data (str "schedule_time")
    scheduleWeekday := ← column (readOptional readInt) data (str "schedule_weekday")
    scheduleMonthday := ← column (readOptional readInt) data (str "schedule_monthday")
    scheduleCron := ← columnOrNull (readOptional readText) data (str "schedule_cron")
    nextScheduledAt := ← column (readOptional readMoment) data (str "next_scheduled_at")
    compressionFormat := ← column readMember data (str "compression_format")
    archiveFormat := ← column readMember data (str "archive_format")
    compressionAlgorithm := ← column readMember data (str "compression_algorithm")
    compressionPreset := ← column (readOptional readMember) data (str "compression_preset")
    encryptionMode := ← column readMember data (str "encryption_mode")
    ageRecipients := ← column (readOptional readText) data (str "age_recipients")
    encryptedAgePassphrase := passphrase
    createdBy := ← column readInt data (str "created_by") }

def restoreDatabase : Read (Sourced DatabaseSource) := fun database => do
  let password ← column decodeEncrypted database (str "encrypted_password")
  let password ← present "run snapshot has no encrypted database password" password
  let row : DatabaseSource := {
    engine := ← column readMember database (str "engine")
    host := ← column readText database (str "host")
    port := ← column readInt database (str "port")
    databaseName := ← column readText database (str "database_name")
    username := ← column readText database (str "username")
    encryptedPassword := password
    tlsMode := ← column readMember database (str "tls_mode")
    tlsCaCertificate := ← column (readOptional readText) database (str "tls_ca_certificate")
    mssqlInDocker := ← column readBool database (str "mssql_in_docker")
    mssqlBackupPath := ← column (readOptional readText) database (str "mssql_backup_path")
    mssqlHostBackupPath := ← column (readOptional readText) database (str "mssql_host_backup_path")
    artifactRemoteServerId := ← column (readOptional readInt) database (str "artifact_remote_server_id") }
  let server ← column restoreRemote database (str "artifact_remote_server")
  return ⟨row,server⟩

def restorePath : Read BackupPath := fun item => do
  return {
    path := ← column readText item (str "path")
    sqliteSnapshotCandidate := ← column readBool item (str "sqlite_snapshot_candidate") }

def restoreFiles : Read (Sourced FilesSource) := fun files => do
  let row : FilesSource := {
    location := ← column readMember files (str "location")
    remoteServerId := ← column (readOptional readInt) files (str "remote_server_id")
    paths := ← column (readList restorePath) files (str "paths") }
  let server ← column restoreRemote files (str "remote_server")
  return ⟨row,server⟩

def restoreGitlab : Read (Sourced GitLabSource) := fun gitlab => do
  let row : GitLabSource := {
    location := ← column readMember gitlab (str "location")
    remoteServerId := ← column (readOptional readInt) gitlab (str "remote_server_id")
    containerName := ← column readText gitlab (str "container_name")
    backupPath := ← columnOrNull (readOptional readText) gitlab (str "backup_path") }
  let server ← column restoreRemote gitlab (str "remote_server")
  return ⟨row,server⟩

/-- `json.loads(snapshot)`, and the check of the schema. -/
def loadSnapshot (os : Platform) (snapshot : Str) : Except SnapshotError Json := do
  let payload ← (loads os.recursion snapshot).mapError .json
  let schema ← itemOrNull payload (str "schema")
  refuse (!schema.eqNat 1) (.value "unsupported run configuration snapshot")
  return payload

def restoreRunConfig (os : Platform) (snapshot : Str) : Except SnapshotError LoadedProfile := do
  let payload ← loadSnapshot os snapshot
  return {
    profile := ← column restoreProfile payload (str "profile")
    databaseSource := ← column (readOptional restoreDatabase) payload (str "database")
    filesSource := ← column (readOptional restoreFiles) payload (str "files")
    gitlabSource := ← columnOrNull (readOptional restoreGitlab) payload (str "gitlab") }

/-- A missing list is an empty one. -/
def restoreRunAdminIds (os : Platform) (snapshot : Str) : Except SnapshotError (Finset Int) := do
  let payload ← loadSnapshot os snapshot
  let ids ← (payload.get (str "assigned_admin_ids")).elim (.ok []) (readList readInt)
  return ids.toFinset

end BackupTelebot.Config
