import BackupTelebot.Base64
import BackupTelebot.IsoTimestamps
import BackupTelebot.LocalSourcePaths
import BackupTelebot.TernaryLogic

/-! The rows of a profile, the CHECK constraints of their tables, and the rows that a
creation makes of its configurations. -/
namespace BackupTelebot.Config

open PyJson Queue Base64 IsoTime

inductive ProfileStatus where
  | draft
  | archived
  deriving DecidableEq, Repr

inductive SSHAuthenticationMethod where
  | privateKey
  deriving DecidableEq, Repr

structure BackupProfile where
  id : Int
  uuid : Str
  name : Str
  description : Option Str
  sourceType : SourceType
  enabled : Bool
  status : ProfileStatus
  scheduleKind : ScheduleKind
  scheduleInterval : Option Int
  scheduleTime : Option Str
  scheduleWeekday : Option Int
  scheduleMonthday : Option Int
  scheduleCron : Option Str
  nextScheduledAt : Option DateTime
  compressionFormat : CompressionFormat
  archiveFormat : ArchiveFormat
  compressionAlgorithm : CompressionAlgorithm
  compressionPreset : Option CompressionPreset
  encryptionMode : EncryptionMode
  ageRecipients : Option Str
  encryptedAgePassphrase : Option Bytes
  createdBy : Int
  deriving DecidableEq

structure DatabaseSource where
  engine : DatabaseEngine
  host : Str
  port : Int
  databaseName : Str
  username : Str
  encryptedPassword : Bytes
  tlsMode : TLSMode
  tlsCaCertificate : Option Str
  mssqlInDocker : Bool
  mssqlBackupPath : Option Str
  mssqlHostBackupPath : Option Str
  artifactRemoteServerId : Option Int
  deriving DecidableEq

structure BackupPath where
  path : Str
  sqliteSnapshotCandidate : Bool
  deriving DecidableEq

structure FilesSource where
  location : SourceLocation
  remoteServerId : Option Int
  paths : List BackupPath
  deriving DecidableEq

structure GitLabSource where
  location : SourceLocation
  remoteServerId : Option Int
  containerName : Str
  backupPath : Option Str
  deriving DecidableEq

structure RemoteServer where
  id : Int
  name : Str
  host : Str
  sshPort : Int
  sshUsername : Str
  authenticationMethod : SSHAuthenticationMethod
  encryptedPrivateKey : Bytes
  encryptedKeyPassphrase : Option Bytes
  hostKeyFingerprint : Str
  enabled : Bool
  deletedAt : Option DateTime
  deriving DecidableEq

structure CheckConstraint (α : Type) where
  name : String
  condition : α → Sql.Truth

open Sql in
/-- The shape of `HH:MM`, one character after the other. -/
def timeShape (time : Option Str) : Truth :=
  ((((((Sql.eq (Sql.length time) 5).and
    (between (substr time 1 1) (str "0") (str "9"))).and
    (between (substr time 2 1) (str "0") (str "9"))).and
    (Sql.eq (substr time 3 1) (str ":"))).and
    (between (substr time 4 1) (str "0") (str "5"))).and
    (between (substr time 5 1) (str "0") (str "9"))).and
    (between (substr time 1 2) (str "00") (str "23"))

open Sql in
/-- One alternative of the constraint on the shape of schedules: what the columns of the
kinds are tested for. -/
def BackupProfile.shape (r : BackupProfile) (kinds : List ScheduleKind) (interval : Option Int → Truth)
    (time : Option Str → Truth) (weekday monthday : Option Int → Truth) (cron : Option Str → Truth) : Truth :=
  (((((isIn (some r.scheduleKind) kinds).and (interval r.scheduleInterval)).and (time r.scheduleTime)).and
    (weekday r.scheduleWeekday)).and (monthday r.scheduleMonthday)).and (cron r.scheduleCron)

open Sql in
def BackupProfile.shapes (r : BackupProfile) : Truth :=
  ((((r.shape [.manual,.once] isNull isNull isNull isNull isNull).or
    (r.shape [.everyNMinutes,.everyNHours,.everyNDays] isNotNull isNull isNull isNull isNull)).or
    (r.shape [.daily] isNull isNotNull isNull isNull isNull)).or
    (r.shape [.weekly] isNull isNotNull isNotNull isNull isNull)).or
    ((r.shape [.monthly] isNull isNotNull isNull isNotNull isNull).or
    (r.shape [.cron] isNull isNull isNull isNull isNotNull))

open Sql in
def BackupProfile.tableArgs : List (CheckConstraint BackupProfile) := [
  ⟨"ck_backup_profiles_source_type",fun r => isIn (some r.sourceType) [.database,.filesDirectories,.gitlab]⟩,
  ⟨"ck_backup_profiles_status",fun r => isIn (some r.status) [.draft,.archived]⟩,
  ⟨"ck_backup_profiles_schedule_interval",fun r => (isNull r.scheduleInterval).or (gt r.scheduleInterval 0)⟩,
  ⟨"ck_backup_profiles_schedule_weekday",fun r => (isNull r.scheduleWeekday).or (between r.scheduleWeekday 0 6)⟩,
  ⟨"ck_backup_profiles_schedule_monthday",fun r => (isNull r.scheduleMonthday).or (between r.scheduleMonthday 1 28)⟩,
  ⟨"ck_backup_profiles_schedule_kind",fun r => isIn (some r.scheduleKind)
    [.manual,.once,.everyNMinutes,.everyNHours,.everyNDays,.daily,.weekly,.monthly,.cron]⟩,
  ⟨"ck_backup_profiles_schedule_cron",fun r => (isNull r.scheduleCron).or (between (Sql.length r.scheduleCron) 1 200)⟩,
  ⟨"ck_backup_profiles_schedule_interval_limits",fun r =>
    (((ne (some r.scheduleKind) .everyNMinutes).or (le r.scheduleInterval 10080)).and
      ((ne (some r.scheduleKind) .everyNHours).or (le r.scheduleInterval 8760))).and
      ((ne (some r.scheduleKind) .everyNDays).or (le r.scheduleInterval 3650))⟩,
  ⟨"ck_backup_profiles_schedule_time",fun r => (isNull r.scheduleTime).or (timeShape r.scheduleTime)⟩,
  ⟨"ck_backup_profiles_schedule_shape",fun r => r.shapes⟩,
  ⟨"ck_backup_profiles_compression_format",fun r => isIn (some r.compressionFormat)
    [.none,.zstandard,.gzip,.xz,.bzip2,.zip,.sevenZ]⟩,
  ⟨"ck_backup_profiles_archive_format",fun r => isIn (some r.archiveFormat) [.tar,.zip,.sevenZ]⟩,
  ⟨"ck_backup_profiles_compression_algorithm",fun r => isIn (some r.compressionAlgorithm)
    [.none,.gzip,.bzip2,.xz,.zstandard,.lz4]⟩,
  ⟨"ck_backup_profiles_compression_preset",fun r =>
    (isNull r.compressionPreset).or (isIn r.compressionPreset [.fast,.balanced,.high,.maximum])⟩,
  ⟨"ck_backup_profiles_compression_shape",fun r =>
    ((Sql.eq (some r.compressionFormat) .none).and (isNull r.compressionPreset)).or
      ((ne (some r.compressionFormat) .none).and (isNotNull r.compressionPreset))⟩,
  ⟨"ck_backup_profiles_encryption_mode",fun r => isIn (some r.encryptionMode) [.none,.agePublicKey,.agePassphrase]⟩,
  ⟨"ck_backup_profiles_encryption_shape",fun r =>
    ((((Sql.eq (some r.encryptionMode) .none).and (isNull r.ageRecipients)).and (isNull r.encryptedAgePassphrase)).or
      ((((Sql.eq (some r.encryptionMode) .agePublicKey).and (isNotNull r.ageRecipients)).and
        (gt (Sql.length r.ageRecipients) 0)).and (isNull r.encryptedAgePassphrase))).or
      ((((Sql.eq (some r.encryptionMode) .agePassphrase).and (isNull r.ageRecipients)).and
        (isNotNull r.encryptedAgePassphrase)).and (gt (r.encryptedAgePassphrase.map (·.length)) 0))⟩]

open Sql in
def DatabaseSource.tableArgs : List (CheckConstraint DatabaseSource) := [
  ⟨"ck_database_sources_port",fun r => between (some r.port) 1 65535⟩,
  ⟨"ck_database_sources_mssql_paths",fun r =>
    (((((ne (some r.engine) .mssql).and (Sql.eq (some r.mssqlInDocker) false)).and (isNull r.mssqlBackupPath)).and
        (isNull r.mssqlHostBackupPath)).and (isNull r.artifactRemoteServerId)).or
      (((Sql.eq (some r.engine) .mssql).and (isNotNull r.mssqlBackupPath)).and
        (((Sql.eq (some r.mssqlInDocker) false).and (isNull r.mssqlHostBackupPath)).or
          ((Sql.eq (some r.mssqlInDocker) true).and (isNotNull r.mssqlHostBackupPath))))⟩,
  ⟨"ck_database_sources_engine",fun r => isIn (some r.engine) [.postgresql,.mysqlMariadb,.mssql]⟩,
  ⟨"ck_database_sources_tls_mode",fun r => isIn (some r.tlsMode)
    [.disabled,.preferred,.required,.verifyCa,.verifyFull]⟩,
  ⟨"ck_database_sources_tls_ca",fun r => (notIn (some r.tlsMode) [.verifyCa,.verifyFull]).or
    ((isNotNull r.tlsCaCertificate).and (gt (Sql.length r.tlsCaCertificate) 0))⟩]

open Sql in
def GitLabSource.tableArgs : List (CheckConstraint GitLabSource) := [
  ⟨"ck_gitlab_sources_location",fun r => isIn (some r.location) [.localHost,.remoteServer]⟩,
  ⟨"ck_gitlab_sources_remote_consistency",fun r =>
    ((Sql.eq (some r.location) .localHost).and (isNull r.remoteServerId)).or
      ((Sql.eq (some r.location) .remoteServer).and (isNotNull r.remoteServerId))⟩,
  ⟨"ck_gitlab_container",fun r => between (Sql.length (some r.containerName)) 1 128⟩,
  ⟨"ck_gitlab_backup_path",fun r =>
    ((Sql.eq (some r.location) .localHost).and (isNull r.backupPath)).or
      ((Sql.eq (some r.location) .remoteServer).and (gt (Sql.length r.backupPath) 1))⟩]

def Storable {α : Type} (tableArgs : List (CheckConstraint α)) (row : α) : Prop :=
  ∀ check ∈ tableArgs, (check.condition row).passes

instance {α : Type} (tableArgs : List (CheckConstraint α)) (row : α) : Decidable (Storable tableArgs row) :=
  inferInstanceAs (Decidable (∀ check ∈ tableArgs, (check.condition row).passes))

/-- The third-party cipher under the configured key. Encryption fails on a text without an
encoding in UTF-8; what was encrypted is decrypted again and carries a tag of sixteen bytes. -/
structure AESGCM where
  encrypt : Bytes → Str → String → Option Bytes
  decrypt : Bytes → Bytes → String → Option Str
  decrypt_encrypt : ∀ nonce text context sealed,
    encrypt nonce text context = some sealed → decrypt nonce sealed context = some text
  tag : ∀ nonce text context sealed, encrypt nonce text context = some sealed → text ≠ [] → 16 < sealed.length

/-- `os.urandom(12)`. -/
structure Nonce where
  bytes : Bytes
  length : bytes.length = 12

def encrypt (cipher : AESGCM) (nonce : Nonce) (plaintext : Str) (context : String) : Except String Bytes :=
  if plaintext = [] then .error "secret cannot be empty"
  else match cipher.encrypt nonce.bytes plaintext context with
    | none => .error "surrogates not allowed"
    | some sealed => .ok (1 :: nonce.bytes ++ sealed)

def decrypt (cipher : AESGCM) (token : Bytes) (context : String) : Except String Str :=
  if token.length < 30 ∨ token.take 1 ≠ [1] then .error "invalid encrypted secret"
  else match cipher.decrypt ((token.drop 1).take 12) (token.drop 13) context with
    | none => .error "secret authentication failed"
    | some value => .ok value

theorem encrypt_ok {cipher : AESGCM} {nonce : Nonce} {plaintext : Str} {context : String} {token : Bytes}
    (encrypted : encrypt cipher nonce plaintext context = .ok token) :
    plaintext ≠ [] ∧ ∃ sealed, cipher.encrypt nonce.bytes plaintext context = some sealed ∧
      token = 1 :: nonce.bytes ++ sealed := by
  unfold encrypt at encrypted
  by_cases empty : plaintext = []
  · simp [empty] at encrypted
  · rw [if_neg empty] at encrypted
    cases result : cipher.encrypt nonce.bytes plaintext context with
    | none => simp [result] at encrypted
    | some sealed =>
      simp only [result,Except.ok.injEq] at encrypted
      exact ⟨empty,sealed,rfl,encrypted.symm⟩

/-- A secret is read back from what is stored of it. -/
theorem decrypt_encrypt {cipher : AESGCM} {nonce : Nonce} {plaintext : Str} {context : String} {token : Bytes}
    (encrypted : encrypt cipher nonce plaintext context = .ok token) : decrypt cipher token context = .ok plaintext := by
  obtain ⟨nonempty,sealed,result,rfl⟩ := encrypt_ok encrypted
  have long := cipher.tag _ _ _ _ result nonempty
  have size := nonce.length
  have enough : ¬((1 :: nonce.bytes ++ sealed).length < 30 ∨ (1 :: nonce.bytes ++ sealed).take 1 ≠ [1]) := by
    simp
    omega
  have front : (List.drop 1 (1 :: nonce.bytes ++ sealed)).take 12 = nonce.bytes := by simp [← size]
  have back : List.drop 13 (1 :: nonce.bytes ++ sealed) = sealed := by simp [← size]
  rw [decrypt,if_neg enough,front,back,cipher.decrypt_encrypt _ _ _ _ result]

def validateName (value : Str) : Except String Str := do
  let clean := PyText.strip value
  refuse (!decide (1 ≤ clean.length ∧ clean.length ≤ 200)) "name must contain 1 to 200 characters"
  return clean

/-- What a creation finds in the bot: who asks for it, the keys it is given, the cipher, the
mapping of local sources, and the moment that `_register_schedule` computes. -/
structure Creation where
  actorId : Int
  id : Int
  uuid : Str
  cipher : Option AESGCM
  nonces : Nonce × Nonce
  mapper : Option LocalSourcePathMapper
  nextScheduledAt : Option DateTime

def zeroNonce : Nonce := ⟨List.replicate 12 0,rfl⟩

def smallCreation : Creation := ⟨1,1,str "u",none,(zeroNonce,zeroNonce),none,none⟩

/-- `description.strip() if description else None`. -/
def cleanDescription (description : Option Str) : Option Str :=
  if falsy description then none else description.map PyText.strip

def createDraft (env : Creation) (name : Str) (description : Option Str) (sourceType : SourceType) : BackupProfile where
  id := env.id
  uuid := env.uuid
  name := PyText.strip name
  description := cleanDescription description
  sourceType := sourceType
  enabled := true
  status := .draft
  scheduleKind := .manual
  scheduleInterval := none
  scheduleTime := none
  scheduleWeekday := none
  scheduleMonthday := none
  scheduleCron := none
  nextScheduledAt := none
  compressionFormat := .zstandard
  archiveFormat := .tar
  compressionAlgorithm := .zstandard
  compressionPreset := some .balanced
  encryptionMode := .none
  ageRecipients := none
  encryptedAgePassphrase := none
  createdBy := env.actorId

def configured (env : Creation) (draft : BackupProfile) (schedule : ScheduleConfig) (compression : CompressionConfig)
    (encryption : EncryptionConfig) (encryptedAgePassphrase : Option Bytes) : BackupProfile :=
  { draft with
    scheduleKind := schedule.kind
    scheduleInterval := schedule.interval
    scheduleTime := schedule.time
    scheduleWeekday := schedule.weekday
    scheduleMonthday := schedule.monthday
    scheduleCron := schedule.normalizedCronExpression
    nextScheduledAt := env.nextScheduledAt
    compressionFormat := compression.format
    archiveFormat := compression.archiveFormat
    compressionAlgorithm := compression.algorithm
    compressionPreset := compression.preset
    encryptionMode := encryption.mode
    ageRecipients := encryption.recipientsJson
    encryptedAgePassphrase := encryptedAgePassphrase }

/-- `_require_cipher().encrypt(…)`. -/
def requireEncrypt (cipher : Option AESGCM) (nonce : Nonce) (plaintext : Str) (context : String) : Except String Bytes :=
  match cipher with
  | none => .error "secret cipher is required"
  | some cipher => encrypt cipher nonce plaintext context

def agePassphrase (env : Creation) (encryption : EncryptionConfig) : Except String (Option Bytes) :=
  match encryption.passphrase with
  | none => .ok none
  | some passphrase =>
      if passphrase = [] then .ok none
      else (requireEncrypt env.cipher env.nonces.1 passphrase "backup-age-passphrase-v1").map some

def databaseSource (env : Creation) (database : DatabaseConfig) : Except String DatabaseSource :=
  match database.password with
  | none => .error "database password is required"
  | some password => do
      let encryptedPassword ← requireEncrypt env.cipher env.nonces.2 password "database-password-v1"
      return {
        engine := database.engine
        host := PyText.strip database.host
        port := database.port
        databaseName := PyText.strip database.databaseName
        username := PyText.strip database.username
        encryptedPassword := encryptedPassword
        tlsMode := database.tlsMode
        tlsCaCertificate := database.tlsCaCertificate
        mssqlInDocker := database.mssqlInDocker
        mssqlBackupPath := database.mssqlBackupPath
        mssqlHostBackupPath := database.mssqlHostBackupPath
        artifactRemoteServerId := database.artifactRemoteServerId }

def persistedFilePaths (mapper : Option LocalSourcePathMapper) (files : FilesConfig) : Except String (List Str) :=
  match files.location, mapper with
  | .localHost,some mapper => (files.paths.mapM mapper.canonicalHostPath).mapError (·.message)
  | _,_ => .ok files.paths

/-- `str.lower`, as far as the tests for an ending see it: besides the capital letters only
the Kelvin sign turns into a letter of ASCII alone. -/
def lower (c : Nat) : Nat := if 65 ≤ c ∧ c ≤ 90 then c + 32 else if c = 0x212A then 107 else c

def endsWith (path suffix : Str) : Bool := suffix.isSuffixOf (path.map lower)

def backupPath (path : Str) : BackupPath :=
  ⟨path,endsWith path (str ".sqlite") || endsWith path (str ".sqlite3") || endsWith path (str ".db")⟩

def filesSource (env : Creation) (files : FilesConfig) : Except String FilesSource := do
  let paths ← persistedFilePaths env.mapper files
  return ⟨files.location,files.remoteServerId,(fromkeys paths).map backupPath⟩

def gitlabSource (gitlab : GitLabConfig) : GitLabSource :=
  ⟨gitlab.location,gitlab.remoteServerId,PyText.strip gitlab.containerName,gitlab.backupPath.map PyText.strip⟩

end BackupTelebot.Config
