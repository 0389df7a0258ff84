import BackupTelebot.JsonRoundTrip
import BackupTelebot.PurePaths
import BackupTelebot.PythonText
import BackupTelebot.Queue

/-! What an operator enters for a profile, and the checks it passes before it is saved.
Every check answers with the text of its `ValueError`. -/
namespace BackupTelebot.Config

open PyJson Queue

inductive DatabaseEngine where
  | postgresql
  | mysqlMariadb
  | mssql
  deriving DecidableEq, Repr

inductive TLSMode where
  | disabled
  | preferred
  | required
  | verifyCa
  | verifyFull
  deriving DecidableEq, Repr

inductive SourceLocation where
  | localHost
  | remoteServer
  deriving DecidableEq, Repr

/-- Legacy combined persistence values. -/
inductive CompressionFormat where
  | none
  | zstandard
  | gzip
  | xz
  | bzip2
  | zip
  | sevenZ
  deriving DecidableEq, Repr

inductive ArchiveFormat where
  | tar
  | zip
  | sevenZ
  deriving DecidableEq, Repr

inductive CompressionAlgorithm where
  | none
  | gzip
  | bzip2
  | xz
  | zstandard
  | lz4
  deriving DecidableEq, Repr

inductive CompressionPreset where
  | fast
  | balanced
  | high
  | maximum
  deriving DecidableEq, Repr

inductive EncryptionMode where
  | none
  | agePublicKey
  | agePassphrase
  deriving DecidableEq, Repr

/-- `if bad: raise ValueError(message)`, and the same for any other error. -/
def refuse {ε : Type} (bad : Bool) (error : ε) : Except ε Unit := if bad then .error error else .ok ()

@[simp] theorem refuse_eq_ok {ε : Type} {bad : Bool} {error : ε} {u : Unit} :
    refuse bad error = .ok u ↔ bad = false := by cases bad <;> simp [refuse]

@[simp] theorem bind_eq_ok {α β ε : Type} {x : Except ε α} {f : α → Except ε β} {b : β} :
    (x >>= f) = .ok b ↔ ∃ a, x = .ok a ∧ f a = .ok b := by
  cases x with
  | error e => simp [bind,Except.bind]
  | ok a => simp [bind,Except.bind]

@[simp] theorem pure_eq_ok {α ε : Type} {a b : α} : (pure a : Except ε α) = .ok b ↔ a = b := by
  simp [pure,Except.pure]

/-- `not value` of an optional text. -/
def falsy (value : Option Str) : Bool := value = none || value = some []

/-- `_HOST`, matched as a whole. -/
def isHost (host : Str) : Bool :=
  host.head?.any PyText.isAsciiAlnum && host.getLast?.any PyText.isAsciiAlnum &&
    host.all (fun c => PyText.isAsciiAlnum c || c == 46 || c == 58 || c == 45) && decide (host.length ≤ 253)

/-- `_AGE_RECIPIENT`. -/
def isAgeRecipient (item : Str) : Bool :=
  item.take 4 == str "age1" && (item.drop 4).all (fun c => PyText.isAsciiDigit c || PyText.isAsciiLower c) &&
    decide (20 ≤ (item.drop 4).length ∧ (item.drop 4).length ≤ 100)

/-- `_DOCKER_CONTAINER`. -/
def isDockerContainer (name : Str) : Bool :=
  name.head?.any PyText.isAsciiAlnum &&
    name.all (fun c => PyText.isAsciiAlnum c || c == 95 || c == 46 || c == 45) && decide (name.length ≤ 128)

def validateHost (value : Str) : Except String Str := do
  let host := PyText.strip value
  refuse (!isHost host || host.any PyText.isSpace) "invalid host or IP address"
  return host

def validatePort (value : Int) : Except String Int := do
  refuse (!decide (1 ≤ value ∧ value ≤ 65535)) "port must be between 1 and 65535"
  return value

def validateAbsolutePath (value : Str) : Except String Str := do
  let clean := PyText.strip value
  let path := PurePosix.parse clean
  refuse (clean.head? != some PurePosix.slash || path.climbs || clean.contains 0 || decide (1024 < clean.length))
    "path must be an absolute normalized path"
  return path.text

def validateDockerContainerName (value : Str) : Except String Str := do
  let clean := PyText.strip value
  refuse (!isDockerContainer clean) "invalid Docker container name"
  return clean

structure ScheduleConfig where
  kind : ScheduleKind
  interval : Option Int
  time : Option Str
  weekday : Option Int
  monthday : Option Int
  cronExpression : Option Str
  deriving DecidableEq

def intervalLimit : ScheduleKind → Option Int
  | .everyNMinutes => some 10080
  | .everyNHours => some 8760
  | .everyNDays => some 3650
  | _ => none

def timed (kind : ScheduleKind) : Bool := kind = .daily || kind = .weekly || kind = .monthly

/-- `(?:[01]\d|2[0-3]):[0-5]\d`, matched as a whole. -/
def isTime : Str → Bool
  | [h,h',colon,m,m'] =>
      ((h == 48 || h == 49) && PyText.isDecimal h' || h == 50 && decide (48 ≤ h' ∧ h' ≤ 51)) && colon == 58 &&
        decide (48 ≤ m ∧ m ≤ 53) && PyText.isDecimal m'
  | _ => false

/-- `str.upper`, as far as its result can be in the pattern below: no other character turns
into the letters of a month's or a day's name and nothing else. -/
def upper (c : Nat) : Nat :=
  if PyText.isAsciiLower c then c - 32 else if c = 0x131 then 73 else if c = 0x17F then 83 else c

def cronNames : List Str :=
  [str "JAN",str "FEB",str "MAR",str "APR",str "MAY",str "JUN",str "JUL",str "AUG",str "SEP",str "OCT",str "NOV",
    str "DEC",str "SUN",str "MON",str "TUE",str "WED",str "THU",str "FRI",str "SAT"]

/-- `re.sub` of the names by `1`, from the left. -/
def subNames : Str → Str
  | a :: b :: c :: rest =>
      if cronNames.contains [a,b,c] then 49 :: subNames rest else a :: subNames (b :: c :: rest)
  | short => short

/-- `[0-9*/ ,\-]+`, matched as a whole. -/
def isStandardCron (text : Str) : Bool :=
  text != [] && text.all fun c =>
    PyText.isAsciiDigit c || c == 42 || c == 47 || c == 32 || c == 44 || c == 45

/-- `" ".join(expression.split())`. -/
def normalizeCron (expression : Str) : Str := List.intercalate [32] (PyText.split expression)

/-- The third-party reader of cron expressions: what it accepts, and whether it finds a
date after the first of January 2000. -/
structure Croniter where
  isValid : Str → Bool
  hasNext : Str → Bool

def ScheduleConfig.validateCron (croniter : Croniter) (c : ScheduleConfig) : Except String Unit :=
  match c.cronExpression with
  | none => refuse (c.kind = .cron) "cron schedules require an expression"
  | some raw => do
      refuse (c.kind ≠ .cron) "cron expression is not valid for this schedule"
      let expression := normalizeCron raw
      refuse (decide (200 < expression.length) || (PyText.split expression).length != 5)
        "cron expression must contain exactly five fields"
      refuse (!isStandardCron (subNames (expression.map upper)) || !croniter.isValid expression) "invalid cron expression"
      refuse (!croniter.hasNext expression) "cron expression has no possible execution date"

def ScheduleConfig.validateInterval (c : ScheduleConfig) : Except String Unit :=
  match intervalLimit c.kind with
  | some limit => refuse (!c.interval.any fun i => decide (1 ≤ i ∧ i ≤ limit)) "invalid schedule interval"
  | none => refuse c.interval.isSome "interval is not valid for this schedule"

def ScheduleConfig.validateTime (c : ScheduleConfig) : Except String Unit :=
  if timed c.kind then refuse (!c.time.any isTime) "time must use HH:MM"
  else refuse c.time.isSome "time is not valid for this schedule"

def ScheduleConfig.validate (croniter : Croniter) (c : ScheduleConfig) : Except String ScheduleConfig := do
  c.validateInterval
  c.validateTime
  refuse (decide (c.kind = .weekly) != c.weekday.isSome) "weekly schedules require exactly one weekday"
  refuse (c.weekday.any fun d => !decide (0 ≤ d ∧ d ≤ 6)) "weekday must be between 0 and 6"
  refuse (decide (c.kind = .monthly) != c.monthday.isSome) "monthly schedules require exactly one day"
  refuse (c.monthday.any fun d => !decide (1 ≤ d ∧ d ≤ 28)) "month day must be between 1 and 28"
  c.validateCron croniter
  return c

def ScheduleConfig.normalizedCronExpression (c : ScheduleConfig) : Option Str := c.cronExpression.map normalizeCron

structure CompressionConfig where
  format : CompressionFormat
  preset : Option CompressionPreset
  archive : Option ArchiveFormat
  algorithmOverride : Option CompressionAlgorithm
  deriving DecidableEq

def CompressionConfig.archiveFormat (c : CompressionConfig) : ArchiveFormat :=
  match c.archive, c.format with
  | some archive,_ => archive
  | none,.zip => .zip
  | none,.sevenZ => .sevenZ
  | none,_ => .tar

/-- Legacy containers already include their historical built-in compression. -/
def CompressionFormat.legacyAlgorithm : CompressionFormat → CompressionAlgorithm
  | .none => .none
  | .zstandard => .zstandard
  | .gzip => .gzip
  | .xz => .xz
  | .bzip2 => .bzip2
  | .zip => .none
  | .sevenZ => .none

def CompressionConfig.algorithm (c : CompressionConfig) : CompressionAlgorithm :=
  c.algorithmOverride.getD c.format.legacyAlgorithm

def CompressionConfig.legacyContainer (c : CompressionConfig) : Bool :=
  c.algorithmOverride = none && (c.format = .zip || c.format = .sevenZ)

def CompressionConfig.validate (c : CompressionConfig) : Except String CompressionConfig := do
  refuse (c.algorithm = .none && c.preset.isSome && !c.legacyContainer) "no-compression mode cannot have a preset"
  refuse (c.algorithm ≠ .none && c.preset.isNone) "compressed formats require a preset"
  return c

structure EncryptionConfig where
  mode : EncryptionMode
  recipients : List Str
  passphrase : Option Str
  deriving DecidableEq

def EncryptionConfig.validateMode (c : EncryptionConfig) (allowMissingPassphrase : Bool) : Except String Unit :=
  match c.mode with
  | .none => refuse (c.recipients ≠ [] || !falsy c.passphrase) "unencrypted profiles cannot include encryption secrets"
  | .agePublicKey => do
      refuse (c.recipients = [] || !falsy c.passphrase) "public-key mode requires recipients only"
      refuse (c.recipients.any fun item => !isAgeRecipient item) "invalid age recipient"
  | .agePassphrase =>
      refuse (falsy c.passphrase && !allowMissingPassphrase || c.recipients ≠ [])
        "passphrase mode requires a passphrase only"

def EncryptionConfig.validate (c : EncryptionConfig) (allowMissingPassphrase : Bool) :
    Except String EncryptionConfig := do
  c.validateMode allowMissingPassphrase
  return c

/-- `list(dict.fromkeys(items))`. -/
def fromkeys {α : Type} [BEq α] (items : List α) : List α := items.eraseDups

def EncryptionConfig.recipientsJson (c : EncryptionConfig) : Option Str :=
  if c.recipients = [] then none else some (Json.arr ((fromkeys c.recipients).map .str)).dump

structure DatabaseConfig where
  engine : DatabaseEngine
  host : Str
  port : Int
  databaseName : Str
  username : Str
  password : Option Str
  tlsMode : TLSMode
  tlsCaCertificate : Option Str
  mssqlInDocker : Bool
  mssqlBackupPath : Option Str
  mssqlHostBackupPath : Option Str
  artifactRemoteServerId : Option Int
  deriving DecidableEq

def TLSMode.verifies (mode : TLSMode) : Bool := mode = .verifyCa || mode = .verifyFull

def DatabaseConfig.validateHostPath (c : DatabaseConfig) : Except String Unit :=
  match c.mssqlInDocker, c.mssqlHostBackupPath with
  | true,none => .error "containerized MSSQL requires its mounted host path"
  | true,some path => do
      let _ ← validateAbsolutePath path
  | false,path => refuse path.isSome "non-Docker MSSQL cannot have a mounted host path"

def DatabaseConfig.validateMssql (c : DatabaseConfig) : Except String Unit :=
  match c.engine, c.mssqlBackupPath with
  | .mssql,none => .error "MSSQL requires a backup destination path"
  | .mssql,some path => do
      let _ ← validateAbsolutePath path
      c.validateHostPath
  | _,_ =>
      refuse (c.mssqlInDocker || !falsy c.mssqlBackupPath || !falsy c.mssqlHostBackupPath ||
          c.artifactRemoteServerId.any (· ≠ 0))
        "MSSQL-only fields are not valid for this engine"

def DatabaseConfig.validate (c : DatabaseConfig) (allowMissingPassword : Bool) : Except String DatabaseConfig := do
  let _ ← validateHost c.host
  let _ ← validatePort c.port
  refuse (PyText.strip c.databaseName = [] || PyText.strip c.username = [] ||
      falsy c.password && !allowMissingPassword)
    "database name, username, and password are required"
  refuse (c.tlsMode.verifies && falsy c.tlsCaCertificate) "certificate verification requires a CA certificate"
  c.validateMssql
  return c

structure FilesConfig where
  location : SourceLocation
  paths : List Str
  remoteServerId : Option Int
  deriving DecidableEq

def validateAbsolutePaths : List Str → Except String Unit
  | [] => .ok ()
  | path :: rest => do
      let _ ← validateAbsolutePath path
      validateAbsolutePaths rest

def FilesConfig.validate (c : FilesConfig) : Except String FilesConfig := do
  refuse (c.paths = []) "at least one path is required"
  validateAbsolutePaths c.paths
  refuse (c.location = .remoteServer && c.remoteServerId.isNone) "remote file sources require a remote server"
  refuse (c.location = .localHost && c.remoteServerId.isSome) "local file sources cannot reference a remote server"
  return c

structure GitLabConfig where
  location : SourceLocation
  containerName : Str
  backupPath : Option Str
  remoteServerId : Option Int
  deriving DecidableEq

/-- The last part of the check for a remote source. -/
def validateGitlabRoot (backupPath : Option Str) : Except String Unit :=
  match backupPath with
  | none => .error "remote GitLab sources require a backup path"
  | some path => do
      let clean ← validateAbsolutePath path
      refuse (clean = [PurePosix.slash]) "GitLab backup root cannot be filesystem root"

def GitLabConfig.validateLocation (c : GitLabConfig) : Except String Unit :=
  match c.location with
  | .remoteServer => do
      refuse c.remoteServerId.isNone "remote GitLab sources require a remote server"
      validateGitlabRoot c.backupPath
  | .localHost => do
      refuse c.remoteServerId.isSome "local GitLab sources cannot reference a remote server"
      refuse c.backupPath.isSome "local GitLab sources cannot define a backup path"

def GitLabConfig.validate (c : GitLabConfig) : Except String GitLabConfig := do
  let _ ← validateDockerContainerName c.containerName
  c.validateLocation
  return c

theorem validateAbsolutePath_ok {value path : Str} : validateAbsolutePath value = .ok path ↔
    ((PyText.strip value).head? = some PurePosix.slash ∧ (PurePosix.parse (PyText.strip value)).climbs = false ∧
      0 ∉ PyText.strip value ∧ (PyText.strip value).length ≤ 1024) ∧
      path = (PurePosix.parse (PyText.strip value)).text := by
  simp only [validateAbsolutePath,bind_eq_ok,refuse_eq_ok,pure_eq_ok,Bool.or_eq_false_iff,bne_eq_false_iff_eq,
    List.contains_eq_mem,decide_eq_false_iff_not,Nat.not_lt,exists_const,and_assoc,eq_comm (a := path)]

end BackupTelebot.Config
