import BackupTelebot.RemotePaths
import BackupTelebot.StorableRows

/-! The checks of the worker that look at nothing but a stored database profile, and which
accepted profiles pass them. -/
namespace BackupTelebot.Config

open PyJson

def isUnsafe (c : Nat) : Bool := c == 10 || c == 13 || c == 0

/-- `_pgpass_field`: backslashes and colons are escaped. -/
def pgpassField (value : Str) : Except Failure Str :=
  if value.any isUnsafe then .error (.pipeline "INVALID_PROFILE")
  else .ok (value.flatMap fun c => if c = 92 then [92,92] else if c = 58 then [92,58] else [c])

theorem pgpassField_ok {value : Str} : (∃ text, pgpassField value = .ok text) ↔ ∀ c ∈ value, isUnsafe c = false := by
  have safe : value.any isUnsafe = false ↔ ∀ c ∈ value, isUnsafe c = false := by simp
  rw [← safe,pgpassField]
  cases value.any isUnsafe <;> simp

structure MSSQLTLSConfig where
  cafile : Option Str
  validateHost : Bool
  deriving DecidableEq

def mssqlTlsConfig (mode : TLSMode) (caFile : Option Str) (opensslAvailable : Bool) : Except Failure MSSQLTLSConfig :=
  match mode, caFile with
  | .disabled,_ => .ok ⟨none,false⟩
  | .preferred,_ => .error (.pipeline "MSSQL_TLS_MODE_UNSUPPORTED")
  | .required,_ => .error (.pipeline "MSSQL_TLS_MODE_UNSUPPORTED")
  | _,none => .error (.pipeline "MSSQL_TLS_CA_MISSING")
  | mode,some caFile =>
      if opensslAvailable then .ok ⟨some caFile,mode = .verifyFull⟩ else .error (.pipeline "MSSQL_TLS_UNAVAILABLE")

/-- The part of `_mssql_backup` before the connection: the stored certificate goes into a file. -/
def mssqlTls (source : DatabaseSource) (certificateFile : Str) (opensslAvailable : Bool) :
    Except Failure MSSQLTLSConfig := do
  refuse (source.tlsMode.verifies && falsy source.tlsCaCertificate) (.pipeline "MSSQL_TLS_CA_MISSING")
  mssqlTlsConfig source.tlsMode (if source.tlsMode.verifies then some certificateFile else none) opensslAvailable

/-- `[a-f0-9]{32}`, matched as a whole. -/
def isOperationId (text : Str) : Bool :=
  text.length == 32 && text.all fun c => PyText.isAsciiDigit c || decide (97 ≤ c ∧ c ≤ 102)

def mssqlExecutionPath (path operationId : Str) : Str :=
  if endsWith path (str ".bak") then path.dropLast.dropLast.dropLast.dropLast ++ str "." ++ operationId ++ str ".bak"
  else path ++ str "." ++ operationId

def mssqlVisiblePath (source : DatabaseSource) : Option Str :=
  if source.mssqlInDocker then source.mssqlHostBackupPath else source.mssqlBackupPath

def mssqlVisibleExecutionPath (source : DatabaseSource) (operationId : Str) : Except Failure Str := do
  refuse (!isOperationId operationId) (.pipeline "MSSQL_CLEANUP_REFUSED")
  match mssqlVisiblePath source with
  | none => .error (.pipeline "MSSQL_CLEANUP_REFUSED")
  | some base => do
      refuse (!endsWith base (str ".bak")) (.pipeline "MSSQL_CLEANUP_REFUSED")
      let normalized := PurePosix.parse base
      refuse (!normalized.isAbsolute || normalized.climbs || normalized.text ≠ base) (.pipeline "MSSQL_CLEANUP_REFUSED")
      return mssqlExecutionPath base operationId

/-- One or two slashes, then names of which none is a dot or two, with one slash between
them, and the ending of a backup file. -/
def BakPath (base : Str) : Prop :=
  endsWith base (str ".bak") = true ∧ ∃ (root : PurePosix.Root) (names : List Str), root ≠ .relative ∧ names ≠ [] ∧
    (∀ name ∈ names, PurePosix.IsName name ∧ name ≠ [PurePosix.dot,PurePosix.dot]) ∧
    base = root.text ++ PurePosix.join names

/-- The worker's own checks refuse nothing of the row with its decrypted password. -/
def NotRefused (row : DatabaseSource) (password operationId certificateFile : Str) : Prop :=
  match row.engine with
  | .postgresql => ∀ field ∈ [row.host,row.databaseName,row.username,password], ∃ text, pgpassField field = .ok text
  | .mysqlMariadb => True
  | .mssql => (∃ tls, mssqlTls row certificateFile true = .ok tls) ∧
      ∃ path, mssqlVisibleExecutionPath row operationId = .ok path

def DatabaseConfig.Usable (c : DatabaseConfig) (operationId : Str) : Prop :=
  match c.engine with
  | .postgresql => ∀ text, text = PyText.strip c.databaseName ∨ text = PyText.strip c.username ∨ c.password = some text →
      ∀ x ∈ text, x ≠ 10 ∧ x ≠ 13 ∧ x ≠ 0
  | .mysqlMariadb => True
  | .mssql => c.tlsMode ≠ .preferred ∧ c.tlsMode ≠ .required ∧ (∀ x ∈ operationId, ¬(65 ≤ x ∧ x ≤ 70)) ∧
      ∀ base, (if c.mssqlInDocker then c.mssqlHostBackupPath else c.mssqlBackupPath) = some base → BakPath base

def IsHex (operationId : Str) : Prop :=
  operationId.length = 32 ∧ ∀ x ∈ operationId, 48 ≤ x ∧ x ≤ 57 ∨ 97 ≤ x ∧ x ≤ 102 ∨ 65 ≤ x ∧ x ≤ 70

theorem isUnsafe_eq_false {x : Nat} : isUnsafe x = false ↔ x ≠ 10 ∧ x ≠ 13 ∧ x ≠ 0 := by
  simp [isUnsafe,and_assoc]

theorem isOperationId_iff {operationId : Str} (hex : IsHex operationId) :
    isOperationId operationId = true ↔ ∀ x ∈ operationId, ¬(65 ≤ x ∧ x ≤ 70) := by
  simp only [isOperationId,hex.1,beq_self_eq_true,Bool.true_and,List.all_eq_true,PyText.isAsciiDigit,Bool.or_eq_true,
    decide_eq_true_eq]
  constructor
  · intro all x member
    have lower := all x member
    omega
  · intro all x member
    have digit := hex.2 x member
    have lower := all x member
    omega

theorem mssqlTls_ok {row : DatabaseSource} {certificateFile : Str}
    (certified : row.tlsMode.verifies = true → falsy row.tlsCaCertificate = false) :
    (∃ tls, mssqlTls row certificateFile true = .ok tls) ↔ row.tlsMode ≠ .preferred ∧ row.tlsMode ≠ .required := by
  simp only [mssqlTls,bind_eq_ok,refuse_eq_ok,exists_const]
  cases mode : row.tlsMode <;> simp_all [mssqlTlsConfig,TLSMode.verifies]

theorem bakPath_iff {base : Str} : BakPath base ↔ endsWith base (str ".bak") = true ∧
    (PurePosix.parse base).isAbsolute = true ∧ (PurePosix.parse base).climbs = false ∧ (PurePosix.parse base).text = base := by
  constructor
  · rintro ⟨ending,root,names,absolute,nonempty,all,rfl⟩
    have isNames : ∀ name ∈ names, PurePosix.IsName name := fun name member => (all name member).1
    have parsed := PurePosix.parse_rooted isNames nonempty absolute false
    rw [if_neg Bool.false_ne_true,List.append_nil] at parsed
    have absent : [PurePosix.dot,PurePosix.dot] ∉ names := fun member => (all _ member).2 rfl
    rw [parsed]
    exact ⟨ending,by simpa [PurePosix.Path.isAbsolute] using absolute,by simpa [PurePosix.Path.climbs] using absent,
      by simp [PurePosix.Path.text,absolute]⟩
  · rintro ⟨ending,absolute,inside,same⟩
    have rooted : (PurePosix.parse base).root ≠ .relative := by simpa [PurePosix.Path.isAbsolute] using absolute
    have whole : base = (PurePosix.parse base).root.text ++ PurePosix.join (PurePosix.parse base).names := by
      simpa [PurePosix.Path.text,rooted] using same.symm
    refine ⟨ending,(PurePosix.parse base).root,(PurePosix.parse base).names,rooted,?_,?_,whole⟩
    · intro bare
      rw [bare,PurePosix.join_nil,List.append_nil] at whole
      rw [whole] at ending
      cases root : (PurePosix.parse base).root with
      | relative => exact absurd root rooted
      | single => exact absurd (root ▸ ending) (by decide)
      | double => exact absurd (root ▸ ending) (by decide)
    · intro name member
      constructor
      · exact PurePosix.parse_normal base name member
      · intro dots
        subst dots
        simp [PurePosix.Path.climbs,member] at inside

theorem mssqlVisibleExecutionPath_ok {row : DatabaseSource} {operationId base : Str}
    (given : mssqlVisiblePath row = some base) :
    (∃ path, mssqlVisibleExecutionPath row operationId = .ok path) ↔ isOperationId operationId = true ∧ BakPath base := by
  simp only [mssqlVisibleExecutionPath,given,bind_eq_ok,refuse_eq_ok,exists_const,pure_eq_ok,Bool.or_eq_false_iff,
    Bool.not_eq_false',decide_eq_false_iff_not,not_not,bakPath_iff,exists_and_left,exists_eq',and_true,and_assoc]

/-- A stored host has none of the characters that the password file forbids. -/
theorem validateHost_safe {value host : Str} (accepted : validateHost value = .ok host) :
    ∀ c ∈ PyText.strip value, isUnsafe c = false := by
  simp only [validateHost,bind_eq_ok,refuse_eq_ok,exists_const,Bool.or_eq_false_iff,Bool.not_eq_false'] at accepted
  obtain ⟨⟨matched,_⟩,_⟩ := accepted
  simp only [isHost,Bool.and_eq_true,List.all_eq_true] at matched
  intro c member
  have inside := matched.1.2 c member
  simp only [PyText.isAsciiAlnum,PyText.isAsciiDigit,PyText.isAsciiLower,Bool.or_eq_true,decide_eq_true_eq,
    beq_iff_eq] at inside
  rw [isUnsafe_eq_false]
  omega

/-- Which accepted database profiles pass the checks of the worker. -/
theorem databaseProfile_usable_iff {env : Creation} {cipher : AESGCM} {database : DatabaseConfig} {row : DatabaseSource}
    {operationId certificateFile : Str} (available : env.cipher = some cipher)
    (accepted : database.validate false = .ok database) (built : databaseSource env database = .ok row)
    (hex : IsHex operationId) :
    (∃ password, decrypt cipher row.encryptedPassword "database-password-v1" = .ok password ∧
      NotRefused row password operationId certificateFile) ↔ database.Usable operationId := by
  obtain ⟨password,token,given,encrypted,rfl⟩ := databaseSource_ok built
  rw [available] at encrypted
  have decrypted := decrypt_encrypt encrypted
  simp only [decrypted,Except.ok.injEq,exists_eq_left']
  simp only [DatabaseConfig.validate,bind_eq_ok,refuse_eq_ok,exists_const,pure_eq_ok] at accepted
  obtain ⟨_,host,_,_,_,certificate,_,mssql,_⟩ := accepted
  unfold NotRefused DatabaseConfig.Usable
  cases engine : database.engine with
  | mysqlMariadb => rfl
  | postgresql =>
    have hostSafe := validateHost_safe host
    simp only [pgpassField_ok,List.forall_mem_cons,List.not_mem_nil,false_implies,implies_true,and_true,given,
      Option.some.injEq,isUnsafe_eq_false] at hostSafe ⊢
    constructor
    · rintro ⟨_,name,user,secret⟩ text (rfl | rfl | rfl)
      · exact name
      · exact user
      · exact secret
    · intro safe
      exact ⟨hostSafe,safe _ (.inl rfl),safe _ (.inr (.inl rfl)),safe _ (.inr (.inr rfl))⟩
  | mssql =>
    have certified : database.tlsMode.verifies = true → falsy database.tlsCaCertificate = false := by
      intro verifies
      simpa [verifies] using certificate
    rw [mssqlTls_ok certified]
    -- an accepted profile has the path that its place needs
    obtain ⟨base,visible⟩ : ∃ base,
        (if database.mssqlInDocker then database.mssqlHostBackupPath else database.mssqlBackupPath) = some base := by
      simp only [DatabaseConfig.validateMssql,engine] at mssql
      cases path : database.mssqlBackupPath with
      | none => simp [path] at mssql
      | some text =>
        simp only [path,bind_eq_ok] at mssql
        obtain ⟨_,_,mounted⟩ := mssql
        cases docker : database.mssqlInDocker with
        | false => exact ⟨text,rfl⟩
        | true =>
          cases host : database.mssqlHostBackupPath with
          | none => simp [DatabaseConfig.validateHostPath,docker,host] at mounted
          | some text' => exact ⟨text',rfl⟩
    have execution := @mssqlVisibleExecutionPath_ok ⟨.mssql,PyText.strip database.host,database.port,
      PyText.strip database.databaseName,PyText.strip database.username,token,database.tlsMode,
      database.tlsCaCertificate,database.mssqlInDocker,database.mssqlBackupPath,database.mssqlHostBackupPath,
      database.artifactRemoteServerId⟩ operationId _ visible
    rw [execution,isOperationId_iff hex]
    simp only [visible,Option.some.injEq,forall_eq',and_assoc]

/-- A line break inside a password is accepted and refused at every run; so are the modes
of TLS without verification for SQL Server. -/
theorem databaseProfile_refused :
    (∃ (database : DatabaseConfig) (row : DatabaseSource), database.validate false = .ok database ∧
      databaseSource { smallCreation with cipher := some zeroCipher } database = .ok row ∧
      row.engine = .postgresql ∧
      ∃ password, decrypt zeroCipher row.encryptedPassword "database-password-v1" = .ok password ∧
        pgpassField password = .error (.pipeline "INVALID_PROFILE")) ∧
    ∃ (database : DatabaseConfig) (row : DatabaseSource), database.validate false = .ok database ∧
      databaseSource { smallCreation with cipher := some zeroCipher } database = .ok row ∧
      row.engine = .mssql ∧ mssqlTls row (str "/tmp/ca") true = .error (.pipeline "MSSQL_TLS_MODE_UNSUPPORTED") ∧
        mssqlVisibleExecutionPath row (List.replicate 32 48) = .error (.pipeline "MSSQL_CLEANUP_REFUSED") := by
  constructor
  · exact ⟨{ smallDatabase with password := some [112,10] },_,by decide +kernel,rfl,rfl,[112,10],by decide +kernel,
      by decide +kernel⟩
  · exact ⟨{ smallDatabase with engine := .mssql, tlsMode := .required, mssqlBackupPath := some (str "/backup/app") },_,
      by decide +kernel,rfl,rfl,by decide +kernel,by decide +kernel⟩

theorem databaseProfile_usable_iff_small : ∃ (row : DatabaseSource) (password : Str),
    decrypt zeroCipher row.encryptedPassword "database-password-v1" = .ok password ∧
      NotRefused row password (List.replicate 32 48) (str "/tmp/ca") :=
  ⟨_,(@databaseProfile_usable_iff { smallCreation with cipher := some zeroCipher } zeroCipher smallDatabase _
    (List.replicate 32 48) (str "/tmp/ca") rfl (by decide +kernel) rfl ⟨rfl,by simp⟩).mpr
      (by simp [DatabaseConfig.Usable,smallDatabase]; decide)⟩

end BackupTelebot.Config
