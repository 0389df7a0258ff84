import BackupTelebot.RunSnapshot
import BackupTelebot.System

/-! A run gets its configuration back from the row of the run, up to the moment at which a
remote server was deleted: the document has no place for it. -/
namespace BackupTelebot.Config

open PyJson Queue Base64 IsoTime

def Unicode (s : Str) : Prop := ∀ c ∈ s, c < 0xD800 ∨ 0xDFFF < c ∧ c < 0x110000

def Fits (n : Int) : Prop := -2 ^ 63 ≤ n ∧ n < 2 ^ 63

instance (s : Str) : Decidable (Unicode s) :=
  inferInstanceAs (Decidable (∀ c ∈ s, c < 0xD800 ∨ 0xDFFF < c ∧ c < 0x110000))

instance (n : Int) : Decidable (Fits n) := inferInstanceAs (Decidable (-2 ^ 63 ≤ n ∧ n < 2 ^ 63))

theorem Unicode.strOk {s : Str} (unicode : Unicode s) : StrOk s := by
  constructor
  · intro c member
    have range := unicode c member
    omega
  · apply (List.pairwise_of_forall_mem_list ?_).isChain
    intro high first low second
    have range := unicode high first
    simp only [isHigh,isLow,decide_eq_true_eq]
    omega

theorem Fits.encodable {n : Int} (fits : Fits n) : (Json.int n).Encodable := by
  have small : n.natAbs < 10 ^ 20 := by
    unfold Fits at fits
    omega
  have digits := (Nat.digits_length_le_iff (by omega) n.natAbs).mpr small
  rw [Json.Encodable,dumpNat,maxStrDigits]
  by_cases zero : n.natAbs = 0
  · simp [zero]
  · rw [if_neg zero,List.length_map,List.length_reverse]
    omega

structure Held (texts : List Str) (numbers : List Int) : Prop where
  texts : ∀ s ∈ texts, Unicode s
  numbers : ∀ n ∈ numbers, Fits n

def RemoteServer.texts (r : RemoteServer) : List Str := [r.name,r.host,r.sshUsername,r.hostKeyFingerprint]

def RemoteServer.numbers (r : RemoteServer) : List Int := [r.id,r.sshPort]

def BackupProfile.texts (r : BackupProfile) : List Str :=
  [r.uuid,r.name] ++ r.description.toList ++ r.scheduleTime.toList ++ r.scheduleCron.toList ++ r.ageRecipients.toList

def BackupProfile.numbers (r : BackupProfile) : List Int :=
  [r.id,r.createdBy] ++ r.scheduleInterval.toList ++ r.scheduleWeekday.toList ++ r.scheduleMonthday.toList

def DatabaseSource.texts (r : DatabaseSource) : List Str :=
  [r.host,r.databaseName,r.username] ++ r.tlsCaCertificate.toList ++ r.mssqlBackupPath.toList ++
    r.mssqlHostBackupPath.toList

def DatabaseSource.numbers (r : DatabaseSource) : List Int := r.port :: r.artifactRemoteServerId.toList

def FilesSource.texts (r : FilesSource) : List Str := r.paths.map (·.path)

def FilesSource.numbers (r : FilesSource) : List Int := r.remoteServerId.toList

def GitLabSource.texts (r : GitLabSource) : List Str := r.containerName :: r.backupPath.toList

def GitLabSource.numbers (r : GitLabSource) : List Int := r.remoteServerId.toList

def PlainKeys (keys : List Str) : Prop := keys.Nodup ∧ ∀ key ∈ keys, ∀ c ∈ key, c ≤ 0x7F

instance (keys : List Str) : Decidable (PlainKeys keys) :=
  inferInstanceAs (Decidable (keys.Nodup ∧ ∀ key ∈ keys, ∀ c ∈ key, c ≤ 0x7F))

theorem encodable_obj {fields : List (Str × Json)} (keys : PlainKeys (fields.map (·.1)))
    (values : ∀ field ∈ fields, field.2.Encodable) : (Json.obj fields).Encodable := by
  rw [Json.Encodable,encodableFields_iff]
  constructor
  · exact keys.1
  · intro field listed
    exact ⟨strOk_of_ascii (keys.2 field.1 (List.mem_map_of_mem listed)),values field listed⟩

theorem encodable_arr {items : List Json} (values : ∀ value ∈ items, value.Encodable) : (Json.arr items).Encodable := by
  rw [Json.Encodable,encodableItems_iff]
  exact values

theorem encodable_text {s : Str} (unicode : Unicode s) : (Json.str s).Encodable := by
  rw [Json.Encodable]
  exact unicode.strOk

@[simp] theorem encodable_bool (b : Bool) : (Json.bool b).Encodable := by simp [Json.Encodable]

theorem encodable_orNull {α : Type} {f : α → Json} {value : Option α} (given : ∀ a ∈ value, (f a).Encodable) :
    (orNull f value).Encodable := by
  cases value with
  | none => simp [orNull,Json.Encodable]
  | some a => exact given a rfl

theorem encodable_optionalText {value : Option Str} (unicode : ∀ s ∈ value, Unicode s) : (orNull .str value).Encodable :=
  encodable_orNull fun s given => encodable_text (unicode s given)

theorem encodable_optionalInt {value : Option Int} (fits : ∀ n ∈ value, Fits n) : (orNull .int value).Encodable :=
  encodable_orNull fun n given => (fits n given).encodable

theorem encodable_ascii {s : Str} (ascii : ∀ c ∈ s, c ≤ 0x7F) : (Json.str s).Encodable := by
  rw [Json.Encodable]
  exact strOk_of_ascii ascii

@[simp] theorem encodable_member {α : Type} [StrEnum α] (a : α) : (memberJson a).Encodable :=
  encodable_ascii (StrEnum.proper a).2

@[simp] theorem encodable_encrypted (value : Option Bytes) : (encrypted value).Encodable :=
  encodable_orNull fun bytes _ => encodable_ascii (encode_ascii bytes)

@[simp] theorem encodable_moment (moment : DateTime) : (momentJson moment).Encodable :=
  encodable_ascii (isoformat_ascii moment)

/-- What was written of a value is read as the value, once its keys are sorted. -/
def Recovers {α : Type} (read : Read α) (value : Json) (a : α) : Prop := read value.sorted = .ok a

theorem recovers_int (n : Int) : Recovers readInt (.int n) n := by simp [Recovers,readInt,Json.asInt]

theorem recovers_text (s : Str) : Recovers readText (.str s) s := by simp [Recovers,readText,Json.asStr]

theorem recovers_bool (b : Bool) : Recovers readBool (.bool b) b := by simp [Recovers,readBool,Json.sorted]

theorem recovers_member {α : Type} [StrEnum α] (a : α) : Recovers readMember (memberJson a) a := by
  have found : (StrEnum.members (α := α)).find? (fun b => (Json.str (StrEnum.value a)).eqStr (StrEnum.value b)) = some a := by
    rw [← (StrEnum.proper a).1]
    congr 1
    funext b
    simp [Json.eqStr,eq_comm,beq_eq_decide]
  simp [Recovers,readMember,memberJson,found]

theorem recovers_moment (moment : DateTime) : Recovers readMoment (momentJson moment) moment := by
  simp [Recovers,readMoment,momentJson,readText,Json.asStr,fromisoformat_isoformat,bind,Except.bind,pure,Except.pure]

theorem recovers_b64decode (bytes : Bytes) : Recovers b64decode (.str (encode bytes)) bytes := by
  simp [Recovers,b64decode,readText,Json.asStr,decode_encode,bind,Except.bind,pure,Except.pure]

/-- An optional value is read back where no written value is null. -/
theorem recovers_orNull {α β : Type} {read : Read β} {f : α → Json} {g : α → β} {value : Option α}
    (recovers : ∀ a ∈ value, Recovers read (f a) (g a)) (given : ∀ a, (f a).sorted ≠ .null) :
    Recovers (readOptional read) (orNull f value) (value.map g) := by
  cases value with
  | none => rfl
  | some a =>
    have read := recovers a rfl
    have some := given a
    rw [Recovers] at read ⊢
    rw [orNull]
    cases sorted : (f a).sorted with
    | null => exact absurd sorted some
    | _ => rw [sorted] at read; simp [readOptional,read,Except.map]

theorem recovers_optional {α : Type} {read : Read α} {f : α → Json} (value : Option α)
    (recovers : ∀ a, Recovers read (f a) a) (given : ∀ a, (f a).sorted ≠ .null) :
    Recovers (readOptional read) (orNull f value) value := by
  have read : Recovers (readOptional read) (orNull f value) (value.map fun a => a) :=
    recovers_orNull (fun a _ => recovers a) given
  rwa [Option.map_id'] at read

theorem recovers_optionalInt (value : Option Int) : Recovers (readOptional readInt) (orNull .int value) value :=
  recovers_optional value recovers_int (by simp)

theorem recovers_optionalText (value : Option Str) : Recovers (readOptional readText) (orNull .str value) value :=
  recovers_optional value recovers_text (by simp)

theorem recovers_optionalMoment (value : Option DateTime) :
    Recovers (readOptional readMoment) (orNull momentJson value) value :=
  recovers_optional value recovers_moment (by simp [momentJson])

theorem recovers_optionalMember {α : Type} [StrEnum α] (value : Option α) :
    Recovers (readOptional readMember) (orNull memberJson value) value :=
  recovers_optional value recovers_member (by simp [memberJson])

theorem recovers_encrypted (value : Option Bytes) : Recovers decodeEncrypted (encrypted value) value :=
  recovers_optional value recovers_b64decode (by simp)

theorem recovers_list {α β : Type} {read : Read β} {f : α → Json} {g : α → β} (recovers : ∀ a, Recovers read (f a) (g a))
    (items : List α) : Recovers (readList read) (.arr (items.map f)) (items.map g) := by
  have each : (items.map fun a => (f a).sorted).mapM read = .ok (items.map g) := by
    induction items with
    | nil => rfl
    | cons a items ih =>
      have head := recovers a
      rw [Recovers] at head
      simp [List.mapM_cons,head,ih,bind,Except.bind,pure,Except.pure]
  simpa [Recovers,readList,Function.comp_def] using each

theorem item_found {fields : List (Str × Json)} {key : Str} {value : Json} (keys : PlainKeys (fields.map (·.1)))
    (found : lookup key fields = some value) : (Json.obj fields).sorted.get key = some value.sorted := by
  rw [Json.get_sorted keys.1,Json.get,found]
  rfl

theorem column_found {α : Type} {read : Read α} {fields : List (Str × Json)} {key : Str} {value : Json} {a : α}
    (keys : PlainKeys (fields.map (·.1))) (found : lookup key fields = some value) (recovers : Recovers read value a) :
    column read (Json.obj fields).sorted key = .ok a := by
  rw [column,item,item_found keys found]
  exact recovers

theorem isObj_sorted (fields : List (Str × Json)) : (Json.obj fields).sorted.isObj = true := by
  rw [Json.sorted]
  rfl

theorem columnOrNull_found {α : Type} {read : Read α} {fields : List (Str × Json)} {key : Str} {value : Json} {a : α}
    (keys : PlainKeys (fields.map (·.1))) (found : lookup key fields = some value) (recovers : Recovers read value a) :
    columnOrNull read (Json.obj fields).sorted key = .ok a := by
  rw [columnOrNull,itemOrNull,item_found keys found,isObj_sorted]
  exact recovers

theorem remoteFields_keys (server : RemoteServer) : PlainKeys ((remoteFields server).map (·.1)) := by
  show PlainKeys [str "id",str "name",str "host",str "ssh_port",str "ssh_username",str "authentication_method",
    str "encrypted_private_key",str "encrypted_key_passphrase",str "host_key_fingerprint",str "enabled"]
  decide

theorem profileFields_keys (profile : BackupProfile) : PlainKeys ((profileFields profile).map (·.1)) := by
  show PlainKeys [str "id",str "uuid",str "name",str "description",str "source_type",str "enabled",str "status",
    str "schedule_kind",str "schedule_interval",str "schedule_time",str "schedule_weekday",str "schedule_monthday",
    str "schedule_cron",str "next_scheduled_at",str "compression_format",str "archive_format",
    str "compression_algorithm",str "compression_preset",str "encryption_mode",str "age_recipients",
    str "encrypted_age_passphrase",str "created_by"]
  decide

theorem encodable_remote {server : Option RemoteServer} (held : ∀ s ∈ server, Held s.texts s.numbers) :
    (remote server).Encodable := by
  apply encodable_orNull
  intro server given
  obtain ⟨texts,numbers⟩ := held server given
  simp only [RemoteServer.texts,RemoteServer.numbers,List.forall_mem_cons] at texts numbers
  apply encodable_obj (remoteFields_keys server)
  simp [remoteFields,encodable_text texts.1,encodable_text texts.2.1,encodable_text texts.2.2.1,
    encodable_text texts.2.2.2.1,numbers.1.encodable,numbers.2.1.encodable]

def RemoteServer.undeleted (server : RemoteServer) : RemoteServer := { server with deletedAt := none }

theorem recovers_server (server : RemoteServer) :
    Recovers restoreServer (.obj (remoteFields server)) server.undeleted := by
  have keys := remoteFields_keys server
  rw [Recovers,restoreServer]
  simp only [bind_eq_ok,pure_eq_ok]
  exact ⟨_,column_found keys rfl (recovers_encrypted (some _)),_,rfl,
    _,column_found keys rfl (recovers_int _),
    _,column_found keys rfl (recovers_text _),
    _,column_found keys rfl (recovers_text _),
    _,column_found keys rfl (recovers_int _),
    _,column_found keys rfl (recovers_text _),
    _,column_found keys rfl (recovers_member _),
    _,column_found keys rfl (recovers_encrypted _),
    _,column_found keys rfl (recovers_text _),
    _,column_found keys rfl (recovers_bool _),rfl⟩

theorem sorted_obj_ne_null (fields : List (Str × Json)) : (Json.obj fields).sorted ≠ .null := by
  rw [Json.sorted]
  exact Json.noConfusion

theorem recovers_remote (server : Option RemoteServer) :
    Recovers restoreRemote (remote server) (server.map RemoteServer.undeleted) :=
  recovers_orNull (fun server _ => recovers_server server) fun server => sorted_obj_ne_null (remoteFields server)

theorem encodable_profile {profile : BackupProfile} (held : Held profile.texts profile.numbers) :
    (Json.obj (profileFields profile)).Encodable := by
  obtain ⟨texts,numbers⟩ := held
  simp only [BackupProfile.texts,List.forall_mem_append,List.forall_mem_cons,Option.mem_toList] at texts
  simp only [BackupProfile.numbers,List.forall_mem_append,List.forall_mem_cons,Option.mem_toList] at numbers
  obtain ⟨⟨⟨⟨⟨uuid,name,-⟩,description⟩,time⟩,cron⟩,recipients⟩ := texts
  obtain ⟨⟨⟨⟨id,createdBy,-⟩,interval⟩,weekday⟩,monthday⟩ := numbers
  apply encodable_obj (profileFields_keys profile)
  simp [profileFields,id.encodable,createdBy.encodable,encodable_text uuid,encodable_text name,
    encodable_optionalText description,encodable_optionalText time,encodable_optionalText cron,
    encodable_optionalText recipients,encodable_optionalInt interval,encodable_optionalInt weekday,
    encodable_optionalInt monthday,encodable_orNull]

theorem recovers_profile (profile : BackupProfile) : Recovers restoreProfile (.obj (profileFields profile)) profile := by
  have keys := profileFields_keys profile
  rw [Recovers,restoreProfile]
  simp only [bind_eq_ok,pure_eq_ok]
  exact ⟨_,column_found keys rfl (recovers_encrypted _),
    _,column_found keys rfl (recovers_int _),
    _,column_found keys rfl (recovers_text _),
    _,column_found keys rfl (recovers_text _),
    _,column_found keys rfl (recovers_optionalText _),
    _,column_found keys rfl (recovers_member _),
    _,column_found keys rfl (recovers_bool _),
    _,column_found keys rfl (recovers_member _),
    _,column_found keys rfl (recovers_member _),
    _,column_found keys rfl (recovers_optionalInt _),
    _,column_found keys rfl (recovers_optionalText _),
    _,column_found keys rfl (recovers_optionalInt _),
    _,column_found keys rfl (recovers_optionalInt _),
    _,columnOrNull_found keys rfl (recovers_optionalText _),
    _,column_found keys rfl (recovers_optionalMoment _),
    _,column_found keys rfl (recovers_member _),
    _,column_found keys rfl (recovers_member _),
    _,column_found keys rfl (recovers_member _),
    _,column_found keys rfl (recovers_optionalMember _),
    _,column_found keys rfl (recovers_member _),
    _,column_found keys rfl (recovers_optionalText _),
    _,column_found keys rfl (recovers_int _),rfl⟩

theorem databaseFields_keys (database : Sourced DatabaseSource) : PlainKeys ((databaseFields database).map (·.1)) := by
  show PlainKeys [str "engine",str "host",str "port",str "database_name",str "username",str "encrypted_password",
    str "tls_mode",str "tls_ca_certificate",str "mssql_in_docker",str "mssql_backup_path",str "mssql_host_backup_path",
    str "artifact_remote_server_id",str "artifact_remote_server"]
  decide

theorem pathFields_keys (item : BackupPath) : PlainKeys ((pathFields item).map (·.1)) := by
  show PlainKeys [str "path",str "sqlite_snapshot_candidate"]
  decide

theorem filesFields_keys (files : Sourced FilesSource) : PlainKeys ((filesFields files).map (·.1)) := by
  show PlainKeys [str "location",str "remote_server_id",str "remote_server",str "paths"]
  decide

theorem gitlabFields_keys (gitlab : Sourced GitLabSource) : PlainKeys ((gitlabFields gitlab).map (·.1)) := by
  by_cases remote : gitlab.row.location = .remoteServer
  · rw [gitlabFields,if_pos remote]
    show PlainKeys [str "location",str "remote_server_id",str "remote_server",str "container_name",str "backup_path"]
    decide
  · rw [gitlabFields,if_neg remote]
    show PlainKeys [str "location",str "remote_server_id",str "remote_server",str "container_name"]
    decide

def Sourced.undeleted {α : Type} (source : Sourced α) : Sourced α :=
  { source with server := source.server.map RemoteServer.undeleted }

structure Sourced.Held {α : Type} (source : Sourced α) (texts : List Str) (numbers : List Int) : Prop where
  row : Config.Held texts numbers
  server : ∀ server ∈ source.server, Config.Held server.texts server.numbers

theorem encodable_database {database : Sourced DatabaseSource} (held : database.Held database.row.texts database.row.numbers) :
    (Json.obj (databaseFields database)).Encodable := by
  obtain ⟨⟨texts,numbers⟩,server⟩ := held
  simp only [DatabaseSource.texts,List.forall_mem_append,List.forall_mem_cons,Option.mem_toList] at texts
  simp only [DatabaseSource.numbers,List.forall_mem_cons,Option.mem_toList] at numbers
  obtain ⟨⟨⟨⟨host,databaseName,username,-⟩,certificate⟩,backupPath⟩,hostBackupPath⟩ := texts
  apply encodable_obj (databaseFields_keys database)
  simp [databaseFields,encodable_text host,encodable_text databaseName,encodable_text username,
    encodable_optionalText certificate,encodable_optionalText backupPath,encodable_optionalText hostBackupPath,
    numbers.1.encodable,encodable_optionalInt numbers.2,encodable_remote server]

theorem recovers_database (database : Sourced DatabaseSource) :
    Recovers restoreDatabase (.obj (databaseFields database)) database.undeleted := by
  have keys := databaseFields_keys database
  rw [Recovers,restoreDatabase]
  simp only [bind_eq_ok,pure_eq_ok]
  exact ⟨_,column_found keys rfl (recovers_encrypted (some _)),_,rfl,
    _,column_found keys rfl (recovers_member _),
    _,column_found keys rfl (recovers_text _),
    _,column_found keys rfl (recovers_int _),
    _,column_found keys rfl (recovers_text _),
    _,column_found keys rfl (recovers_text _),
    _,column_found keys rfl (recovers_member _),
    _,column_found keys rfl (recovers_optionalText _),
    _,column_found keys rfl (recovers_bool _),
    _,column_found keys rfl (recovers_optionalText _),
    _,column_found keys rfl (recovers_optionalText _),
    _,column_found keys rfl (recovers_optionalInt _),
    _,column_found keys rfl (recovers_remote _),rfl⟩

theorem encodable_path {item : BackupPath} (unicode : Unicode item.path) : (Json.obj (pathFields item)).Encodable := by
  apply encodable_obj (pathFields_keys item)
  simp [pathFields,encodable_text unicode]

theorem recovers_path (item : BackupPath) : Recovers restorePath (.obj (pathFields item)) item := by
  have keys := pathFields_keys item
  rw [Recovers,restorePath]
  simp only [bind_eq_ok,pure_eq_ok]
  exact ⟨_,column_found keys rfl (recovers_text _),_,column_found keys rfl (recovers_bool _),rfl⟩

theorem encodable_files {files : Sourced FilesSource} (held : files.Held files.row.texts files.row.numbers) :
    (Json.obj (filesFields files)).Encodable := by
  obtain ⟨⟨texts,numbers⟩,server⟩ := held
  simp only [FilesSource.numbers,Option.mem_toList] at numbers
  have paths : (Json.arr (files.row.paths.map fun item => .obj (pathFields item))).Encodable := by
    apply encodable_arr
    intro value listed
    obtain ⟨item,member,rfl⟩ := List.mem_map.mp listed
    exact encodable_path (texts item.path (List.mem_map_of_mem member))
  apply encodable_obj (filesFields_keys files)
  simp [filesFields,encodable_optionalInt numbers,encodable_remote server,paths]

theorem recovers_files (files : Sourced FilesSource) : Recovers restoreFiles (.obj (filesFields files)) files.undeleted := by
  have keys := filesFields_keys files
  have paths := recovers_list recovers_path files.row.paths
  rw [List.map_id'] at paths
  rw [Recovers,restoreFiles]
  simp only [bind_eq_ok,pure_eq_ok]
  exact ⟨_,column_found keys rfl (recovers_member _),
    _,column_found keys rfl (recovers_optionalInt _),
    _,column_found keys rfl paths,
    _,column_found keys rfl (recovers_remote _),rfl⟩

theorem encodable_gitlab {gitlab : Sourced GitLabSource} (held : gitlab.Held gitlab.row.texts gitlab.row.numbers) :
    (Json.obj (gitlabFields gitlab)).Encodable := by
  obtain ⟨⟨texts,numbers⟩,server⟩ := held
  simp only [GitLabSource.texts,List.forall_mem_cons,Option.mem_toList] at texts
  simp only [GitLabSource.numbers,Option.mem_toList] at numbers
  have always := And.intro (encodable_optionalInt numbers) (encodable_text texts.1)
  apply encodable_obj (gitlabFields_keys gitlab)
  by_cases remote : gitlab.row.location = .remoteServer
  · simp [gitlabFields,remote,always,encodable_remote server,encodable_optionalText texts.2]
  · simp [gitlabFields,remote,always,encodable_remote server]

/-- A local source has no backup path. -/
theorem backupPath_local {row : GitLabSource} (storable : Storable GitLabSource.tableArgs row)
    (here : row.location ≠ .remoteServer) : row.backupPath = none := by
  have consistent := storable ⟨"ck_gitlab_backup_path",_⟩
    (List.mem_cons_of_mem _ (List.mem_cons_of_mem _ (List.mem_cons_of_mem _ List.mem_cons_self)))
  simp only [Sql.Truth.or_passes,Sql.Truth.and_passes,Sql.eq_passes,Sql.isNull_passes,Option.some.injEq,
    forall_eq'] at consistent
  rcases consistent with ⟨_,absent⟩ | ⟨remote,_⟩
  · exact absent
  · exact absurd remote here

theorem recovers_gitlab {gitlab : Sourced GitLabSource} (storable : Storable GitLabSource.tableArgs gitlab.row) :
    Recovers restoreGitlab (.obj (gitlabFields gitlab)) gitlab.undeleted := by
  have keys := gitlabFields_keys gitlab
  have backupPath : columnOrNull (readOptional readText) (Json.obj (gitlabFields gitlab)).sorted (str "backup_path") =
      .ok gitlab.row.backupPath := by
    by_cases remote : gitlab.row.location = .remoteServer
    · have found : lookup (str "backup_path") (gitlabFields gitlab) = some (orNull .str gitlab.row.backupPath) := by
        rw [gitlabFields,if_pos remote]
        rfl
      exact columnOrNull_found keys found (recovers_optionalText _)
    · have missing : lookup (str "backup_path") (gitlabFields gitlab) = none := by
        rw [gitlabFields,if_neg remote]
        rfl
      rw [backupPath_local storable remote,columnOrNull,itemOrNull,isObj_sorted,Json.get_sorted keys.1,Json.get,missing]
      rfl
  rw [Recovers,restoreGitlab]
  simp only [bind_eq_ok,pure_eq_ok]
  exact ⟨_,column_found keys rfl (recovers_member _),
    _,column_found keys rfl (recovers_optionalInt _),
    _,column_found keys rfl (recovers_text _),
    _,backupPath,
    _,column_found keys rfl (recovers_remote _),rfl⟩

structure LoadedProfile.Stored (loaded : LoadedProfile) : Prop where
  profile : Config.Held loaded.profile.texts loaded.profile.numbers
  databaseSource : ∀ s ∈ loaded.databaseSource, s.Held s.row.texts s.row.numbers
  filesSource : ∀ s ∈ loaded.filesSource, s.Held s.row.texts s.row.numbers
  gitlabSource : ∀ s ∈ loaded.gitlabSource, s.Held s.row.texts s.row.numbers ∧ Storable GitLabSource.tableArgs s.row

def LoadedProfile.undeleted (loaded : LoadedProfile) : LoadedProfile where
  profile := loaded.profile
  databaseSource := loaded.databaseSource.map Sourced.undeleted
  filesSource := loaded.filesSource.map Sourced.undeleted
  gitlabSource := loaded.gitlabSource.map Sourced.undeleted

section Document

variable {os : Platform} {loaded : LoadedProfile} {adminIds : Option (Finset Int)}

theorem payloadFields_keys : PlainKeys ((payloadFields loaded adminIds).map (·.1)) := by
  show PlainKeys [str "schema",str "profile",str "database",str "files",str "gitlab",str "assigned_admin_ids"]
  decide

theorem mem_sortedIds {n : Int} : n ∈ sortedIds adminIds ↔ n ∈ adminIds.getD ∅ := by
  rw [sortedIds,Finset.mem_sort]

theorem encodable_payload (stored : loaded.Stored) (ids : ∀ n ∈ adminIds.getD ∅, Fits n) :
    (Json.obj (payloadFields loaded adminIds)).Encodable := by
  have schema : (Json.int 1).Encodable := Fits.encodable (by unfold Fits; omega)
  have database := encodable_orNull fun s given => encodable_database (stored.databaseSource s given)
  have files := encodable_orNull fun s given => encodable_files (stored.filesSource s given)
  have gitlab := encodable_orNull fun s given => encodable_gitlab (stored.gitlabSource s given).1
  have admins : (Json.arr ((sortedIds adminIds).map .int)).Encodable := by
    apply encodable_arr
    intro value listed
    obtain ⟨n,member,rfl⟩ := List.mem_map.mp listed
    exact (ids n (mem_sortedIds.mp member)).encodable
  apply encodable_obj payloadFields_keys
  simp [payloadFields,schema,encodable_profile stored.profile,database,files,gitlab,admins]

theorem depth_obj {fields : List (Str × Json)} {bound : Nat} (below : ∀ field ∈ fields, field.2.depth ≤ bound) :
    (Json.obj fields).depth ≤ bound + 1 := by
  rw [Json.depth]
  have inner := depthFields_le.mpr below
  omega

theorem depth_arr {items : List Json} {bound : Nat} (below : ∀ value ∈ items, value.depth ≤ bound) :
    (Json.arr items).depth ≤ bound + 1 := by
  rw [Json.depth]
  have inner := depthItems_le.mpr below
  omega

theorem depth_orNull {α : Type} {f : α → Json} {value : Option α} {bound : Nat} (below : ∀ a, (f a).depth ≤ bound) :
    (orNull f value).depth ≤ bound := by
  cases value with
  | none => simp [orNull,Json.depth]
  | some a => exact below a

/-- A value without parts. -/
theorem depth_scalar {α : Type} {f : α → Json} {value : Option α} (scalar : ∀ a, (f a).depth = 0) :
    (orNull f value).depth = 0 := by
  have none : (orNull f value).depth ≤ 0 := depth_orNull fun a => (scalar a).le
  omega

@[simp] theorem depth_optionalInt (value : Option Int) : (orNull .int value).depth = 0 :=
  depth_scalar fun n => by simp [Json.depth]

@[simp] theorem depth_optionalText (value : Option Str) : (orNull .str value).depth = 0 :=
  depth_scalar fun s => by simp [Json.depth]

@[simp] theorem depth_optionalMoment (value : Option DateTime) : (orNull momentJson value).depth = 0 :=
  depth_scalar fun moment => by simp [momentJson,Json.depth]

@[simp] theorem depth_optionalMember {α : Type} [StrEnum α] (value : Option α) : (orNull memberJson value).depth = 0 :=
  depth_scalar fun a => by simp [memberJson,Json.depth]

@[simp] theorem depth_encrypted (value : Option Bytes) : (encrypted value).depth = 0 :=
  depth_scalar fun bytes => by simp [Json.depth]

theorem depth_remote (server : Option RemoteServer) : (remote server).depth ≤ 1 := by
  apply depth_orNull
  intro server
  apply depth_obj
  simp [remoteFields,memberJson,Json.depth]

theorem depth_profile (profile : BackupProfile) : (Json.obj (profileFields profile)).depth ≤ 1 := by
  apply depth_obj
  simp [profileFields,memberJson,Json.depth]

theorem depth_database (database : Sourced DatabaseSource) : (Json.obj (databaseFields database)).depth ≤ 2 := by
  apply depth_obj
  simp [databaseFields,memberJson,depth_remote,Json.depth]

theorem depth_files (files : Sourced FilesSource) : (Json.obj (filesFields files)).depth ≤ 3 := by
  have paths : (Json.arr (files.row.paths.map fun item => .obj (pathFields item))).depth ≤ 1 + 1 := by
    apply depth_arr
    intro value listed
    obtain ⟨item,-,rfl⟩ := List.mem_map.mp listed
    apply depth_obj
    simp [pathFields,Json.depth]
  have server := (depth_remote files.server).trans one_le_two
  apply depth_obj
  simpa [filesFields,memberJson,server,Json.depth] using paths

theorem depth_gitlab (gitlab : Sourced GitLabSource) : (Json.obj (gitlabFields gitlab)).depth ≤ 2 := by
  apply depth_obj
  by_cases remote : gitlab.row.location = .remoteServer <;>
    simp [gitlabFields,remote,memberJson,depth_remote,Json.depth]

theorem depth_payload : (Json.obj (payloadFields loaded adminIds)).depth ≤ 4 := by
  have profile : (Json.obj (profileFields loaded.profile)).depth ≤ 3 := (depth_profile _).trans (by omega)
  have database : (orNull (fun s => .obj (databaseFields s)) loaded.databaseSource).depth ≤ 3 :=
    depth_orNull fun s => (depth_database s).trans (by omega)
  have files : (orNull (fun s => .obj (filesFields s)) loaded.filesSource).depth ≤ 3 := depth_orNull depth_files
  have gitlab : (orNull (fun s => .obj (gitlabFields s)) loaded.gitlabSource).depth ≤ 3 :=
    depth_orNull fun s => (depth_gitlab s).trans (by omega)
  have admins : (Json.arr ((sortedIds adminIds).map .int)).depth ≤ 2 + 1 := by
    apply depth_arr
    intro value listed
    obtain ⟨n,-,rfl⟩ := List.mem_map.mp listed
    simp [Json.depth]
  apply depth_obj
  simp only [payloadFields,List.forall_mem_cons]
  exact ⟨by simp [Json.depth],profile,database,files,gitlab,admins,by simp⟩

theorem loadSnapshot_serialized (stored : loaded.Stored) (ids : ∀ n ∈ adminIds.getD ∅, Fits n) :
    loadSnapshot os (serializeRunConfig loaded adminIds) = .ok (Json.obj (payloadFields loaded adminIds)).sorted := by
  have deep : (Json.obj (payloadFields loaded adminIds)).depth ≤ 4 := depth_payload
  have enough := os.enough
  have parsed := @loads_dumpGap [] (by simp) _ os.recursion (encodable_payload stored ids) (by omega)
  have schema : columnOrNull (fun value => .ok value) (Json.obj (payloadFields loaded adminIds)).sorted (str "schema") =
      .ok (Json.int 1) := columnOrNull_found payloadFields_keys rfl (by simp [Recovers])
  simp only [columnOrNull,bind_eq_ok,Except.ok.injEq,exists_eq_right] at schema
  rw [loadSnapshot,serializeRunConfig,parsed]
  simp only [bind_eq_ok,pure_eq_ok]
  exact ⟨_,rfl,_,schema,(),rfl,rfl⟩

theorem restoreRunConfig_serialized (stored : loaded.Stored) (ids : ∀ n ∈ adminIds.getD ∅, Fits n) :
    restoreRunConfig os (serializeRunConfig loaded adminIds) = .ok loaded.undeleted := by
  have keys : PlainKeys ((payloadFields loaded adminIds).map (·.1)) := payloadFields_keys
  have database : Recovers (readOptional restoreDatabase) _ (loaded.databaseSource.map Sourced.undeleted) :=
    recovers_orNull (fun s _ => recovers_database s) fun s => sorted_obj_ne_null (databaseFields s)
  have files : Recovers (readOptional restoreFiles) _ (loaded.filesSource.map Sourced.undeleted) :=
    recovers_orNull (fun s _ => recovers_files s) fun s => sorted_obj_ne_null (filesFields s)
  have gitlab : Recovers (readOptional restoreGitlab) _ (loaded.gitlabSource.map Sourced.undeleted) :=
    recovers_orNull (fun s given => recovers_gitlab (stored.gitlabSource s given).2) fun s =>
      sorted_obj_ne_null (gitlabFields s)
  rw [restoreRunConfig]
  simp only [bind_eq_ok,pure_eq_ok]
  exact ⟨_,loadSnapshot_serialized stored ids,
    _,column_found keys rfl (recovers_profile _),
    _,column_found keys rfl database,
    _,column_found keys rfl files,
    _,columnOrNull_found keys rfl gitlab,rfl⟩

theorem restoreRunAdminIds_serialized (stored : loaded.Stored) (ids : ∀ n ∈ adminIds.getD ∅, Fits n) :
    restoreRunAdminIds os (serializeRunConfig loaded adminIds) = .ok (adminIds.getD ∅) := by
  have found : (Json.obj (payloadFields loaded adminIds)).sorted.get (str "assigned_admin_ids") = some
      (Json.arr ((sortedIds adminIds).map .int)).sorted := item_found payloadFields_keys rfl
  have listed := recovers_list recovers_int (sortedIds adminIds)
  rw [List.map_id'] at listed
  rw [restoreRunAdminIds,loadSnapshot_serialized stored ids]
  simp only [bind_eq_ok,pure_eq_ok]
  refine ⟨_,rfl,sortedIds adminIds,?_,?_⟩
  · rw [found]
    exact listed
  · rw [sortedIds,Finset.sort_toFinset]

end Document

/-- The same to a run: it looks at every column, but at the deletion of a server only where
the server holds the artifacts of a database. -/
structure SameForRun (a b : LoadedProfile) : Prop where
  profile : a.profile = b.profile
  databaseSource : a.databaseSource = b.databaseSource
  filesSource : a.filesSource.map Sourced.undeleted = b.filesSource.map Sourced.undeleted
  gitlabSource : a.gitlabSource.map Sourced.undeleted = b.gitlabSource.map Sourced.undeleted

theorem undeleted_idem {α : Type} (source : Option (Sourced α)) :
    (source.map Sourced.undeleted).map Sourced.undeleted = source.map Sourced.undeleted := by
  cases source with
  | none => rfl
  | some source =>
    obtain ⟨row,server⟩ := source
    cases server <;> rfl

theorem undeleted_eq_iff {α : Type} (source : Option (Sourced α)) : source.map Sourced.undeleted = source ↔
    ∀ s ∈ source, ∀ server ∈ s.server, server.deletedAt = none := by
  cases source with
  | none => simp
  | some source =>
    obtain ⟨row,server⟩ := source
    cases server with
    | none => simp [Sourced.undeleted]
    | some server =>
      obtain ⟨_,_,_,_,_,_,_,_,_,_,deletedAt⟩ := server
      simp [Sourced.undeleted,RemoteServer.undeleted,eq_comm]

/-- A run gets the profile it was queued with, and exactly its recipients, unless the server
of the database's artifacts was already deleted. -/
theorem snapshot_roundTrip_iff (os : Platform) (loaded : LoadedProfile) (adminIds : Option (Finset Int))
    (stored : loaded.Stored) (ids : ∀ n ∈ adminIds.getD ∅, Fits n) :
    ((∃ restored, restoreRunConfig os (serializeRunConfig loaded adminIds) = .ok restored ∧ SameForRun restored loaded) ∧
        restoreRunAdminIds os (serializeRunConfig loaded adminIds) = .ok (adminIds.getD ∅)) ↔
      ∀ source ∈ loaded.databaseSource, ∀ server ∈ source.server, server.deletedAt = none := by
  have back : restoreRunConfig os (serializeRunConfig loaded adminIds) = .ok loaded.undeleted :=
    restoreRunConfig_serialized stored ids
  have recipients : restoreRunAdminIds os (serializeRunConfig loaded adminIds) = .ok (adminIds.getD ∅) :=
    restoreRunAdminIds_serialized stored ids
  rw [← undeleted_eq_iff]
  constructor
  · rintro ⟨⟨restored,read,same⟩,-⟩
    obtain rfl := Except.ok.inj (back.symm.trans read)
    exact same.databaseSource
  · intro undeleted
    exact ⟨⟨_,back,rfl,undeleted,undeleted_idem _,undeleted_idem _⟩,recipients⟩

theorem newYear_valid : (⟨2025,1,1,0,0,0,0,some 0⟩ : Fields).Valid := by decide

def newYear : DateTime := ⟨_,newYear_valid⟩

def smallServer (deletedAt : Option DateTime) : RemoteServer :=
  ⟨3,str "s",str "h",22,str "u",.privateKey,[1,2],none,str "f",deletedAt.isNone,deletedAt⟩

def smallSource : DatabaseSource :=
  ⟨.mssql,str "db",1433,str "app",str "sa",[1],.disabled,none,false,some (str "/b/app.bak"),none,some 3⟩

def smallLoaded (deletedAt : Option DateTime) : LoadedProfile :=
  ⟨createDraft smallCreation (str "n") none .database,some ⟨smallSource,some (smallServer deletedAt)⟩,none,none⟩

theorem smallLoaded_stored (deletedAt : Option DateTime) : (smallLoaded deletedAt).Stored := by
  have profile : Held (createDraft smallCreation (str "n") none .database).texts
    (createDraft smallCreation (str "n") none .database).numbers := ⟨by decide,by decide⟩
  have source : Held smallSource.texts smallSource.numbers := ⟨by decide,by decide⟩
  have server : Held [str "s",str "h",str "u",str "f"] [3,22] := ⟨by decide,by decide⟩
  refine ⟨profile,?_,?_,?_⟩
  · rintro s ⟨⟩
    refine ⟨source,?_⟩
    rintro r ⟨⟩
    exact server
  · rintro s ⟨⟩
  · rintro s ⟨⟩

theorem snapshot_roundTrip_iff_small :
    (∃ restored, restoreRunConfig smallSetup.os (serializeRunConfig (smallLoaded none) (some {5,3})) = .ok restored ∧
      SameForRun restored (smallLoaded none)) ∧
    restoreRunAdminIds smallSetup.os (serializeRunConfig (smallLoaded none) (some {5,3})) = .ok {5,3} :=
  (snapshot_roundTrip_iff smallSetup.os (smallLoaded none) (some {5,3}) (smallLoaded_stored none) (by decide)).mpr (by
    rintro source ⟨⟩ server ⟨⟩
    rfl)

/-- The worker refuses a server that was deleted before the run was queued; what the run gets
back of the server does not say so. -/
theorem snapshot_forgetsDeletion : (smallLoaded (some newYear)).Stored ∧
    ¬∃ restored, restoreRunConfig smallSetup.os (serializeRunConfig (smallLoaded (some newYear)) none) = .ok restored ∧
      SameForRun restored (smallLoaded (some newYear)) := by
  have stored := smallLoaded_stored (some newYear)
  refine ⟨stored,?_⟩
  rintro ⟨restored,read,same⟩
  rw [restoreRunConfig_serialized stored (by simp)] at read
  obtain rfl := Except.ok.inj read
  exact absurd same.databaseSource (by decide)

end BackupTelebot.Config
