import BackupTelebot.JsonScan
import BackupTelebot.RunSnapshot
import BackupTelebot.SpoolNames
import BackupTelebot.TelegramMessages

/-! The caption of a delivered backup, for any profile and run, with the sizes and the moments in
it. Zones and a few conversions of values from the metadata are parameters. -/
namespace BackupTelebot.Captions

open PyJson PyFormat Config Messages Queue

def ofText (value : Str) : Value := .plain ⟨value,formatStr value⟩

def intText (n : ℤ) : Str := (Json.int n).dump

/-- The digits, the last one first, in groups of three. -/
def grouped : Str → Str
  | a :: b :: c :: d :: rest => a :: b :: c :: 44 :: grouped (d :: rest)
  | digits => digits

def ofInt (n : ℤ) : Value := .plain ⟨intText n,fun spec =>
  if spec = [] then .ok (intText n)
  else if spec = [44] then .ok ((if n < 0 then [45] else []) ++ (grouped (dumpNat n.natAbs).reverse).reverse)
  else .error (.builtin "ValueError")⟩

def noneText : Str := text "None" rfl

def ofNone : Value := .plain ⟨noneText,fun spec => if spec = [] then .ok noneText else .error (.builtin "TypeError")⟩

def orNone {α : Type} (value : α → Value) : Option α → Value
  | none => ofNone
  | some a => value a

/-- The nearest integer to `n / d`, and of two the even one. -/
def halfEven (n d : ℕ) : ℕ := if 2 * (n % d) < d ∨ 2 * (n % d) = d ∧ n / d % 2 = 0 then n / d else n / d + 1

/-- `float(n)`: 53 binary digits are kept. -/
def toFloat (n : ℕ) : Except Failure ℕ :=
  let unit := 2 ^ (Nat.log2 n - 52)
  let rounded := halfEven n unit * unit
  if rounded < 2 ^ 1024 then .ok rounded else .error (.builtin "OverflowError")

/-- `f"{amount / 1024 ** power:.2f}"`. -/
def twoDecimals (amount power : ℕ) : Str :=
  let hundredths := halfEven (100 * amount) (1024 ^ power)
  dumpNat (hundredths / 100) ++ 46 :: IsoTime.digits 2 (hundredths % 100)

def inUnits (amount : ℕ) : ℕ → List Str → Str
  | power, [] => twoDecimals amount power ++ text " TiB" rfl
  | power, unit :: rest =>
      if amount < 1024 ^ (power + 1) then
        if power = 0 then dumpNat amount ++ text " B" rfl else twoDecimals amount power ++ 32 :: unit
      else inUnits amount (power + 1) rest

def formatBytesIec (value : ℤ) : Except Failure Str :=
  if value < 0 then .error (.builtin "ValueError")
  else do
    let amount ← toFloat value.toNat
    return inUnits amount 0 [text "B" rfl,text "KiB" rfl,text "MiB" rfl,text "GiB" rfl]

example : (formatBytesIec 1234567).map (· == text "1.18 MiB" rfl) = .ok true := by decide +kernel

/-- `ZoneInfo(timezone)`, which raises for what is no zone. -/
abbrev Zones := Str → Except Failure Spool.Timezone

/-- The instant of a moment; what has no zone is in UTC. -/
def instant (f : IsoTime.Fields) : ℤ :=
  (CivilDate.monthStart f.year f.month + f.day - 1) * Spool.dayLength +
    (3600 * f.hour + 60 * f.minute + f.second : ℕ) * 1000000 + f.microsecond - f.utcoffset.getD 0

def localMoment (zones : Zones) (value : IsoTime.DateTime) (timezone : Str) : Except Failure IsoTime.Fields := do
  let zone ← zones timezone
  let now := instant value.fields
  let year := CivilDate.yearOf (now / Spool.dayLength)
  Deletion.require (1 ≤ year ∧ year ≤ 9999) (.builtin "OverflowError")
  Spool.astimezone now zone

def two (n : ℕ) : Str := if n < 10 then 48 :: dumpNat n else dumpNat n

def timezoneLabel (zones : Zones) (value : IsoTime.DateTime) (timezone : Str) : Except Failure Str := do
  let moment ← localMoment zones value timezone
  match moment.utcoffset with
  | none => .error (.builtin "ValueError")
  | some offset =>
    let minutes := offset / 60000000
    return timezone ++ (text " (UTC" rfl ++ (if 0 ≤ minutes then [43] else [45]) ++
      (two (minutes.natAbs / 60) ++ 58 :: two (minutes.natAbs % 60)) ++ [41])

/-- `f"{local:%Y-%m-%d %H:%M:%S}"`. -/
def timestampText (f : IsoTime.Fields) : Str :=
  IsoTime.digits 4 f.year ++ 45 :: (IsoTime.digits 2 f.month ++ 45 :: (IsoTime.digits 2 f.day ++ 32 ::
    (IsoTime.digits 2 f.hour ++ 58 :: (IsoTime.digits 2 f.minute ++ 58 :: IsoTime.digits 2 f.second))))

def formatUserTimestamp (zones : Zones) (timezone : Str) : Option IsoTime.DateTime → Except Failure Value
  | none => .ok (.html (text "—" rfl))
  | some value => do
      let moment ← localMoment zones value timezone
      return .html (code (ofText (timestampText moment)))

/-- What the library makes of the literals of floats, of containers and of texts. -/
structure Conversions where
  boolFloat : Str → Bool
  strFloat : Str → Str
  intFloat : Str → Except Failure ℤ
  intStr : Str → Except Failure ℤ
  strContainer : Json → Str

section Metadata

variable (lib : Conversions)

/-- `bool(value)`. -/
def truthy : Json → Bool
  | .null => false
  | .bool value => value
  | .int value => value ≠ 0
  | .float literal => lib.boolFloat literal
  | .str value => value ≠ []
  | .arr items => !items.isEmpty
  | .obj fields => !fields.isEmpty

/-- `str(value)`. -/
def strOf : Json → Str
  | .null => noneText
  | .bool value => if value then text "True" rfl else text "False" rfl
  | .int value => intText value
  | .float literal => lib.strFloat literal
  | .str value => value
  | container => lib.strContainer container

/-- `int(value)`. -/
def intOf : Json → Except Failure ℤ
  | .bool value => .ok (if value then 1 else 0)
  | .int value => .ok value
  | .float literal => lib.intFloat literal
  | .str value => lib.intStr value
  | _ => .error (.builtin "TypeError")

/-- `json.loads(run.source_metadata or "{}")`, with `{}` for what is no JSON. -/
def readMetadata (depth : ℕ) (source : Option Str) : Except Failure Json :=
  match source with
  | none | some [] => .ok (.obj [])
  | some document =>
    match loads depth document with
    | .ok metadata => .ok metadata
    | .error .recursion => .error (.builtin "RecursionError")
    | .error _ => .ok (.obj [])

/-- `metadata.get(key)`. -/
def get (key : Str) : Json → Except Failure (Option Json)
  | .obj fields => .ok (lookup key fields)
  | _ => .error (.builtin "AttributeError")

/-- `int(metadata.get(key, 0))`. -/
def skipCount (metadata : Json) (key : Str) : Except Failure ℤ := do
  let found ← get key metadata
  intOf lib (found.getD (.int 0))

end Metadata

structure Run where
  id : ℤ
  startedAt : Option IsoTime.DateTime
  originalSizeBytes : Option ℤ
  finalSizeBytes : Option ℤ
  sourceMetadata : Option Str

def valueName : Str := text "value" rfl
def dayName : Str := text "day" rfl
def timeName : Str := text "time" rfl
def countName : Str := text "count" rfl

def scheduleLabel (profile : BackupProfile) (language : Language) : ScheduleKind → Except Failure HtmlText.Text
  | .manual => t language (text "schedule_manual" rfl) []
  | .once => t language (text "schedule_once" rfl) []
  | .everyNMinutes => t language (text "schedule_minutes_value" rfl) [(valueName,orNone ofInt profile.scheduleInterval)]
  | .everyNHours => t language (text "schedule_hours_value" rfl) [(valueName,orNone ofInt profile.scheduleInterval)]
  | .everyNDays => t language (text "schedule_days_value" rfl) [(valueName,orNone ofInt profile.scheduleInterval)]
  | .daily => t language (text "schedule_daily_value" rfl) [(valueName,orNone ofText profile.scheduleTime)]
  | .weekly => t language (text "schedule_weekly_value" rfl)
      [(dayName,orNone ofInt profile.scheduleWeekday),(timeName,orNone ofText profile.scheduleTime)]
  | .monthly => t language (text "schedule_monthly_value" rfl)
      [(dayName,orNone ofInt profile.scheduleMonthday),(timeName,orNone ofText profile.scheduleTime)]
  | .cron => t language (text "schedule_cron_value" rfl) [(valueName,orNone ofText profile.scheduleCron)]

/-- `_schedule_caption`: the labels of all kinds are made, and one is taken. -/
def scheduleCaption (profile : BackupProfile) (language : Language) : Except Failure HtmlText.Text := do
  let label := scheduleLabel profile language
  let manual ← label .manual
  let once ← label .once
  let minutes ← label .everyNMinutes
  let hours ← label .everyNHours
  let days ← label .everyNDays
  let daily ← label .daily
  let weekly ← label .weekly
  let monthly ← label .monthly
  let cron ← label .cron
  return match profile.scheduleKind with
    | .manual => manual
    | .once => once
    | .everyNMinutes => minutes
    | .everyNHours => hours
    | .everyNDays => days
    | .daily => daily
    | .weekly => weekly
    | .monthly => monthly
    | .cron => cron

def newline : Str := [10]
def separator : Str := text "━━━━━━━━━━━━━━" rfl

section Caption

variable (lib : Conversions) (zones : Zones) (depth : ℕ)

def line (language : Language) (key : Str) (value : Value) : Except Failure HtmlText.Text := t language key [(valueName,value)]

def nextRunLines (timezone : Str) (language : Language) : Option IsoTime.DateTime → Except Failure (List HtmlText.Text)
  | none => .ok []
  | some moment => do
      let value ← formatUserTimestamp zones timezone (some moment)
      let shown ← line language (text "caption_next_run" rfl) value
      return [shown]

def scheduleLines (profile : BackupProfile) (completedAt : IsoTime.DateTime) (timezone : Str) (language : Language) :
    Except Failure HtmlText.Text := do
  let caption ← scheduleCaption profile language
  let schedule ← line language (text "caption_schedule" rfl) (.html caption)
  let nextRun ← nextRunLines zones timezone language profile.nextScheduledAt
  let label ← timezoneLabel zones completedAt timezone
  let zone ← line language (text "caption_timezone" rfl) (ofText label)
  return newline.intercalate (schedule :: nextRun ++ [zone])

def heading (run : Run) (profile : BackupProfile) (completedAt : IsoTime.DateTime) (timezone : Str) (language : Language) :
    Except Failure (List HtmlText.Text) := do
  let schedule ← scheduleLines zones profile completedAt timezone language
  let title ← t language (text "caption_backup_completed" rfl) []
  let name ← line language (text "caption_profile" rfl) (.html (code (ofText profile.name)))
  let status ← t language (text "caption_status" rfl) []
  let startedAt ← formatUserTimestamp zones timezone run.startedAt
  let started ← line language (text "caption_started" rfl) startedAt
  let completedAt ← formatUserTimestamp zones timezone (some completedAt)
  let completed ← line language (text "caption_completed" rfl) completedAt
  return [title,separator,name,status,started,completed,schedule,separator]

def engineName : DatabaseEngine → Str
  | .postgresql => text "PostgreSQL" rfl
  | .mysqlMariadb => text "MySQL / MariaDB" rfl
  | .mssql => text "Microsoft SQL Server" rfl

def trueValue (metadata : Json) (key : Str) : Except Failure (Option Json) := do
  let found ← get key metadata
  return found.filter (truthy lib)

def engineVersion (engine : DatabaseEngine) (metadata : Json) : Except Failure Str := do
  let major ← match engine with
    | .postgresql => trueValue lib metadata (text "server_major" rfl)
    | _ => .ok none
  match major with
  | some value => return text "PostgreSQL " rfl ++ strOf lib value
  | none =>
    let version ← trueValue lib metadata (text "server_version" rfl)
    return match version with
      | some value => engineName engine ++ 32 :: strOf lib value
      | none => engineName engine

def databaseSections (metadata : Json) (source : DatabaseSource) (language : Language) :
    Except Failure (List HtmlText.Text) := do
  let version ← engineVersion lib source.engine metadata
  let kind ← t language (text "caption_source_database_value" rfl) []
  let origin ← line language (text "caption_source" rfl) (.html kind)
  let type ← line language (text "caption_database_type" rfl) (ofText (engineName source.engine))
  let engine ← line language (text "caption_engine" rfl) (ofText version)
  let server ← line language (text "caption_server" rfl) (.html (code (ofText source.host)))
  let database ← line language (text "caption_database" rfl) (.html (code (ofText source.databaseName)))
  return [origin,type,engine,server,database]

def serverSections (server : RemoteServer) (language : Language) : Except Failure (List HtmlText.Text) := do
  let name ← line language (text "caption_server_name" rfl) (.html (code (ofText server.name)))
  let host ← line language (text "caption_server" rfl) (.html (code (ofText server.host)))
  return [name,host]

def shownServer (remote : Bool) (server : Option RemoteServer) (language : Language) : Except Failure (List HtmlText.Text) :=
  match remote,server with
  | true,some server => serverSections server language
  | _,_ => .ok []

def countKey (key : Str) (count : ℤ) : Str := key ++ (if count = 1 then text "_one" rfl else text "_many" rfl)

def warningParts (language : Language) : List (ℤ × Str) → Except Failure (List HtmlText.Text)
  | [] => .ok []
  | (count,key) :: rest =>
      if count = 0 then warningParts language rest
      else do
        let part ← t language (countKey key count) [(countName,ofInt count)]
        let parts ← warningParts language rest
        return part :: parts

def skipped (metadata : Json) : Except Failure (List (ℤ × Str)) := do
  let symlinks ← skipCount lib metadata (text "skipped_symlinks" rfl)
  let special ← skipCount lib metadata (text "skipped_special_files" rfl)
  let unreadable ← skipCount lib metadata (text "skipped_unreadable_entries" rfl)
  return [(symlinks,text "caption_skipped_symlink" rfl),(special,text "caption_skipped_special" rfl),
    (unreadable,text "caption_skipped_unreadable" rfl)]

def comma : Str := [44,32]

def pathSections (language : Language) (paths : List BackupPath) : Except Failure (List HtmlText.Text) :=
  paths.mapM fun path => line language (text "caption_path" rfl) (.html (code (ofText path.path)))

def warningSections (language : Language) (counts : List (ℤ × Str)) : Except Failure (List HtmlText.Text) := do
  let parts ← warningParts language counts
  if parts = [] then return []
  else
    let warning ← line language (text "caption_skipped" rfl) (.html (comma.intercalate parts))
    return [warning]

def filesSections (metadata : Json) (source : Sourced FilesSource) (language : Language) :
    Except Failure (List HtmlText.Text) := do
  let remote := decide (source.row.location = .remoteServer)
  let place ← t language (if remote then text "source_location_remote" rfl else text "source_location_local" rfl) []
  let origin ← line language (text "caption_source" rfl) (.html place)
  let server ← shownServer remote source.server language
  let paths ← pathSections language source.row.paths
  let counts ← skipped lib metadata
  let warnings ← warningSections language counts
  return origin :: server ++ paths ++ warnings

/-- A profile without a database or files shows nothing of its source. -/
def sourceSections (metadata : Json) (loaded : LoadedProfile) (language : Language) : Except Failure (List HtmlText.Text) :=
  match loaded.databaseSource,loaded.filesSource with
  | some source,_ => databaseSections lib metadata source.row language
  | none,some source => filesSections lib metadata source language
  | none,none => .ok []

def sizeText : Option ℤ → Except Failure Str
  | none => .ok (text "Unknown" rfl)
  | some size => formatBytesIec size

def closing (run : Run) (language : Language) : Except Failure (List HtmlText.Text) := do
  let runId ← line language (text "caption_run_id" rfl) (.html (code (ofInt run.id)))
  let originalSize ← sizeText run.originalSizeBytes
  let finalSize ← sizeText run.finalSizeBytes
  let original ← line language (text "caption_original_size" rfl) (ofText originalSize)
  let final ← line language (text "caption_final_size" rfl) (ofText finalSize)
  return [runId,original,final,separator]

def buildBackupCaption (run : Run) (loaded : LoadedProfile) (completedAt : IsoTime.DateTime) (timezone : Str)
    (language : Language) : Except Failure HtmlText.Text := do
  let metadata ← readMetadata depth run.sourceMetadata
  let heading ← heading zones run loaded.profile completedAt timezone language
  let source ← sourceSections lib metadata loaded language
  let closing ← closing run language
  return newline.intercalate (heading ++ source ++ closing)

def partLabel (language : Language) (number total : ℤ) : Except Failure HtmlText.Text :=
  t language (text "caption_part" rfl) [(text "number" rfl,ofInt number),(text "total" rfl,ofInt total)]

/-- The caption of an artifact, which `attempt` sends: `parts` are its number and their total, if
there is more than one. -/
def deliveredCaption (run : Run) (loaded : LoadedProfile) (completedAt : IsoTime.DateTime) (timezone : Str)
    (language : Language) (parts : Option (ℤ × ℤ)) : Except Failure HtmlText.Text := do
  let caption ← buildBackupCaption lib zones depth run loaded completedAt timezone language
  match parts with
  | none => return caption
  | some (number,total) =>
    let label ← partLabel language number total
    return caption ++ newline ++ label

end Caption

end BackupTelebot.Captions
