import BackupTelebot.CaptionMarkup

/-! How many characters of a message are seen: those of its template beside its tags, and those of
its values. -/
namespace BackupTelebot.Messages

open HtmlText PyFormat

/-- So many characters of the text are seen, wherever it stands. -/
structure Measured (n : ℕ) (text : HtmlText.Text) : Prop where
  composed : SameMarkup Neat text text
  length : visibleLength text = n

theorem Measured.append {m n : ℕ} {front back : HtmlText.Text} (first : Measured m front) (second : Measured n back) :
    Measured (m + n) (front ++ back) :=
  ⟨first.composed.append second.composed,by rw [first.composed.visibleLength_append,first.length,second.length]⟩

theorem measured_nil : Measured 0 [] := ⟨sameMarkup_nil,rfl⟩

theorem measured_markup {n : ℕ} {text : HtmlText.Text} (neat : Neat text) (length : (plainText text).length = n) :
    Measured n text := by
  refine ⟨sameMarkup_of neat,?_⟩
  rw [← length]
  have seen := neat.visibleText_append []
  rw [List.append_nil] at seen
  rw [visibleLength,seen]
  simp [visibleText,plainText,running,unescape]

theorem measured_escape (user : HtmlText.Text) : Measured user.length (escape user) := by
  refine ⟨sameMarkup_escape user user,?_⟩
  have seen := visibleText_escape user []
  rw [List.append_nil] at seen
  rw [visibleLength,seen]
  simp [visibleText,plainText,running,unescape]

theorem measured_code (value : Value) : Measured value.str.length (code value) := by
  have opening : Measured 0 codeOpening := measured_markup (by decide) (by decide)
  have closing : Measured 0 codeClosing := measured_markup (by decide) (by decide)
  have all := (opening.append (measured_escape value.str)).append closing
  rwa [Nat.zero_add,Nat.add_zero] at all

def joinedLength (gap : ℕ) (lengths : List ℕ) : ℕ := lengths.sum + gap * (lengths.length - 1)

theorem measured_intercalate {separator : HtmlText.Text} {gap : ℕ} (between : Measured gap separator)
    {texts : List HtmlText.Text} {lengths : List ℕ} (each : List.Forall₂ (fun text n => Measured n text) texts lengths) :
    Measured (joinedLength gap lengths) (separator.intercalate texts) := by
  induction each with
  | nil => exact measured_nil
  | @cons text n texts lengths here rest ih =>
    cases rest with
    | nil => simpa [joinedLength] using here
    | @cons next n' texts lengths second others =>
      rw [List.intercalate_cons_cons]
      have all := (here.append between).append ih
      have total : n + gap + joinedLength gap (n' :: lengths) = joinedLength gap (n :: n' :: lengths) := by
        simp only [joinedLength,List.sum_cons,List.length_cons,Nat.add_sub_cancel]
        rw [Nat.mul_add]
        omega
      rwa [total] at all

def pieces (language : LanguageCode) (key : HtmlText.Text) : List Piece :=
  match template language key with
  | .ok template => (parse template).getD []
  | .error _ => []

theorem pieces_eq {language : LanguageCode} {key template_ : HtmlText.Text} {read : List Piece}
    (found : template language key = .ok template_) (parsed : parse template_ = some read) : pieces language key = read := by
  simp only [pieces,found]
  rw [parsed,Option.getD_some]

def pieceLength : Piece → ℕ
  | .literal text => (plainText text).length
  | .field _ _ => 0

def labelLength (language : LanguageCode) (key : HtmlText.Text) : ℕ :=
  ((pieces language key).map pieceLength).sum

def pieceField : Piece → Option (HtmlText.Text × HtmlText.Text)
  | .literal _ => none
  | .field name spec => some (name,spec)

def fieldNames (language : LanguageCode) (key : HtmlText.Text) : List (HtmlText.Text × HtmlText.Text) :=
  (pieces language key).filterMap pieceField

/-- In both languages the template has these fields, once each and plain. -/
def HasFields (key : HtmlText.Text) (names : List HtmlText.Text) : Prop :=
  fieldNames .english key = names.map (fun name => (name,[])) ∧ fieldNames .persian key = names.map fun name => (name,[])

instance (key : HtmlText.Text) (names : List HtmlText.Text) : Decidable (HasFields key names) :=
  inferInstanceAs (Decidable (_ ∧ _))

theorem HasFields.at {key : HtmlText.Text} {names : List HtmlText.Text} (has : HasFields key names) (language : LanguageCode) :
    fieldNames language key = names.map fun name => (name,[]) := by
  cases language with
  | english => exact has.1
  | persian => exact has.2

theorem render_measured {value : HtmlText.Text → HtmlText.Text → Except Failure HtmlText.Text} {size : HtmlText.Text → ℕ}
    {pieces : List Piece} (literals : ∀ text, .literal text ∈ pieces → Neat text)
    (fields : ∀ name spec, .field name spec ∈ pieces → Returns (Measured (size name)) (value name spec)) :
    Returns (Measured ((pieces.map pieceLength).sum + ((pieces.filterMap pieceField).map fun field => size field.1).sum))
      (render value pieces) := by
  induction pieces with
  | nil => exact returns_ok measured_nil
  | cons piece rest ih =>
    have behind := ih (fun text member => literals text (List.mem_cons_of_mem _ member))
      fun name spec member => fields name spec (List.mem_cons_of_mem _ member)
    cases piece with
    | literal text =>
      refine behind.bind fun more _ measured => returns_ok ?_
      have all := (measured_markup (literals text List.mem_cons_self) rfl).append measured
      simpa [pieceLength,List.filterMap_cons,pieceField,Nat.add_assoc] using all
    | field name spec =>
      refine (fields name spec List.mem_cons_self).bind fun here _ first => behind.bind fun more _ second => returns_ok ?_
      have all := first.append second
      simpa [pieceLength,List.filterMap_cons,pieceField,Nat.add_left_comm] using all

theorem t_measured {language : Language} {key : HtmlText.Text} {names : List HtmlText.Text} {values : Values}
    {size : HtmlText.Text → ℕ} (has : HasFields key names)
    (fields : ∀ name ∈ names, Returns (Measured (size name)) (fieldValue values name [])) :
    Returns (Measured (labelLength language.resolve key + (names.map size).sum)) (t language key values) := by
  intro shown reached
  cases found : template language.resolve key with
  | error e => unfold t at reached; rw [found] at reached; cases reached
  | ok template =>
    obtain ⟨read,parsed,neat⟩ := template_wellFormed found
    have same := pieces_eq found parsed
    rw [t_eq_render found parsed] at reached
    have only := has.at language.resolve
    rw [fieldNames,same] at only
    have measured := render_measured (fun text member => neat _ member) (fun name spec member => by
      have listed : (name,spec) ∈ names.map fun name => (name,([] : HtmlText.Text)) := by
        rw [← only,List.mem_filterMap]
        exact ⟨_,member,rfl⟩
      obtain ⟨name',inside,equal⟩ := List.mem_map.mp listed
      cases equal
      exact fields name inside) shown reached
    rw [only,List.map_map] at measured
    rw [labelLength,same]
    exact measured

end BackupTelebot.Messages

namespace BackupTelebot.Captions

open PyJson HtmlText PyFormat Config Messages Queue

variable {lib : Conversions} {zones : Zones} {depth : ℕ} {language : Language}

def Shows (n : ℕ) : Value → Prop
  | .html text => Measured n text
  | .plain object => Returns (fun user => user.length = n) (object.formatted [])

theorem safeFormat_measured {n : ℕ} {value : Value} (shows : Shows n value) : Returns (Measured n) (safeFormat value []) := by
  cases value with
  | html text => exact returns_ok shows
  | plain object =>
    refine Returns.bind shows fun user _ length => returns_ok ?_
    rw [← length]
    exact measured_escape user

theorem shows_text (value : Str) : Shows value.length (ofText value) := returns_ok rfl

theorem shows_int (n : ℤ) : Shows (intText n).length (ofInt n) := returns_ok rfl

def orNoneLength : Option Str → ℕ
  | none => 4
  | some value => value.length

theorem shows_orNoneText (value : Option Str) : Shows (orNoneLength value) (orNone ofText value) := by
  cases value with
  | none => exact returns_ok rfl
  | some value => exact shows_text value

theorem shows_orNoneInt (n : Option ℤ) : Shows (orNoneLength (n.map intText)) (orNone ofInt n) := by
  cases n with
  | none => exact returns_ok rfl
  | some n => exact shows_int n

theorem shows_code (value : Value) : Shows value.str.length (.html (code value)) := measured_code value

theorem line_measured {key : Str} {value : Value} {n : ℕ} (has : HasFields key [valueName]) (shows : Shows n value) :
    Returns (Measured (labelLength language.resolve key + n)) (line language key value) := by
  refine @t_measured language key [valueName] [(valueName,value)] (fun _ => n) has fun name member => ?_
  rw [List.mem_singleton.mp member,fieldValue,List.lookup_cons_self]
  exact safeFormat_measured shows

theorem fixed_measured {key : Str} (has : HasFields key []) :
    Returns (Measured (labelLength language.resolve key)) (t language key []) :=
  @t_measured language key [] [] (fun _ => 0) has fun _ member => absurd member List.not_mem_nil

theorem pair_measured {key name name' : Str} {value value' : Value} {n n' : ℕ} (has : HasFields key [name,name'])
    (distinct : name' ≠ name) (shows : Shows n value) (shows' : Shows n' value') :
    Returns (Measured (labelLength language.resolve key + (n + n'))) (t language key [(name,value),(name',value')]) := by
  have measured := @t_measured language key _ [(name,value),(name',value')] (fun other => if other = name then n else n') has
  have sum : ([name,name'].map fun other => if other = name then n else n').sum = n + n' := by
    simp [distinct]
  rw [sum] at measured
  refine measured fun other member => ?_
  rcases List.mem_cons.mp member with rfl | second
  · rw [if_pos rfl,fieldValue,List.lookup_cons_self]
    exact safeFormat_measured shows
  · rw [List.mem_singleton.mp second,if_neg distinct,fieldValue,List.lookup_cons,beq_false_of_ne distinct,
      List.lookup_cons_self]
    exact safeFormat_measured shows'

def scheduleKey : ScheduleKind → Str
  | .manual => text "schedule_manual" rfl
  | .once => text "schedule_once" rfl
  | .everyNMinutes => text "schedule_minutes_value" rfl
  | .everyNHours => text "schedule_hours_value" rfl
  | .everyNDays => text "schedule_days_value" rfl
  | .daily => text "schedule_daily_value" rfl
  | .weekly => text "schedule_weekly_value" rfl
  | .monthly => text "schedule_monthly_value" rfl
  | .cron => text "schedule_cron_value" rfl

def scheduleShown (profile : BackupProfile) : ScheduleKind → ℕ
  | .manual | .once => 0
  | .everyNMinutes | .everyNHours | .everyNDays => orNoneLength (profile.scheduleInterval.map intText)
  | .daily => orNoneLength profile.scheduleTime
  | .weekly => orNoneLength (profile.scheduleWeekday.map intText) + orNoneLength profile.scheduleTime
  | .monthly => orNoneLength (profile.scheduleMonthday.map intText) + orNoneLength profile.scheduleTime
  | .cron => orNoneLength profile.scheduleCron

/-- A moment has nineteen characters, and the dash for none is one. -/
def stampLength (value : Option IsoTime.DateTime) : ℕ := if value.isSome then 19 else 1

section Lengths

variable (code : LanguageCode)

def nextRunLengths (next : Option IsoTime.DateTime) : List ℕ :=
  if next.isSome then [labelLength code (text "caption_next_run" rfl) + 19] else []

def scheduleLength (profile : BackupProfile) (timezone : Str) : ℕ :=
  joinedLength 1 ((labelLength code (text "caption_schedule" rfl) +
      (labelLength code (scheduleKey profile.scheduleKind) + scheduleShown profile profile.scheduleKind)) ::
    nextRunLengths code profile.nextScheduledAt ++ [labelLength code (text "caption_timezone" rfl) + (timezone.length + 12)])

def headingLengths (run : Run) (profile : BackupProfile) (timezone : Str) : List ℕ := [
  labelLength code (text "caption_backup_completed" rfl),
  14,
  labelLength code (text "caption_profile" rfl) + profile.name.length,
  labelLength code (text "caption_status" rfl),
  labelLength code (text "caption_started" rfl) + stampLength run.startedAt,
  labelLength code (text "caption_completed" rfl) + 19,
  scheduleLength code profile timezone,
  14]

def databaseLengths (source : DatabaseSource) (version : Str) : List ℕ := [
  labelLength code (text "caption_source" rfl) + labelLength code (text "caption_source_database_value" rfl),
  labelLength code (text "caption_database_type" rfl) + (engineName source.engine).length,
  labelLength code (text "caption_engine" rfl) + version.length,
  labelLength code (text "caption_server" rfl) + source.host.length,
  labelLength code (text "caption_database" rfl) + source.databaseName.length]

def serverLengths (remote : Bool) : Option RemoteServer → List ℕ
  | none => []
  | some server => if remote then [labelLength code (text "caption_server_name" rfl) + server.name.length,
      labelLength code (text "caption_server" rfl) + server.host.length] else []

def pathLengths (paths : List BackupPath) : List ℕ :=
  paths.map fun path => labelLength code (text "caption_path" rfl) + path.path.length

def partLengths : List (ℤ × Str) → List ℕ
  | [] => []
  | (count,key) :: rest =>
      if count = 0 then partLengths rest
      else (labelLength code (countKey key count) + (intText count).length) :: partLengths rest

def warningLengths (counts : List (ℤ × Str)) : List ℕ :=
  if partLengths code counts = [] then []
  else [labelLength code (text "caption_skipped" rfl) + joinedLength 2 (partLengths code counts)]

def placeKey (location : SourceLocation) : Str :=
  if location = .remoteServer then text "source_location_remote" rfl else text "source_location_local" rfl

def filesLengths (source : Sourced FilesSource) (counts : List (ℤ × Str)) : List ℕ :=
  (labelLength code (text "caption_source" rfl) + labelLength code (placeKey source.row.location)) ::
    serverLengths code (source.row.location = .remoteServer) source.server ++ pathLengths code source.row.paths ++
    warningLengths code counts

def closingLengths (run : Run) (originalSize finalSize : Str) : List ℕ := [
  labelLength code (text "caption_run_id" rfl) + (intText run.id).length,
  labelLength code (text "caption_original_size" rfl) + originalSize.length,
  labelLength code (text "caption_final_size" rfl) + finalSize.length,
  14]

end Lengths

def captionFields : List (Str × List Str) := [
  (text "schedule_manual" rfl,[]),
  (text "schedule_once" rfl,[]),
  (text "schedule_minutes_value" rfl,[valueName]),
  (text "schedule_hours_value" rfl,[valueName]),
  (text "schedule_days_value" rfl,[valueName]),
  (text "schedule_daily_value" rfl,[valueName]),
  (text "schedule_weekly_value" rfl,[dayName,timeName]),
  (text "schedule_monthly_value" rfl,[dayName,timeName]),
  (text "schedule_cron_value" rfl,[valueName]),
  (text "caption_backup_completed" rfl,[]),
  (text "caption_profile" rfl,[valueName]),
  (text "caption_status" rfl,[]),
  (text "caption_started" rfl,[valueName]),
  (text "caption_completed" rfl,[valueName]),
  (text "caption_schedule" rfl,[valueName]),
  (text "caption_next_run" rfl,[valueName]),
  (text "caption_timezone" rfl,[valueName]),
  (text "caption_source" rfl,[valueName]),
  (text "caption_source_database_value" rfl,[]),
  (text "caption_database_type" rfl,[valueName]),
  (text "caption_engine" rfl,[valueName]),
  (text "caption_server_name" rfl,[valueName]),
  (text "caption_server" rfl,[valueName]),
  (text "caption_database" rfl,[valueName]),
  (text "source_location_remote" rfl,[]),
  (text "source_location_local" rfl,[]),
  (text "caption_path" rfl,[valueName]),
  (text "caption_skipped" rfl,[valueName]),
  (text "caption_run_id" rfl,[valueName]),
  (text "caption_original_size" rfl,[valueName]),
  (text "caption_final_size" rfl,[valueName]),
  (text "caption_part" rfl,[text "number" rfl,text "total" rfl])]

theorem captionFields_all : ∀ entry ∈ captionFields, HasFields entry.1 entry.2 := by decide +kernel

theorem captionFields_hold {key : Str} {names : List Str} (listed : (key,names) ∈ captionFields) : HasFields key names :=
  captionFields_all (key,names) listed

abbrev Lengths (lengths : List ℕ) (texts : List HtmlText.Text) : Prop := List.Forall₂ (fun text n => Measured n text) texts lengths

theorem separator_measured : Measured 14 separator := measured_markup (by decide +kernel) (by decide +kernel)

theorem newline_measured : Measured 1 newline := measured_markup (by decide) (by decide)

theorem comma_measured : Measured 2 comma := measured_markup (by decide) (by decide)

theorem scheduleLabel_measured (profile : BackupProfile) (kind : ScheduleKind) :
    Returns (Measured (labelLength language.resolve (scheduleKey kind) + scheduleShown profile kind))
      (scheduleLabel profile language kind) := by
  cases kind with
  | manual | once => exact fixed_measured (captionFields_hold (by simp [captionFields,scheduleKey]))
  | everyNMinutes | everyNHours | everyNDays => exact line_measured (captionFields_hold (by simp [captionFields,scheduleKey])) (shows_orNoneInt _)
  | daily | cron => exact line_measured (captionFields_hold (by simp [captionFields,scheduleKey])) (shows_orNoneText _)
  | weekly | monthly =>
    exact pair_measured (captionFields_hold (by simp [captionFields,scheduleKey])) (by decide) (shows_orNoneInt _) (shows_orNoneText _)

theorem scheduleCaption_measured (profile : BackupProfile) :
    Returns (Measured (labelLength language.resolve (scheduleKey profile.scheduleKind) +
      scheduleShown profile profile.scheduleKind)) (scheduleCaption profile language) := by
  have label (kind : ScheduleKind) := @scheduleLabel_measured language profile kind
  unfold scheduleCaption
  refine (label .manual).bind fun _ _ manual => (label .once).bind fun _ _ once => ?_
  refine (label .everyNMinutes).bind fun _ _ minutes => (label .everyNHours).bind fun _ _ hours => ?_
  refine (label .everyNDays).bind fun _ _ days => (label .daily).bind fun _ _ daily => ?_
  refine (label .weekly).bind fun _ _ weekly => (label .monthly).bind fun _ _ monthly => ?_
  refine (label .cron).bind fun _ _ cron => returns_ok ?_
  cases profile.scheduleKind with
  | manual => exact manual
  | once => exact once
  | everyNMinutes => exact minutes
  | everyNHours => exact hours
  | everyNDays => exact days
  | daily => exact daily
  | weekly => exact weekly
  | monthly => exact monthly
  | cron => exact cron

theorem length_digits (width n : ℕ) : (IsoTime.digits width n).length = width := by
  induction width generalizing n with
  | zero => rfl
  | succ width ih => simp [IsoTime.digits,ih]

theorem length_timestampText (f : IsoTime.Fields) : (timestampText f).length = 19 := by
  simp [timestampText,length_digits]

theorem formatUserTimestamp_shows (timezone : Str) (value : Option IsoTime.DateTime) :
    Returns (Shows (stampLength value)) (formatUserTimestamp zones timezone value) := by
  cases value with
  | none => exact returns_ok (measured_markup (by decide +kernel) (by decide +kernel))
  | some moment =>
    refine (returns_any _).bind fun f _ _ => returns_ok ?_
    have shows := shows_code (ofText (timestampText f))
    rwa [ofText,Value.str,length_timestampText] at shows

def Modest (zones : Zones) : Prop :=
  ∀ timezone zone, zones timezone = .ok zone → ∀ now, (zone now).natAbs < 86400000000

theorem length_two : ∀ n < 100, (two n).length = 2 := by decide +kernel

theorem localMoment_offset (modest : Modest zones) (value : IsoTime.DateTime) (timezone : Str) :
    Returns (fun f => ∃ offset, f.utcoffset = some offset ∧ offset.natAbs < 86400000000)
      (localMoment zones value timezone) := by
  refine (returns_any _).bind fun zone found _ => (returns_any _).bind fun _ _ _ => ?_
  unfold Spool.astimezone
  dsimp only
  split_ifs
  · exact returns_ok ⟨_,rfl,modest timezone zone found _⟩
  · exact returns_error

theorem timezoneLabel_length (modest : Modest zones) (value : IsoTime.DateTime) (timezone : Str) :
    Returns (fun label => label.length = timezone.length + 12) (timezoneLabel zones value timezone) := by
  refine (localMoment_offset modest value timezone).bind fun f _ found => ?_
  obtain ⟨offset,same,bound⟩ := found
  simp only [same]
  refine returns_ok ?_
  have hours := length_two ((offset / 60000000).natAbs / 60) (by omega)
  have minutes := length_two ((offset / 60000000).natAbs % 60) (by omega)
  have opening : (text " (UTC" rfl).length = 5 := by decide
  by_cases ahead : 0 ≤ offset / 60000000
  · simp [ahead,opening,hours,minutes]
  · simp [ahead,opening,hours,minutes]

theorem nextRunLines_measured (timezone : Str) (next : Option IsoTime.DateTime) :
    Returns (Lengths (nextRunLengths language.resolve next)) (nextRunLines zones timezone language next) := by
  cases next with
  | none => exact returns_ok .nil
  | some moment =>
    refine (formatUserTimestamp_shows timezone (some moment)).bind fun value _ shows => ?_
    exact (line_measured (captionFields_hold (by simp [captionFields])) shows).bind fun _ _ shown => returns_ok (.cons shown .nil)

theorem scheduleLines_measured (modest : Modest zones) (profile : BackupProfile) (completedAt : IsoTime.DateTime)
    (timezone : Str) : Returns (Measured (scheduleLength language.resolve profile timezone))
      (scheduleLines zones profile completedAt timezone language) := by
  refine (scheduleCaption_measured profile).bind fun caption _ label => ?_
  have shows : Shows _ (.html caption) := label
  refine (line_measured (captionFields_hold (by simp [captionFields])) shows).bind fun _ _ schedule => ?_
  refine (nextRunLines_measured timezone profile.nextScheduledAt).bind fun _ _ next => ?_
  refine (timezoneLabel_length modest completedAt timezone).bind fun label _ length => ?_
  have shown := shows_text label
  rw [length] at shown
  refine (line_measured (captionFields_hold (by simp [captionFields])) shown).bind fun _ _ zone => returns_ok ?_
  have lines : Lengths _ _ := .cons schedule next
  exact measured_intercalate newline_measured (List.rel_append lines (.cons zone .nil))

theorem codeLine_measured {key : Str} (has : HasFields key [valueName]) (value : Str) :
    Returns (Measured (labelLength language.resolve key + value.length)) (line language key (.html (code (ofText value)))) :=
  line_measured has (shows_code (ofText value))

theorem textLine_measured {key : Str} (has : HasFields key [valueName]) (value : Str) :
    Returns (Measured (labelLength language.resolve key + value.length)) (line language key (ofText value)) :=
  line_measured has (shows_text value)

theorem heading_measured (modest : Modest zones) (run : Run) (profile : BackupProfile) (completedAt : IsoTime.DateTime)
    (timezone : Str) : Returns (Lengths (headingLengths language.resolve run profile timezone))
      (heading zones run profile completedAt timezone language) := by
  refine (scheduleLines_measured modest profile completedAt timezone).bind fun _ _ schedule => ?_
  refine (fixed_measured (captionFields_hold (by simp [captionFields]))).bind fun _ _ title => ?_
  refine (codeLine_measured (captionFields_hold (by simp [captionFields])) profile.name).bind fun _ _ name => ?_
  refine (fixed_measured (captionFields_hold (by simp [captionFields]))).bind fun _ _ status => ?_
  refine (formatUserTimestamp_shows timezone run.startedAt).bind fun _ _ startedAt => ?_
  refine (line_measured (captionFields_hold (by simp [captionFields])) startedAt).bind fun _ _ started => ?_
  refine (formatUserTimestamp_shows timezone (some completedAt)).bind fun _ _ completedAt => ?_
  refine (line_measured (captionFields_hold (by simp [captionFields])) completedAt).bind fun _ _ completed => returns_ok ?_
  exact .cons title (.cons separator_measured (.cons name (.cons status (.cons started (.cons completed (.cons schedule
    (.cons separator_measured .nil)))))))

theorem databaseSections_measured (metadata : Json) (source : DatabaseSource) :
    Returns (fun texts => ∃ version, engineVersion lib source.engine metadata = .ok version ∧
      Lengths (databaseLengths language.resolve source version) texts) (databaseSections lib metadata source language) := by
  refine (returns_any _).bind fun version found _ => ?_
  refine (fixed_measured (captionFields_hold (by simp [captionFields]))).bind fun kind _ label => ?_
  have shows : Shows _ (.html kind) := label
  refine (line_measured (captionFields_hold (by simp [captionFields])) shows).bind fun _ _ origin => ?_
  refine (textLine_measured (captionFields_hold (by simp [captionFields])) _).bind fun _ _ type => ?_
  refine (textLine_measured (captionFields_hold (by simp [captionFields])) version).bind fun _ _ engine => ?_
  refine (codeLine_measured (captionFields_hold (by simp [captionFields])) source.host).bind fun _ _ server => ?_
  refine (codeLine_measured (captionFields_hold (by simp [captionFields])) source.databaseName).bind fun _ _ database => returns_ok ⟨version,found,?_⟩
  exact .cons origin (.cons type (.cons engine (.cons server (.cons database .nil))))

theorem shownServer_measured (remote : Bool) (server : Option RemoteServer) :
    Returns (Lengths (serverLengths language.resolve remote server)) (shownServer remote server language) := by
  cases server with
  | none => cases remote <;> exact returns_ok .nil
  | some server =>
    cases remote with
    | false => exact returns_ok .nil
    | true =>
      refine (codeLine_measured (captionFields_hold (by simp [captionFields])) server.name).bind fun _ _ name => ?_
      exact (codeLine_measured (captionFields_hold (by simp [captionFields])) server.host).bind fun _ _ host =>
        returns_ok (.cons name (.cons host .nil))

theorem pathSections_measured (paths : List BackupPath) :
    Returns (Lengths (pathLengths language.resolve paths)) (pathSections language paths) := by
  unfold pathSections
  induction paths with
  | nil => exact returns_ok .nil
  | cons path rest ih =>
    rw [List.mapM_cons]
    refine (codeLine_measured (captionFields_hold (by simp [captionFields])) path.path).bind fun _ _ here => ?_
    exact ih.bind fun _ _ behind => returns_ok (.cons here behind)

def skipKeys : List Str :=
  [text "caption_skipped_symlink" rfl,text "caption_skipped_special" rfl,text "caption_skipped_unreadable" rfl]

theorem skipKeys_fields : ∀ key ∈ skipKeys, HasFields (key ++ text "_one" rfl) [countName] ∧
    HasFields (key ++ text "_many" rfl) [countName] := by decide +kernel

theorem skipped_keys (metadata : Json) : Returns (fun counts => counts.map (·.2) = skipKeys) (skipped lib metadata) := by
  refine (returns_any _).bind fun _ _ _ => (returns_any _).bind fun _ _ _ => (returns_any _).bind fun _ _ _ => ?_
  exact returns_ok rfl

theorem warningParts_measured {counts : List (ℤ × Str)} (keys : ∀ entry ∈ counts, entry.2 ∈ skipKeys) :
    Returns (Lengths (partLengths language.resolve counts)) (warningParts language counts) := by
  induction counts with
  | nil => exact returns_ok .nil
  | cons entry rest ih =>
    obtain ⟨count,key⟩ := entry
    have behind := ih fun entry member => keys entry (List.mem_cons_of_mem _ member)
    have has : HasFields (countKey key count) [countName] := by
      have both := skipKeys_fields key (keys (count,key) List.mem_cons_self)
      unfold countKey
      split_ifs
      · exact both.1
      · exact both.2
    unfold warningParts partLengths
    split_ifs with zero
    · exact behind
    · have part : Returns (Measured (labelLength language.resolve (countKey key count) + (intText count).length))
          (t language (countKey key count) [(countName,ofInt count)]) := by
        refine @t_measured language _ [countName] [(countName,ofInt count)] (fun _ => (intText count).length) has ?_
        intro name member
        rw [List.mem_singleton.mp member,fieldValue,List.lookup_cons_self]
        exact safeFormat_measured (shows_int count)
      exact part.bind fun _ _ here => behind.bind fun _ _ more => returns_ok (.cons here more)

theorem warningSections_measured {counts : List (ℤ × Str)} (keys : ∀ entry ∈ counts, entry.2 ∈ skipKeys) :
    Returns (Lengths (warningLengths language.resolve counts)) (warningSections language counts) := by
  refine (warningParts_measured keys).bind fun parts _ measured => ?_
  unfold warningLengths
  generalize partLengths language.resolve counts = lengths at measured ⊢
  cases measured with
  | nil => exact returns_ok .nil
  | @cons part n parts lengths here rest =>
    have shows : Shows (joinedLength 2 (n :: lengths)) (.html (comma.intercalate (part :: parts))) :=
      measured_intercalate comma_measured (.cons here rest)
    exact (line_measured (captionFields_hold (by simp [captionFields])) shows).bind fun _ _ warning => returns_ok (.cons warning .nil)

theorem filesSections_measured (metadata : Json) (source : Sourced FilesSource) :
    Returns (fun texts => ∃ counts, skipped lib metadata = .ok counts ∧ counts.map (·.2) = skipKeys ∧
      Lengths (filesLengths language.resolve source counts) texts) (filesSections lib metadata source language) := by
  have place : Returns (Measured (labelLength language.resolve (placeKey source.row.location)))
      (t language (if decide (source.row.location = .remoteServer) then text "source_location_remote" rfl
        else text "source_location_local" rfl) []) := by
    cases source.row.location with
    | localHost => exact fixed_measured (captionFields_hold (by simp [captionFields,placeKey]))
    | remoteServer => exact fixed_measured (captionFields_hold (by simp [captionFields,placeKey]))
  refine place.bind fun place _ label => ?_
  have shows : Shows _ (.html place) := label
  refine (line_measured (captionFields_hold (by simp [captionFields])) shows).bind fun _ _ origin => ?_
  refine (shownServer_measured _ source.server).bind fun _ _ server => ?_
  refine (pathSections_measured source.row.paths).bind fun _ _ paths => ?_
  refine (skipped_keys metadata).bind fun counts found keys => ?_
  have known : ∀ entry ∈ counts, entry.2 ∈ skipKeys := by
    intro entry member
    rw [← keys]
    exact List.mem_map_of_mem member
  refine (warningSections_measured known).bind fun _ _ warnings => returns_ok ⟨counts,found,keys,?_⟩
  have first : Lengths _ _ := .cons origin server
  exact List.rel_append (List.rel_append first paths) warnings

theorem closing_measured (run : Run) :
    Returns (fun texts => ∃ original final, sizeText run.originalSizeBytes = .ok original ∧
      sizeText run.finalSizeBytes = .ok final ∧ Lengths (closingLengths language.resolve run original final) texts)
      (closing run language) := by
  refine (line_measured (captionFields_hold (by simp [captionFields])) (shows_code (ofInt run.id))).bind fun _ _ runId => ?_
  refine (returns_any _).bind fun original first _ => (returns_any _).bind fun final second _ => ?_
  refine (textLine_measured (captionFields_hold (by simp [captionFields])) original).bind fun _ _ originalSize => ?_
  refine (textLine_measured (captionFields_hold (by simp [captionFields])) final).bind fun _ _ finalSize => returns_ok ⟨original,final,first,second,?_⟩
  exact .cons runId (.cons originalSize (.cons finalSize (.cons separator_measured .nil)))

def sourceLengths (lib : Conversions) (code : LanguageCode) (metadata : Json) (loaded : LoadedProfile) : List ℕ :=
  match loaded.databaseSource,loaded.filesSource with
  | some source,_ =>
    match engineVersion lib source.row.engine metadata with
    | .ok version => databaseLengths code source.row version
    | .error _ => []
  | none,some source =>
    match skipped lib metadata with
    | .ok counts => filesLengths code source counts
    | .error _ => []
  | none,none => []

def partLength (code : LanguageCode) : Option (ℤ × ℤ) → ℕ
  | none => 0
  | some (number,total) =>
      1 + (labelLength code (text "caption_part" rfl) + ((intText number).length + (intText total).length))

/-- The visible characters of a caption with its part label: every line has its label and its
values, and a newline lies between two of them. -/
def captionLength (lib : Conversions) (depth : ℕ) (code : LanguageCode) (run : Run) (loaded : LoadedProfile)
    (timezone : Str) (parts : Option (ℤ × ℤ)) : ℕ :=
  match readMetadata depth run.sourceMetadata,sizeText run.originalSizeBytes,sizeText run.finalSizeBytes with
  | .ok metadata,.ok original,.ok final =>
    joinedLength 1 (headingLengths code run loaded.profile timezone ++ sourceLengths lib code metadata loaded ++
      closingLengths code run original final) + partLength code parts
  | _,_,_ => 0

theorem sourceSections_measured (metadata : Json) (loaded : LoadedProfile) :
    Returns (Lengths (sourceLengths lib language.resolve metadata loaded)) (sourceSections lib metadata loaded language) := by
  unfold sourceSections sourceLengths
  cases loaded.databaseSource with
  | some source =>
    intro texts reached
    obtain ⟨version,found,measured⟩ := databaseSections_measured metadata source.row texts reached
    simp only [found]
    exact measured
  | none =>
    cases loaded.filesSource with
    | none => exact returns_ok .nil
    | some source =>
      intro texts reached
      obtain ⟨counts,found,_,measured⟩ := filesSections_measured metadata source texts reached
      simp only [found]
      exact measured

theorem deliveredCaption_measured (modest : Modest zones) (run : Run) (loaded : LoadedProfile)
    (completedAt : IsoTime.DateTime) (timezone : Str) (parts : Option (ℤ × ℤ)) :
    Returns (Measured (captionLength lib depth language.resolve run loaded timezone parts))
      (deliveredCaption lib zones depth run loaded completedAt timezone language parts) := by
  have whole : Returns (fun caption => Measured (captionLength lib depth language.resolve run loaded timezone none) caption ∧
      ∃ metadata original final, readMetadata depth run.sourceMetadata = .ok metadata ∧
        sizeText run.originalSizeBytes = .ok original ∧ sizeText run.finalSizeBytes = .ok final)
      (buildBackupCaption lib zones depth run loaded completedAt timezone language) := by
    refine (returns_any _).bind fun metadata read _ => ?_
    refine (heading_measured modest run loaded.profile completedAt timezone).bind fun _ _ heading => ?_
    refine (sourceSections_measured metadata loaded).bind fun _ _ source => ?_
    refine (closing_measured run).bind fun _ _ closing => returns_ok ?_
    obtain ⟨original,final,first,second,closing⟩ := closing
    refine ⟨?_,metadata,original,final,read,first,second⟩
    have all := measured_intercalate newline_measured (List.rel_append (List.rel_append heading source) closing)
    simp only [captionLength,read,first,second,partLength,Nat.add_zero]
    exact all
  refine whole.bind fun caption _ known => ?_
  obtain ⟨measured,metadata,original,final,read,first,second⟩ := known
  cases parts with
  | none => exact returns_ok measured
  | some part =>
    refine (pair_measured (captionFields_hold (by simp [captionFields])) (by decide) (shows_int part.1) (shows_int part.2)).bind fun _ _ label => returns_ok ?_
    have all := (measured.append newline_measured).append label
    simp only [captionLength,read,first,second,partLength,Nat.add_zero,Nat.add_assoc] at all ⊢
    exact all

theorem onlyUtc_modest : Modest onlyUtc := by
  intro timezone zone found now
  unfold onlyUtc at found
  split at found
  · cases found
    exact (by decide : (0 : ℤ).natAbs < 86400000000)
  · cases found

theorem deliveredCaption_measured_named : ∃ caption,
    deliveredCaption plainLibrary onlyUtc 100 skippingRun (namedFiles (text "<i>&" rfl) (text "/a b" rfl)) noon
      (text "UTC" rfl) (.code .english) (some (1,12)) = .ok caption ∧
    Measured (captionLength plainLibrary 100 (Language.code .english).resolve skippingRun (namedFiles (text "<i>&" rfl) (text "/a b" rfl))
      (text "UTC" rfl) (some (1,12))) caption := by
  obtain ⟨caption,shown⟩ := exists_ok (show (deliveredCaption plainLibrary onlyUtc 100 skippingRun
    (namedFiles (text "<i>&" rfl) (text "/a b" rfl)) noon (text "UTC" rfl) (.code .english)
    (some (1,12))).toOption.isSome = true by decide +kernel)
  have measured := deliveredCaption_measured onlyUtc_modest skippingRun (namedFiles (text "<i>&" rfl) (text "/a b" rfl))
    noon (text "UTC" rfl) (some (1,12)) caption shown
  exact ⟨caption,shown,measured⟩

end BackupTelebot.Captions
