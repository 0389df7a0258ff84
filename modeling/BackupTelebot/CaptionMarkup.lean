import BackupTelebot.BackupCaption
import BackupTelebot.MessageMarkup

/-! Captions of the same shape have the same markup, whatever the profile, the run and its metadata
hold. -/
namespace BackupTelebot.Captions

open PyJson HtmlText PyFormat Config Messages Queue

variable {lib : Conversions} {zones : Zones} {depth : ℕ} {P : HtmlText.Text → Prop} {language : Language}

/-- The counts that are zero, and those that are one, are the same. -/
def SameCounts (counts counts' : List (ℤ × Str)) : Prop :=
  List.Forall₂ (fun one other => one.2 = other.2 ∧ (one.1 = 0 ↔ other.1 = 0) ∧ (one.1 = 1 ↔ other.1 = 1)) counts counts'

structure SameFiles (source source' : Sourced FilesSource) : Prop where
  location : source.row.location = source'.row.location
  server : source.server.isSome = source'.server.isSome
  paths : source.row.paths.length = source'.row.paths.length

def readCounts (lib : Conversions) (depth : ℕ) (run : Run) : Except Failure (List (ℤ × Str)) := do
  let metadata ← readMetadata depth run.sourceMetadata
  skipped lib metadata

structure SameShape (lib : Conversions) (depth : ℕ) (run run' : Run) (loaded loaded' : LoadedProfile) : Prop where
  schedule : loaded.profile.scheduleKind = loaded'.profile.scheduleKind
  nextRun : loaded.profile.nextScheduledAt.isSome = loaded'.profile.nextScheduledAt.isSome
  started : run.startedAt.isSome = run'.startedAt.isSome
  database : loaded.databaseSource.isSome = loaded'.databaseSource.isSome
  files : loaded.databaseSource = none → Option.Rel SameFiles loaded.filesSource loaded'.filesSource
  counts : loaded.databaseSource = none → loaded.filesSource.isSome →
    Both SameCounts (readCounts lib depth run) (readCounts lib depth run')

theorem agree_nil : Values.Agree P [] [] := .nil

theorem agree_one {name : HtmlText.Text} {value value' : Value} (agrees : Value.Agrees P value value') :
    Values.Agree P [(name,value)] [(name,value')] := .cons ⟨rfl,agrees⟩ .nil

theorem agree_two {name name' : HtmlText.Text} {value value' other other' : Value} (agrees : Value.Agrees P value value')
    (agrees' : Value.Agrees P other other') : Values.Agree P [(name,value),(name',other)] [(name,value'),(name',other')] :=
  .cons ⟨rfl,agrees⟩ (agree_one agrees')

theorem agrees_text (value value' : Str) : Value.Agrees P (ofText value) (ofText value') := .plain _ _

theorem agrees_int (n n' : ℤ) : Value.Agrees P (ofInt n) (ofInt n') := .plain _ _

theorem agrees_orNone {α : Type} {value : α → Value} (plain : ∀ a, ∃ object, value a = .plain object)
    (found found' : Option α) : Value.Agrees P (orNone value found) (orNone value found') := by
  have object (found : Option α) : ∃ object, orNone value found = .plain object := by
    cases found with
    | none => exact ⟨_,rfl⟩
    | some a => exact plain a
  obtain ⟨one,first⟩ := object found
  obtain ⟨other,second⟩ := object found'
  rw [first,second]
  exact .plain one other

section

variable (markup : ∀ text, Neat text → P text)

include markup

theorem both_line {value value' : Value} (key : Str) (agrees : Value.Agrees P value value') :
    Both (SameMarkup P) (line language key value) (line language key value') := both_t markup language key (agree_one agrees)

theorem agrees_code (value value' : Value) : Value.Agrees P (.html (code value)) (.html (code value')) :=
  .html (sameMarkup_code markup value value')

theorem both_codeLine (key : Str) (value value' : Value) :
    Both (SameMarkup P) (line language key (.html (code value))) (line language key (.html (code value'))) :=
  both_line markup key (agrees_code markup value value')

theorem both_fixed (key : Str) : Both (SameMarkup P) (t language key []) (t language key []) :=
  both_t markup language key agree_nil

theorem both_separator : SameMarkup P separator separator := sameMarkup_of (markup separator (by decide +kernel))

theorem both_scheduleLabel (profile profile' : BackupProfile) (kind : ScheduleKind) :
    Both (SameMarkup P) (scheduleLabel profile language kind) (scheduleLabel profile' language kind) := by
  have ints (found found' : Option ℤ) : Value.Agrees P (orNone ofInt found) (orNone ofInt found') :=
    agrees_orNone (fun n => ⟨_,rfl⟩) found found'
  have texts (found found' : Option Str) : Value.Agrees P (orNone ofText found) (orNone ofText found') :=
    agrees_orNone (fun value => ⟨_,rfl⟩) found found'
  cases kind with
  | manual | once => exact both_fixed markup _
  | everyNMinutes | everyNHours | everyNDays => exact both_line markup _ (ints _ _)
  | daily | cron => exact both_line markup _ (texts _ _)
  | weekly | monthly => exact both_t markup language _ (agree_two (ints _ _) (texts _ _))

theorem both_scheduleCaption {profile profile' : BackupProfile} (same : profile.scheduleKind = profile'.scheduleKind) :
    Both (SameMarkup P) (scheduleCaption profile language) (scheduleCaption profile' language) := by
  have label (kind : ScheduleKind) :
      Both (SameMarkup P) (scheduleLabel profile language kind) (scheduleLabel profile' language kind) :=
    both_scheduleLabel markup profile profile' kind
  unfold scheduleCaption
  rw [same]
  refine (label .manual).bind fun _ _ manual => (label .once).bind fun _ _ once => ?_
  refine (label .everyNMinutes).bind fun _ _ minutes => (label .everyNHours).bind fun _ _ hours => ?_
  refine (label .everyNDays).bind fun _ _ days => (label .daily).bind fun _ _ daily => ?_
  refine (label .weekly).bind fun _ _ weekly => (label .monthly).bind fun _ _ monthly => ?_
  refine (label .cron).bind fun _ _ cron => both_ok ?_
  cases profile'.scheduleKind with
  | manual => exact manual
  | once => exact once
  | everyNMinutes => exact minutes
  | everyNHours => exact hours
  | everyNDays => exact days
  | daily => exact daily
  | weekly => exact weekly
  | monthly => exact monthly
  | cron => exact cron

theorem both_formatUserTimestamp {timezone timezone' : Str} {value value' : Option IsoTime.DateTime}
    (same : value.isSome = value'.isSome) : Both (Value.Agrees P) (formatUserTimestamp zones timezone value)
      (formatUserTimestamp zones timezone' value') := by
  cases value with
  | none =>
    cases value' with
    | none => exact both_ok (.html (sameMarkup_of (markup _ (by decide +kernel))))
    | some moment => cases same
  | some moment =>
    cases value' with
    | none => cases same
    | some moment' => exact (both_any _ _).bind fun one other _ => both_ok (agrees_code markup _ _)

theorem both_nextRunLines {timezone timezone' : Str} {next next' : Option IsoTime.DateTime}
    (same : next.isSome = next'.isSome) : Both (List.Forall₂ (SameMarkup P)) (nextRunLines zones timezone language next)
      (nextRunLines zones timezone' language next') := by
  cases next with
  | none =>
    cases next' with
    | none => exact both_ok .nil
    | some moment => cases same
  | some moment =>
    cases next' with
    | none => cases same
    | some moment' =>
      refine (both_formatUserTimestamp markup same).bind fun _ _ agrees => ?_
      exact (both_line markup _ agrees).bind fun _ _ shown => both_ok (.cons shown .nil)

theorem both_scheduleLines {profile profile' : BackupProfile} {completedAt completedAt' : IsoTime.DateTime}
    {timezone timezone' : Str} (kind : profile.scheduleKind = profile'.scheduleKind)
    (next : profile.nextScheduledAt.isSome = profile'.nextScheduledAt.isSome) :
    Both (SameMarkup P) (scheduleLines zones profile completedAt timezone language)
      (scheduleLines zones profile' completedAt' timezone' language) := by
  refine (both_scheduleCaption markup kind).bind fun _ _ caption => ?_
  refine (both_line markup _ (.html caption)).bind fun _ _ schedule => ?_
  refine (both_nextRunLines markup next).bind fun _ _ nextRun => ?_
  refine (both_any _ _).bind fun label label' _ => ?_
  refine (both_line markup _ (agrees_text label label')).bind fun _ _ zone => both_ok ?_
  exact sameMarkup_intercalate (markup newline (by decide))
    (List.rel_append (.cons schedule nextRun) (.cons zone .nil))

theorem both_heading {run run' : Run} {profile profile' : BackupProfile} {completedAt completedAt' : IsoTime.DateTime}
    {timezone timezone' : Str} (started : run.startedAt.isSome = run'.startedAt.isSome)
    (kind : profile.scheduleKind = profile'.scheduleKind)
    (next : profile.nextScheduledAt.isSome = profile'.nextScheduledAt.isSome) :
    Both (List.Forall₂ (SameMarkup P)) (heading zones run profile completedAt timezone language)
      (heading zones run' profile' completedAt' timezone' language) := by
  have line := both_separator markup
  have completion : (some completedAt).isSome = (some completedAt').isSome := rfl
  refine (both_scheduleLines markup kind next).bind fun _ _ schedule => ?_
  refine (both_fixed markup _).bind fun _ _ title => ?_
  refine (both_codeLine markup _ _ _).bind fun _ _ name => ?_
  refine (both_fixed markup _).bind fun _ _ status => ?_
  refine (both_formatUserTimestamp markup started).bind fun _ _ startedAt => ?_
  refine (both_line markup _ startedAt).bind fun _ _ started => ?_
  refine (both_formatUserTimestamp markup completion).bind fun _ _ completedAt => ?_
  refine (both_line markup _ completedAt).bind fun _ _ completed => both_ok ?_
  exact .cons title (.cons line (.cons name (.cons status (.cons started (.cons completed (.cons schedule
    (.cons line .nil)))))))

theorem both_databaseSections (metadata metadata' : Json) (source source' : DatabaseSource) :
    Both (List.Forall₂ (SameMarkup P)) (databaseSections lib metadata source language)
      (databaseSections lib metadata' source' language) := by
  refine (both_any _ _).bind fun version version' _ => ?_
  refine (both_fixed markup _).bind fun _ _ kind => ?_
  refine (both_line markup _ (.html kind)).bind fun _ _ origin => ?_
  refine (both_line markup _ (agrees_text _ _)).bind fun _ _ type => ?_
  refine (both_line markup _ (agrees_text version version')).bind fun _ _ engine => ?_
  refine (both_codeLine markup _ _ _).bind fun _ _ server => ?_
  refine (both_codeLine markup _ _ _).bind fun _ _ database => both_ok ?_
  exact .cons origin (.cons type (.cons engine (.cons server (.cons database .nil))))

theorem both_serverSections (server server' : RemoteServer) :
    Both (List.Forall₂ (SameMarkup P)) (serverSections server language) (serverSections server' language) := by
  refine (both_codeLine markup _ _ _).bind fun _ _ name => ?_
  exact (both_codeLine markup _ _ _).bind fun _ _ host => both_ok (.cons name (.cons host .nil))

theorem both_pathSections {paths paths' : List BackupPath} (same : paths.length = paths'.length) :
    Both (List.Forall₂ (SameMarkup P)) (pathSections language paths) (pathSections language paths') := by
  unfold pathSections
  induction paths generalizing paths' with
  | nil =>
    cases paths' with
    | nil => exact both_ok .nil
    | cons path' rest' => cases same
  | cons path rest ih =>
    cases paths' with
    | nil => cases same
    | cons path' rest' =>
      rw [List.mapM_cons,List.mapM_cons]
      refine (both_codeLine markup _ _ _).bind fun _ _ here => ?_
      exact (ih (Nat.succ.inj same)).bind fun _ _ behind => both_ok (.cons here behind)

theorem both_warningParts {counts counts' : List (ℤ × Str)} (same : SameCounts counts counts') :
    Both (List.Forall₂ (SameMarkup P)) (warningParts language counts) (warningParts language counts') := by
  induction same with
  | nil => exact both_ok .nil
  | @cons one other rest rest' here _ ih =>
    obtain ⟨count,key⟩ := one
    obtain ⟨count',key'⟩ := other
    obtain ⟨rfl,amount⟩ := here
    unfold warningParts
    by_cases zero : count = 0
    · rw [if_pos zero,if_pos (amount.1.mp zero)]
      exact ih
    · rw [if_neg zero,if_neg (fun zero' => zero (amount.1.mpr zero'))]
      have keys : countKey key count = countKey key count' := by simp only [countKey,amount.2]
      rw [keys]
      refine (both_t markup language _ (agree_one (agrees_int count count'))).bind fun _ _ part => ?_
      exact ih.bind fun _ _ parts => both_ok (.cons part parts)

theorem both_warningSections {counts counts' : List (ℤ × Str)} (same : SameCounts counts counts') :
    Both (List.Forall₂ (SameMarkup P)) (warningSections language counts) (warningSections language counts') := by
  refine (both_warningParts markup same).bind fun parts parts' agree => ?_
  cases agree with
  | nil => exact both_ok .nil
  | cons here rest =>
    have joined := sameMarkup_intercalate (markup comma (by decide)) (.cons here rest)
    exact (both_line markup _ (.html joined)).bind fun _ _ warning => both_ok (.cons warning .nil)

theorem both_shownServer {server server' : Option RemoteServer} (remote : Bool) (same : server.isSome = server'.isSome) :
    Both (List.Forall₂ (SameMarkup P)) (shownServer remote server language) (shownServer remote server' language) := by
  cases remote with
  | false => exact both_ok .nil
  | true =>
    cases server with
    | none =>
      cases server' with
      | none => exact both_ok .nil
      | some server' => cases same
    | some server =>
      cases server' with
      | none => cases same
      | some server' => exact both_serverSections markup server server'

theorem both_filesSections {metadata metadata' : Json} {source source' : Sourced FilesSource} (same : SameFiles source source')
    (counts : Both SameCounts (skipped lib metadata) (skipped lib metadata')) :
    Both (List.Forall₂ (SameMarkup P)) (filesSections lib metadata source language)
      (filesSections lib metadata' source' language) := by
  unfold filesSections
  rw [same.location]
  refine (both_fixed markup _).bind fun _ _ place => ?_
  refine (both_line markup _ (.html place)).bind fun _ _ origin => ?_
  refine (both_shownServer markup _ same.server).bind fun _ _ server => ?_
  refine (both_pathSections markup same.paths).bind fun _ _ paths => ?_
  refine counts.bind fun _ _ counts => ?_
  exact (both_warningSections markup counts).bind fun _ _ warnings => both_ok
    (List.rel_append (List.rel_append (.cons origin server) paths) warnings)

theorem both_closing (run run' : Run) :
    Both (List.Forall₂ (SameMarkup P)) (closing run language) (closing run' language) := by
  refine (both_codeLine markup _ _ _).bind fun _ _ runId => ?_
  refine (both_any _ _).bind fun size size' _ => (both_any _ _).bind fun other other' _ => ?_
  refine (both_line markup _ (agrees_text size size')).bind fun _ _ original => ?_
  refine (both_line markup _ (agrees_text other other')).bind fun _ _ final => both_ok ?_
  exact .cons runId (.cons original (.cons final (.cons (both_separator markup) .nil)))

theorem both_buildBackupCaption {run run' : Run} {loaded loaded' : LoadedProfile}
    {completedAt completedAt' : IsoTime.DateTime} {timezone timezone' : Str}
    (same : SameShape lib depth run run' loaded loaded') :
    Both (SameMarkup P) (buildBackupCaption lib zones depth run loaded completedAt timezone language)
      (buildBackupCaption lib zones depth run' loaded' completedAt' timezone' language) := by
  have knows : Both (fun metadata metadata' => loaded.databaseSource = none → loaded.filesSource.isSome →
      Both SameCounts (skipped lib metadata) (skipped lib metadata'))
      (readMetadata depth run.sourceMetadata) (readMetadata depth run'.sourceMetadata) := by
    intro metadata metadata' read read' noDatabase files
    have counts := same.counts noDatabase files
    unfold readCounts at counts
    rwa [read,read'] at counts
  refine knows.bind fun metadata metadata' counts => ?_
  refine (both_heading markup same.started same.schedule same.nextRun).bind fun _ _ heading => ?_
  have source : Both (List.Forall₂ (SameMarkup P)) (sourceSections lib metadata loaded language)
      (sourceSections lib metadata' loaded' language) := by
    have database := same.database
    have files := same.files
    unfold sourceSections
    cases one : loaded.databaseSource with
    | some source =>
      cases other : loaded'.databaseSource with
      | none => rw [one,other] at database; cases database
      | some source' => exact both_databaseSections markup metadata metadata' source.row source'.row
    | none =>
      cases other : loaded'.databaseSource with
      | some source' => rw [one,other] at database; cases database
      | none =>
        have related := files one
        have counts := counts one
        cases here : loaded.filesSource with
        | none =>
          cases there : loaded'.filesSource with
          | none => exact both_ok .nil
          | some source' => rw [here,there] at related; cases related
        | some source =>
          cases there : loaded'.filesSource with
          | none => rw [here,there] at related; cases related
          | some source' =>
            rw [here] at counts
            rw [here,there] at related
            cases related with
            | some shape => exact both_filesSections markup shape (counts rfl)
  refine source.bind fun _ _ source => ?_
  refine (both_closing markup run run').bind fun _ _ closing => both_ok ?_
  exact sameMarkup_intercalate (markup newline (by decide)) (List.rel_append (List.rel_append heading source) closing)

theorem both_deliveredCaption {run run' : Run} {loaded loaded' : LoadedProfile}
    {completedAt completedAt' : IsoTime.DateTime} {timezone timezone' : Str} {parts parts' : Option (ℤ × ℤ)}
    (same : SameShape lib depth run run' loaded loaded') (split : parts.isSome = parts'.isSome) :
    Both (SameMarkup P) (deliveredCaption lib zones depth run loaded completedAt timezone language parts)
      (deliveredCaption lib zones depth run' loaded' completedAt' timezone' language parts') := by
  refine (both_buildBackupCaption markup same).bind fun caption caption' related => ?_
  cases parts with
  | none =>
    cases parts' with
    | none => exact both_ok related
    | some part' => cases split
  | some part =>
    cases parts' with
    | none => cases split
    | some part' =>
      have numbers : Values.Agree P [(text "number" rfl,ofInt part.1),(text "total" rfl,ofInt part.2)]
          [(text "number" rfl,ofInt part'.1),(text "total" rfl,ofInt part'.2)] :=
        agree_two (agrees_int part.1 part'.1) (agrees_int part.2 part'.2)
      refine (both_t markup language _ numbers).bind fun _ _ label => both_ok ?_
      exact (related.append (sameMarkup_of (markup newline (by decide)))).append label

end

/-- What stands in a message is its template, a trusted value or the escaped text of another value.
With other values of the same trust it has the same markup, down to the tags where the trusted values
leave none open; so have `code` and, for one shape, the caption of a delivery with its part label. -/
theorem messages_keep_markup :
    (∀ language key values message, t language key values = .ok message →
      ∃ pieces fragments, (template language.resolve key).map parse = .ok (some pieces) ∧
        List.Forall₂ (Origin values) pieces fragments ∧ message = flatten fragments) ∧
    (∀ language key values values', Values.Agree (fun _ => True) values values' →
      Both (fun message message' => message.filter isMarkup = message'.filter isMarkup)
        (t language key values) (t language key values')) ∧
    (∀ language key values values', Values.Agree Closed values values' →
      Both (fun message message' => SameMarkup Closed message message' ∧ tags message = tags message')
        (t language key values) (t language key values')) ∧
    (∀ value value', SameMarkup Closed (code value) (code value') ∧ tags (code value) = tags (code value')) ∧
    ∀ (lib : Conversions) (zones : Zones) (depth : ℕ) (language : Language) (run run' : Run) (loaded loaded' : LoadedProfile)
      (completedAt completedAt' : IsoTime.DateTime) (timezone timezone' : Str) (parts parts' : Option (ℤ × ℤ)),
      SameShape lib depth run run' loaded loaded' → parts.isSome = parts'.isSome →
      Both (fun caption caption' => SameMarkup Closed caption caption' ∧ tags caption = tags caption')
        (deliveredCaption lib zones depth run loaded completedAt timezone language parts)
        (deliveredCaption lib zones depth run' loaded' completedAt' timezone' language parts') := by
  have closed : ∀ text, Neat text → Closed text := fun _ neat => neat.1
  have keep : ∀ a b : HtmlText.Text, SameMarkup Closed a b → SameMarkup Closed a b ∧ tags a = tags b :=
    fun _ _ same => ⟨same,same.tags.2.2⟩
  refine ⟨fun _ _ _ _ => t_origin,?_,?_,?_,?_⟩
  · intro language key values values' agree
    exact (both_t (fun _ _ => trivial) language key agree).mono fun _ _ same => same.symbols
  · intro language key values values' agree
    exact (both_t closed language key agree).mono keep
  · intro value value'
    exact keep _ _ (sameMarkup_code closed value value')
  · intro lib zones depth language run run' loaded loaded' completedAt completedAt' timezone timezone' parts parts' same split
    exact (both_deliveredCaption closed same split).mono keep

theorem exists_ok {ε α : Type} {x : Except ε α} (returned : x.toOption.isSome = true) : ∃ a, x = .ok a := by
  cases x with
  | error e => cases returned
  | ok a => exact ⟨a,rfl⟩

/-- No conversion is needed for counts that are integers. -/
def plainLibrary : Conversions :=
  ⟨fun _ => true,id,fun _ => .error (.builtin "ValueError"),fun _ => .error (.builtin "ValueError"),fun _ => []⟩

def onlyUtc : Zones := fun timezone => if timezone = text "UTC" rfl then .ok fun _ => 0 else .error (.builtin "ZoneInfoNotFoundError")

theorem noon_valid : (⟨2026,3,1,12,0,0,0,some 0⟩ : IsoTime.Fields).Valid := by decide

def noon : IsoTime.DateTime := ⟨_,noon_valid⟩

def namedFiles (name path : Str) : LoadedProfile :=
  ⟨createDraft smallCreation name none .filesDirectories,none,some ⟨⟨.localHost,none,[⟨path,false⟩]⟩,none⟩,none⟩

def skippingRun : Run := ⟨7,some noon,some 2000,some 1200,some (text "\x7b\"skipped_symlinks\": 2\x7d" rfl)⟩

theorem messages_keep_markup_bold : ∃ caption caption',
    deliveredCaption plainLibrary onlyUtc 100 skippingRun (namedFiles (text "</code><b>" rfl) (text "/a&b" rfl)) noon
      (text "UTC" rfl) (.code .english) (some (1,2)) = .ok caption ∧
    deliveredCaption plainLibrary onlyUtc 100 skippingRun (namedFiles (text "n" rfl) (text "/srv" rfl)) noon
      (text "UTC" rfl) (.code .english) (some (2,2)) = .ok caption' ∧
    SameMarkup Closed caption caption' ∧ tags caption = tags caption' := by
  obtain ⟨caption,shown⟩ := exists_ok (show (deliveredCaption plainLibrary onlyUtc 100 skippingRun
    (namedFiles (text "</code><b>" rfl) (text "/a&b" rfl)) noon (text "UTC" rfl) (.code .english)
    (some (1,2))).toOption.isSome = true by decide +kernel)
  obtain ⟨caption',shown'⟩ := exists_ok (show (deliveredCaption plainLibrary onlyUtc 100 skippingRun
    (namedFiles (text "n" rfl) (text "/srv" rfl)) noon (text "UTC" rfl) (.code .english)
    (some (2,2))).toOption.isSome = true by decide +kernel)
  have same : SameShape plainLibrary 100 skippingRun skippingRun (namedFiles (text "</code><b>" rfl) (text "/a&b" rfl))
      (namedFiles (text "n" rfl) (text "/srv" rfl)) := by
    refine ⟨rfl,rfl,rfl,rfl,fun _ => .some ⟨rfl,rfl,rfl⟩,fun _ _ => ?_⟩
    intro counts counts' read read'
    obtain rfl := Except.ok.inj (read.symm.trans read')
    exact List.forall₂_same.mpr fun _ _ => ⟨rfl,Iff.rfl,Iff.rfl⟩
  exact ⟨caption,caption',shown,shown',messages_keep_markup.2.2.2.2 plainLibrary onlyUtc 100 (.code .english) skippingRun
    skippingRun _ _ noon noon (text "UTC" rfl) (text "UTC" rfl) (some (1,2)) (some (2,2)) same rfl caption caption' shown shown'⟩

end BackupTelebot.Captions
