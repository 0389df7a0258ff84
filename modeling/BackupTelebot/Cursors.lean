import BackupTelebot.NextScheduled
import BackupTelebot.Timezone

/-! The sessions that write schedule cursors: creations, edits, configurations, changes of
the timezone and ticks. All but the creation of a draft hold the lock of the settings from
their first statement to their commit. -/
namespace BackupTelebot.Queue.Cursors

open PyJson Interleave Transactions

variable {κ : Type}

structure NewProfile (κ : Type) where
  scheduleKind : ScheduleKind
  columns : κ
  source : Source κ
  paths : List κ
  adminIds : List AdminId

def draftRow (columns : κ) : BackupProfile κ := ⟨true,none,.manual,none,columns⟩

/-- An INSERT, which the primary key keeps from a row that is there. -/
def addProfile (c : Contents κ) (p : ProfileId) (row : BackupProfile κ) : Contents κ :=
  if (c.profile p).isSome then c else { c with profile := Function.update c.profile p (some row) }

def nextId : Proc κ (ProfileId × Time) :=
  stmt .flush (fun _ => true) (fun _ s => { s with serial := s.serial + 1 }) (fun i s => .ok (s.serial,i.now))

def createDraft (t : Nat) (columns : κ) : Proc κ Unit := do
  let (p,_) ← nextId
  flush t fun c => addProfile c p (draftRow columns)
  commit t

/-- `_create_configured`. The insertion of the draft and its update are one statement. -/
def create (calendar : Calendar κ) (t : Nat) (new : NewProfile κ) : Proc κ Unit := do
  let timezone ← lockSettings t
  let (p,now) ← nextId
  let profile := { draftRow new.columns with scheduleKind := new.scheduleKind }
  match registerSchedule calendar profile now (timezone.getD []) with
  | .error e => throw e
  | .ok cursor => do
    flush t fun c => addProfile c p { profile with nextScheduledAt := cursor }
    flush t fun c => (c.setSource p (some new.source) new.paths).replaceForProfile p new.adminIds
    commit t

inductive Job (κ : Type) where
  | create (new : NewProfile κ)
  | createDraft (columns : κ)
  | edit (p : ProfileId) (columns : κ → κ) (enabled : Option Bool)
  | updateConfiguration (p : ProfileId) (u : ConfigurationUpdate κ)
  | setBackupTimezone (now : Time) (timezone : Str)
  | tick (now : Time) (timezone : Str)
  | manual (p : ProfileId)
  | progress (id : RunId) (status : RunStatus)

def Job.body (known : Str → Bool) (calendar : Calendar κ) (t : Nat) : Job κ → Proc κ Unit
  | .create new => Cursors.create calendar t new
  | .createDraft columns => Cursors.createDraft t columns
  | .edit p columns enabled => Queue.edit calendar t p columns enabled
  | .updateConfiguration p u => Queue.updateConfiguration calendar t p u
  | .setBackupTimezone now timezone => Timezones.setBackupTimezone known calendar t now timezone
  | .tick now timezone => do let _ ← Queue.tick calendar t now timezone; return ()
  | .manual p => do
      let _ ← insertRow .insertRun t fun id => ⟨id,p,.manual,none,.queued,none⟩
      Queue.commit t
  | .progress id status => Timezones.progress id status

def Job.program (known : Str → Bool) (calendar : Calendar κ) (t : Nat) (job : Job κ) : Proc κ Unit :=
  (job.body known calendar t).handle fun e => do
    stmt .rollback (fun _ => true) (fun _ => Timezones.rollback t) (fun _ _ => .ok ())
    throw e

def sessions (known : Str → Bool) (calendar : Calendar κ) : Sessions Point Reply (Control κ) Failure (Job κ) where
  program := Job.program known calendar
  rollback := Timezones.rollback

abbrev System (κ : Type) := Sessions.State Point Reply (Control κ) Failure (Job κ)

abbrev Act (κ : Type) := Sessions.Act Reply Failure (Job κ)

abbrev System.control (s : System κ) : Control κ := s.sys.shared

abbrev System.db (s : System κ) : Db (Contents κ) Key (Run κ) := s.sys.shared.db

def fresh (contents : Contents κ) (serial : ProfileId) : System κ :=
  Sessions.fresh ⟨⟨contents,fun _ => id,fun _ => none,[],[],[contents]⟩,serial,fun _ _ => none,fun _ => []⟩

structure Fits (row : BackupProfile κ) : Prop where
  manual : row.scheduleKind = .manual → row.nextScheduledAt = none
  disabled : row.enabled = false → row.scheduleKind ≠ .once → row.nextScheduledAt = none
  enabled : row.enabled = true → row.scheduleKind ≠ .manual → row.scheduleKind ≠ .once → row.nextScheduledAt ≠ none

def Consistent (c : Contents κ) : Prop := ∀ p row, c.profile p = some row → row.archivedAt = none → Fits row

def Initial (s : System κ) : Prop := ∃ contents serial, Consistent contents ∧ s = fresh contents serial

abbrev Reached (known : Str → Bool) (calendar : Calendar κ) : System κ → Prop :=
  Runs Initial (sessions known calendar).step fun _ _ => True

/-- The calendar names a time for every kind that is neither manual nor for one time. -/
def Recurs (calendar : Calendar κ) : Prop :=
  ∀ profile after timezone, profile.scheduleKind ≠ .manual → profile.scheduleKind ≠ .once →
    calendar profile after timezone ≠ .ok none

section Operations

variable {calendar : Calendar κ} {now : Time} {timezone : Str} {old row : BackupProfile κ}

theorem registerSchedule_fits {cursor : Option Time} (recurs : Recurs calendar)
    (registered : registerSchedule calendar row now timezone = .ok cursor) :
    Fits { row with nextScheduledAt := cursor } := by
  unfold registerSchedule at registered
  split_ifs at registered with off cron
  · obtain rfl := Except.ok.inj registered
    refine ⟨fun _ => rfl,fun _ _ => rfl,fun enabled kind _ => ?_⟩
    rcases off with manual | disabled
    · exact absurd manual kind
    · exact absurd (disabled.symm.trans enabled) (by decide)
  · have other : row.scheduleKind ≠ .manual ∧ row.scheduleKind ≠ .once := by simp [cron]
    refine ⟨fun manual => absurd manual other.1,fun disabled => absurd (.inr disabled) off,fun _ _ _ absent => ?_⟩
    dsimp only at absent
    rw [absent] at registered
    exact recurs row now timezone other.1 other.2 registered
  · obtain rfl := Except.ok.inj registered
    refine ⟨fun manual => absurd (.inl manual) off,fun disabled => absurd (.inr disabled) off,fun _ _ _ absent => ?_⟩
    cases absent

structure Turns (old row : BackupProfile κ) : Prop where
  fits : (old.archivedAt = none → Fits old) → row.archivedAt = none → Fits row
  once : old.scheduleKind = .once → row.scheduleKind = .once →
    row.nextScheduledAt = old.nextScheduledAt ∨ row.nextScheduledAt = none

theorem edited_turns {columns : κ → κ} {enabled : Option Bool} (recurs : Recurs calendar)
    (edited : old.edited calendar columns enabled now timezone = .ok row) : Turns old row := by
  unfold BackupProfile.edited at edited
  cases enabled with
  | none =>
    obtain rfl := Except.ok.inj edited
    exact ⟨fun fits active => ⟨(fits active).manual,(fits active).disabled,(fits active).enabled⟩,fun _ _ => .inl rfl⟩
  | some enabled =>
    dsimp only at edited
    split_ifs at edited with off back
    · obtain rfl := Except.ok.inj edited
      refine ⟨fun _ _ => ⟨fun _ => rfl,fun _ _ => rfl,fun on kind once => ?_⟩,fun _ _ => .inr rfl⟩
      rcases off with manual | ⟨disabled,_⟩
      · exact absurd manual kind
      · exact absurd (disabled.symm.trans on) (by decide)
    · cases registered : registerSchedule calendar { old with columns := columns old.columns, enabled := enabled } now
        timezone with
      | error e => simp [registered,Except.map] at edited
      | ok cursor =>
        rw [registered] at edited
        obtain rfl := Except.ok.inj edited
        exact ⟨fun _ _ => registerSchedule_fits recurs registered,fun once => absurd once back.2⟩
    · obtain rfl := Except.ok.inj edited
      refine ⟨fun fits active => ⟨(fits active).manual,fun disabled once => ?_,fun on kind once => ?_⟩,fun _ _ => .inl rfl⟩
      · exact absurd (.inr ⟨disabled,once⟩) off
      · have was : old.enabled = true := by
          by_contra disabled
          exact back ⟨by simpa using disabled,once⟩
        exact (fits active).enabled was kind once

theorem configured_turns {u : ConfigurationUpdate κ} (recurs : Recurs calendar)
    (configured : old.configured calendar u now timezone = .ok row) : Turns old row := by
  unfold BackupProfile.configured at configured
  dsimp only at configured
  split_ifs at configured with manual once still disabled
  · obtain rfl := Except.ok.inj configured
    exact ⟨fun _ _ => ⟨fun _ => rfl,fun _ _ => rfl,fun _ kind => absurd manual kind⟩,fun _ _ => .inr rfl⟩
  · obtain rfl := Except.ok.inj configured
    refine ⟨fun _ _ => ⟨fun other => absurd other manual,fun _ other => absurd once other,fun _ _ other => absurd once other⟩,
      fun _ _ => .inl rfl⟩
  · obtain rfl := Except.ok.inj configured
    refine ⟨fun _ _ => ⟨fun other => absurd other manual,fun _ other => absurd once other,fun _ _ other => absurd once other⟩,
      fun was => absurd was still⟩
  · obtain rfl := Except.ok.inj configured
    refine ⟨fun _ _ => ⟨fun _ => rfl,fun _ _ => rfl,fun on => ?_⟩,fun _ _ => .inr rfl⟩
    exact absurd (disabled.symm.trans on) (by decide)
  · cases registered : registerSchedule calendar
        { old with enabled := u.enabled, scheduleKind := u.scheduleKind, columns := u.columns old.columns } now timezone with
    | error e => simp [registered,Except.map] at configured
    | ok cursor =>
      rw [registered] at configured
      obtain rfl := Except.ok.inj configured
      exact ⟨fun _ _ => registerSchedule_fits recurs registered,fun _ is => absurd is once⟩

def Assigned (row : BackupProfile κ) (cursor : Option Time) : Prop :=
  row.scheduled = true ∧ (row.scheduleKind = .once → cursor = none) ∧ (row.scheduleKind ≠ .once → cursor ≠ none)

theorem Assigned.of_calendar {cursor : Option Time} {after : Time} (recurs : Recurs calendar)
    (scheduled : row.scheduled = true) (other : row.scheduleKind ≠ .once)
    (computed : calendar row after timezone = .ok cursor) : Assigned row cursor := by
  refine ⟨scheduled,fun once => absurd once other,fun _ absent => ?_⟩
  simp only [BackupProfile.scheduled,Bool.and_eq_true,decide_eq_true_eq] at scheduled
  subst absent
  exact recurs row after timezone scheduled.2 other computed

theorem Assigned.turns {cursor : Option Time} (assigned : Assigned row cursor) :
    Turns row { row with nextScheduledAt := cursor } := by
  obtain ⟨scheduled,once,other⟩ := assigned
  simp only [BackupProfile.scheduled,Bool.and_eq_true,decide_eq_true_eq] at scheduled
  constructor
  · intro _ _
    refine ⟨fun manual => absurd manual scheduled.2,fun disabled => ?_,fun _ _ kind => other kind⟩
    exact absurd (disabled.symm.trans scheduled.1.1) (by decide)
  · exact fun kind _ => .inr (once kind)

end Operations

end BackupTelebot.Queue.Cursors
