import BackupTelebot.CursorRules
import BackupTelebot.ScheduledTimes

/-! The cursors in every run: each goes with the kind of its profile's schedule, and once a
profile for one time has been queued it is not armed again while it stays one. -/
namespace BackupTelebot.Queue.Cursors

open PyJson Interleave Transactions Timezones

variable {κ : Type}

/-- `next_scheduled_time` of the schedule among the columns. -/
def calendarOf (schedule : κ → Scheduling.ScheduleColumns) (zones : Str → Option ZoneInfo.Zone)
    (getNext : Scheduling.GetNext) : Calendar κ := fun profile =>
  Scheduling.calendar zones getNext { profile with columns := schedule profile.columns }

theorem calendarOf_recurs (schedule : κ → Scheduling.ScheduleColumns) (zones : Str → Option ZoneInfo.Zone)
    (getNext : Scheduling.GetNext) : Recurs (calendarOf schedule zones getNext) := by
  intro profile after timezone manual once named
  unfold calendarOf Scheduling.calendar at named
  cases next : Scheduling.nextScheduledTime zones getNext
      { profile with columns := schedule profile.columns } after timezone with
  | error e => simp [next,Except.map] at named
  | ok time =>
    obtain rfl : time = none := by simpa [next,Except.map] using named
    rcases Scheduling.nextScheduledTime_none next with kind | kind
    · exact manual kind
    · exact once kind

def Once (s : System κ) (p : ProfileId) : Prop :=
  ∃ row, s.db.contents.profile p = some row ∧ row.scheduleKind = .once

def cursor (s : System κ) (p : ProfileId) : Option Time := (s.db.contents.profile p).bind BackupProfile.nextScheduledAt

section Runs

variable {known : Str → Bool} {calendar : Calendar κ} {s s' : System κ} {p : ProfileId}

theorem coherent_of_reached (recurs : Recurs calendar) (reached : Reached known calendar s) :
    (discipline known recurs).Coherent s := by
  apply Sessions.Discipline.coherent_of_runs _ reached
  rintro s ⟨contents,serial,consistent,rfl⟩
  exact Sessions.Discipline.coherent_fresh consistent fun t => ⟨rfl,rfl,fun _ => rfl⟩

/-- One step disarms a profile for one time or leaves its cursor alone, and disarms it if it
brings a run of one of its slots. -/
theorem once_step {recurs : Recurs calendar} {a : Act κ} (coherent : (discipline known recurs).Coherent s)
    (h : (sessions known calendar).step s a = some s') (before : Once s p) (after : Once s' p) :
    (cursor s' p = cursor s p ∨ cursor s' p = none) ∧
      ∀ due, Filled s'.db p due → Filled s.db p due ∨ cursor s' p = none := by
  obtain ⟨old,was,onceOld⟩ := before
  obtain ⟨row,is,onceRow⟩ := after
  have here : cursor s' p = row.nextScheduledAt := by simp [cursor,is]
  by_cases performs : ∃ t i, a = .perform t i
  · obtain ⟨t,i,rfl⟩ := performs
    obtain ⟨-,point,job,-,-,guar⟩ := coherent.perform trivial h
    have guar : Guar t s.control s'.control := guar
    have there : cursor s p = old.nextScheduledAt := by simp [cursor,was]
    rw [here,there]
    refine ⟨?_,fun due => guar.queued p due row is onceRow⟩
    rcases guar.turns p row is with ⟨old',was',turns⟩ | ⟨absent,-⟩
    · obtain rfl := Option.some.inj (was.symm.trans was')
      exact turns.once onceOld onceRow
    · rw [was] at absent
      cases absent
  · have same : s'.db.contents = s.db.contents ∧ s'.db.rows = s.db.rows := by
      rcases Sessions.unperformed (fun t i same => performs ⟨t,i,same⟩) h with same | ⟨t,rolled⟩
      · simp only [System.db,same,and_self]
      · simp only [System.db,rolled]
        exact ⟨rfl,rfl⟩
    refine ⟨.inl (by simp only [cursor,same.1]),fun due filled => .inl ?_⟩
    unfold Filled at filled ⊢
    rw [same.2] at filled
    exact filled

theorem once_run (recurs : Recurs calendar) (reached : Reached known calendar s)
    (later : Runs (fun x => x = s) (sessions known calendar).step (fun x _ => Once x p) s') (once : Once s' p) :
    (cursor s' p = cursor s p ∨ cursor s' p = none) ∧
      ∀ due, Filled s'.db p due → Filled s.db p due ∨ cursor s' p = none := by
  induction later with
  | start same =>
    subst same
    exact ⟨.inl rfl,fun _ filled => .inl filled⟩
  | next run ok h ih =>
    have coherent := coherent_of_reached recurs (reached.continued (run.mono fun _ _ _ => trivial))
    obtain ⟨kept,queued⟩ := once_step coherent h ok once
    obtain ⟨earlier,brought⟩ := ih ok
    constructor
    · rcases kept with same | disarmed
      · rw [same]
        exact earlier
      · exact .inr disarmed
    · intro due filled
      rcases queued due filled with before | disarmed
      · rcases brought due before with start | disarmed
        · exact .inl start
        · right
          rcases kept with same | disarmed'
          · exact same.trans disarmed
          · exact disarmed'
      · exact .inr disarmed

end Runs

/-- In every committed state the cursor of every profile that is not archived goes with its
schedule; and while a profile stays one for one time, its cursor only ever disappears, which
it has done as soon as a run of its slot is there. -/
theorem cursors_kept (known : Str → Bool) (schedule : κ → Scheduling.ScheduleColumns)
    (zones : Str → Option ZoneInfo.Zone) (getNext : Scheduling.GetNext) (s : System κ)
    (reached : Reached known (calendarOf schedule zones getNext) s) :
    (∀ p row, s.db.contents.profile p = some row → row.archivedAt = none →
      (row.scheduleKind = .manual → row.nextScheduledAt = none) ∧
      (row.enabled = false → row.scheduleKind ≠ .once → row.nextScheduledAt = none) ∧
      (row.enabled = true → row.scheduleKind ≠ .manual → row.scheduleKind ≠ .once → row.nextScheduledAt ≠ none)) ∧
    ∀ p s', Runs (fun x => x = s) (sessions known (calendarOf schedule zones getNext)).step (fun x _ => Once x p) s' →
      Once s' p → (cursor s' p = cursor s p ∨ cursor s' p = none) ∧
        ∀ due, Filled s'.db p due → ¬Filled s.db p due → cursor s' p = none := by
  have recurs := calendarOf_recurs schedule zones getNext
  constructor
  · intro p row here active
    have fits := (coherent_of_reached recurs reached).inv p row here active
    exact ⟨fits.manual,fits.disabled,fits.enabled⟩
  · intro p s' later once
    obtain ⟨kept,brought⟩ := once_run recurs reached later once
    exact ⟨kept,fun due filled absent => (brought due filled).resolve_left absent⟩

def onceContents : Contents Nat :=
  { smallContents with profile := fun p => if p = 0 then some ⟨true,none,.once,some 5,0⟩ else none }

def noSchedule : Nat → Scheduling.ScheduleColumns := fun _ => ⟨none,none,none,none,none⟩

def smallSessions : Sessions Point Reply (Control Nat) Failure (Job Nat) :=
  sessions (fun _ => true) (calendarOf noSchedule Scheduling.onlyLondon Scheduling.nextMinute)

def session (t : Nat) (job : Job Nat) (statements : Nat) : List (Act Nat) :=
  .start t job :: List.replicate statements (.perform t plainReply)

/-- A tick queues the run; the profile is disabled and enabled again, and is not armed. -/
theorem cursors_kept_small : ∃ s', Runs (fun x => x = fresh onceContents 1) smallSessions.step (fun x _ => Once x 0) s' ∧
    Filled s'.db 0 5 ∧ cursor s' 0 = none := by
  let once (s : System Nat) (_ : Act Nat) : Bool := (s.db.contents.profile 0).any (·.scheduleKind = .once)
  let test (s : System Nat) : Bool := (s.db.contents.profile 0).any (fun row => row.scheduleKind = .once && row.enabled) &&
    s.db.rows.any (·.fills 0 5)
  have sound (s : System Nat) (a : Act Nat) (checked : once s a = true) : Once s 0 := by
    obtain ⟨row,here,kind⟩ := (Option.any_eq_true _ _).mp checked
    exact ⟨row,here,decide_eq_true_eq.mp kind⟩
  obtain ⟨s',later,passed⟩ : ∃ s', Runs (fun x => x = fresh onceContents 1) smallSessions.step (fun x _ => Once x 0) s' ∧
      test s' = true :=
    Runs.exists_of_checked smallSessions.step (session 0 (.tick 10 []) 10 ++ session 1 (.edit 0 id (some false)) 6 ++
      session 2 (.edit 0 id (some true)) 6) test sound rfl (by decide +kernel)
  simp only [test,Bool.and_eq_true,Option.any_eq_true,decide_eq_true_eq,List.any_eq_true] at passed
  obtain ⟨⟨row,here,kind,-⟩,run,member,fills⟩ := passed
  have consistent : Consistent onceContents := by
    intro p row there _
    simp only [onceContents,smallContents] at there
    split_ifs at there
    obtain rfl := Option.some.inj there
    exact ⟨fun manual => (by cases manual),fun _ other => absurd rfl other,fun _ _ other => absurd rfl other⟩
  have law := (cursors_kept (fun _ => true) noSchedule Scheduling.onlyLondon Scheduling.nextMinute _
    (.start ⟨onceContents,1,consistent,rfl⟩)).2 0 s' later ⟨row,here,kind⟩
  refine ⟨s',later,⟨run,member,fills⟩,law.2 5 ⟨run,member,fills⟩ ?_⟩
  rintro ⟨earlier,none,-⟩
  cases none

end BackupTelebot.Queue.Cursors
