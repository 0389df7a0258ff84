import BackupTelebot.Timezone

/-! A slot that is due when the timezone changes stays owed until there is a run of it, in
the runs in which a change finds only such profiles due whose slot has its run. -/
namespace BackupTelebot.Queue.Timezones

open PyJson Interleave Transactions

variable {κ : Type}

structure Present (c₀ : Contents κ) (s : Control κ) : Prop where
  contents : ∀ p, (s.db.contents.profile p).isSome = (c₀.profile p).isSome
  draft : ∀ t c p, ((s.db.draft t c).profile p).isSome = (c.profile p).isSome

namespace Present

variable {c₀ : Contents κ} {s s' : Control κ}

theorem still (here : Present c₀ s) (contents : s'.db.contents = s.db.contents) (draft : s'.db.draft = s.db.draft) :
    Present c₀ s' := by
  constructor
  · rw [contents]
    exact here.contents
  · rw [draft]
    exact here.draft

theorem write (here : Present c₀ s) (t : Nat) {change : Contents κ → Contents κ}
    (keeps : ∀ c p, ((change c).profile p).isSome = (c.profile p).isSome) :
    Present c₀ { s with db := s.db.write t change } := by
  refine ⟨here.contents,fun u c p => ?_⟩
  simp only [Db.write,Function.update_apply]
  split
  · exact (keeps _ p).trans (here.draft t c p)
  · exact here.draft u c p

theorem dropped (here : Present c₀ s) (t u : Nat) (c : Contents κ) (p : ProfileId) :
    ((Function.update s.db.draft t id u c).profile p).isSome = (c.profile p).isSome := by
  simp only [Function.update_apply]
  split
  · rfl
  · exact here.draft u c p

theorem commit (here : Present c₀ s) (t : Nat) : Present c₀ { s with db := s.db.commit t } :=
  ⟨fun p => (here.draft t _ p).trans (here.contents p),here.dropped t⟩

theorem rollback (here : Present c₀ s) (t : Nat) : Present c₀ (rollback t s) := ⟨here.contents,here.dropped t⟩

theorem lockRow (here : Present c₀ s) (t : Nat) (p : ProfileId) : Present c₀ (s.lockRow t p) :=
  here.still (lockRow_fields s t p).1 (lockRow_fields s t p).2.2.2.2.1

theorem setCursors (cursors : List (ProfileId × Option Time)) (c : Contents κ) (p : ProfileId) :
    ((c.setCursors cursors).profile p).isSome = (c.profile p).isSome := by
  rw [setCursors_profile]
  cases cursors.lookup p with
  | none => rfl
  | some cursor => simp

end Present

section Programs

variable {c₀ : Contents κ} {t : Nat} {α : Type}

theorem stmt_present {point : Point} {guard : Control κ → Bool} {effect : Reply → Control κ → Control κ}
    {result : Reply → Control κ → Except Failure α} (keeps : ∀ i s, Present c₀ s → Present c₀ (effect i s)) :
    (stmt point guard effect result).Preserves (Present c₀) :=
  ⟨fun i s _ => keeps i s,fun _ _ => trivial,fun _ => trivial⟩

theorem ask_present {point : Point} {result : Control κ → Except Failure α} :
    (ask point result).Preserves (Present c₀) := stmt_present fun _ _ here => here

theorem commit_present : (Queue.commit (κ := κ) t).Preserves (Present c₀) := stmt_present fun _ _ here => here.commit t

theorem lockSettings_present : (lockSettings (κ := κ) t).Preserves (Present c₀) :=
  stmt_present fun _ _ here => here.still rfl rfl

theorem insertRow_present (point : Point) (row : RunId → Run κ) : (insertRow point t row).Preserves (Present c₀) := by
  apply stmt_present
  intro i s here
  split
  · exact here.still rfl rfl
  · exact here.still rfl rfl

theorem existingSlot_present (p : ProfileId) (trigger : RunTrigger) (scheduledFor : Option Time) :
    (existingSlot (κ := κ) t p trigger scheduledFor).Preserves (Present c₀) := by
  unfold existingSlot
  split
  · exact ask_present
  · trivial

theorem activeForProfile_present (p : ProfileId) : (activeForProfile (κ := κ) t p).Preserves (Present c₀) := by
  apply stmt_present
  intro i s here
  split
  · exact here.still rfl rfl
  · exact here

theorem created_present (commits : Bool) (run : Run κ) : (created t commits run).Preserves (Present c₀) := by
  cases commits with
  | false => trivial
  | true => exact commit_present.bind fun _ => trivial

theorem recordSkipped_present (p : ProfileId) (scheduledFor : Option Time) (commits : Bool) :
    (recordSkipped (κ := κ) t p scheduledFor commits).Preserves (Present c₀) := by
  apply (insertRow_present _ _).bind
  rintro (_ | skipped)
  · apply (existingSlot_present p .scheduled scheduledFor).bind
    rintro (_ | run)
    · trivial
    · trivial
  · exact created_present commits skipped

theorem whenActive_present (p : ProfileId) (trigger : RunTrigger) (scheduledFor : Option Time) (commits : Bool)
    (active : Run κ) : (whenActive t p trigger scheduledFor commits active).Preserves (Present c₀) := by
  cases trigger with
  | manual => trivial
  | scheduled => exact recordSkipped_present p scheduledFor commits

theorem gather_present (p : ProfileId) : (gather (κ := κ) t p).Preserves (Present c₀) := by
  apply Prog.Preserves.bind
  · apply stmt_present
    intro i s here
    split
    · exact (here.lockRow t p).still rfl rfl
    · exact here
  rintro (_ | profile)
  · trivial
  dsimp only
  split
  · trivial
  apply ask_present.bind
  intro source
  apply Prog.Preserves.bind
  · unfold loadPaths
    split
    · exact ask_present
    · trivial
  intro paths
  apply Prog.Preserves.bind
  · unfold remoteServer
    split
    · trivial
    · exact stmt_present fun _ _ here => here.still rfl rfl
  exact fun server => ask_present.bind fun admins => trivial

theorem enqueue_present (p : ProfileId) (trigger : RunTrigger) (scheduledFor : Option Time) (commits : Bool) :
    (enqueue (κ := κ) t p trigger scheduledFor commits).Preserves (Present c₀) := by
  apply (gather_present p).bind
  intro config
  apply (existingSlot_present p trigger scheduledFor).bind
  rintro (_ | existing)
  · apply (activeForProfile_present p).bind
    rintro (_ | active)
    · apply (insertRow_present _ _).bind
      rintro (_ | run)
      · apply (existingSlot_present p trigger scheduledFor).bind
        rintro (_ | existing)
        · apply (activeForProfile_present p).bind
          rintro (_ | active)
          · trivial
          · exact whenActive_present p trigger scheduledFor commits active
        · trivial
      · exact created_present commits run
    · exact whenActive_present p trigger scheduledFor commits active
  · trivial

theorem scanProfiles_present (order : List ProfileId) : (scanProfiles (κ := κ) t order).Preserves (Present c₀) := by
  induction order with
  | nil => trivial
  | cons p rest ih =>
    apply Prog.Preserves.bind
    · apply stmt_present
      intro i s here
      split
      · exact (here.lockRow t p).still rfl rfl
      · exact here
    · exact fun row => ih.bind fun others => trivial

variable {calendar : Calendar κ} {now : Time} {timezone : Str}

theorem visit_present (p : ProfileId) (profile : BackupProfile κ) :
    (visit calendar t now timezone p profile).Preserves (Present c₀) := by
  unfold visit
  split
  · split
    · trivial
    · split
      · trivial
      · trivial
  · split
    · apply (enqueue_present p .scheduled _ false).bind
      intro queued
      split
      · trivial
      · split
        · trivial
        · trivial
    · trivial

theorem visitAll_present (profiles : List (ProfileId × BackupProfile κ)) :
    (visitAll calendar t now timezone profiles).Preserves (Present c₀) := by
  induction profiles with
  | nil => trivial
  | cons entry rest ih => exact (visit_present entry.1 entry.2).bind fun result => ih.bind fun results => trivial

theorem tick_present : (Queue.tick calendar t now timezone).Preserves (Present c₀) := by
  apply Prog.Preserves.bind
  · exact stmt_present fun _ _ here => here.still rfl rfl
  intro stored
  apply Prog.Preserves.bind
  · exact stmt_present fun _ _ here => here
  intro order
  apply (scanProfiles_present order).bind
  intro profiles
  apply (visitAll_present profiles).bind
  intro result
  apply Prog.Preserves.bind
  · exact stmt_present fun i s here => (here.write t (Present.setCursors result.2)).commit t
  · exact fun _ => trivial

theorem setBackupTimezone_present {known : Str → Bool} :
    (setBackupTimezone known calendar t now timezone).Preserves (Present c₀) := by
  apply lockSettings_present.bind
  intro _
  split
  · trivial
  apply Prog.Preserves.bind
  · exact stmt_present fun _ _ here => here
  intro reply
  apply (scanProfiles_present reply.scan).bind
  intro profiles
  split
  · trivial
  rename_i cursors _
  apply stmt_present
  intro i s here
  exact (here.write t fun c => Present.setCursors cursors { c with backupTimezone := some _ }).commit t

theorem program_present (known : Str → Bool) (job : Job) : (job.program known calendar t).Preserves (Present c₀) := by
  apply Prog.Preserves.handle
  · cases job with
    | tick now timezone => exact tick_present.bind fun _ => trivial
    | setBackupTimezone now timezone => exact setBackupTimezone_present
    | manual p => exact (insertRow_present _ _).bind fun _ => commit_present
    | progress id status =>
      apply stmt_present
      intro i s here
      split
      · exact here.still rfl rfl
      · exact here
  · intro e
    exact (stmt_present fun _ _ here => here.rollback t).bind fun _ => trivial

end Programs

section Due

variable {known : Str → Bool} {calendar : Calendar κ} {s s' : System κ} {p : ProfileId} {due : Time}

/-- One step of a session leaves the slot owed or with a run. -/
theorem Turns.owes {c₀ : Contents κ} {t : Nat} {a b : Control κ} {job : Job} (turns : Turns t a b job)
    (before : Present c₀ a) (after : Present c₀ b) (since : ∀ now timezone, job = .setBackupTimezone now timezone → due ≤ now)
    (owes : Owes a.db.contents p due) : Owes b.db.contents p due ∨ Filled b.db p due := by
  obtain ⟨row,was,cursor⟩ := owes
  obtain ⟨later,is⟩ : ∃ later, b.db.contents.profile p = some later := by
    rw [← Option.isSome_iff_exists,after.contents,← before.contents,was]
    rfl
  by_cases moved : later.nextScheduledAt = some due
  · exact .inl ⟨later,is,moved⟩
  have unmoved (same : b.db.contents.profile = a.db.contents.profile) : later = row := by
    rw [same,was] at is
    exact (Option.some.inj is).symm
  cases job with
  | tick now timezone =>
    obtain ⟨-,run,member,fills,-⟩ := Guar.moved turns now timezone rfl p row later due was cursor is moved
    exact .inr ⟨run,member,fills⟩
  | setBackupTimezone now timezone =>
    rcases turns.2 p row later due was cursor is moved with future | filled
    · exact absurd (since now timezone rfl) (Nat.not_le.mpr future)
    · exact .inr filled
  | manual q => exact absurd (unmoved turns.2 ▸ cursor) moved
  | progress id status => exact absurd (unmoved turns.2 ▸ cursor) moved

theorem Turns.filled {t : Nat} {a b : Control κ} {job : Job} (turns : Turns t a b job) (filled : Filled a.db p due) :
    Filled b.db p due := filled.progress (turns.others.1 (t + 1) (by omega)).progress

/-- What no session performs changes neither the committed contents nor the committed runs. -/
theorem unperformed {a : Act} (performs : ∀ t i, a ≠ .perform t i) (h : (sessions known calendar).step s a = some s') :
    s'.db.contents = s.db.contents ∧ s'.db.rows = s.db.rows := by
  rcases Sessions.unperformed performs h with same | ⟨t,rolled⟩
  · simp only [System.db,same,and_self]
  · simp only [System.db,rolled]
    exact ⟨rfl,rfl⟩

theorem slot_step {c₀ : Contents κ} {a : Act} (coherent : (discipline known calendar).Coherent s)
    (before : Present c₀ s.control) (after : Present c₀ s'.control) (settled : Settled s a) (since : Since due s a)
    (h : (sessions known calendar).step s a = some s') (owed : Owes s.db.contents p due ∨ Filled s.db p due) :
    Owes s'.db.contents p due ∨ Filled s'.db p due := by
  by_cases performs : ∃ t i, a = .perform t i
  · obtain ⟨t,i,rfl⟩ := performs
    obtain ⟨-,point,job,-,started,turns⟩ := coherent.perform settled h
    have turns : Turns t s.control s'.control job := turns
    rcases owed with owes | filled
    · refine turns.owes before after (fun now timezone same => ?_) owes
      subst same
      exact since t i now timezone rfl started
    · exact .inr (turns.filled filled)
  · obtain ⟨contents,rows⟩ := unperformed (fun t i same => performs ⟨t,i,same⟩) h
    unfold Filled at owed ⊢
    rw [contents,rows]
    exact owed

theorem coherent_of_reached (reached : Reached known calendar Settled s) : (discipline known calendar).Coherent s := by
  apply Sessions.Discipline.coherent_of_runs _ reached
  rintro s ⟨contents,rfl⟩
  obtain ⟨sane,-,unused,-⟩ : Queue.Coherent False (Queue.System.fresh contents) := .fresh_system contents
  exact Sessions.Discipline.coherent_fresh sane fun t => (unused t rfl).2

theorem present_of_reached {allowed : System κ → Act → Prop} (reached : Reached known calendar allowed s) :
    ∃ c₀, Present c₀ s.control ∧ ∀ t q, s.sys.task t = some q → q.Preserves (Present c₀) := by
  obtain ⟨first,⟨contents,rfl⟩,run⟩ := reached.started
  refine ⟨contents,Sessions.preserved (fun t => program_present known) (fun t _ here => here.rollback t) ?_ run⟩
  rintro _ rfl
  refine ⟨⟨fun _ => rfl,fun _ _ _ => rfl⟩,fun t q task => ?_⟩
  cases task

/-- As long as every change of the timezone that reads a due profile finds a run of its
slot, a slot that is due for each of the changes is owed or has exactly one run. -/
theorem timezone_keepsDue (s s' : System κ) (p : ProfileId) (due : Time) (reached : Reached known calendar Settled s)
    (owes : Owes s.db.contents p due)
    (later : Runs (fun x => x = s) (sessions known calendar).step (fun s a => Settled s a ∧ Since due s a) s') :
    Owes s'.db.contents p due ∨ (s'.db.rows.filter (·.fills p due)).length = 1 := by
  obtain ⟨c₀,here,tasks⟩ := present_of_reached reached
  have along {x : System κ} (run : Runs (fun x => x = s) (sessions known calendar).step
      (fun s a => Settled s a ∧ Since due s a) x) : (discipline known calendar).Coherent x ∧ Present c₀ x.control := by
    constructor
    · exact coherent_of_reached (reached.continued (run.mono fun _ _ ok => ok.1))
    · refine (Sessions.preserved (fun t => program_present known) (fun t _ here => here.rollback t) ?_ run).1
      rintro _ rfl
      exact ⟨here,tasks⟩
  have kept : Owes s'.db.contents p due ∨ Filled s'.db p due := by
    induction later with
    | start same => exact .inl (same ▸ owes)
    | next run ok h ih => exact slot_step (along run).1 (along run).2 (along (.next run ok h)).2 ok.1 ok.2 h ih
  rcases kept with owes | ⟨run,member,fills⟩
  · exact .inl owes
  · right
    rw [only_run (along later).1.inv.valid.unique member fills]
    rfl

end Due

/-- A daily profile, created at the fifth time unit: its immediate initial run is due. -/
def dailyContents : Contents Nat :=
  { smallContents with profile := fun p => if p = 0 then some ⟨true,none,.daily,some 5,0⟩ else none }

def utc : Str := [0x55,0x54,0x43]

def smallSessions : Sessions Point Reply (Control Nat) Failure Job := sessions (fun _ => true) smallCalendar

def session (t : Nat) (job : Job) (statements : Nat) : List Act :=
  .start t job :: List.replicate statements (.perform t plainReply)

/-- The condition, with nothing asked of the kind of a profile. -/
def settled (due : Time) (s : System Nat) : Act → Bool
  | .perform t _ =>
    match s.job t, s.sys.pointOf t with
    | some (.setBackupTimezone now _), some (.scan p) => due ≤ now && (s.db.contents.profile p).all fun row =>
        row.nextScheduledAt.all fun cursor => decide (now < cursor) || s.db.rows.any (·.fills p cursor)
    | some (.setBackupTimezone now _), _ => due ≤ now
    | _, _ => true
  | _ => true

theorem settled_sound (due : Time) (s : System Nat) (a : Act) (checked : settled due s a = true) :
    Settled s a ∧ Since due s a := by
  constructor
  · intro t i now timezone p same started waits row cursor there _ _ slot reached
    subst same
    simp only [settled,started,waits,there,slot,Option.all_some,Bool.and_eq_true,Bool.or_eq_true,decide_eq_true_eq,
      List.any_eq_true] at checked
    rcases checked.2 with future | filled
    · exact absurd reached (Nat.not_le.mpr future)
    · exact filled
  · intro t i now timezone same started
    subst same
    simp only [settled,started] at checked
    split at checked
    · rename_i same _
      cases same
      simp only [Bool.and_eq_true,decide_eq_true_eq] at checked
      exact checked.1
    · rename_i same _
      cases same
      exact decide_eq_true_eq.mp checked
    · rename_i other _
      exact (other now timezone rfl).elim

abbrev DailyRuns (allowed : System Nat → Act → Prop) : System Nat → Prop :=
  Runs (fun x => x = fresh dailyContents) smallSessions.step allowed

/-- The tick before the change of the timezone runs the slot. -/
theorem timezone_keepsDue_small : ∃ s', DailyRuns (fun s a => Settled s a ∧ Since 5 s a) s' ∧
    s'.db.contents.backupTimezone = some utc ∧ (s'.db.rows.filter (·.fills 0 5)).length = 1 := by
  let test (s : System Nat) : Bool := s.db.contents.backupTimezone = some utc &&
    s.db.contents.profile 0 = some ⟨true,none,.daily,some 112,0⟩
  obtain ⟨s',later,passed⟩ : ∃ s', DailyRuns (fun s a => Settled s a ∧ Since 5 s a) s' ∧ test s' = true :=
    Runs.exists_of_checked smallSessions.step
      (session 0 (.tick 10 []) 10 ++ session 1 (.setBackupTimezone 12 utc) 4) test (settled_sound 5) rfl
      (by decide +kernel)
  simp only [test,Bool.and_eq_true,decide_eq_true_eq] at passed
  refine ⟨s',later,passed.1,?_⟩
  rcases timezone_keepsDue _ s' 0 5 (.start ⟨_,rfl⟩) ⟨⟨true,none,.daily,some 5,0⟩,rfl,rfl⟩ later with owes | one
  · obtain ⟨row,there,cursor⟩ := owes
    obtain rfl := Option.some.inj (passed.2.symm.trans there)
    cases cursor
  · exact one

def dueThen (due : Time) (s : System Nat) : Act → Bool
  | .perform t _ =>
    match s.job t with
    | some (.setBackupTimezone now _) => due ≤ now
    | _ => true
  | _ => true

theorem since_of_dueThen {due : Time} {s : System Nat} {a : Act} (checked : dueThen due s a = true) : Since due s a := by
  rintro t i now timezone rfl started
  simpa [dueThen,started] using checked

/-- The change comes before the tick: the immediate initial run of the daily profile is lost. -/
theorem timezone_losesDue : ∃ s', DailyRuns (Since 5) s' ∧ Owes dailyContents 0 5 ∧
    s'.job 0 = some (.setBackupTimezone 10 utc) ∧ s'.job 1 = some (.tick 20 []) ∧
    s'.sys.pointOf 0 = none ∧ s'.sys.pointOf 1 = none ∧ ¬Owes s'.db.contents 0 5 ∧ s'.db.rows = [] := by
  let test (s : System Nat) : Bool := s.job 0 = some (.setBackupTimezone 10 utc) && s.job 1 = some (.tick 20 []) &&
    (s.sys.pointOf 0).isNone && (s.sys.pointOf 1).isNone &&
    s.db.contents.profile 0 = some ⟨true,none,.daily,some 110,0⟩ && s.db.rows = []
  obtain ⟨s',later,passed⟩ : ∃ s', DailyRuns (Since 5) s' ∧ test s' = true :=
    Runs.exists_of_checked smallSessions.step
      (session 0 (.setBackupTimezone 10 utc) 4 ++ session 1 (.tick 20 []) 4) test (fun _ _ => since_of_dueThen) rfl (by decide +kernel)
  simp only [test,Bool.and_eq_true,decide_eq_true_eq,Option.isNone_iff_eq_none] at passed
  obtain ⟨⟨⟨⟨⟨first,second⟩,ended⟩,ended'⟩,cursor⟩,rows⟩ := passed
  refine ⟨s',later,⟨⟨true,none,.daily,some 5,0⟩,rfl,rfl⟩,first,second,ended,ended',?_,rows⟩
  rintro ⟨row,there,slot⟩
  obtain rfl := Option.some.inj (cursor.symm.trans there)
  cases slot

end BackupTelebot.Queue.Timezones
