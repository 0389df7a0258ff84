import BackupTelebot.PythonText
import BackupTelebot.ScheduleSlots
import BackupTelebot.Sessions

/-! Changes of the backup timezone among the scheduler's ticks. Both lock the settings
first, so no change comes between a tick's look at a cursor and its commit; what a change
does to a cursor that is due is another matter. -/
namespace BackupTelebot.Queue.Timezones

open PyJson Interleave Transactions

variable {κ : Type}

def valueError : Failure := .builtin "ValueError"

/-- `validate_timezone`, by the time zones that are known. -/
def validateTimezone (known : Str → Bool) (value : Str) : Except Failure Str :=
  if known value then .ok value else .error valueError

def zoned : ScheduleKind → Bool
  | .cron | .daily | .weekly | .monthly => true
  | _ => false

/-- The loop over the profiles: the cursor that each is assigned. -/
def recalculate (calendar : Calendar κ) (now : Time) (timezone : Str) :
    List (ProfileId × BackupProfile κ) → Except Failure (List (ProfileId × Option Time))
  | [] => .ok []
  | (p,profile) :: rest => do
      let cursor ← calendar profile now timezone
      let cursors ← recalculate calendar now timezone rest
      return (p,cursor) :: cursors

/-- `set_backup_timezone`; `now` is the time at which it has the lock of the settings. -/
def setBackupTimezone (known : Str → Bool) (calendar : Calendar κ) (t : Nat) (now : Time) (timezone : Str) :
    Proc κ Unit := do
  let _ ← lockSettings t
  match validateTimezone known (PyText.strip timezone) with
  | .error e => throw e
  | .ok timezone => do
    let order ← stmt .select (fun _ => true) (fun _ s => s) (fun i _ => .ok i)
    let profiles ← scanProfiles t order.scan
    match recalculate calendar now timezone (profiles.filter fun entry => zoned entry.2.scheduleKind) with
    | .error e => throw e
    | .ok cursors =>
      stmt .commit (fun _ => true)
        (fun _ s => { s with db := (s.db.write t fun c =>
          { c with backupTimezone := some timezone }.setCursors cursors).commit t })
        (fun _ _ => .ok ())

/-- Beside ticks and changes of the timezone, runs are queued by hand and move on. -/
inductive Job where
  | tick (now : Time) (timezone : Str)
  | setBackupTimezone (now : Time) (timezone : Str)
  | manual (p : ProfileId)
  | progress (id : RunId) (status : RunStatus)
  deriving DecidableEq

def progress (id : RunId) (status : RunStatus) : Proc κ Unit :=
  stmt .flush (fun _ => true)
    (fun _ s => if (s.db.amend (·.moved id status)).Unique Clash then { s with db := s.db.amend (·.moved id status) } else s)
    (fun _ s => if (s.db.amend (·.moved id status)).Unique Clash then .ok () else .error integrityError)

def Job.body (known : Str → Bool) (calendar : Calendar κ) (t : Nat) : Job → Proc κ Unit
  | .tick now timezone => do let _ ← Queue.tick calendar t now timezone; return ()
  | .setBackupTimezone now timezone => Timezones.setBackupTimezone known calendar t now timezone
  | .manual p => do
      let _ ← insertRow .insertRun t fun id => ⟨id,p,.manual,none,.queued,none⟩
      Queue.commit t
  | .progress id status => Timezones.progress id status

def rollback (t : Nat) (s : Control κ) : Control κ := { s with db := s.db.rollback t }

def Job.program (known : Str → Bool) (calendar : Calendar κ) (t : Nat) (job : Job) : Proc κ Unit :=
  (job.body known calendar t).handle fun e => do
    stmt .rollback (fun _ => true) (fun _ => rollback t) (fun _ _ => .ok ())
    throw e

def sessions (known : Str → Bool) (calendar : Calendar κ) : Sessions Point Reply (Control κ) Failure Job where
  program := Job.program known calendar
  rollback := rollback

abbrev System (κ : Type) := Sessions.State Point Reply (Control κ) Failure Job

abbrev Act := Sessions.Act Reply Failure Job

abbrev System.control (s : System κ) : Control κ := s.sys.shared

abbrev System.db (s : System κ) : Db (Contents κ) Key (Run κ) := s.sys.shared.db

def fresh (contents : Contents κ) : System κ :=
  Sessions.fresh ⟨⟨contents,fun _ => id,fun _ => none,[],[],[contents]⟩,0,fun _ _ => none,fun _ => []⟩

def Initial (s : System κ) : Prop := ∃ contents, s = fresh contents

abbrev Reached (known : Str → Bool) (calendar : Calendar κ) (allowed : System κ → Act → Prop) : System κ → Prop :=
  Runs Initial (sessions known calendar).step allowed

def Owes (c : Contents κ) (p : ProfileId) (due : Time) : Prop :=
  ∃ row, c.profile p = some row ∧ row.nextScheduledAt = some due

def Filled (db : Db (Contents κ) Key (Run κ)) (p : ProfileId) (due : Time) : Prop := ∃ run ∈ db.rows, run.fills p due = true

/-- If the profile is one whose cursor is recalculated and its slot is due, there is a run of
the slot. -/
def Answered (now : Time) (s : Control κ) (p : ProfileId) : Prop :=
  ∀ row due, s.db.contents.profile p = some row → row.scheduled = true → zoned row.scheduleKind = true →
    row.nextScheduledAt = some due → due ≤ now → Filled s.db p due

/-- Where a change of the timezone reads a profile that is due, the slot has its run. -/
def Settled (s : System κ) (a : Act) : Prop :=
  ∀ t i now timezone p, a = .perform t i → s.job t = some (.setBackupTimezone now timezone) →
    s.sys.pointOf t = some (.scan p) → Answered now s.control p

def Since (due : Time) (s : System κ) (a : Act) : Prop :=
  ∀ t i now timezone, a = .perform t i → s.job t = some (.setBackupTimezone now timezone) → due ≤ now

/-- The cursors that a change of the timezone replaces: they are not due, or the slot has its run. -/
def Recalculated (now : Time) (a b : Control κ) : Prop :=
  ∀ p before after due, a.db.contents.profile p = some before → before.nextScheduledAt = some due →
    b.db.contents.profile p = some after → after.nextScheduledAt ≠ some due → now < due ∨ Filled b.db p due

/-- What a session does to cursors. The contract of a job that is no tick takes no job into account. -/
def Turns (t : Nat) (a b : Control κ) : Job → Prop
  | .tick now timezone => Guar False t (.tick now timezone) a b
  | .setBackupTimezone now _ => Guar False t (.manual 0) a b ∧ Recalculated now a b
  | _ => Guar False t (.manual 0) a b ∧ b.db.contents.profile = a.db.contents.profile

theorem Turns.others {t : Nat} {a b : Control κ} {job : Job} (turns : Turns t a b job) :
    (∀ u, u ≠ t → Rely u a b) ∧ (Sane a → Sane b) := by
  cases job with
  | tick now timezone => exact ⟨Guar.others turns,Guar.sane turns⟩
  | setBackupTimezone now timezone => exact ⟨turns.1.others,turns.1.sane⟩
  | manual p => exact ⟨turns.1.others,turns.1.sane⟩
  | progress id status => exact ⟨turns.1.others,turns.1.sane⟩

def contract (t : Nat) (job : Job) : Contract Point Reply (Control κ) Failure where
  rely := fun _ => Rely t
  guar := fun _ a b => Turns t a b job
  allowed := fun point _ s => ∀ now timezone p, job = .setBackupTimezone now timezone → point = .scan p → Answered now s p
  raises := fun _ _ _ => True
  known := fun _ _ _ => True
  refl := fun _ => Rely.refl t
  trans := Rely.trans

section Rules

variable {t : Nat} {α : Type} {a b s : Control κ}

theorem stmt_eq (point : Point) (guard : Control κ → Bool) (effect : Reply → Control κ → Control κ)
    (result : Reply → Control κ → Except Failure α) :
    stmt point guard effect result = Prog.statement Reply.fault point guard effect result := by
  simp only [stmt,Prog.statement,Prog.act.injEq,true_and,and_true]
  funext i s
  cases i.fault <;> rfl

theorem Recalculated.still {now : Time} (contents : b.db.contents = a.db.contents) : Recalculated now a b := by
  intro p before after due was cursor is moved
  rw [contents,was] at is
  exact absurd (Option.some.inj is ▸ cursor) moved

theorem Filled.progress {t : Nat} (progress : Progress t a b) {p : ProfileId} {due : Time} (filled : Filled a.db p due) :
    Filled b.db p due := by
  obtain ⟨run,member,fills⟩ := filled
  obtain ⟨later,there,lasts⟩ := progress.rows run member
  exact ⟨later,there,lasts.fills fills⟩

section Change

variable {known : Str → Bool} {calendar : Calendar κ} {now : Time} {timezone : Str}

structure Replaceable (now : Time) (t : Nat) (p : ProfileId) (row : BackupProfile κ) (s : Control κ) : Prop where
  loaded : Loaded t p row s
  answered : row.scheduled = true → zoned row.scheduleKind = true →
    ∀ due, row.nextScheduledAt = some due → due ≤ now → Filled s.db p due

theorem Replaceable.progress {p : ProfileId} {row : BackupProfile κ} (progress : Progress t a b)
    (here : Replaceable now t p row a) : Replaceable now t p row b :=
  ⟨grows_loaded p row _ _ progress here.loaded,
    fun scheduled zone due cursor reached => (here.answered scheduled zone due cursor reached).progress progress⟩

/-- The session has the settings and has written nothing, and holds no object of these profiles. -/
structure Scanning (now : Time) (t : Nat) (rest : List ProfileId) (read : List (ProfileId × BackupProfile κ))
    (s : Control κ) : Prop where
  sane : Sane s
  quiet : Quiet t s
  settings : Owns t .settings s
  unheld : ∀ q ∈ rest, s.held t q = none
  replaceable : ∀ p row, (p,row) ∈ read → Replaceable now t p row s

theorem Scanning.rely {rest : List ProfileId} {read : List (ProfileId × BackupProfile κ)} (rely : Rely t a b)
    (here : Scanning now t rest read a) : Scanning now t rest read b := by
  refine ⟨rely.sane here.sane,grows_quiet.stable _ _ rely here.quiet,(grows_owns _).stable _ _ rely here.settings,
    fun q member => ?_,fun p row member => (here.replaceable p row member).progress rely.progress⟩
  rw [rely.held]
  exact here.unheld q member

/-- The statement by which a row is locked and read. -/
theorem scan_step {p : ProfileId} {rest : List ProfileId} {read : List (ProfileId × BackupProfile κ)}
    {row : BackupProfile κ} (absent : p ∉ rest) (here : Scanning now t (p :: rest) read s)
    (open_ : s.db.free t (.profile p) = true) (answered : Answered now s p) (found : (s.sees t).profile p = some row) :
    (Guar False t (.manual 0) s ((s.lockRow t p).remember t p row) ∧
      Recalculated now s ((s.lockRow t p).remember t p row)) ∧
      Scanning now t rest (read ++ [(p,row)]) ((s.lockRow t p).remember t p row) := by
  have progress : Progress t s ((s.lockRow t p).remember t p row) :=
    lockRow_remember_progress (.inl (here.unheld p List.mem_cons_self))
  obtain ⟨contents,rows,-,-,-,held,-⟩ := lockRow_fields s t p
  have there : s.db.contents.profile p = some row := by
    rw [← here.quiet.sees]
    exact found
  have guar : Guar False t (.manual 0) s ((s.lockRow t p).remember t p row) := lockRow_remember_guar row open_
  constructor
  · exact ⟨guar,.still contents⟩
  refine ⟨guar.sane here.sane,grows_quiet _ _ progress here.quiet,grows_owns _ _ _ progress here.settings,
    fun q member => ?_,fun q row' member => ?_⟩
  · have other : q ≠ p := fun same => absent (same ▸ member)
    simp only [Control.remember,Function.update_self,Function.update_of_ne other,held]
    exact here.unheld q (List.mem_cons_of_mem _ member)
  rcases List.mem_append.mp member with before | new
  · exact (here.replaceable q row' before).progress progress
  obtain ⟨rfl,rfl⟩ := Prod.mk.inj (List.mem_singleton.mp new)
  constructor
  · refine ⟨⟨lockRow_locked (by simp [found]),(congrArg (fun c => c.profile q) contents).trans there⟩,?_⟩
    simp [Control.remember]
  · intro scheduled zone due cursor reached
    obtain ⟨run,member,fills⟩ := answered row' due there scheduled zone cursor reached
    exact ⟨run,rows.symm ▸ member,fills⟩

theorem scan_spec (order : List ProfileId) (distinct : order.Nodup) (read : List (ProfileId × BackupProfile κ)) :
    Keeps (contract t (.setBackupTimezone now timezone)) (Scanning now t order read)
      (fun profiles s => (∀ entry ∈ profiles, entry.2.scheduled = true) ∧ Scanning now t [] (read ++ profiles) s)
      (scanProfiles t order) := by
  induction order generalizing read with
  | nil =>
    apply Keeps.pure
    intro s here
    rw [List.append_nil]
    exact ⟨by simp,here⟩
  | cons p rest ih =>
    obtain ⟨absent,distinct⟩ := List.nodup_cons.mp distinct
    apply Keeps.bind (M := fun found s => Scanning now t rest (read ++ (found.map (p,·)).toList) s)
    · rw [stmt_eq]
      apply Keeps.statement fun _ _ rely here => Scanning.rely rely here
      intro s i here open_ answered
      cases found : (s.sees t).profile p with
      | none =>
        refine ⟨⟨.refl s,.still rfl⟩,fun value returned => ?_⟩
        obtain rfl := Except.ok.inj returned
        rw [Option.map_none,Option.toList_none,List.append_nil]
        exact ⟨here.sane,here.quiet,here.settings,fun q member => here.unheld q (List.mem_cons_of_mem _ member),here.replaceable⟩
      | some row =>
        obtain ⟨turns,scanning⟩ := scan_step absent here open_ (answered now timezone p rfl rfl) found
        refine ⟨turns,fun value returned => ?_⟩
        obtain rfl := Except.ok.inj returned
        exact scanning
    intro found
    apply (ih distinct (read ++ (found.map (p,·)).toList)).bind
    intro others
    apply Keeps.pure
    intro s here
    obtain ⟨scheduled,scanning⟩ := here
    constructor
    · intro entry member
      rcases List.mem_append.mp member with first | later
      · simp only [Option.mem_toList,Option.map_eq_some_iff,Option.filter_eq_some_iff] at first
        obtain ⟨row,⟨-,here⟩,rfl⟩ := first
        exact here
      · exact scheduled entry later
    · refine ⟨scanning.sane,scanning.quiet,scanning.settings,scanning.unheld,fun q row member => scanning.replaceable q row ?_⟩
      simp only [List.mem_append,Option.mem_toList,Option.map_eq_some_iff,Option.filter_eq_some_iff] at member ⊢
      rcases member with before | ⟨row',⟨here,-⟩,same⟩ | later
      · exact .inl (.inl before)
      · exact .inl (.inr ⟨row',here,same⟩)
      · exact .inr later

theorem recalculate_mem {profiles : List (ProfileId × BackupProfile κ)} {cursors : List (ProfileId × Option Time)}
    (done : recalculate calendar now timezone profiles = .ok cursors) {p : ProfileId} {c : Option Time}
    (member : (p,c) ∈ cursors) : ∃ row, (p,row) ∈ profiles ∧ calendar row now timezone = .ok c := by
  induction profiles generalizing cursors with
  | nil =>
    obtain rfl := Except.ok.inj done
    cases member
  | cons entry rest ih =>
    cases first : calendar entry.2 now timezone with
    | error e => simp [recalculate,first,bind,Except.bind] at done
    | ok cursor =>
      cases later : recalculate calendar now timezone rest with
      | error e => simp [recalculate,first,later,bind,Except.bind] at done
      | ok others =>
        obtain rfl : (entry.1,cursor) :: others = cursors := by
          simpa [recalculate,first,later,bind,Except.bind,pure,Except.pure] using done
        rcases List.mem_cons.mp member with here | there
        · obtain ⟨rfl,rfl⟩ := Prod.mk.inj here
          exact ⟨entry.2,List.mem_cons_self,first⟩
        · obtain ⟨row,member,computed⟩ := ih later there
          exact ⟨row,List.mem_cons_of_mem _ member,computed⟩

/-- The commit of the new timezone with the new cursors. -/
theorem commit_step {read : List (ProfileId × BackupProfile κ)} (scanning : Scanning now t [] read s)
    {cursors : List (ProfileId × Option Time)} (assigned : ∀ p c, (p,c) ∈ cursors →
      ∃ row, (p,row) ∈ read ∧ row.scheduled = true ∧ zoned row.scheduleKind = true) (zone : Str) :
    Guar False t (.manual 0) s { s with db := (s.db.write t fun c =>
        { c with backupTimezone := some zone }.setCursors cursors).commit t } ∧
      Recalculated now s { s with db := (s.db.write t fun c =>
        { c with backupTimezone := some zone }.setCursors cursors).commit t } := by
  let change : Contents κ → Contents κ := fun c => { c with backupTimezone := some zone }.setCursors cursors
  have written : Guar False t (.manual 0) s { s with db := s.db.write t change } := by
    refine .local (write_moves fun k c unlocked => ?_) (fun _ _ => rfl) rfl rfl rfl rfl rfl
    cases k with
    | settings => exact absurd scanning.settings unlocked
    | server id => rfl
    | profile p =>
      have elsewhere : Contents.Same (.profile p) c (c.setCursors cursors) := by
        refine setCursors_same c fun q cursor same member => ?_
        obtain rfl := Key.profile.inj same
        obtain ⟨row,there,-⟩ := assigned p cursor member
        exact unlocked (scanning.replaceable p row there).loaded.1.1
      exact elsewhere
  have committed : Guar False t (.manual 0) { s with db := s.db.write t change }
      { s with db := (s.db.write t change).commit t } :=
    commit_guar (written.sane scanning.sane) fun _ _ same => by cases same
  constructor
  · exact ⟨fun u other => (written.others u other).trans (committed.others u other),
      fun before => committed.sane (written.sane before),False.elim,fun _ _ same => (by cases same),
      fun _ h => .inl h⟩
  intro p before after due was cursor is moved
  have contents : ((s.db.write t change).commit t).contents = change s.db.contents := by
    simp only [Db.commit,Db.sees,Db.write,Function.update_self,Function.comp,show s.db.draft t = id from scanning.quiet,id]
  dsimp only at is
  rw [contents] at is
  have is : (Contents.setCursors { s.db.contents with backupTimezone := some zone } cursors).profile p = some after := is
  rw [setCursors_profile] at is
  cases found : cursors.lookup p with
  | none =>
    rw [found] at is
    obtain rfl := Option.some.inj (was.symm.trans is)
    exact absurd cursor moved
  | some c =>
    obtain ⟨front,back,rfl,-⟩ := List.lookup_eq_some_iff.mp found
    obtain ⟨row,there,scheduled,zone⟩ := assigned p c (List.mem_append_right _ List.mem_cons_self)
    have here := scanning.replaceable p row there
    obtain rfl : row = before := Option.some.inj (here.loaded.1.2.symm.trans was)
    rcases Nat.lt_or_ge now due with future | reached
    · exact .inl future
    · obtain ⟨run,member,fills⟩ := here.answered scheduled zone due cursor reached
      exact .inr ⟨run,Db.mem_table.mpr (.inl member),fills⟩

theorem setBackupTimezone_spec : Keeps (contract t (.setBackupTimezone now timezone))
    (fun s => Sane s ∧ Untouched t s) (fun _ _ => True) (setBackupTimezone known calendar t now timezone) := by
  let start (order : List ProfileId) (s : Control κ) : Prop := Scanning now t order [] s
  apply Keeps.bind (M := fun _ s => ∀ order, start order s)
  · rw [lockSettings,stmt_eq]
    apply Keeps.statement fun _ _ (rely : Rely t _ _) here => And.intro (rely.sane here.1) (here.2.rely rely)
    intro s i here open_ _
    have guar : Guar False t (.manual 0) s { s with db := s.db.lock t .settings } :=
      .local (moves_lock open_) (fun _ _ => rfl) rfl rfl rfl rfl rfl
    refine ⟨⟨guar,.still rfl⟩,fun _ _ order => ⟨guar.sane here.1,here.2.1,by simp [Owns,Db.lock],fun q _ => here.2.2 q,?_⟩⟩
    intro p row member
    cases member
  intro _
  split
  · exact Keeps.throw _
  rename_i zone _
  apply Keeps.bind (M := fun reply => start reply.scan)
  · rw [stmt_eq]
    apply Keeps.statement fun _ _ rely here order => Scanning.rely rely (here order)
    exact fun s i here _ _ => ⟨⟨.refl s,.still rfl⟩,fun reply _ => here reply.scan⟩
  intro reply
  apply (scan_spec reply.scan reply.distinct []).bind
  intro profiles
  split
  · exact Keeps.throw _
  rename_i cursors done
  rw [stmt_eq]
  apply Keeps.statement fun _ _ rely here => And.intro here.1 (Scanning.rely rely here.2)
  intro s i here _ _
  refine ⟨commit_step here.2 (fun p c member => ?_) zone,fun _ _ => trivial⟩
  obtain ⟨row,there,_⟩ := recalculate_mem done member
  obtain ⟨there,zone⟩ := List.mem_filter.mp there
  exact ⟨row,there,here.1 _ there,zone⟩

end Change

section Others

variable {known : Str → Bool} {calendar : Calendar κ}

theorem manual_spec (p : ProfileId) : Keeps (contract t (.manual p)) (fun s => Sane s ∧ Untouched t s) (fun _ _ => True)
    (Job.body known calendar t (.manual p)) := by
  apply Keeps.bind (M := fun _ s => Sane s ∧ Quiet t s)
  · rw [insertRow,stmt_eq]
    apply Keeps.statement fun _ _ (rely : Rely t _ _) here => And.intro (rely.sane here.1) (here.2.rely rely)
    intro s i here waited _
    cases taken : s.db.taken Clash t ⟨s.serial,p,.manual,none,.queued,none⟩ with
    | true =>
      have guar : Guar False t (.manual 0) s { s with serial := s.serial + 1 } :=
        .local (moves_refl s) (fun _ _ => rfl) rfl rfl rfl rfl rfl
      exact ⟨⟨guar,rfl⟩,fun _ _ => ⟨guar.sane here.1,here.2.1⟩⟩
    | false =>
      have guar : Guar False t (.manual 0) s { s with
          serial := s.serial + 1, db := s.db.insert t ⟨s.serial,p,.manual,none,.queued,none⟩ } :=
        insert_guar waited taken (.inl rfl) False.elim
      exact ⟨⟨guar,rfl⟩,fun _ _ => ⟨guar.sane here.1,here.2.1⟩⟩
  intro _
  rw [Queue.commit,stmt_eq]
  apply Keeps.statement fun _ _ (rely : Rely t _ _) here =>
    And.intro (rely.sane here.1) (grows_quiet.stable _ _ rely here.2)
  intro s i here _ _
  have guar : Guar False t (.manual 0) s { s with db := s.db.commit t } := commit_guar here.1 fun _ _ same => by cases same
  exact ⟨⟨guar,congrArg Contents.profile here.2.sees⟩,fun _ _ => trivial⟩

theorem progress_spec (id : RunId) (status : RunStatus) : Keeps (contract t (.progress id status))
    (fun (_ : Control κ) => True) (fun _ _ => True) (progress id status) := by
  rw [progress,stmt_eq]
  apply Keeps.statement fun _ _ _ here => here
  intro s i _ _ _
  split
  · rename_i unique
    exact ⟨⟨amend_guar unique,rfl⟩,fun _ _ => trivial⟩
  · exact ⟨⟨.refl s,rfl⟩,fun _ _ => trivial⟩

theorem tick_keeps (now : Time) (timezone : Str) : Keeps (contract t (.tick now timezone))
    (fun s => Sane s ∧ Untouched t s) (fun _ _ => True) (Job.body known calendar t (.tick now timezone)) := by
  intro s here
  have spec : Spec False t (.tick now timezone) (Untouched t) False (fun _ _ => True)
    (Queue.Job.body calendar t (.tick now timezone)) := body_spec (.tick now timezone)
  have kept := Holds.weaken (C := sessionContract False t (.tick now timezone)) (D := contract t (.tick now timezone))
    (fun _ _ _ h => h) (fun _ _ _ _ => False.elim) (fun _ _ _ => trivial) (fun _ _ _ => trivial) (fun _ _ _ h => h)
    (spec s here.1 here.2)
  apply Holds.mono _ kept
  rintro (e | value) s' _
  · trivial
  · trivial

theorem body_keeps (job : Job) : Keeps (contract t job) (fun s => Sane s ∧ Untouched t s) (fun _ _ => True)
    (job.body known calendar t) := by
  cases job with
  | tick now timezone => exact tick_keeps now timezone
  | setBackupTimezone now timezone => exact setBackupTimezone_spec
  | manual p => exact manual_spec p
  | progress id status => exact fun s _ => progress_spec id status s trivial

theorem Turns.rollback (job : Job) : Turns t s (rollback t s) job := by
  cases job with
  | tick now timezone => exact rollback_guar
  | setBackupTimezone now timezone => exact ⟨rollback_guar,.still rfl⟩
  | manual p => exact ⟨rollback_guar,rfl⟩
  | progress id status => exact ⟨rollback_guar,rfl⟩

theorem program_keeps (job : Job) (sane : Sane s) (untouched : Untouched t s) :
    Holds (contract t job) (fun _ _ => True) (job.program known calendar t) s := by
  apply Keeps.handled (body_keeps job) _ ⟨sane,untouched⟩
  rw [stmt_eq]
  exact Keeps.statement (fun _ _ _ here => here) fun s i _ _ _ => ⟨.rollback job,fun _ _ => trivial⟩

end Others

end Rules

section System

variable (known : Str → Bool) (calendar : Calendar κ)

def discipline : Sessions.Discipline (sessions known calendar) Settled where
  contract := contract
  inv := Sane
  untouched := Untouched
  raises := fun _ _ _ _ _ => trivial
  known := fun _ _ _ _ _ => trivial
  program := fun _ job _ => program_keeps job
  allowed := by
    intro s t i point job settled waits started now timezone p same at_
    subst same at_
    exact settled t i now timezone p rfl started waits
  performed := by
    intro s t i point job after _ _ _ sane turns
    obtain ⟨others,kept⟩ := Turns.others turns
    exact ⟨kept sane,fun u other => ⟨fun untouched => untouched.rely (others u other),fun _ _ _ _ => others u other⟩⟩
  lost := by
    intro s t sane
    have guar : Guar False t (.manual 0) s.sys.shared (rollback t s.sys.shared) := rollback_guar
    exact ⟨guar.sane sane,fun u other =>
      ⟨fun untouched => untouched.rely (guar.others u other),fun _ _ _ _ => guar.others u other⟩⟩

end System

end BackupTelebot.Queue.Timezones
