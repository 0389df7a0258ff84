import BackupTelebot.Cursors

/-! Every session keeps the cursors consistent, and a profile for one time is not armed
again. Sessions rely on the lock of the settings alone: while one holds it, the committed
rows of profiles stay as they are. -/
namespace BackupTelebot.Queue.Cursors

open PyJson Interleave Transactions Timezones

variable {κ : Type}

/-! ### The contract of a session -/

structure Rely (t : Nat) (a b : Control κ) : Prop where
  draft : b.db.draft t = a.db.draft t
  inserted : b.db.insertedBy t = a.db.insertedBy t
  held : b.held t = a.held t
  settings : a.db.holder .settings = some t → b.db.holder .settings = some t
  rows : a.db.holder .settings = some t →
    ∀ p row, a.db.contents.profile p = some row → b.db.contents.profile p = some row

theorem Rely.trans {t : Nat} {a b c : Control κ} (first : Rely t a b) (second : Rely t b c) : Rely t a c :=
  ⟨second.draft.trans first.draft,second.inserted.trans first.inserted,second.held.trans first.held,
    fun own => second.settings (first.settings own),
    fun own p row here => second.rows (first.settings own) p row (first.rows own p row here)⟩

structure Guar (t : Nat) (a b : Control κ) : Prop where
  others : ∀ u, u ≠ t → Rely u a b
  turns : ∀ p row, b.db.contents.profile p = some row →
    (∃ old, a.db.contents.profile p = some old ∧ Turns old row) ∨
      a.db.contents.profile p = none ∧ (row.archivedAt = none → Fits row)
  queued : ∀ p due row, b.db.contents.profile p = some row → row.scheduleKind = .once → Filled b.db p due →
    Filled a.db p due ∨ row.nextScheduledAt = none

def contract (t : Nat) : Contract Point Reply (Control κ) Failure where
  rely := fun _ => Rely t
  guar := fun _ => Guar t
  allowed := fun _ _ _ => True
  raises := fun _ _ _ => True
  known := fun _ _ _ => True
  refl := fun _ _ => ⟨rfl,rfl,rfl,id,fun _ _ _ => id⟩
  trans := Rely.trans

structure Untouched (t : Nat) (s : Control κ) : Prop where
  draft : s.db.draft t = id
  inserted : s.db.insertedBy t = []
  held : ∀ p, s.held t p = none

structure Opened (t : Nat) (s : Control κ) : Prop where
  untouched : Untouched t s
  settings : s.db.holder .settings = some t

/-- A step of a session before its commit, with what it may insert. -/
structure Local (t : Nat) (P : Run κ → Prop) (a b : Control κ) : Prop where
  contents : b.db.contents = a.db.contents
  rows : b.db.rows = a.db.rows
  draft : b.db.draft = a.db.draft
  inserted : ∀ u, u ≠ t → b.db.insertedBy u = a.db.insertedBy u
  own : ∀ run ∈ b.db.insertedBy t, run ∈ a.db.insertedBy t ∨ P run
  held : ∀ u, u ≠ t → b.held u = a.held u
  settings : b.db.holder .settings = a.db.holder .settings

section Rules

variable {t : Nat} {α : Type} {P : Run κ → Prop} {a b s : Control κ}

theorem Turns.refl (row : BackupProfile κ) : Turns row row := ⟨id,fun _ _ => .inl rfl⟩

theorem Untouched.rely (rely : Rely t a b) (here : Untouched t a) : Untouched t b :=
  ⟨rely.draft.trans here.draft,rely.inserted.trans here.inserted,fun p => by rw [rely.held]; exact here.held p⟩

theorem Opened.rely (rely : Rely t a b) (here : Opened t a) : Opened t b :=
  ⟨here.untouched.rely rely,rely.settings here.settings⟩

/-- A step that commits nothing. -/
theorem Guar.uncommitted (others : ∀ u, u ≠ t → Rely u a b) (contents : b.db.contents = a.db.contents)
    (rows : b.db.rows = a.db.rows) : Guar t a b := by
  refine ⟨others,fun p row here => ?_,fun p due row _ _ filled => ?_⟩
  · rw [contents] at here
    exact .inl ⟨row,here,.refl row⟩
  · unfold Filled at filled ⊢
    rw [rows] at filled
    exact .inl filled

theorem Local.guar (step : Local t P a b) : Guar t a b := by
  refine .uncommitted (fun u other => ?_) step.contents step.rows
  refine ⟨by rw [step.draft],step.inserted u other,step.held u other,fun own => step.settings.trans own,?_⟩
  intro _ p row here
  rw [step.contents]
  exact here

theorem Local.refl (s : Control κ) : Local t P s s :=
  ⟨rfl,rfl,rfl,fun _ _ => rfl,fun _ member => .inl member,fun _ _ => rfl,rfl⟩

theorem local_lock {k : Key} (other : Key.settings ≠ k) : Local t P s { s with db := s.db.lock t k } :=
  ⟨rfl,rfl,rfl,fun _ _ => rfl,fun _ member => .inl member,fun _ _ => rfl,by simp [Db.lock,Function.update_of_ne other]⟩

theorem local_lockRow (p : ProfileId) : Local t P s (s.lockRow t p) := by
  unfold Control.lockRow
  split
  · exact local_lock (by simp)
  · exact .refl s

theorem local_remember (p : ProfileId) (row : BackupProfile κ) : Local t P s (s.remember t p row) :=
  ⟨rfl,rfl,rfl,fun _ _ => rfl,fun _ member => .inl member,fun _ other => Function.update_of_ne other _ _,rfl⟩

theorem Local.trans {c : Control κ} (first : Local t P a b) (second : Local t P b c) : Local t P a c := by
  refine ⟨second.contents.trans first.contents,second.rows.trans first.rows,second.draft.trans first.draft,
    fun u other => (second.inserted u other).trans (first.inserted u other),fun run member => ?_,
    fun u other => (second.held u other).trans (first.held u other),second.settings.trans first.settings⟩
  rcases second.own run member with before | new
  · exact first.own run before
  · exact .inr new

theorem local_insert {row : Run κ} (here : P row) :
    Local t P s { s with serial := s.serial + 1, db := s.db.insert t row } := by
  refine ⟨rfl,rfl,rfl,fun u other => ?_,fun run member => ?_,fun _ _ => rfl,rfl⟩
  · simp [Db.insertedBy,Db.insert,Ne.symm other]
  · simp only [Db.insertedBy,Db.insert,List.filter_append,List.map_append,List.mem_append] at member
    rcases member with before | new
    · exact .inl before
    · obtain rfl : run = row := by simpa using new
      exact .inr here

/-! ### The statements of a tick -/

theorem stmt_steps {R : Control κ → Control κ → Prop} {point : Point} {guard : Control κ → Bool}
    {effect : Reply → Control κ → Control κ} {result : Reply → Control κ → Except Failure α}
    (step : ∀ i s, guard s = true → R s (effect i s)) : (stmt point guard effect result).Steps R :=
  ⟨step,fun _ _ => trivial,fun _ => trivial⟩

theorem ask_steps {point : Point} {result : Control κ → Except Failure α} :
    (ask point result).Steps (Local t P) := stmt_steps fun _ s _ => .refl s

theorem insertRow_steps (point : Point) {row : RunId → Run κ} (here : ∀ id, P (row id)) :
    (insertRow point t row).Steps (Local t P) := by
  apply stmt_steps
  intro i s _
  split
  · exact ⟨rfl,rfl,rfl,fun _ _ => rfl,fun _ member => .inl member,fun _ _ => rfl,rfl⟩
  · exact local_insert (here s.serial)

theorem existingSlot_steps (p : ProfileId) (trigger : RunTrigger) (scheduledFor : Option Time) :
    (existingSlot (κ := κ) t p trigger scheduledFor).Steps (Local t P) := by
  unfold existingSlot
  split
  · exact ask_steps
  · trivial

theorem activeForProfile_steps (p : ProfileId) : (activeForProfile (κ := κ) t p).Steps (Local t P) := by
  apply stmt_steps
  intro i s _
  split
  · exact ⟨rfl,rfl,rfl,fun _ _ => rfl,fun _ member => .inl member,fun _ _ => rfl,rfl⟩
  · exact .refl s

theorem gather_steps (p : ProfileId) : (gather (κ := κ) t p).Steps (Local t P) := by
  apply Prog.Steps.bind
  · apply stmt_steps
    intro i s _
    split
    · exact (local_lockRow p).trans (local_remember p _)
    · exact .refl s
  rintro (_ | profile)
  · trivial
  dsimp only
  split
  · trivial
  apply ask_steps.bind
  intro source
  apply Prog.Steps.bind
  · unfold loadPaths
    split
    · exact ask_steps
    · trivial
  intro paths
  apply Prog.Steps.bind
  · unfold remoteServer
    split
    · trivial
    · exact stmt_steps fun _ _ _ => local_lock (by simp)
  exact fun server => ask_steps.bind fun admins => trivial

theorem recordSkipped_steps (p : ProfileId) (scheduledFor : Option Time) :
    (recordSkipped (κ := κ) t p scheduledFor false).Steps (Local t fun run => run.profileId = p) := by
  apply (insertRow_steps (P := fun run => run.profileId = p) .insertSkipped fun id => rfl).bind
  rintro (_ | skipped)
  · apply (existingSlot_steps p .scheduled scheduledFor).bind
    rintro (_ | run)
    · trivial
    · trivial
  · trivial

theorem whenActive_steps (p : ProfileId) (trigger : RunTrigger) (scheduledFor : Option Time) (active : Run κ) :
    (whenActive t p trigger scheduledFor false active).Steps (Local t fun run => run.profileId = p) := by
  cases trigger with
  | manual => trivial
  | scheduled => exact recordSkipped_steps p scheduledFor

/-- Within a tick a request commits nothing, and inserts runs of its profile only. -/
theorem enqueue_steps (p : ProfileId) (trigger : RunTrigger) (scheduledFor : Option Time) :
    (enqueue (κ := κ) t p trigger scheduledFor false).Steps (Local t fun run => run.profileId = p) := by
  apply (gather_steps p).bind
  intro config
  apply (existingSlot_steps p trigger scheduledFor).bind
  rintro (_ | existing)
  · apply (activeForProfile_steps p).bind
    rintro (_ | active)
    · apply (insertRow_steps (P := fun run => run.profileId = p) .insertRun fun id => rfl).bind
      rintro (_ | run)
      · apply (existingSlot_steps p trigger scheduledFor).bind
        rintro (_ | existing)
        · apply (activeForProfile_steps p).bind
          rintro (_ | active)
          · trivial
          · exact whenActive_steps p trigger scheduledFor active
        · trivial
      · trivial
    · exact whenActive_steps p trigger scheduledFor active
  · trivial

/-! ### Commits -/

structure Ready (t : Nat) (s : Control κ) : Prop where
  turns : ∀ p row, (s.sees t).profile p = some row →
    (∃ old, s.db.contents.profile p = some old ∧ Turns old row) ∨
      s.db.contents.profile p = none ∧ (row.archivedAt = none → Fits row)
  queued : ∀ run ∈ s.db.insertedBy t, run.trigger = .scheduled → ∀ row, (s.sees t).profile run.profileId = some row →
    row.scheduleKind = .once → row.nextScheduledAt = none
  rows : s.db.holder .settings = some t ∨
    ∀ p row, s.db.contents.profile p = some row → (s.sees t).profile p = some row

theorem insertedBy_filter {db : Db (Contents κ) Key (Run κ)} {u : Nat} (other : u ≠ t) :
    ((db.inserted.filter (·.1 ≠ t)).filter (·.1 = u)).map Prod.snd = db.insertedBy u := by
  rw [List.filter_filter,Db.insertedBy]
  congr 1
  apply List.filter_congr
  intro entry _
  by_cases same : entry.1 = u
  · simp [same,other]
  · simp [same]

theorem release_settings {u : Nat} (other : u ≠ t) (own : s.db.holder .settings = some u) :
    s.db.release t .settings = some u := by
  have apart : s.db.holder .settings ≠ some t := by
    rw [own]
    exact fun same => other (Option.some.inj same)
  rw [Db.release,if_neg apart]
  exact own

theorem commit_guar (ready : Ready t s) : Guar t s { s with db := s.db.commit t } := by
  constructor
  · intro u other
    refine ⟨Function.update_of_ne other _ _,insertedBy_filter other,rfl,release_settings other,fun own p row here => ?_⟩
    rcases ready.rows with mine | kept
    · exact absurd (Option.some.inj (own.symm.trans mine)) other
    · exact kept p row here
  · exact ready.turns
  · intro p due row here once filled
    obtain ⟨run,member,fills⟩ := filled
    rcases Db.mem_table.mp member with before | new
    · exact .inl ⟨run,before,fills⟩
    · right
      obtain ⟨rfl,trigger,-⟩ := Run.fills_iff.mp fills
      exact ready.queued run (Db.mem_insertedBy.mpr new) trigger row here once

theorem rollback_guar : Guar t s (rollback t s) := by
  refine .uncommitted (fun u other => ?_) rfl rfl
  exact ⟨Function.update_of_ne other _ _,insertedBy_filter other,rfl,release_settings other,fun _ _ _ => id⟩

theorem write_guar (f : Contents κ → Contents κ) : Guar t s { s with db := s.db.write t f } := by
  refine .uncommitted (fun u other => ?_) rfl rfl
  exact ⟨Function.update_of_ne other _ _,rfl,rfl,id,fun _ _ _ => id⟩

theorem writeCommit_guar {f : Contents κ → Contents κ} (ready : Ready t { s with db := s.db.write t f }) :
    Guar t s { s with db := (s.db.write t f).commit t } := by
  have committed := commit_guar ready
  exact ⟨fun u other => ((write_guar f).others u other).trans (committed.others u other),committed.turns,committed.queued⟩

variable {P Q : Control κ → Prop}

theorem keeps_flush (stable : ∀ a b, Rely t a b → P a → P b) {f : Contents κ → Contents κ}
    (written : ∀ s, P s → Q { s with db := s.db.write t f }) : Keeps (contract t) P (fun _ => Q) (flush t f) := by
  rw [flush,stmt_eq]
  apply Keeps.statement stable
  exact fun s i here _ _ => ⟨write_guar f,fun _ _ => written s here⟩

theorem keeps_commit (stable : ∀ a b, Rely t a b → P a → P b) (ready : ∀ s, P s → Ready t s) :
    Keeps (contract t) P (fun _ _ => True) (Queue.commit t) := by
  rw [Queue.commit,stmt_eq]
  apply Keeps.statement stable
  exact fun s i here _ _ => ⟨commit_guar (ready s here),fun _ _ => trivial⟩

theorem keeps_lockSettings : Keeps (contract t) (Untouched t) (fun _ => Opened t) (lockSettings (κ := κ) t) := by
  rw [lockSettings,stmt_eq]
  apply Keeps.statement fun _ _ rely here => Untouched.rely rely here
  intro s i here open_ _
  refine ⟨?_,fun _ _ => ⟨⟨here.draft,here.inserted,here.held⟩,by simp [Db.lock]⟩⟩
  refine .uncommitted (fun u other => ?_) rfl rfl
  refine ⟨rfl,rfl,rfl,fun own => ?_,fun _ _ _ => id⟩
  rcases Db.free_iff.mp open_ with free | mine
  · rw [free] at own
    cases own
  · exact absurd (Option.some.inj (own.symm.trans mine)) other

/-! ### Rows that are new -/

structure Adding (t : Nat) (p : ProfileId) (row : BackupProfile κ) (s : Control κ) : Prop where
  draft : ∀ c, (s.db.draft t c).profile = if (c.profile p).isSome then c.profile else Function.update c.profile p (some row)
  inserted : s.db.insertedBy t = []

theorem Adding.rely {p : ProfileId} {row : BackupProfile κ} (rely : Rely t a b) (here : Adding t p row a) :
    Adding t p row b := by
  constructor
  · rw [rely.draft]
    exact here.draft
  · exact rely.inserted.trans here.inserted

theorem addProfile_profile (c : Contents κ) (p : ProfileId) (row : BackupProfile κ) : (addProfile c p row).profile =
    if (c.profile p).isSome then c.profile else Function.update c.profile p (some row) := by
  unfold addProfile
  split_ifs <;> rfl

theorem Adding.written {p : ProfileId} {row : BackupProfile κ} (here : Untouched t s) :
    Adding t p row { s with db := s.db.write t fun c => addProfile c p row } := by
  refine ⟨fun c => ?_,here.inserted⟩
  simp only [Db.write,Function.update_self,here.draft,Function.comp,id]
  exact addProfile_profile c p row

theorem Adding.ready {p : ProfileId} {row : BackupProfile κ} (fits : row.archivedAt = none → Fits row)
    (here : Adding t p row s) : Ready t s := by
  have seen : (s.sees t).profile = if (s.db.contents.profile p).isSome then s.db.contents.profile
      else Function.update s.db.contents.profile p (some row) := here.draft s.db.contents
  refine ⟨fun q row' is => ?_,fun run member => ?_,.inr fun q row' is => ?_⟩
  · rw [seen] at is
    split_ifs at is with taken
    · exact .inl ⟨row',is,.refl row'⟩
    · by_cases same : q = p
      · subst same
        rw [Function.update_self] at is
        obtain rfl := Option.some.inj is
        exact .inr ⟨by simpa using taken,fits⟩
      · rw [Function.update_of_ne same] at is
        exact .inl ⟨row',is,.refl row'⟩
  · rw [here.inserted] at member
    cases member
  · rw [seen]
    split_ifs with taken
    · exact is
    · have other : q ≠ p := by
        rintro rfl
        simp [is] at taken
      rw [Function.update_of_ne other]
      exact is

theorem keeps_nextId (stable : ∀ a b, Rely t a b → P a → P b) (kept : ∀ s, P s → P { s with serial := s.serial + 1 }) :
    Keeps (contract t) P (fun _ => P) (nextId (κ := κ)) := by
  rw [nextId,stmt_eq]
  apply Keeps.statement stable
  intro s i here _ _
  have step : Local t (fun _ => False) s { s with serial := s.serial + 1 } :=
    ⟨rfl,rfl,rfl,fun _ _ => rfl,fun _ member => .inl member,fun _ _ => rfl,rfl⟩
  exact ⟨step.guar,fun _ _ => kept s here⟩

theorem draftRow_fits (columns : κ) : Fits (draftRow columns) := ⟨fun _ => rfl,fun _ _ => rfl,fun _ manual => absurd rfl manual⟩

theorem createDraft_keeps (columns : κ) : Keeps (contract t) (Untouched t) (fun _ _ => True) (createDraft t columns) := by
  apply (keeps_nextId (fun _ _ rely here => Untouched.rely rely here) fun s here => ⟨here.draft,here.inserted,here.held⟩).bind
  rintro ⟨p,now⟩
  apply (keeps_flush (fun _ _ rely here => Untouched.rely rely here) fun s here => Adding.written here).bind
  intro _
  exact keeps_commit (fun _ _ rely here => Adding.rely rely here) fun s here => here.ready fun _ => draftRow_fits columns

theorem create_keeps {calendar : Calendar κ} (recurs : Recurs calendar) (new : NewProfile κ) :
    Keeps (contract t) (Untouched t) (fun _ _ => True) (create calendar t new) := by
  apply keeps_lockSettings.bind
  intro timezone
  apply (keeps_nextId (fun _ _ rely here => Opened.rely rely here) fun s here =>
    ⟨⟨here.untouched.draft,here.untouched.inserted,here.untouched.held⟩,here.settings⟩).bind
  rintro ⟨p,now⟩
  dsimp only
  split
  · exact Keeps.throw _
  rename_i cursor registered
  apply (keeps_flush (fun _ _ rely here => Opened.rely rely here) fun s here => Adding.written here.untouched).bind
  intro _
  apply (keeps_flush (Q := Adding t p _) (fun _ _ rely here => Adding.rely rely here) fun s here => ?_).bind
  · intro _
    exact keeps_commit (fun _ _ rely here => Adding.rely rely here) fun s here =>
      here.ready fun _ => registerSchedule_fits recurs registered
  · refine ⟨fun c => ?_,here.inserted⟩
    simp only [Db.write,Function.update_self,Function.comp]
    exact here.draft c

/-! ### Rows that change -/

/-- The session has the lock of the settings and has written nothing; the profile has this
row. -/
structure Has (t : Nat) (p : ProfileId) (row : BackupProfile κ) (s : Control κ) : Prop where
  settings : s.db.holder .settings = some t
  draft : s.db.draft t = id
  inserted : s.db.insertedBy t = []
  here : s.db.contents.profile p = some row

structure Setting (t : Nat) (p : ProfileId) (row : BackupProfile κ) (s : Control κ) : Prop where
  settings : s.db.holder .settings = some t
  draft : ∀ c, (s.db.draft t c).profile = Function.update c.profile p ((c.profile p).map fun _ => row)
  inserted : s.db.insertedBy t = []
  was : ∃ old, s.db.contents.profile p = some old ∧ Turns old row

section Edits

variable {p : ProfileId} {row : BackupProfile κ}

theorem Has.rely (rely : Rely t a b) (has : Has t p row a) : Has t p row b :=
  ⟨rely.settings has.settings,rely.draft.trans has.draft,rely.inserted.trans has.inserted,
    rely.rows has.settings p row has.here⟩

theorem Has.step (step : Local t (fun _ => False) a b) (has : Has t p row a) : Has t p row b := by
  refine ⟨step.settings.trans has.settings,by rw [step.draft]; exact has.draft,?_,by rw [step.contents]; exact has.here⟩
  rw [List.eq_nil_iff_forall_not_mem]
  intro run member
  rcases step.own run member with before | none
  · rw [has.inserted] at before
    cases before
  · exact none

theorem Has.sees (has : Has t p row s) : (s.sees t).profile p = some row := by
  rw [Control.sees,Db.sees,has.draft]
  exact has.here

theorem Setting.rely (rely : Rely t a b) (setting : Setting t p row a) : Setting t p row b := by
  obtain ⟨old,was,turns⟩ := setting.was
  refine ⟨rely.settings setting.settings,?_,rely.inserted.trans setting.inserted,old,
    rely.rows setting.settings p old was,turns⟩
  rw [rely.draft]
  exact setting.draft

theorem Setting.ready (setting : Setting t p row s) : Ready t s := by
  obtain ⟨old,was,turns⟩ := setting.was
  have seen : (s.sees t).profile = Function.update s.db.contents.profile p (some row) := by
    rw [Control.sees,Db.sees,setting.draft,was]
    rfl
  refine ⟨fun q row' is => ?_,fun run member => ?_,.inl setting.settings⟩
  · rw [seen] at is
    left
    by_cases same : q = p
    · subst same
      rw [Function.update_self] at is
      obtain rfl := Option.some.inj is
      exact ⟨old,was,turns⟩
    · rw [Function.update_of_ne same] at is
      exact ⟨row',is,.refl row'⟩
  · rw [setting.inserted] at member
    cases member

theorem Has.written {old : BackupProfile κ} {f : Contents κ → Contents κ} (has : Has t p old s) (turns : Turns old row)
    (sets : ∀ c, (f c).profile = Function.update c.profile p ((c.profile p).map fun _ => row)) :
    Setting t p row { s with db := s.db.write t f } := by
  refine ⟨has.settings,fun c => ?_,has.inserted,old,has.here,turns⟩
  simp only [Db.write,Function.update_self,has.draft,Function.comp,id]
  exact sets c

theorem active_keeps : Keeps (contract t) (Opened t) (fun row => Has t p row) (active (κ := κ) t p) := by
  rw [active,stmt_eq]
  apply Keeps.statement fun _ _ rely here => Opened.rely rely here
  intro s i here _ _
  have sees : s.sees t = s.db.contents := by rw [Control.sees,Db.sees,here.untouched.draft]; rfl
  cases found : (s.sees t).profile p with
  | none => exact ⟨(Local.refl (P := fun _ => False) s).guar,fun value returned => by simp at returned⟩
  | some row =>
    refine ⟨(local_remember (P := fun _ => False) p _).guar,fun value returned => ?_⟩
    have same : value = row := by
      simp only [Option.map_some,Control.identity,here.untouched.held,Option.getD_none] at returned
      split_ifs at returned
      exact (Except.ok.inj returned).symm
    subst same
    rw [sees] at found
    exact ⟨here.settings,here.untouched.draft,here.untouched.inserted,found⟩

theorem reserve_keeps : Keeps (contract t) (Has t p row) (fun _ => Has t p row) (reserve (κ := κ) t p) := by
  have steps : (reserve (κ := κ) t p).Steps (Local t fun _ => False) := stmt_steps fun _ _ _ => local_lockRow p
  apply steps.keeps
  · exact fun _ _ _ rely has => Has.rely rely has
  · exact fun _ _ _ step has => ⟨step.guar,has.step step⟩

variable {calendar : Calendar κ}

theorem edit_keeps (recurs : Recurs calendar) (columns : κ → κ) (enabled : Option Bool) :
    Keeps (contract t) (Untouched t) (fun _ _ => True) (edit calendar t p columns enabled) := by
  apply keeps_lockSettings.bind
  intro timezone
  apply active_keeps.bind
  intro loaded
  apply reserve_keeps.bind
  intro _
  apply Keeps.bind (M := fun refreshed => Has t p refreshed.1)
  · rw [stmt_eq]
    apply Keeps.statement fun _ _ rely has => Has.rely rely has
    intro s i has _ _
    refine ⟨(Local.refl (P := fun _ => False) s).guar,fun value returned => ?_⟩
    rw [has.sees] at returned
    obtain rfl := Except.ok.inj returned
    exact has
  rintro ⟨profile,now⟩
  dsimp only
  split
  · exact Keeps.throw _
  rename_i row edited
  have turns := edited_turns recurs edited
  apply (keeps_flush (fun _ _ rely has => Has.rely rely has) fun s has => has.written turns fun c => rfl).bind
  intro _
  exact keeps_commit (fun _ _ rely here => Setting.rely rely here) fun s here => here.ready

theorem updateConfiguration_keeps (recurs : Recurs calendar) (u : ConfigurationUpdate κ) :
    Keeps (contract t) (Untouched t) (fun _ _ => True) (updateConfiguration calendar t p u) := by
  apply keeps_lockSettings.bind
  intro timezone
  apply active_keeps.bind
  intro profile
  apply reserve_keeps.bind
  intro _
  apply Keeps.bind (M := fun _ => Has t p profile)
  · rw [stmt_eq]
    apply Keeps.statement fun _ _ rely has => Has.rely rely has
    exact fun s i has _ _ => ⟨(Local.refl (P := fun _ => False) s).guar,fun _ _ => has⟩
  rintro ⟨source,now⟩
  dsimp only
  split
  · exact Keeps.throw _
  rename_i row configured
  have turns := configured_turns recurs configured
  apply (keeps_flush (fun _ _ rely has => Has.rely rely has) fun s has => has.written turns fun c => rfl).bind
  intro _
  exact keeps_commit (fun _ _ rely here => Setting.rely rely here) fun s here => here.ready

end Edits

/-! ### Ticks -/

/-- The session has the lock of the settings and has written nothing; it has read these rows
and inserted runs of these profiles only. -/
structure Ticking (t : Nat) (read : List (ProfileId × BackupProfile κ)) (touched : List ProfileId) (s : Control κ) :
    Prop where
  settings : s.db.holder .settings = some t
  draft : s.db.draft t = id
  read : ∀ p row, (p,row) ∈ read → s.db.contents.profile p = some row
  queued : ∀ run ∈ s.db.insertedBy t, run.profileId ∈ touched

section Ticks

variable {read : List (ProfileId × BackupProfile κ)} {touched : List ProfileId}

theorem Ticking.rely (rely : Rely t a b) (here : Ticking t read touched a) : Ticking t read touched b := by
  refine ⟨rely.settings here.settings,rely.draft.trans here.draft,fun p row member => ?_,fun run member => ?_⟩
  · exact rely.rows here.settings p row (here.read p row member)
  · rw [rely.inserted] at member
    exact here.queued run member

theorem Ticking.step {p : ProfileId} (step : Local t (fun run => run.profileId = p) a b)
    (here : Ticking t read (p :: touched) a) : Ticking t read (p :: touched) b := by
  refine ⟨step.settings.trans here.settings,by rw [step.draft]; exact here.draft,?_,fun run member => ?_⟩
  · rw [step.contents]
    exact here.read
  · rcases step.own run member with before | rfl
    · exact here.queued run before
    · exact List.mem_cons_self

theorem Ticking.wider {touched' : List ProfileId} (wider : touched ⊆ touched') (here : Ticking t read touched s) :
    Ticking t read touched' s :=
  ⟨here.settings,here.draft,here.read,fun run member => wider (here.queued run member)⟩

theorem Ticking.of_opened (here : Opened t s) : Ticking t [] [] s := by
  refine ⟨here.settings,here.untouched.draft,fun p row member => (by cases member),fun run member => ?_⟩
  rw [here.untouched.inserted] at member
  cases member

theorem scan_keeps (order : List ProfileId) (read : List (ProfileId × BackupProfile κ)) :
    Keeps (contract t) (Ticking t read []) (fun profiles s => (∀ entry ∈ profiles, entry.2.scheduled = true) ∧
      Ticking t (read ++ profiles) [] s) (scanProfiles t order) := by
  induction order generalizing read with
  | nil =>
    apply Keeps.pure
    intro s here
    rw [List.append_nil]
    exact ⟨by simp,here⟩
  | cons p rest ih =>
    apply Keeps.bind (M := fun found s => Ticking t (read ++ (found.map (p,·)).toList) [] s)
    · rw [stmt_eq]
      apply Keeps.statement fun _ _ rely here => Ticking.rely rely here
      intro s i here _ _
      have sees : s.sees t = s.db.contents := by rw [Control.sees,Db.sees,here.draft]; rfl
      cases found : (s.sees t).profile p with
      | none =>
        refine ⟨(Local.refl (P := fun _ => False) s).guar,fun value returned => ?_⟩
        obtain rfl := Except.ok.inj returned
        rw [Option.map_none,Option.toList_none,List.append_nil]
        exact here
      | some row =>
        have step : Local t (fun _ => False) s ((s.lockRow t p).remember t p row) :=
          (local_lockRow p).trans (local_remember p row)
        refine ⟨step.guar,fun value returned => ?_⟩
        obtain rfl := Except.ok.inj returned
        refine ⟨step.settings.trans here.settings,by rw [step.draft]; exact here.draft,fun q row' member => ?_,
          fun run member => ?_⟩
        · rw [step.contents]
          rcases List.mem_append.mp member with before | new
          · exact here.read q row' before
          · obtain ⟨rfl,rfl⟩ := Prod.mk.inj (List.mem_singleton.mp new)
            rw [← sees]
            exact found
        · rcases step.own run member with before | none
          · exact here.queued run before
          · exact none.elim
    intro found
    apply (ih (read ++ (found.map (p,·)).toList)).bind
    intro others
    apply Keeps.pure
    intro s here
    obtain ⟨scheduled,ticking⟩ := here
    constructor
    · intro entry member
      rcases List.mem_append.mp member with first | later
      · simp only [Option.mem_toList,Option.map_eq_some_iff,Option.filter_eq_some_iff] at first
        obtain ⟨row,⟨-,here⟩,rfl⟩ := first
        exact here
      · exact scheduled entry later
    · refine ⟨ticking.settings,ticking.draft,fun q row member => ticking.read q row ?_,ticking.queued⟩
      simp only [List.mem_append,Option.mem_toList,Option.map_eq_some_iff,Option.filter_eq_some_iff] at member ⊢
      rcases member with before | ⟨row',⟨here,-⟩,same⟩ | later
      · exact .inl (.inl before)
      · exact .inl (.inr ⟨row',here,same⟩)
      · exact .inr later

variable {calendar : Calendar κ} {now : Time} {timezone : Str}

theorem enqueue_keeps (p : ProfileId) (due : Time) : Keeps (contract t) (Ticking t read touched)
    (fun _ => Ticking t read (p :: touched)) (enqueue (κ := κ) t p .scheduled (some due) false) := by
  intro s here
  apply (enqueue_steps p .scheduled (some due)).keeps (P := Ticking t read (p :: touched))
  · exact fun _ _ _ rely here => Ticking.rely rely here
  · exact fun _ _ _ step here => ⟨step.guar,here.step step⟩
  · exact here.wider (List.subset_cons_self p touched)

/-- A profile for which a run has been inserted is assigned a cursor. -/
theorem visit_keeps (recurs : Recurs calendar) {p : ProfileId} {row : BackupProfile κ} (scheduled : row.scheduled = true) :
    Keeps (contract t) (Ticking t read touched)
      (fun result s => Ticking t read ((result.2.map fun _ => p).toList ++ touched) s ∧
        ∀ c, result.2 = some c → Assigned row c) (visit calendar t now timezone p row) := by
  unfold visit
  split
  · split
    · exact Keeps.pure fun s here => ⟨here,fun c assigned => by cases assigned⟩
    · rename_i other
      split
      · exact Keeps.throw _
      · rename_i cursor computed
        apply Keeps.pure
        intro s here
        refine ⟨here.wider (List.subset_cons_self p touched),fun c assigned => ?_⟩
        obtain rfl := Option.some.inj assigned
        exact .of_calendar recurs scheduled other computed
  · rename_i due _
    split
    · apply (enqueue_keeps p due).bind
      intro queued
      split
      · rename_i once
        apply Keeps.pure
        intro s here
        refine ⟨here,fun c assigned => ?_⟩
        obtain rfl := Option.some.inj assigned
        exact ⟨scheduled,fun _ => rfl,fun other => absurd once other⟩
      · rename_i other
        split
        · exact Keeps.throw _
        · rename_i cursor computed
          apply Keeps.pure
          intro s here
          refine ⟨here,fun c assigned => ?_⟩
          obtain rfl := Option.some.inj assigned
          exact .of_calendar recurs scheduled other computed
    · exact Keeps.pure fun s here => ⟨here,fun c assigned => by cases assigned⟩

theorem visitAll_keeps (recurs : Recurs calendar) (profiles : List (ProfileId × BackupProfile κ))
    (scheduled : ∀ entry ∈ profiles, entry.2.scheduled = true) (touched : List ProfileId) :
    Keeps (contract t) (Ticking t read touched)
      (fun result s => Ticking t read (result.2.map Prod.fst ++ touched) s ∧
        ∀ p c, (p,c) ∈ result.2 → ∃ row, (p,row) ∈ profiles ∧ Assigned row c)
      (visitAll calendar t now timezone profiles) := by
  induction profiles generalizing touched with
  | nil => exact Keeps.pure fun s here => ⟨here,fun p c member => by cases member⟩
  | cons entry rest ih =>
    obtain ⟨p,row⟩ := entry
    intro s here
    apply Keeps.bind (visit_keeps recurs (scheduled (p,row) List.mem_cons_self)) ?_ s here
    rintro ⟨result,cursor⟩ s ⟨here,assigned⟩
    apply Keeps.bind (ih (fun entry member => scheduled entry (List.mem_cons_of_mem _ member))
      ((cursor.map fun _ => p).toList ++ touched)) ?_ s here
    rintro ⟨results,cursors⟩
    apply Keeps.pure
    rintro s ⟨here,others⟩
    constructor
    · apply here.wider
      intro q member
      cases cursor with
      | none => simpa using member
      | some c =>
        simp only [Option.map_some,Option.toList_some,List.cons_append,List.nil_append,List.mem_append,List.mem_cons,
          List.map_cons] at member ⊢
        rcases member with later | here | before
        · exact .inr (.inl later)
        · exact .inl here
        · exact .inr (.inr before)
    · intro q c member
      rcases List.mem_append.mp member with first | later
      · simp only [Option.mem_toList,Option.map_eq_some_iff] at first
        obtain ⟨c',is,same⟩ := first
        obtain ⟨rfl,rfl⟩ := Prod.mk.inj same
        exact ⟨row,List.mem_cons_self,assigned c' is⟩
      · obtain ⟨row',there,fine⟩ := others q c later
        exact ⟨row',List.mem_cons_of_mem _ there,fine⟩

/-- The cursors may be committed, together with the runs. -/
theorem Ticking.ready {cursors : List (ProfileId × Option Time)} (here : Ticking t read (cursors.map Prod.fst) s)
    (assigned : ∀ p c, (p,c) ∈ cursors → ∃ row, (p,row) ∈ read ∧ Assigned row c) {f : Contents κ → Contents κ}
    (sets : ∀ c, (f c).profile = (c.setCursors cursors).profile) : Ready t { s with db := s.db.write t f } := by
  have seen (p : ProfileId) : (Control.sees { s with db := s.db.write t f } t).profile p =
      (s.db.contents.setCursors cursors).profile p := by
    simp only [Control.sees,Db.sees,Db.write,Function.update_self,here.draft,Function.comp,id,sets]
  have found {p : ProfileId} {c : Option Time} (looked : cursors.lookup p = some c) :
      ∃ row, s.db.contents.profile p = some row ∧ Assigned row c := by
    obtain ⟨front,back,rfl,-⟩ := List.lookup_eq_some_iff.mp looked
    obtain ⟨row,there,fine⟩ := assigned p c (List.mem_append_right _ List.mem_cons_self)
    exact ⟨row,here.read p row there,fine⟩
  refine ⟨fun p row is => ?_,fun run member _ row is once => ?_,.inl here.settings⟩
  · rw [seen,setCursors_profile] at is
    left
    cases looked : cursors.lookup p with
    | none =>
      rw [looked] at is
      exact ⟨row,is,.refl row⟩
    | some c =>
      obtain ⟨old,was,fine⟩ := found looked
      rw [looked,was] at is
      obtain rfl := Option.some.inj is
      exact ⟨old,was,fine.turns⟩
  · have touched : run.profileId ∈ cursors.map Prod.fst := here.queued run member
    obtain ⟨entry,inside,same⟩ := List.mem_map.mp touched
    rw [seen,setCursors_profile] at is
    cases looked : cursors.lookup run.profileId with
    | none =>
      rw [List.lookup_eq_none_iff] at looked
      have := looked entry inside
      simp [same] at this
    | some c =>
      obtain ⟨old,was,fine⟩ := found looked
      rw [looked,was] at is
      obtain rfl := Option.some.inj is
      exact fine.2.1 once

theorem tick_keeps (recurs : Recurs calendar) : Keeps (contract t) (Untouched t) (fun _ _ => True)
    (tick calendar t now timezone) := by
  apply Keeps.bind (M := fun _ s => Opened t s) keeps_lockSettings
  intro stored
  apply Keeps.bind (M := fun _ s => Opened t s)
  · rw [stmt_eq]
    apply Keeps.statement fun _ _ rely here => Opened.rely rely here
    exact fun s i here _ _ => ⟨(Local.refl (P := fun _ => False) s).guar,fun _ _ => here⟩
  intro order s here
  apply Keeps.bind (scan_keeps order []) ?_ s (.of_opened here)
  rintro profiles s ⟨scheduled,here⟩
  apply Keeps.bind (visitAll_keeps recurs profiles scheduled []) ?_ s here
  rintro ⟨results,cursors⟩
  simp only [List.append_nil,List.nil_append]
  apply Keeps.bind (M := fun _ _ => True)
  · rw [stmt_eq]
    apply Keeps.statement fun _ _ rely here => And.intro (Ticking.rely rely here.1) here.2
    exact fun s i here _ _ => ⟨writeCommit_guar (here.1.ready here.2 fun _ => rfl),fun _ _ => trivial⟩
  · exact fun _ => Keeps.pure fun _ _ => trivial

theorem setBackupTimezone_keeps {known : Str → Bool} (recurs : Recurs calendar) : Keeps (contract t) (Untouched t)
    (fun _ _ => True) (setBackupTimezone known calendar t now timezone) := by
  apply keeps_lockSettings.bind
  intro _
  split
  · exact Keeps.throw _
  apply Keeps.bind (M := fun _ s => Opened t s)
  · rw [stmt_eq]
    apply Keeps.statement fun _ _ rely here => Opened.rely rely here
    exact fun s i here _ _ => ⟨(Local.refl (P := fun _ => False) s).guar,fun _ _ => here⟩
  intro reply
  apply Keeps.bind fun s here => scan_keeps reply.scan [] s (.of_opened here)
  intro profiles
  split
  · exact Keeps.throw _
  rename_i cursors done
  rw [stmt_eq]
  apply Keeps.statement fun _ _ rely here => And.intro here.1 (Ticking.rely rely here.2)
  intro s i here _ _
  obtain ⟨scheduled,here⟩ := here
  refine ⟨writeCommit_guar ((here.wider (List.nil_subset (cursors.map Prod.fst))).ready (fun p c member => ?_) fun _ => rfl),
    fun _ _ => trivial⟩
  obtain ⟨row,inside,computed⟩ := recalculate_mem done member
  obtain ⟨there,zone⟩ := List.mem_filter.mp inside
  have other : row.scheduleKind ≠ .once := fun once => by simp [once,zoned] at zone
  exact ⟨row,there,.of_calendar recurs (scheduled _ there) other computed⟩

end Ticks

/-! ### All sessions -/

theorem manual_keeps (p : ProfileId) : Keeps (contract t) (Untouched t) (fun _ _ => True)
    (do let _ ← insertRow (κ := κ) .insertRun t fun id => ⟨id,p,.manual,none,.queued,none⟩; Queue.commit t) := by
  let waiting (s : Control κ) : Prop := s.db.draft t = id ∧ ∀ run ∈ s.db.insertedBy t, run.trigger = .manual
  have stable : ∀ a b, Rely t a b → waiting a → waiting b := by
    rintro a b rely ⟨draft,manual⟩
    refine ⟨rely.draft.trans draft,?_⟩
    rw [rely.inserted]
    exact manual
  have steps : (insertRow (κ := κ) .insertRun t fun id => ⟨id,p,.manual,none,.queued,none⟩).Steps
      (Local t fun run => run.trigger = .manual) := insertRow_steps .insertRun fun id => rfl
  apply Keeps.bind (M := fun _ => waiting)
  · intro s here
    apply steps.keeps (P := waiting) (fun _ => stable)
    · rintro _ a b step ⟨draft,manual⟩
      refine ⟨step.guar,by rw [step.draft]; exact draft,fun run member => ?_⟩
      rcases step.own run member with before | new
      · exact manual run before
      · exact new
    · refine ⟨here.draft,fun run member => ?_⟩
      rw [here.inserted] at member
      cases member
  intro _
  apply keeps_commit stable
  rintro s ⟨draft,manual⟩
  have sees : s.sees t = s.db.contents := by rw [Control.sees,Db.sees,draft]; rfl
  refine ⟨fun q row is => ?_,fun run member scheduled => ?_,.inr fun q row is => ?_⟩
  · rw [sees] at is
    exact .inl ⟨row,is,.refl row⟩
  · rw [manual run member] at scheduled
    cases scheduled
  · rw [sees]
    exact is

theorem moved_fills (run : Run κ) (id : RunId) (status : RunStatus) (p : ProfileId) (due : Time) :
    (run.moved id status).fills p due = run.fills p due := by
  unfold Run.moved
  split_ifs <;> rfl

theorem progress_keeps (id : RunId) (status : RunStatus) : Keeps (contract t) (fun (_ : Control κ) => True)
    (fun _ _ => True) (progress id status) := by
  rw [progress,stmt_eq]
  apply Keeps.statement fun _ _ _ here => here
  intro s i _ _ _
  split
  · refine ⟨⟨fun u _ => ⟨rfl,rfl,rfl,fun own => own,fun _ _ _ here => here⟩,fun p row here => .inl ⟨row,here,.refl row⟩,?_⟩,
      fun _ _ => trivial⟩
    rintro p due row _ _ ⟨run,member,fills⟩
    obtain ⟨before,there,rfl⟩ := List.mem_map.mp member
    rw [moved_fills] at fills
    exact .inl ⟨before,there,fills⟩
  · exact ⟨(Local.refl (P := fun _ => False) s).guar,fun _ _ => trivial⟩

theorem body_keeps {known : Str → Bool} {calendar : Calendar κ} (recurs : Recurs calendar) (job : Job κ) :
    Keeps (contract t) (Untouched t) (fun _ _ => True) (job.body known calendar t) := by
  cases job with
  | create new => exact create_keeps recurs new
  | createDraft columns => exact createDraft_keeps columns
  | edit p columns enabled => exact edit_keeps recurs columns enabled
  | updateConfiguration p u => exact updateConfiguration_keeps recurs u
  | setBackupTimezone now timezone => exact setBackupTimezone_keeps recurs
  | tick now timezone => exact (tick_keeps recurs).bind fun _ => Keeps.pure fun _ _ => trivial
  | manual p => exact manual_keeps p
  | progress id status => exact fun s _ => progress_keeps id status s trivial

theorem program_keeps {known : Str → Bool} {calendar : Calendar κ} (recurs : Recurs calendar) (job : Job κ)
    (untouched : Untouched t s) : Holds (contract t) (fun _ _ => True) (job.program known calendar t) s := by
  apply Keeps.handled (body_keeps recurs job) _ untouched
  rw [stmt_eq]
  exact Keeps.statement (fun _ _ _ here => here) fun s i _ _ _ => ⟨rollback_guar,fun _ _ => trivial⟩

theorem Guar.consistent (guar : Guar t a b) (consistent : Consistent a.db.contents) : Consistent b.db.contents := by
  intro p row here active
  rcases guar.turns p row here with ⟨old,was,turns⟩ | ⟨-,fits⟩
  · exact turns.fits (consistent p old was) active
  · exact fits active

end Rules

def discipline (known : Str → Bool) {calendar : Calendar κ} (recurs : Recurs calendar) :
    Sessions.Discipline (sessions known calendar) fun _ _ => True where
  contract := fun t _ => contract t
  inv := fun s => Consistent s.db.contents
  untouched := Untouched
  raises := fun _ _ _ _ _ => trivial
  known := fun _ _ _ _ _ => trivial
  program := fun _ job _ _ untouched => program_keeps recurs job untouched
  allowed := fun _ _ _ _ _ _ _ _ => trivial
  performed := fun _ _ _ _ _ _ _ _ _ consistent guar => ⟨Guar.consistent guar consistent,fun u other =>
    ⟨fun untouched => untouched.rely (Guar.others guar u other),fun _ _ _ _ => Guar.others guar u other⟩⟩
  lost := fun _ _ consistent => ⟨consistent,fun u other =>
    ⟨fun untouched => untouched.rely (rollback_guar.others u other),fun _ _ _ _ => rollback_guar.others u other⟩⟩

end BackupTelebot.Queue.Cursors
