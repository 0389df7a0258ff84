import BackupTelebot.RunSnapshot
import BackupTelebot.Sessions
import BackupTelebot.System
import BackupTelebot.Transactions

/-! The profile in a delivery attempt, among the transactions of schedulers and operators.
The caption takes its next run from a profile object. For a run with a configuration
snapshot no session holds that object; for an older run it is the session's own. -/
namespace BackupTelebot.Attempts

open PyJson Interleave Transactions

abbrev RunId := Nat
abbrev ProfileId := Nat

/-- `κ` stands for the columns that an attempt only reads. -/
structure BackupProfile (κ : Type) where
  nextScheduledAt : Option Time
  updatedAt : Time
  columns : κ
  deriving DecidableEq, Repr

abbrev Table (κ : Type) := ProfileId → Option (BackupProfile κ)

structure Case where
  setup : Setup
  profileId : ProfileId
  configurationSnapshot : Option Str
  agrees : configurationSnapshot.isSome = setup.snapshotAdmins.isSome

/-- A session's object of a profile: the row as it was loaded or last written, and what the
attribute of the cursor says now. -/
structure Held (κ : Type) where
  id : ProfileId
  row : BackupProfile κ
  nextScheduledAt : Option Time

namespace Held

variable {κ : Type}

def load (id : ProfileId) (row : BackupProfile κ) : Held κ := ⟨id,row,row.nextScheduledAt⟩

/-- A column is written only when its value differs from the loaded one. -/
def dirty (held : Held κ) : Bool := held.nextScheduledAt ≠ held.row.nextScheduledAt

def written (held : Held κ) (now : Time) (row : BackupProfile κ) : BackupProfile κ :=
  { row with nextScheduledAt := held.nextScheduledAt, updatedAt := now }

end Held

/-- The profiles, the objects that sessions hold of them, and the worlds of the runs.
`settled` are the rows as schedulers and operators last committed them; nobody reads it. -/
structure Control (κ : Type) where
  db : Db (Table κ) ProfileId Empty
  settled : Table κ
  held : Nat → Option (Held κ)
  world : RunId → World

inductive Point where
  | load
  | loadProfile
  | readCursor (p : ProfileId) (reference : Time) (live : Bool)
  | deliver (point : BackupTelebot.Point)
  | write (p : ProfileId)
  | commit
  | meanwhile
  | rollback
  deriving DecidableEq, Repr

variable {κ : Type}

abbrev Proc (κ α : Type) := Prog Point Answer (Control κ) Exc α

namespace Control

/-- The session's flush can take the lock that it needs. -/
def flushable (s : Control κ) (t : Nat) : Bool := (s.held t).all fun held => !held.dirty || s.db.free t held.id

/-- `session.flush()`, as far as the profile goes. -/
def flush (s : Control κ) (t : Nat) (now : Time) : Control κ :=
  match s.held t with
  | none => s
  | some held =>
    if held.dirty then
      { s with
        db := (s.db.lock t held.id).write t fun table =>
          Function.update table held.id ((table held.id).map (held.written now))
        held := Function.update s.held t (some (.load held.id (held.written now held.row))) }
    else s

def commit (s : Control κ) (t : Nat) : Control κ := { s with db := s.db.commit t }

def assign (s : Control κ) (t : Nat) (cursor : Option Time) : Control κ :=
  { s with held := Function.update s.held t ((s.held t).map fun held => { held with nextScheduledAt := cursor }) }

def setWorld (s : Control κ) (id : RunId) (world : World) : Control κ :=
  { s with world := Function.update s.world id world }

/-- An object that the session holds already is not loaded again. -/
def remember (s : Control κ) (t : Nat) (p : ProfileId) : Control κ :=
  match s.held t, s.db.sees t p with
  | none, some row => { s with held := Function.update s.held t (some (.load p row)) }
  | _, _ => s

end Control

/-- What an operation of the attempt has to do with the database. -/
inductive Traffic where
  | nothing
  | query
  | commits
  deriving DecidableEq

def traffic : BackupTelebot.Point → Traffic
  | .verifyArtifacts | .send | .sendResult | .removeSpool => .nothing
  | .createDeliveries | .maxAttempts | .skipRevoked | .startPart | .recordFailure | .acknowledge | .succeeded
  | .settle | .clearPending => .commits
  | _ => .query

/-- Every query and every commit flushes first, and what raises does not commit. -/
def Control.pass (s : Control κ) (t : Nat) (now : Time) (succeeds : Bool) : Traffic → Control κ
  | .nothing => s
  | .query => s.flush t now
  | .commits => if succeeds then (s.flush t now).commit t else s.flush t now

def succeeds {α : Type} : BackupTelebot.Proc α → Bool
  | .ret (.error _) => false
  | _ => true

/-- A part of the attempt, which looks at the world of its run only, in a session that may
hold a profile. -/
def within {α : Type} (t : Nat) (id : RunId) : BackupTelebot.Proc α → Proc κ α
  | .ret result => .ret result
  | .act point guard effect next raised =>
      .act (.deliver point)
        (fun s => guard (s.world id) && (traffic point = .nothing || s.flushable t))
        (fun i s =>
          (s.pass t (s.world id).now (succeeds (next { i with fault := none } (s.world id))) (traffic point)).setWorld id
            (effect i (s.world id)))
        (fun i s => within t id (next i (s.world id)))
        (fun e => within t id (raised e))

def valueError : Exc := .failure (.builtin "ValueError")

/-- The live profile of an older run, and the time when it is there. -/
def liveProfile (t : Nat) (id : RunId) (p : ProfileId) : Proc κ Time :=
  Prog.statement Answer.fault .loadProfile (fun _ => true) (fun _ s => s.remember t p)
    (fun _ s => match s.db.sees t p with
      | some _ => .ok (s.world id).now
      | none => .error valueError)

/-- The profile for the captions, the time at which its cursor is asked for, and whether it
is an object of the session. -/
def profileFor (t : Nat) (id : RunId) (case : Case) (now : Time) : Proc κ (Time × Bool) :=
  match case.configurationSnapshot with
  | some snapshot =>
    match Config.restoreRunConfig case.setup.os snapshot with
    | .error _ => throw valueError
    | .ok _ => return (now,false)
  | none => do
      let now ← liveProfile t id case.profileId
      return (now,true)

/-- What `_refresh_next_scheduled_at` assigns: a cursor that is not due. -/
def upcoming (table : Table κ) (p : ProfileId) (reference : Time) : Option Time :=
  ((table p).bind BackupProfile.nextScheduledAt).filter (reference < ·)

def refreshNextScheduledAt (t : Nat) (p : ProfileId) (reference : Time) (live : Bool) : Proc κ Unit :=
  Prog.statement Answer.fault (.readCursor p reference live) (fun _ => true)
    (fun _ s => if live then s.assign t (upcoming (s.db.sees t) p reference) else s) (fun _ _ => .ok ())

/-- The rest of `attempt`, once the captions have their profile. -/
def deliver (c : Setup) (owner : Option Owner) (run : Orm) (recorded : Path × Str × Int × Str) :
    BackupTelebot.Proc Unit := do
  let artifacts ← verifyArtifacts c recorded
  let users ← selectUsers c
  let selected := selectedIds users
  let loaded ← look .loadDeliveries fun s => .ok s.deliveries
  let deliveries ← createDeliveries selected loaded
  let (run,_) ← boundary .fence owner run
  let session ← serveAll c ⟨owner,artifacts,users⟩ selected
    ⟨run.assign fun r => { r with stage := .telegramDelivery },deliveries⟩
  match ← settle c owner session with
  | .released => return ()
  | .lost => do
      let _ ← boundary .fence owner session.run
      throw .leaseLost
  | .finished status => do
      let run ← look .refreshFinished fun s => .ok (Orm.load s.run)
      if status = .failed then return () else removeDelivered c run

/-- The attempt without its profile is the one that looks at the run alone. -/
theorem attempt_eq (c : Setup) (run : Orm) : BackupTelebot.attempt c run = (do
    let (run',_) ← boundary .fence run.cur.leaseOwner run
    match recordedArtifact run'.cur with
    | none => throw valueError
    | some recorded => deliver c run.cur.leaseOwner run' recorded) := rfl

def attempt (t : Nat) (id : RunId) (case : Case) (run : Orm) : Proc κ Unit := do
  let owner := run.cur.leaseOwner
  let (run,now) ← within t id (boundary .fence owner run)
  match recordedArtifact run.cur with
  | none => throw valueError
  | some recorded => do
    let (now,live) ← profileFor t id case now
    refreshNextScheduledAt t case.profileId now live
    within t id (deliver case.setup owner run recorded)

def load (t : Nat) (id : RunId) (p : ProfileId) : Proc κ Orm :=
  Prog.statement Answer.fault .load (fun _ => true) (fun _ s => s.remember t p)
    (fun _ s => .ok (Orm.load (s.world id).run))

/-- A transaction of a scheduler or an operator: it locks rows, one after the other, and
changes them. -/
abbrev Changes (κ : Type) := List (ProfileId × (Option (BackupProfile κ) → Option (BackupProfile κ)))

def writeRows (t : Nat) : Changes κ → Proc κ Unit
  | [] => return ()
  | (p,f) :: rest => do
      Prog.statement Answer.fault (.write p) (fun s => s.db.free t p)
        (fun _ s => { s with
          db := (s.db.lock t p).write t fun table => Function.update table p (f (table p)) }) (fun _ _ => .ok ())
      writeRows t rest

def commitRows (t : Nat) : Proc κ Unit :=
  Prog.statement Answer.fault .commit (fun _ => true)
    (fun _ s => { s with db := s.db.commit t, settled := s.db.draft t s.settled }) (fun _ _ => .ok ())

inductive Job (κ : Type) where
  | attempt (id : RunId)
  | transaction (changes : Changes κ)
  /-- Whatever else happens to a run, to its deliveries and to its recipients. -/
  | meanwhile (id : RunId) (change : World → World)

def Job.body (case : RunId → Case) (t : Nat) : Job κ → Proc κ Unit
  | .attempt id => do
      let run ← load t id (case id).profileId
      Attempts.attempt t id (case id) run
  | .transaction changes => do
      writeRows t changes
      commitRows t
  | .meanwhile id change =>
      Prog.statement Answer.fault .meanwhile (fun _ => true) (fun _ s => s.setWorld id (change (s.world id)))
        (fun _ _ => .ok ())

def rollback (t : Nat) (s : Control κ) : Control κ := { s with db := s.db.rollback t }

/-- A session that is left by an exception rolls back. -/
def Job.program (case : RunId → Case) (t : Nat) (job : Job κ) : Proc κ Unit :=
  (job.body case t).handle fun e => do
    Prog.statement Answer.fault .rollback (fun _ => true) (fun _ => rollback t) (fun _ _ => .ok ())
    throw e

def sessions (case : RunId → Case) : Sessions Point Answer (Control κ) Exc (Job κ) where
  program := Job.program case
  rollback := rollback

abbrev System (κ : Type) := Sessions.State Point Answer (Control κ) Exc (Job κ)

abbrev Act (κ : Type) := Sessions.Act Answer Exc (Job κ)

abbrev System.control (s : System κ) : Control κ := s.sys.shared

def fresh (table : Table κ) (world : RunId → World) : System κ :=
  Sessions.fresh ⟨⟨table,fun _ => id,fun _ => none,[],[],[]⟩,table,fun _ => none,world⟩

def Initial (s : System κ) : Prop := ∃ table world, s = fresh table world

abbrev Reached (case : RunId → Case) (allowed : System κ → Act κ → Prop) : System κ → Prop :=
  Runs Initial (sessions case).step allowed

/-- No statement of the session writes a profile when it is flushed now. -/
structure Clean (t : Nat) (s : Control κ) : Prop where
  draft : s.db.draft t = id
  held : ∀ held, s.held t = some held → held.dirty = false

structure Rely (t : Nat) (a b : Control κ) : Prop where
  draft : b.db.draft t = a.db.draft t
  held : b.held t = a.held t

structure Guar (t : Nat) (a b : Control κ) : Prop where
  settled : a.db.contents = a.settled → b.db.contents = b.settled
  others : ∀ u, u ≠ t → Rely u a b

/-- Where an attempt is about to read the cursor into the session's object, the cursor is
the one that the object was loaded with, and it is not due. -/
def Current (s : Control κ) (t : Nat) (p : ProfileId) (reference : Time) : Prop :=
  ∀ held, s.held t = some held →
    (s.db.contents p).bind BackupProfile.nextScheduledAt = held.row.nextScheduledAt ∧
      ∀ due, held.row.nextScheduledAt = some due → reference < due

def Steady (s : System κ) (a : Act κ) : Prop :=
  ∀ t i p reference, a = .perform t i → s.sys.pointOf t = some (.readCursor p reference true) →
    Current s.control t p reference

def contract (t : Nat) : Contract Point Answer (Control κ) Exc where
  rely := fun _ => Rely t
  guar := fun _ => Guar t
  allowed := fun point _ s => ∀ p reference, point = .readCursor p reference true → Current s t p reference
  raises := fun _ _ _ => True
  known := fun _ _ _ => True
  refl := fun _ _ => ⟨rfl,rfl⟩
  trans := fun first second => ⟨second.draft.trans first.draft,second.held.trans first.held⟩

section Rules

variable {t : Nat} {a b s : Control κ}

theorem Rely.clean (rely : Rely t a b) (clean : Clean t a) : Clean t b :=
  ⟨rely.draft.trans clean.draft,fun held here => clean.held held (rely.held ▸ here)⟩

theorem Guar.refl (a : Control κ) : Guar t a a := ⟨id,fun _ _ => ⟨rfl,rfl⟩⟩

/-- A step that leaves the committed rows alone. -/
theorem Guar.quiet (contents : b.db.contents = a.db.contents) (settled : b.settled = a.settled)
    (draft : ∀ u, u ≠ t → b.db.draft u = a.db.draft u) (held : ∀ u, u ≠ t → b.held u = a.held u) : Guar t a b :=
  ⟨fun same => by rw [contents,settled,same],fun u other => ⟨draft u other,held u other⟩⟩

theorem flush_of_clean (clean : Clean t s) (now : Time) : s.flush t now = s := by
  unfold Control.flush
  split
  · rfl
  · rename_i held here
    simp [clean.held held here]

/-- A session with nothing to flush commits nothing. -/
theorem commit_clean (clean : Clean t s) : Clean t (s.commit t) ∧ Guar t s (s.commit t) := by
  constructor
  · exact ⟨Function.update_self ..,clean.held⟩
  · refine .quiet ?_ rfl (fun u other => Function.update_of_ne other _ _) fun _ _ => rfl
    simp [Control.commit,Db.commit,Db.sees,clean.draft]

theorem pass_clean (clean : Clean t s) (now : Time) (ends : Bool) (traffic : Traffic) :
    Clean t (s.pass t now ends traffic) ∧ Guar t s (s.pass t now ends traffic) := by
  cases traffic with
  | nothing => exact ⟨clean,.refl s⟩
  | query =>
    rw [Control.pass,flush_of_clean clean]
    exact ⟨clean,.refl s⟩
  | commits =>
    simp only [Control.pass,flush_of_clean clean]
    split
    · exact commit_clean clean
    · exact ⟨clean,.refl s⟩

/-- Whatever a part of the attempt does to its run, it leaves the profiles alone. -/
theorem within_keeps {α : Type} (id : RunId) (p : BackupTelebot.Proc α) (clean : Clean t s) :
    Holds (contract t) (fun _ s => Clean t s) (within t id p) s := by
  induction p generalizing s with
  | ret result => exact clean
  | act point guard effect next raised ihNext ihRaised =>
    intro s' rely
    have clean' := rely.clean clean
    refine ⟨fun _ i _ _ => ?_,fun e _ => ihRaised e clean'⟩
    obtain ⟨after,guar⟩ := pass_clean clean' (s'.world id).now
      (succeeds (next { i with fault := none } (s'.world id))) (traffic point)
    exact ⟨⟨guar.settled,fun u other => ⟨(guar.others u other).draft,(guar.others u other).held⟩⟩,
      ihNext i (s'.world id) ⟨after.draft,after.held⟩⟩

theorem within_spec {α : Type} (id : RunId) (p : BackupTelebot.Proc α) :
    Keeps (contract t) (Clean t) (fun _ => Clean t) (within (κ := κ) t id p) := by
  intro s clean
  apply Holds.mono ?_ (within_keeps id p clean)
  rintro (e | value) s' h
  · trivial
  · exact h

theorem remember_keeps (clean : Clean t s) (p : ProfileId) : Clean t (s.remember t p) ∧ Guar t s (s.remember t p) := by
  unfold Control.remember
  split
  · refine ⟨⟨clean.draft,fun held here => ?_⟩,.quiet rfl rfl (fun _ _ => rfl) fun u other => Function.update_of_ne other _ _⟩
    simp only [Function.update_self,Option.some.injEq] at here
    subst here
    simp [Held.load,Held.dirty]
  · exact ⟨clean,.refl s⟩

/-- The cursor that is read is the one that the object was loaded with. -/
theorem assign_keeps (clean : Clean t s) {p : ProfileId} {reference : Time} (current : Current s t p reference) :
    Clean t (s.assign t (upcoming (s.db.sees t) p reference)) ∧
      Guar t s (s.assign t (upcoming (s.db.sees t) p reference)) := by
  refine ⟨⟨clean.draft,fun held here => ?_⟩,.quiet rfl rfl (fun _ _ => rfl) fun u other => Function.update_of_ne other _ _⟩
  simp only [Control.assign,Function.update_self,Option.map_eq_some_iff] at here
  obtain ⟨before,there,rfl⟩ := here
  obtain ⟨same,future⟩ := current before there
  have sees : s.db.sees t = s.db.contents := by simp [Db.sees,clean.draft]
  have kept : upcoming (s.db.sees t) p reference = before.row.nextScheduledAt := by
    rw [upcoming,sees,same]
    cases due : before.row.nextScheduledAt with
    | none => rfl
    | some time => simp [Option.filter,future time due]
  simp [Held.dirty,kept]

theorem attempt_spec (id : RunId) (case : Case) (run : Orm) :
    Keeps (contract t) (Clean t) (fun _ _ => True) (attempt (κ := κ) t id case run) := by
  unfold attempt
  apply (within_spec id _).bind
  rintro ⟨run',now⟩
  dsimp only
  cases recordedArtifact run'.cur with
  | none => exact Keeps.throw _
  | some recorded =>
    apply Keeps.bind (M := fun _ => Clean t)
    · unfold profileFor
      split
      · split
        · exact Keeps.throw _
        · exact Keeps.pure fun _ clean => clean
      · apply Keeps.bind (M := fun _ => Clean t)
        · apply Keeps.statement fun a b (rely : Rely t a b) clean => rely.clean clean
          intro s i clean _ _
          exact ⟨(remember_keeps clean _).2,fun _ _ => (remember_keeps clean _).1⟩
        · exact fun _ => Keeps.pure fun _ clean => clean
    rintro ⟨now,live⟩
    apply Keeps.bind (M := fun _ => Clean t)
    · apply Keeps.statement fun a b (rely : Rely t a b) clean => rely.clean clean
      intro s i clean _ current
      cases live with
      | false => exact ⟨.refl s,fun _ _ => clean⟩
      | true =>
        obtain ⟨after,guar⟩ := assign_keeps clean (current _ _ rfl)
        exact ⟨guar,fun _ _ => after⟩
    intro _ s clean
    exact Holds.mono (fun result s' _ => by cases result <;> trivial) (within_keeps id _ clean)

theorem writeRows_spec (changes : Changes κ) :
    Keeps (contract t) (fun _ => True) (fun _ _ => True) (writeRows t changes) := by
  induction changes with
  | nil => exact Keeps.pure fun _ h => h
  | cons change rest ih =>
    apply Keeps.bind (M := fun _ _ => True)
    · apply Keeps.statement fun _ _ _ h => h
      exact fun s _ _ _ _ => ⟨.quiet rfl rfl (fun u other => Function.update_of_ne other _ _) fun _ _ => rfl,fun _ _ => trivial⟩
    · exact fun _ => ih

/-- A commit of the others is what settles. -/
theorem commitRows_spec : Keeps (contract t) (fun _ => True) (fun _ _ => True) (commitRows (κ := κ) t) := by
  apply Keeps.statement fun _ _ _ h => h
  intro s _ _ _ _
  refine ⟨⟨fun same => ?_,fun u other => ⟨Function.update_of_ne other _ _,rfl⟩⟩,fun _ _ => trivial⟩
  simp [Db.commit,Db.sees,same]

theorem program_keeps (case : RunId → Case) (job : Job κ) (clean : Clean t s) :
    Holds (contract t) (fun _ _ => True) (job.program case t) s := by
  have body : Keeps (contract t) (Clean t) (fun _ _ => True) (job.body case t) := by
    cases job with
    | attempt id =>
      apply Keeps.bind (M := fun _ => Clean t)
      · apply Keeps.statement fun a b (rely : Rely t a b) clean => rely.clean clean
        intro s i clean _ _
        exact ⟨(remember_keeps clean _).2,fun _ _ => (remember_keeps clean _).1⟩
      · exact fun run => attempt_spec id (case id) run
    | transaction changes =>
      exact fun s _ => (writeRows_spec changes).bind (fun _ => commitRows_spec) s trivial
    | meanwhile id change =>
      apply Keeps.statement fun a b (rely : Rely t a b) clean => rely.clean clean
      exact fun s _ _ _ _ => ⟨⟨fun same => same,fun _ _ => ⟨rfl,rfl⟩⟩,fun _ _ => trivial⟩
  apply body.handled ?_ clean
  apply Keeps.statement fun _ _ _ h => h
  exact fun s _ _ _ _ => ⟨.quiet rfl rfl (fun u other => Function.update_of_ne other _ _) fun _ _ => rfl,fun _ _ => trivial⟩

end Rules

def discipline (case : RunId → Case) : (sessions (κ := κ) case).Discipline Steady where
  contract := fun t _ => contract t
  inv := fun s => s.db.contents = s.settled
  untouched := fun t s => s.db.draft t = id ∧ s.held t = none
  raises := fun _ _ _ _ _ => trivial
  known := fun _ _ _ _ _ => trivial
  program := by
    intro t job s _ untouched
    apply program_keeps case job
    exact ⟨untouched.1,fun held here => by rw [untouched.2] at here; cases here⟩
  allowed := by
    intro s t i point job steady waits _ p reference same
    subst same
    exact steady t i p reference rfl waits
  performed := by
    intro s t i point job after _ _ _ inv guar
    refine ⟨guar.settled inv,fun u other => ⟨fun untouched => ?_,fun _ _ _ _ => guar.others u other⟩⟩
    exact ⟨(guar.others u other).draft.trans untouched.1,(guar.others u other).held.trans untouched.2⟩
  lost := by
    intro s t inv
    refine ⟨inv,fun u other => ?_⟩
    have same : (rollback t s.sys.shared).db.draft u = s.sys.shared.db.draft u := Function.update_of_ne other _ _
    exact ⟨fun untouched => ⟨same.trans untouched.1,untouched.2⟩,fun _ _ _ _ => ⟨same,rfl⟩⟩

/-- In every run in which each cursor that is read into a session's object is the one that
the object has, and not due, the profiles are as schedulers and operators left them. -/
theorem delivery_keepsSchedules (case : RunId → Case) {s : System κ} (run : Reached case Steady s) :
    s.control.db.contents = s.control.settled := by
  have start : ∀ s : System κ, Initial s → (discipline case).Coherent s := by
    rintro s ⟨table,world,rfl⟩
    exact Sessions.Discipline.coherent_fresh rfl fun _ => ⟨rfl,rfl⟩
  exact (Sessions.Discipline.coherent_of_runs start run).inv

/-- What `Steady` asks of one step, evaluated. -/
def steady (s : System κ) : Act κ → Bool
  | .perform t _ =>
    match s.sys.pointOf t with
    | some (.readCursor p reference true) => (s.control.held t).all fun held =>
        (s.control.db.contents p).bind BackupProfile.nextScheduledAt = held.row.nextScheduledAt &&
          held.row.nextScheduledAt.all fun due => reference < due
    | _ => true
  | _ => true

theorem steady_of_test (s : System κ) (a : Act κ) (h : steady s a = true) : Steady s a := by
  rintro t i p reference rfl waits held here
  simp only [steady,waits,here,Option.all_some,Bool.and_eq_true,decide_eq_true_eq,Option.all_eq_true] at h
  exact h

def smallCase : Case := ⟨smallSetup,0,none,rfl⟩

/-- The first upload fails for good, an operator resumes the run, and a worker claims it. -/
def resumed : List BackupTelebot.Act :=
  [.claim 0 7 true] ++ BackupTelebot.performs 0 49 ++ [.fails 0 (.builtin "ValueError" .permanent)] ++
    BackupTelebot.performs 0 2 ++ [.request 1 .retry] ++ BackupTelebot.performs 1 2 ++ [.claim 2 8 true]

def resumedWorld : World := ((BackupTelebot.System.follow smallSetup resumed BackupTelebot.smallStart).getD BackupTelebot.smallStart).world

def performs (t n : Nat) : List (Act Unit) := List.replicate n (.perform t plainAnswer)

def smallTable (cursor : Time) : Table Unit := fun p => if p = 0 then some ⟨some cursor,0,()⟩ else none

def smallStart (cursor : Time) : System Unit := fresh (smallTable cursor) fun _ => resumedWorld

theorem smallStart_initial (cursor : Time) : Initial (smallStart cursor) := ⟨_,_,rfl⟩

def ticked (cursor : Time) : Changes Unit := [(0,fun row => row.map fun row => { row with nextScheduledAt := some cursor })]

/-- The attempt of the run delivers everything, between two ticks. -/
theorem delivery_keepsSchedules_small : ∃ s : System Unit, Reached (fun _ => smallCase) Steady s ∧
    (s.control.world 0).run.status = .succeeded ∧ s.control.settled 0 = some ⟨some 11,0,()⟩ ∧
    s.control.db.contents = s.control.settled := by
  obtain ⟨s,reached,passed⟩ := Runs.exists_of_checked (sessions fun _ => smallCase).step
    ([.start 1 (.transaction (ticked 10))] ++ performs 1 2 ++ [.start 0 (.attempt 0)] ++ performs 0 4 ++
      [.start 2 (.transaction (ticked 11))] ++ performs 2 2 ++ performs 0 21)
    (fun (s : System Unit) => (s.control.world 0).run.status = .succeeded && s.control.settled 0 = some ⟨some 11,0,()⟩)
    steady_of_test (smallStart_initial 9) (by decide +kernel)
  simp only [Bool.and_eq_true,decide_eq_true_eq] at passed
  exact ⟨s,reached,passed.1,passed.2,delivery_keepsSchedules _ reached⟩

/-- The cursor is due when the caption asks for it: the attempt writes it off, and the
scheduler has nothing left to run. -/
theorem delivery_clearsCursor :
    (∃ r, BackupTelebot.Reached smallSetup (fun _ _ => True) r ∧ r.world = resumedWorld ∧
      r.row.status = .deliveryPending) ∧
    ∃ s, Reached (fun _ => smallCase) (fun _ _ => True) s ∧ s.control.settled 0 = some ⟨some 0,0,()⟩ ∧
      s.control.db.contents 0 = some ⟨none,0,()⟩ := by
  constructor
  · have passes : (BackupTelebot.System.follow smallSetup resumed BackupTelebot.smallStart).any
        (fun r => r.row.status = .deliveryPending) = true := by decide +kernel
    obtain ⟨r,done,passed⟩ := (Option.any_eq_true _ _).mp passes
    have free : Runs.Permitted (BackupTelebot.System.step smallSetup) (fun _ _ => True) resumed BackupTelebot.smallStart :=
      Runs.permitted_of_forall (fun _ _ => trivial) resumed _
    refine ⟨r,Runs.of_follow (.start BackupTelebot.smallStart_initial) free done,?_,by simpa using passed⟩
    rw [resumedWorld,done,Option.getD_some]
  · obtain ⟨s,reached,passed⟩ := Runs.exists_of_follow (sessions fun _ => smallCase).step
      ([.start 0 (.attempt 0)] ++ performs 0 10)
      (fun (s : System Unit) => s.control.settled 0 = some ⟨some 0,0,()⟩ && s.control.db.contents 0 = some ⟨none,0,()⟩)
      (smallStart_initial 0) (by decide +kernel)
    simp only [Bool.and_eq_true,decide_eq_true_eq] at passed
    exact ⟨s,reached,passed.1,passed.2⟩

end BackupTelebot.Attempts
