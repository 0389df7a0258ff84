import BackupTelebot.LockOrder
import BackupTelebot.Timezone

/-! The locks of the configuration: the row of the settings, the rows of profiles and the
rows of servers, as the scheduler, the edits, the requests for runs and the assignments of
administrators take them. Everybody takes them in this order, and several profiles only in
the order in which one statement meets them. -/
namespace BackupTelebot.Queue.ConfigurationLocks

open PyJson Interleave Transactions

variable {κ : Type}

/-- A new source refers to its server: the foreign key keeps the row from being locked for
an update. -/
def referenceServer (t : Nat) (source : Source κ) : Proc κ Unit :=
  match source.remoteServerId with
  | none => return ()
  | some id => do
      let _ ← lockServer t id
      return ()

/-- `update_configuration`, with the lock of the server that the new source refers to. -/
def updateConfiguration (calendar : Calendar κ) (t : Nat) (p : ProfileId) (u : ConfigurationUpdate κ) : Proc κ Unit := do
  let timezone ← lockSettings t
  let profile ← active t p
  reserve t p
  let (old,now) ← stmt .loadSource (fun _ => true) (fun _ s => s) (fun i s => .ok ((s.sees t).source p,i.now))
  match profile.configured calendar u now (timezone.getD []) with
  | .error e => throw e
  | .ok row => do
    let source := u.source old
    referenceServer t source
    flush t fun c =>
      ((c.setProfile p row).setSource p (some source)
        (if source.type = .filesDirectories then u.paths else [])).replaceForProfile p u.adminIds
    commit t

/-- `AdminService.assign`: the update locks the rows of the profiles that it names as it meets them. -/
def assign (t : Nat) (admin : AdminId) (profiles : List ProfileId) : Proc κ Unit := do
  let previous ← ask .loadAccess fun s => .ok (((s.sees t).access.filter (·.2 = admin)).map Prod.fst)
  let order ← stmt .select (fun _ => true) (fun _ s => s) (fun i _ => .ok i.scan)
  reserveAll t (order.filter ((previous ++ profiles).contains ·))
  flush t fun c => c.replaceForAdmin admin profiles
  commit t

inductive Job (κ : Type) where
  | tick (now : Time) (timezone : Str)
  | setBackupTimezone (now : Time) (timezone : Str)
  | manual (p : ProfileId)
  | retry (run : RunId)
  | updateConfiguration (p : ProfileId) (u : ConfigurationUpdate κ)
  | edit (p : ProfileId) (columns : κ → κ) (enabled : Option Bool)
  | assignAdmins (p : ProfileId) (admins : List AdminId)
  | assign (admin : AdminId) (profiles : List ProfileId)
  | updateServer (id : ServerId) (change : κ → κ)
  | progress (id : RunId) (status : RunStatus)

def Job.body (known : Str → Bool) (calendar : Calendar κ) (t : Nat) : Job κ → Proc κ Unit
  | .tick now timezone => do let _ ← Queue.tick calendar t now timezone; return ()
  | .setBackupTimezone now timezone => Timezones.setBackupTimezone known calendar t now timezone
  | .manual p => do let _ ← enqueueManual t p; return ()
  | .retry run => retryFailed t run
  | .updateConfiguration p u => ConfigurationLocks.updateConfiguration calendar t p u
  | .edit p columns enabled => Queue.edit calendar t p columns enabled
  | .assignAdmins p admins => Queue.assignAdmins t p admins
  | .assign admin profiles => ConfigurationLocks.assign t admin profiles
  | .updateServer id change => Queue.updateServer t id change
  | .progress id status => Timezones.progress id status

def Job.program (known : Str → Bool) (calendar : Calendar κ) (t : Nat) (job : Job κ) : Proc κ Unit :=
  (job.body known calendar t).handle fun e => do
    stmt .rollback (fun _ => true) (fun _ => Timezones.rollback t) (fun _ _ => .ok ())
    throw e

def sessions (known : Str → Bool) (calendar : Calendar κ) : Sessions Point Reply (Control κ) Failure (Job κ) where
  program := Job.program known calendar
  rollback := Timezones.rollback

def locking : Locking (Control κ) Key where
  holder := fun s => s.db.holder
  release := fun k s => { s with db := { s.db with holder := Function.update s.db.holder k none } }

/-- A session notes the order in which its statement locks several profiles, while it does. It
waits for the settings before anything else, for a profile while it has at most the
settings and profiles that come earlier in the order, and for a server while it has no
other server or has the settings. -/
def manners : Locking.Manners Point Reply Key (List ProfileId) where
  blank := []
  note := fun point i order =>
    match point with
    | .select => i.scan
    | .scan _ | .reserve _ => order
    | _ => []
  fine := fun v k =>
    match k with
    | .settings => v.held = ∅
    | .profile p => (∀ id, .server id ∉ v.held) ∧ ∀ q, .profile q ∈ v.held → [q,p].Sublist v.notes
    | .server id => .server id ∉ v.held ∧ ∀ id', .server id' ∈ v.held → .settings ∈ v.held

abbrev System (κ : Type) := Locking.Noted Point Reply (Control κ) Failure (Job κ) (List ProfileId)

abbrev Act (κ : Type) := Sessions.Act Reply Failure (Job κ)

abbrev System.control (s : System κ) : Control κ := s.state.sys.shared

def fresh (contents : Contents κ) : System κ :=
  Locking.Noted.fresh manners ⟨⟨contents,fun _ => id,fun _ => none,[],[],[contents]⟩,0,fun _ _ => none,fun _ => []⟩

def Initial (s : System κ) : Prop := ∃ contents, s = fresh contents

abbrev step (known : Str → Bool) (calendar : Calendar κ) : System κ → Act κ → Option (System κ) :=
  Locking.Noted.step manners (sessions known calendar)

abbrev Reached (known : Str → Bool) (calendar : Calendar κ) (allowed : System κ → Act κ → Prop) : System κ → Prop :=
  Runs Initial (step known calendar) allowed

def Ascending (rank : ProfileId → Nat) (order : List ProfileId) : Prop := order.Pairwise fun p q => rank p < rank q

/-- A statement that is about to lock several profiles meets them in an order that agrees
with those of the statements which others have begun. -/
def Agreed (s : System κ) (a : Act κ) : Prop :=
  ∀ t i, a = .perform t i → s.sys.pointOf t = some .select →
    ∃ rank, Ascending rank i.scan ∧ ∀ u, u ≠ t → s.sys.pointOf u ≠ none → Ascending rank (s.notes u)

section Statements

variable {t : Nat} {α : Type} {s : Control κ}

abbrev View := Locking.View Key (List ProfileId)

abbrev Asks (t : Nat) (P : View → Prop) (Q : α → View → Prop) (p : Proc κ α) : Prop := locking.Asks manners t P Q p

theorem mem_own {k : Key} : k ∈ locking.own t s ↔ s.db.holder k = some t := Iff.rfl

theorem blocks_free {k key : Key} (blocks : locking.Blocks s k fun s => s.db.free t key) :
    k = key ∧ key ∉ locking.own t s := by
  obtain ⟨closed,opened⟩ := blocks
  dsimp only at closed opened
  by_cases same : k = key
  · refine ⟨same,fun own => ?_⟩
    rw [Db.free_iff.mpr (.inr own)] at closed
    cases closed
  · have unchanged : (locking.release k s).db.free t key = s.db.free t key := by
      simp only [locking,Db.free,Function.update_of_ne (Ne.symm same)]
    rw [unchanged,closed] at opened
    cases opened

theorem own_lock {k : Key} (open_ : s.db.free t k = true) :
    locking.own t { s with db := s.db.lock t k } = insert k (locking.own t s) ∧
      ∀ u, u ≠ t → locking.own u { s with db := s.db.lock t k } = locking.own u s := by
  constructor
  · ext k'
    simp only [mem_own,Db.lock,Function.update_apply,Set.mem_insert_iff]
    split
    · simp [*]
    · simp [*]
  · intro u other
    ext k'
    simp only [mem_own,Db.lock,Function.update_apply]
    split
    · rename_i same
      subst same
      rcases Db.free_iff.mp open_ with none_ | own
      · simp [none_,other.symm]
      · simp [own]
    · rfl

theorem own_lockRow {p : ProfileId} (open_ : s.db.free t (.profile p) = true) :
    locking.own t (s.lockRow t p) =
        (if ((s.sees t).profile p).isSome then insert (.profile p) (locking.own t s) else locking.own t s) ∧
      ∀ u, u ≠ t → locking.own u (s.lockRow t p) = locking.own u s := by
  unfold Control.lockRow
  split
  · exact own_lock open_
  · exact ⟨rfl,fun _ _ => rfl⟩

/-- A transaction that ends drops its locks. -/
theorem own_release {s' : Control κ} (released : s'.db.holder = s.db.release t) :
    locking.own t s' = ∅ ∧ ∀ u, u ≠ t → locking.own u s' = locking.own u s := by
  constructor
  · apply Set.eq_empty_of_forall_notMem
    intro k own
    rw [mem_own,released,Db.release] at own
    split at own
    · cases own
    · contradiction
  · intro u other
    ext k
    rw [mem_own,mem_own,released,Db.release]
    split
    · rename_i own
      simp [own,other.symm]
    · rfl

section Rules

variable {P : View → Prop} {Q : α → View → Prop} {point : Point} {guard : Control κ → Bool}
variable {effect : Reply → Control κ → Control κ} {result : Reply → Control κ → Except Failure α}

/-- A statement that has nothing to do with locks. -/
theorem Asks.still (free : ∀ s k, guard (locking.release k s) = guard s) (holder : ∀ i s, (effect i s).db.holder = s.db.holder)
    (returns : ∀ v s i value, P v → result i s = .ok value → Q value ⟨manners.note point i v.notes,v.held⟩) :
    Asks t P Q (stmt point guard effect result) := by
  rw [Timezones.stmt_eq]
  apply Locking.Asks.statement
  · intro v s k _ _ blocks
    obtain ⟨closed,opened⟩ := blocks
    rw [free,closed] at opened
    cases opened
  · intro v s i here held _
    have same (u : Nat) : locking.own u (effect i s) = locking.own u s := by
      ext k
      rw [mem_own,mem_own,holder]
    refine ⟨fun u _ => same u,fun value returned => ?_⟩
    rw [same,held]
    exact returns v s i value here returned

/-- A statement that asks for one lock. -/
theorem Asks.locks {k : Key} (fine : ∀ v, P v → k ∉ v.held → manners.fine v k)
    (own : ∀ i s, s.db.free t k = true → ∀ u, u ≠ t → locking.own u (effect i s) = locking.own u s)
    (returns : ∀ v s i value, P v → locking.own t s = v.held → s.db.free t k = true → result i s = .ok value →
      Q value ⟨manners.note point i v.notes,locking.own t (effect i s)⟩) :
    Asks t P Q (stmt point (fun s => s.db.free t k) effect result) := by
  rw [Timezones.stmt_eq]
  apply Locking.Asks.statement
  · intro v s k' here held blocks
    obtain ⟨rfl,unowned⟩ := blocks_free blocks
    exact fine v here (held ▸ unowned)
  · intro v s i here held open_
    exact ⟨own i s open_,fun value => returns v s i value here held open_⟩

/-- The end of the transaction. -/
theorem Asks.ends (released : ∀ i s, (effect i s).db.holder = s.db.release t)
    (returns : ∀ i value (notes : List ProfileId), Q value ⟨manners.note point i notes,∅⟩) :
    Asks t P Q (stmt point (fun _ => true) effect result) := by
  rw [Timezones.stmt_eq]
  apply Locking.Asks.statement
  · intro v s k _ _ blocks
    cases blocks.1
  · intro v s i _ _ _
    obtain ⟨own,others⟩ := own_release (released i s)
    rw [own]
    exact ⟨others,fun value _ => returns i value v.notes⟩

end Rules

end Statements

section Programs

variable {t : Nat} {α : Type}

def Holding (H : Set Key → Prop) (v : View) : Prop := H v.held

def Upward (H : Set Key → Prop) : Prop := ∀ a b, a ⊆ b → H a → H b

theorem Asks.looks {H : Set Key → Prop} {point : Point} {guard : Control κ → Bool} {effect : Reply → Control κ → Control κ}
    {result : Reply → Control κ → Except Failure α} (free : ∀ s k, guard (locking.release k s) = guard s)
    (holder : ∀ i s, (effect i s).db.holder = s.db.holder) :
    Asks t (Holding H) (fun _ => Holding H) (stmt point guard effect result) :=
  Asks.still free holder fun _ _ _ _ here _ => here

theorem ask_asks {H : Set Key → Prop} {point : Point} {result : Control κ → Except Failure α} :
    Asks t (Holding H) (fun _ => Holding H) (ask point result) := Asks.looks (fun _ _ => rfl) fun _ _ => rfl

theorem commit_asks {P : View → Prop} : Asks t P (fun _ => Holding (· = ∅)) (Queue.commit (κ := κ) t) :=
  Asks.ends (fun _ _ => rfl) fun _ _ _ => rfl

theorem insertRow_asks {H : Set Key → Prop} (point : Point) (row : RunId → Run κ) :
    Asks t (Holding H) (fun _ => Holding H) (insertRow point t row) := by
  apply Asks.looks
  · exact fun _ _ => rfl
  · intro i s
    dsimp only
    split
    · rfl
    · rfl

theorem existingSlot_asks {H : Set Key → Prop} (p : ProfileId) (trigger : RunTrigger) (scheduledFor : Option Time) :
    Asks t (Holding H) (fun _ => Holding H) (existingSlot (κ := κ) t p trigger scheduledFor) := by
  unfold existingSlot
  split
  · exact ask_asks
  · exact Locking.Asks.pure fun _ here => here

theorem activeForProfile_asks {H : Set Key → Prop} (p : ProfileId) :
    Asks t (Holding H) (fun _ => Holding H) (activeForProfile (κ := κ) t p) := by
  apply Asks.looks
  · exact fun _ _ => rfl
  · intro i s
    split
    · rfl
    · rfl

section Ends

variable {H : Set Key → Prop} {commits : Bool}

/-- As long as nothing is committed the session keeps what it has. -/
abbrev Unless (commits : Bool) (H : Set Key → Prop) : View → Prop := Holding fun held => commits = false → H held

theorem created_asks (run : Run κ) : Asks t (Holding H) (fun _ => Unless commits H) (created t commits run) := by
  cases commits with
  | false => exact Locking.Asks.pure fun _ here _ => here
  | true => exact commit_asks.bind fun _ => Locking.Asks.pure fun _ _ commits => by cases commits

theorem recordSkipped_asks (p : ProfileId) (scheduledFor : Option Time) :
    Asks t (Holding H) (fun _ => Unless commits H) (recordSkipped (κ := κ) t p scheduledFor commits) := by
  apply (insertRow_asks _ _).bind
  rintro (_ | skipped)
  · apply (existingSlot_asks p .scheduled scheduledFor).bind
    rintro (_ | run)
    · exact Locking.Asks.throw _
    · exact Locking.Asks.pure fun _ here _ => here
  · exact created_asks skipped

theorem whenActive_asks (p : ProfileId) (trigger : RunTrigger) (scheduledFor : Option Time) (active : Run κ) :
    Asks t (Holding H) (fun _ => Unless commits H) (whenActive t p trigger scheduledFor commits active) := by
  cases trigger with
  | manual => exact Locking.Asks.pure fun _ here _ => here
  | scheduled => exact recordSkipped_asks p scheduledFor

/-- What a session that queues a run of the profile has locked: the profile with the settings, or nothing. -/
def Ready (p : ProfileId) (held : Set Key) : Prop := Key.profile p ∈ held ∧ Key.settings ∈ held ∨ held = ∅

def Served (held : Set Key) : Prop := ∀ id, Key.server id ∈ held → Key.settings ∈ held

theorem selectForUpdate_asks (up : Upward H) (p : ProfileId) :
    Asks t (Holding fun held => Ready p held ∧ H held)
      (fun found => Holding fun held => found.isSome = true → Served held ∧ H held) (selectForUpdate (κ := κ) t p) := by
  apply Asks.locks
  · intro v here unowned
    rcases here.1 with both | none_
    · exact absurd both.1 unowned
    · constructor
      · simp [none_]
      · simp [none_]
  · intro i s open_ u other
    split
    · exact (own_lockRow open_).2 u other
    · rfl
  · intro v s i found here held open_ returned isSome
    cases seen : (s.sees t).profile p with
    | none =>
      simp only [seen,Option.map_none,Except.ok.injEq] at returned
      rw [← returned] at isSome
      cases isSome
    | some row =>
      dsimp only
      change Served (locking.own t (s.lockRow t p)) ∧ H (locking.own t (s.lockRow t p))
      rw [(own_lockRow open_).1,seen,Option.isSome_some,if_pos rfl,held]
      refine ⟨fun id server => ?_,up _ _ (Set.subset_insert _ _) here.2⟩
      rcases here.1 with both | none_
      · exact Set.mem_insert_of_mem _ both.2
      · simp [none_] at server

theorem lockServer_asks (up : Upward H) (id : ServerId) :
    Asks t (Holding fun held => Served held ∧ H held) (fun _ => Holding H) (lockServer (κ := κ) t id) := by
  apply Asks.locks
  · exact fun v here unowned => ⟨unowned,here.1⟩
  · exact fun i s open_ => (own_lock open_).2
  · intro v s i found here held open_ _
    change H (locking.own t { s with db := s.db.lock t (.server id) })
    rw [(own_lock open_).1,held]
    exact up _ _ (Set.subset_insert _ _) here.2

theorem gather_asks (up : Upward H) (p : ProfileId) :
    Asks t (Holding fun held => Ready p held ∧ H held) (fun _ => Holding H) (gather (κ := κ) t p) := by
  apply (selectForUpdate_asks up p).bind
  rintro (_ | profile)
  · exact Locking.Asks.throw _
  dsimp only
  split
  · exact Locking.Asks.throw _
  apply Locking.Asks.before (P := Holding fun held => Served held ∧ H held) _ fun v here => here rfl
  apply ask_asks.bind
  intro source
  apply Locking.Asks.bind (N := fun _ => Holding fun held => Served held ∧ H held)
  · unfold loadPaths
    split
    · exact ask_asks
    · exact Locking.Asks.pure fun _ here => here
  intro paths
  apply Locking.Asks.bind (N := fun _ => Holding H)
  · unfold remoteServer
    split
    · exact Locking.Asks.pure fun _ here => here.2
    · exact lockServer_asks up _
  exact fun server => ask_asks.bind fun admins => Locking.Asks.pure fun _ here => here

theorem enqueue_asks (up : Upward H) (p : ProfileId) (trigger : RunTrigger) (scheduledFor : Option Time) :
    Asks t (Holding fun held => Ready p held ∧ H held) (fun _ => Unless commits H)
      (enqueue (κ := κ) t p trigger scheduledFor commits) := by
  apply (gather_asks up p).bind
  intro config
  apply (existingSlot_asks p trigger scheduledFor).bind
  rintro (_ | existing)
  · apply (activeForProfile_asks p).bind
    rintro (_ | active)
    · apply (insertRow_asks _ _).bind
      rintro (_ | run)
      · apply (existingSlot_asks p trigger scheduledFor).bind
        rintro (_ | existing)
        · apply (activeForProfile_asks p).bind
          rintro (_ | active)
          · exact Locking.Asks.throw _
          · exact whenActive_asks p trigger scheduledFor active
        · exact Locking.Asks.pure fun _ here _ => here
      · exact created_asks run
    · exact whenActive_asks p trigger scheduledFor active
  · exact Locking.Asks.pure fun _ here _ => here

end Ends

abbrev Nothing : View → Prop := Holding (· = ∅)

theorem enqueueManual_asks (p : ProfileId) : Asks t Nothing (fun _ _ => True) (enqueueManual (κ := κ) t p) := by
  have enqueued : Asks t Nothing (fun _ _ => True) (enqueue (κ := κ) t p .manual none true) := by
    apply Locking.Asks.after (Q := fun _ => Unless true fun _ => True)
    · apply Locking.Asks.before (enqueue_asks (fun _ _ _ _ => trivial) p .manual none)
      exact fun v here => ⟨.inr here,trivial⟩
    · exact fun _ _ _ => trivial
  exact enqueued.bind fun result => commit_asks.bind fun _ => Locking.Asks.pure fun _ _ => trivial

theorem retryFailed_asks (id : RunId) : Asks t Nothing (fun _ _ => True) (retryFailed (κ := κ) t id) := by
  apply ask_asks.bind
  intro run
  apply Locking.Asks.bind (N := fun _ => Nothing)
  · apply Asks.looks
    · exact fun _ _ => rfl
    · intro i s
      split
      · rfl
      · rfl
  intro _
  apply ask_asks.bind
  intro status
  split
  · exact Locking.Asks.throw _
  apply (enqueueManual_asks run.profileId).bind
  intro result
  split
  · exact Locking.Asks.pure fun _ _ => trivial
  · exact Locking.Asks.throw _

/-- The session has the settings, and of the profiles only those that the statement has met. -/
structure Scanning (H : Set Key → Prop) (done rest : List ProfileId) (v : View) : Prop where
  settings : Key.settings ∈ v.held
  met : ∀ k ∈ v.held, k = .settings ∨ ∃ q ∈ done, k = .profile q
  order : done ++ rest = v.notes
  kept : H v.held

/-- A profile that is met after those that the session holds. -/
theorem fine_next {done rest : List ProfileId} {p : ProfileId} {v : View}
    (met : ∀ k ∈ v.held, k = .settings ∨ ∃ q ∈ done, k = .profile q) (order : (done ++ p :: rest).Sublist v.notes) :
    manners.fine v (.profile p) := by
  constructor
  · intro id server
    rcases met _ server with settings | ⟨q,-,profile⟩
    · cases settings
    · cases profile
  · intro q held
    rcases met _ held with settings | ⟨q',earlier,profile⟩
    · cases settings
    obtain rfl := Key.profile.inj profile
    have first : [q].Sublist done := List.singleton_sublist.mpr earlier
    have second : [p].Sublist (p :: rest) := List.singleton_sublist.mpr List.mem_cons_self
    exact (first.append second).trans order

theorem scanProfiles_asks {H : Set Key → Prop} (up : Upward H) (done order : List ProfileId) :
    Asks t (Scanning H done order) (fun profiles => Holding fun held => Key.settings ∈ held ∧ H held ∧
      ∀ entry ∈ profiles, Key.profile entry.1 ∈ held) (scanProfiles (κ := κ) t order) := by
  induction order generalizing H done with
  | nil => exact Locking.Asks.pure fun v here => ⟨here.settings,here.kept,by simp⟩
  | cons p rest ih =>
    let found (row : Option (BackupProfile κ)) (held : Set Key) : Prop :=
      H held ∧ (row.isSome = true → Key.profile p ∈ held)
    have upward (row : Option (BackupProfile κ)) : Upward (found row) :=
      fun a b within here => ⟨up a b within here.1,fun isSome => within (here.2 isSome)⟩
    apply Locking.Asks.bind (N := fun row => Scanning (found row) (done ++ [p]) rest)
    · apply Asks.locks
      · exact fun v here _ => fine_next here.met (by rw [here.order])
      · intro i s open_ u other
        split
        · exact (own_lockRow open_).2 u other
        · rfl
      · intro v s i row here held open_ returned
        obtain rfl := Except.ok.inj returned
        have order : done ++ [p] ++ rest = v.notes := by
          rw [List.append_assoc]
          exact here.order
        cases seen : (s.sees t).profile p with
        | none =>
          dsimp only
          rw [held]
          refine ⟨here.settings,fun k member => ?_,order,here.kept,fun isSome => by cases isSome⟩
          rcases here.met k member with settings | ⟨q,earlier,same⟩
          · exact .inl settings
          · exact .inr ⟨q,List.mem_append_left _ earlier,same⟩
        | some row =>
          have own : locking.own t ((s.lockRow t p).remember t p row) = insert (.profile p) v.held := by
            change locking.own t (s.lockRow t p) = _
            rw [(own_lockRow open_).1,seen,Option.isSome_some,if_pos rfl,held]
          dsimp only
          rw [own]
          refine ⟨Set.mem_insert_of_mem _ here.settings,fun k member => ?_,order,up _ _ (Set.subset_insert _ _) here.kept,
            fun _ => Set.mem_insert _ _⟩
          rcases member with same | before
          · exact .inr ⟨p,List.mem_append_right _ List.mem_cons_self,same⟩
          · rcases here.met k before with settings | ⟨q,earlier,same⟩
            · exact .inl settings
            · exact .inr ⟨q,List.mem_append_left _ earlier,same⟩
    intro row
    apply (ih (upward row) (done ++ [p])).bind
    intro others
    apply Locking.Asks.pure
    intro v here
    obtain ⟨settings,⟨kept,first⟩,others⟩ := here
    refine ⟨settings,kept,fun entry member => ?_⟩
    rcases List.mem_append.mp member with here | later
    · simp only [Option.mem_toList,Option.map_eq_some_iff,Option.filter_eq_some_iff] at here
      obtain ⟨row',⟨is,-⟩,rfl⟩ := here
      exact first (by rw [is]; rfl)
    · exact others entry later

theorem reserveAll_asks (done profiles : List ProfileId) :
    Asks t (fun v => (∀ k ∈ v.held, k = .settings ∨ ∃ q ∈ done, k = .profile q) ∧ (done ++ profiles).Sublist v.notes)
      (fun _ _ => True) (reserveAll (κ := κ) t profiles) := by
  induction profiles generalizing done with
  | nil => exact Locking.Asks.pure fun _ _ => trivial
  | cons p rest ih =>
    apply Locking.Asks.bind _ fun _ => ih (done ++ [p])
    apply Asks.locks
    · exact fun v here _ => fine_next here.1 here.2
    · exact fun i s open_ => (own_lockRow open_).2
    · intro v s i _ here held open_ _
      rw [(own_lockRow open_).1,held]
      constructor
      · intro k member
        have cases_ : k = .profile p ∨ k ∈ v.held := by
          split at member
          · exact member
          · exact .inr member
        rcases cases_ with same | before
        · exact .inr ⟨p,List.mem_append_right _ List.mem_cons_self,same⟩
        · rcases here.1 k before with settings | ⟨q,earlier,same⟩
          · exact .inl settings
          · exact .inr ⟨q,List.mem_append_left _ earlier,same⟩
      · rw [List.append_assoc]
        exact here.2

theorem lockSettings_asks : Asks t Nothing (fun _ => Holding (· = {Key.settings})) (lockSettings (κ := κ) t) := by
  apply Asks.locks
  · exact fun v here _ => here
  · exact fun i s open_ => (own_lock open_).2
  · intro v s i _ here held open_ _
    change locking.own t { s with db := s.db.lock t .settings } = {Key.settings}
    rw [(own_lock open_).1,held,show v.held = ∅ from here]
    exact insert_empty_eq _

/-- The statement has found its profiles and begins to lock them. -/
theorem select_scans {value : Reply → α} (order : α → List ProfileId) (scanned : ∀ i, order (value i) = i.scan) :
    Asks t (Holding (· = {Key.settings})) (fun found => Scanning (fun _ => True) [] (order found))
      (stmt (κ := κ) .select (fun _ => true) (fun _ s => s) (fun i _ => .ok (value i))) := by
  apply Asks.still
  · exact fun _ _ => rfl
  · exact fun _ _ => rfl
  · intro v s i found here returned
    obtain rfl := Except.ok.inj returned
    have only : v.held = {Key.settings} := here
    refine ⟨?_,fun k member => ?_,scanned i,trivial⟩
    · simp [only]
    · left
      simpa [only] using member

section Scheduler

variable {calendar : Calendar κ} {now : Time} {timezone : Str}

theorem visit_asks {H : Set Key → Prop} (up : Upward H) (settings : ∀ held, H held → Key.settings ∈ held) (p : ProfileId)
    (profile : BackupProfile κ) : Asks t (Holding fun held => Key.profile p ∈ held ∧ H held) (fun _ => Holding H)
      (visit calendar t now timezone p profile) := by
  have idle {β : Type} {value : β} : Asks (κ := κ) t (Holding fun held => Key.profile p ∈ held ∧ H held)
      (fun _ => Holding H) (Pure.pure value) := Locking.Asks.pure fun _ here => here.2
  unfold visit
  split
  · split
    · exact idle
    · split
      · exact Locking.Asks.throw _
      · exact idle
  · split
    · apply Locking.Asks.bind (N := fun _ => Unless false H)
      · apply Locking.Asks.before (enqueue_asks up p .scheduled _)
        exact fun v here => ⟨.inl ⟨here.1,settings _ here.2⟩,here.2⟩
      intro queued
      split
      · exact Locking.Asks.pure fun _ here => here rfl
      · split
        · exact Locking.Asks.throw _
        · exact Locking.Asks.pure fun _ here => here rfl
    · exact idle

theorem visitAll_asks {H : Set Key → Prop} (up : Upward H) (settings : ∀ held, H held → Key.settings ∈ held)
    (profiles : List (ProfileId × BackupProfile κ)) :
    Asks t (Holding fun held => H held ∧ ∀ entry ∈ profiles, Key.profile entry.1 ∈ held) (fun _ _ => True)
      (visitAll calendar t now timezone profiles) := by
  induction profiles with
  | nil => exact Locking.Asks.pure fun _ _ => trivial
  | cons entry rest ih =>
    let later (held : Set Key) : Prop := H held ∧ ∀ entry ∈ rest, Key.profile entry.1 ∈ held
    have upward : Upward later := fun a b within here =>
      ⟨up a b within here.1,fun entry member => within (here.2 entry member)⟩
    apply Locking.Asks.bind (N := fun _ => Holding later)
    · apply Locking.Asks.before (visit_asks upward (fun held here => settings held here.1) entry.1 entry.2)
      intro v here
      exact ⟨here.2 entry List.mem_cons_self,here.1,fun entry member => here.2 entry (List.mem_cons_of_mem _ member)⟩
    exact fun result => ih.bind fun results => Locking.Asks.pure fun _ _ => trivial

theorem tick_asks : Asks t Nothing (fun _ _ => True) (Queue.tick calendar t now timezone) := by
  apply Locking.Asks.bind (N := fun _ => Holding (· = {Key.settings}))
  · exact lockSettings_asks
  intro stored
  apply (select_scans (fun order => order) fun _ => rfl).bind
  intro order
  apply (scanProfiles_asks (fun _ _ _ _ => trivial) [] order).bind
  intro profiles
  apply Locking.Asks.bind (N := fun _ _ => True)
  · apply Locking.Asks.before (visitAll_asks (H := fun held => Key.settings ∈ held) (fun _ _ within here => within here)
      (fun _ here => here) profiles)
    exact fun v here => ⟨here.1,here.2.2⟩
  intro result
  apply Locking.Asks.bind (N := fun _ _ => True)
  · exact Asks.ends (fun _ _ => rfl) fun _ _ _ => trivial
  · exact fun _ => Locking.Asks.pure fun _ _ => trivial

theorem setBackupTimezone_asks {known : Str → Bool} :
    Asks t Nothing (fun _ _ => True) (Timezones.setBackupTimezone known calendar t now timezone) := by
  apply lockSettings_asks.bind
  intro _
  split
  · exact Locking.Asks.throw _
  apply (select_scans Reply.scan fun _ => rfl).bind
  intro reply
  apply (scanProfiles_asks (fun _ _ _ _ => trivial) [] reply.scan).bind
  intro profiles
  split
  · exact Locking.Asks.throw _
  · exact Asks.ends (fun _ _ => rfl) fun _ _ _ => trivial

abbrev AtMostSettings : View → Prop := Holding (· ⊆ {Key.settings})

abbrev Serverless : View → Prop := Holding fun held => ∀ id, Key.server id ∉ held

theorem active_asks {H : Set Key → Prop} (p : ProfileId) : Asks t (Holding H) (fun _ => Holding H) (active (κ := κ) t p) := by
  apply Asks.looks
  · exact fun _ _ => rfl
  · intro i s
    split
    · rfl
    · rfl

theorem reserve_asks (p : ProfileId) : Asks t AtMostSettings (fun _ => Serverless) (reserve (κ := κ) t p) := by
  apply Asks.locks
  · intro v here _
    constructor
    · intro id server
      cases here server
    · intro q profile
      cases here profile
  · exact fun i s open_ => (own_lockRow open_).2
  · intro v s i _ here held open_ _ id server
    dsimp only at server
    rw [(own_lockRow open_).1,held] at server
    split at server
    · rcases server with same | before
      · cases same
      · cases here before
    · cases here server

theorem flushCommit_asks {P : View → Prop} (change : Contents κ → Contents κ) :
    Asks t P (fun _ _ => True) (do flush t change; commit t) := by
  apply Locking.Asks.bind (N := fun _ _ => True)
  · exact Asks.still (fun _ _ => rfl) (fun _ _ => rfl) fun _ _ _ _ _ _ => trivial
  · exact fun _ => commit_asks.after fun _ _ _ => trivial

theorem referenceServer_asks (source : Source κ) : Asks t Serverless (fun _ _ => True) (referenceServer t source) := by
  unfold referenceServer
  split
  · exact Locking.Asks.pure fun _ _ => trivial
  apply Locking.Asks.bind (N := fun _ _ => True)
  · apply Asks.locks
    · exact fun v here unowned => ⟨unowned,fun id server => absurd server (here id)⟩
    · exact fun i s open_ => (own_lock open_).2
    · exact fun _ _ _ _ _ _ _ _ => trivial
  · exact fun _ => Locking.Asks.pure fun _ _ => trivial

theorem lockSettings_only : Asks t Nothing (fun _ => AtMostSettings) (lockSettings (κ := κ) t) := by
  apply lockSettings_asks.after
  intro _ v here
  exact (show v.held = {Key.settings} from here).subset

theorem updateConfiguration_asks (p : ProfileId) (u : ConfigurationUpdate κ) :
    Asks t Nothing (fun _ _ => True) (ConfigurationLocks.updateConfiguration calendar t p u) := by
  apply lockSettings_only.bind
  intro timezone
  apply (active_asks p).bind
  intro profile
  apply (reserve_asks p).bind
  intro _
  apply Locking.Asks.bind (N := fun _ => Serverless)
  · exact Asks.looks (fun _ _ => rfl) fun _ _ => rfl
  rintro ⟨old,now⟩
  dsimp only
  split
  · exact Locking.Asks.throw _
  · exact (referenceServer_asks _).bind fun _ => flushCommit_asks _

theorem edit_asks (p : ProfileId) (columns : κ → κ) (enabled : Option Bool) :
    Asks t Nothing (fun _ _ => True) (Queue.edit calendar t p columns enabled) := by
  apply lockSettings_only.bind
  intro timezone
  apply (active_asks p).bind
  intro profile
  apply (reserve_asks p).bind
  intro _
  apply Locking.Asks.bind (N := fun _ => Serverless)
  · exact Asks.looks (fun _ _ => rfl) fun _ _ => rfl
  rintro ⟨profile,now⟩
  dsimp only
  split
  · exact Locking.Asks.throw _
  · exact flushCommit_asks _

theorem assignAdmins_asks (p : ProfileId) (admins : List AdminId) :
    Asks t Nothing (fun _ _ => True) (Queue.assignAdmins (κ := κ) t p admins) := by
  apply (active_asks p).bind
  intro profile
  apply Locking.Asks.bind (N := fun _ => Serverless)
  · apply Locking.Asks.before (reserve_asks p)
    intro v here
    exact (show v.held = ∅ from here).subset.trans (Set.empty_subset _)
  · exact fun _ => flushCommit_asks _

theorem assign_asks (admin : AdminId) (profiles : List ProfileId) :
    Asks t Nothing (fun _ _ => True) (ConfigurationLocks.assign (κ := κ) t admin profiles) := by
  apply ask_asks.bind
  intro previous
  apply Locking.Asks.bind (N := fun order v => v.held = ∅ ∧ v.notes = order)
  · apply Asks.still
    · exact fun _ _ => rfl
    · exact fun _ _ => rfl
    · intro v s i order here returned
      obtain rfl := Except.ok.inj returned
      exact ⟨here,rfl⟩
  intro order
  apply Locking.Asks.bind (N := fun _ _ => True)
  · apply Locking.Asks.before (reserveAll_asks [] _)
    intro v here
    rw [here.1,here.2]
    exact ⟨by simp,List.filter_sublist⟩
  · exact fun _ => flushCommit_asks _

theorem updateServer_asks (id : ServerId) (change : κ → κ) :
    Asks t Nothing (fun _ _ => True) (Queue.updateServer t id change) := by
  apply Locking.Asks.bind (N := fun _ => Holding fun _ => True)
  · apply Locking.Asks.before (lockServer_asks (fun _ _ _ _ => trivial) id)
    intro v here
    refine ⟨fun id server => ?_,trivial⟩
    rw [show v.held = ∅ from here] at server
    cases server
  · exact fun _ => flushCommit_asks _

theorem progress_asks (id : RunId) (status : RunStatus) :
    Asks t Nothing (fun _ _ => True) (Timezones.progress (κ := κ) id status) := by
  apply Asks.still
  · exact fun _ _ => rfl
  · intro i s
    split
    · rfl
    · rfl
  · exact fun _ _ _ _ _ _ => trivial

/-- Every session asks for its locks in order. -/
theorem program_climbs (known : Str → Bool) (job : Job κ) :
    locking.Climbs manners t (fun _ _ => True) (job.program known calendar t) ⟨manners.blank,∅⟩ := by
  apply Locking.Asks.handled (P := Nothing) (Q := fun _ _ => True) (v := ⟨manners.blank,∅⟩) _ _ rfl
  · cases job with
    | tick now timezone => exact tick_asks.bind fun _ => Locking.Asks.pure fun _ _ => trivial
    | setBackupTimezone now timezone => exact setBackupTimezone_asks
    | manual p => exact (enqueueManual_asks p).bind fun _ => Locking.Asks.pure fun _ _ => trivial
    | retry run => exact retryFailed_asks run
    | updateConfiguration p u => exact updateConfiguration_asks p u
    | edit p columns enabled => exact edit_asks p columns enabled
    | assignAdmins p admins => exact assignAdmins_asks p admins
    | assign admin profiles => exact assign_asks admin profiles
    | updateServer id change => exact updateServer_asks id change
    | progress id status => exact progress_asks id status
  · exact Asks.ends (fun _ _ => rfl) fun _ _ _ => trivial

end Scheduler

end Programs

end BackupTelebot.Queue.ConfigurationLocks
