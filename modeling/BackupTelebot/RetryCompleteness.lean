import BackupTelebot.DeliveryRules
import BackupTelebot.System

/-! `retry_failed` as one request: it resumes the delivery of a retained artifact, asks for a
new run, or refuses. The recorded directory decides which; whether anything is in it, and
which deliveries are left, is looked at only afterwards. -/
namespace BackupTelebot

open PyJson Interleave

/-- What `_enqueue` reads of the profile and its runs. -/
structure Profile where
  enabled : Bool
  archived : Bool
  /-- Another of its runs is active. -/
  busy : Bool

inductive RetryResult where
  | resumed (s : World)
  /-- A new run of the profile is queued. -/
  | queued

def refusal : Failure := .builtin "NotFoundError"

/-- `enqueue_manual`: whether it has created a run. -/
def enqueueManual (profile : Profile) : Except Failure Bool :=
  if profile.archived || !profile.enabled then .error refusal else .ok (!profile.busy)

def World.resume (s : World) : World :=
  { s with run := s.run.resumed s.now, deliveries := retryDeliveries s.deliveries s.now s.deliveries }

/-- `retry_failed`, while nobody else changes the run. -/
def retry (c : Setup) (profile : Profile) (s : World) : Except Failure RetryResult :=
  if !retryable s.run then .error refusal
  else match s.run.pendingDirectory with
  | none =>
      if s.deliveries.any (·.status = .succeeded) then .error refusal
      else match enqueueManual profile with
        | .error e => .error e
        | .ok created => if created then .ok .queued else .error refusal
  | some path =>
      if !s.deliveries.any (·.status = .failed) then .error refusal
      else match verifiedRetained c s.run path s.artifacts s.spool with
        | .error e => .error e
        | .ok _ => if profile.busy then .error refusal else .ok (.resumed s.resume)

/-- The request of an interleaved system resumes the run exactly when this does. -/
theorem retryFailed_alone (c : Setup) (profile : Profile) (s : World) (i : Answer) (quiet : i.fault = none)
    (busy : i.profileBusy = profile.busy) :
    (retryFailed c).alone i s = some (match retry c profile s with
      | .ok (.resumed s') => (.ok (),s')
      | _ => (.error (.failure refusal),s)) := by
  rw [retryFailed,Prog.alone_bind]
  simp only [look,op,Prog.alone,quiet,if_true,Option.bind_some,busy,retry]
  cases retryable s.run with
  | false => cases s.run.pendingDirectory <;> rfl
  | true =>
    cases s.run.pendingDirectory with
    | none =>
      cases s.deliveries.any (·.status = .succeeded) with
      | true => rfl
      | false =>
        simp only [enqueueManual]
        cases profile.archived <;> cases profile.enabled <;> cases profile.busy <;> rfl
    | some path =>
      cases s.deliveries.any (·.status = .failed) with
      | false => rfl
      | true =>
        have known : (∃ e, verifiedRetained c s.run path s.artifacts s.spool = .error e) ∨
            ∃ found, verifiedRetained c s.run path s.artifacts s.spool = .ok found := by
          cases verifiedRetained c s.run path s.artifacts s.spool with
          | error e => exact .inl ⟨e,rfl⟩
          | ok found => exact .inr ⟨found,rfl⟩
        rcases known with ⟨e,refused⟩ | ⟨found,verified⟩
        · simp [refused,refusal]
        · cases profile.busy with
          | true => simp [verified,refusal]
          | false => simp [verified,World.resume]

/-- A failed run that nobody holds, of a profile that may run and has nothing else to do. -/
structure Retriable (profile : Profile) (s : World) : Prop where
  failed : s.run.status = .failed
  unheld : s.run.leaseOwner = none
  enabled : profile.enabled = true
  unarchived : profile.archived = false
  idle : profile.busy = false

def Retained (c : Setup) (s : World) : Prop :=
  ∃ path found, s.run.pendingDirectory = some path ∧
    recoverFinalized c.os c.pendingRoot s.spool path c.uuid.text = .ok (some found)

def Vanished (s : World) : Prop := ∀ path, s.run.pendingDirectory = some path → s.spool path = none

def World.Undelivered (s : World) (c : Setup) (admin : AdminId) : Prop :=
  admin ∈ s.recipients c ∧ ¬s.delivered admin

/-- An artifact is delivered to everyone who has not got it. Without one the backup is made
again, unless somebody has got it. -/
structure Retried (c : Setup) (profile : Profile) (s : World) : Prop where
  resumes : Retained c s → (∃ admin, s.Undelivered c admin) → ∃ s', retry c profile s = .ok (.resumed s') ∧
    s'.run.status = .deliveryPending ∧ ∀ admin, s.Undelivered c admin →
      ∀ delivery ∈ s'.deliveries, delivery.adminId = admin → delivery.status = .pending
  repeats : Vanished s → (∀ delivery ∈ s.deliveries, delivery.status ≠ .succeeded) →
    retry c profile s = .ok .queued

/-- The delivery that is still open was given up, not skipped. -/
def Revivable (s : World) (admin : AdminId) : Prop :=
  (∃ delivery ∈ s.deliveries, delivery.adminId = admin ∧ delivery.status = .failed) ∨
    ∀ delivery ∈ s.deliveries, delivery.adminId = admin → delivery.status ≠ .skipped

/-- A retained artifact agrees with the records, one of its deliveries was given up and
nobody's was skipped; one that is lost was delivered to somebody. -/
structure Repairable (c : Setup) (s : World) (path : Path) : Prop where
  retained : Retained c s → (∃ admin, s.Undelivered c admin) →
    (∃ found, verifiedRetained c s.run path s.artifacts s.spool = .ok found) ∧
      (∃ delivery ∈ s.deliveries, delivery.status = .failed) ∧
      ∀ admin, s.Undelivered c admin → Revivable s admin
  lost : s.spool path = none → ∃ delivery ∈ s.deliveries, delivery.status = .succeeded

theorem any_status {deliveries : List BackupDelivery} {status : DeliveryStatus} :
    deliveries.any (·.status = status) = true ↔ ∃ delivery ∈ deliveries, delivery.status = status := by
  simp

/-- The resumption leaves an open delivery to every recipient that was not skipped. -/
theorem resume_revives {s : World} {admin : AdminId} (open_ : ¬s.delivered admin) :
    (∀ delivery ∈ s.resume.deliveries, delivery.adminId = admin → delivery.status = .pending) ↔
      Revivable s admin := by
  constructor
  · intro pending
    by_cases given : ∃ delivery ∈ s.deliveries, delivery.adminId = admin ∧ delivery.status = .failed
    · exact .inl given
    · refine .inr fun delivery member theirs skipped => ?_
      -- Nothing is written over a row whose recipient has no failed one.
      have kept : delivery ∈ s.resume.deliveries :=
        mem_retryDeliveries_of_kept member fun failed there status whose =>
          given ⟨failed,there,whose.trans theirs,status⟩
      have := pending delivery kept theirs
      rw [skipped] at this
      cases this
  · intro revivable delivery member theirs
    obtain ⟨before,present,sameId,result⟩ := mem_retryDeliveries member
    rcases result with ⟨-,pending⟩ | ⟨others,unchanged⟩
    · exact pending
    · subst unchanged
      rcases revivable with ⟨failed,there,whose,status⟩ | unskipped
      · exact absurd (whose.trans theirs.symm) (others failed there status)
      · cases status : delivery.status with
        | pending => rfl
        | succeeded => exact absurd ⟨delivery,present,theirs,status⟩ open_
        | skipped => exact absurd status (unskipped delivery present theirs)
        | failed => exact absurd rfl (others delivery present status)

section Cases

variable {c : Setup} {profile : Profile} {s : World} (retriable : Retriable profile s)
include retriable

theorem Retriable.retryable : retryable s.run = true := by
  simp [BackupTelebot.retryable,retriable.failed,retriable.unheld]

/-- Without a recorded artifact the run is repeated unless it was delivered to somebody. -/
theorem retry_unrecorded (absent : s.run.pendingDirectory = none)
    (undelivered : ∀ delivery ∈ s.deliveries, delivery.status ≠ .succeeded) :
    retry c profile s = .ok .queued := by
  have nobody : s.deliveries.any (·.status = .succeeded) = false := by simpa using undelivered
  simp [retry,retriable.retryable,absent,nobody,enqueueManual,retriable.enabled,retriable.unarchived,retriable.idle]

/-- With one it is resumed exactly when a delivery was given up and the artifact verified. -/
theorem retry_recorded {path : Path} (recorded : s.run.pendingDirectory = some path) :
    (∀ s', retry c profile s = .ok (.resumed s') ↔ s' = s.resume ∧
      (∃ delivery ∈ s.deliveries, delivery.status = .failed) ∧
      ∃ found, verifiedRetained c s.run path s.artifacts s.spool = .ok found) ∧
    retry c profile s ≠ .ok .queued := by
  simp only [retry,retriable.retryable,recorded,retriable.idle,← any_status]
  cases s.deliveries.any (·.status = .failed) with
  | false => simp
  | true =>
    cases verifiedRetained c s.run path s.artifacts s.spool with
    | error e => simp
    | ok found => simp [eq_comm]

end Cases

/-- Retrying achieves what it should exactly when no artifact is recorded, or the recorded
one is in a state that can be repaired. -/
theorem retry_isComplete (c : Setup) (profile : Profile) (s : World) (retriable : Retriable profile s) :
    Retried c profile s ↔ ∀ path, s.run.pendingDirectory = some path → Repairable c s path := by
  cases recorded : s.run.pendingDirectory with
  | none =>
    refine iff_of_true ⟨?_,?_⟩ (by simp)
    · rintro ⟨path,found,recorded',_⟩
      rw [recorded] at recorded'
      cases recorded'
    · exact fun _ undelivered => retry_unrecorded retriable recorded undelivered
  | some path =>
    obtain ⟨resumed,notQueued⟩ := retry_recorded (c := c) retriable recorded
    constructor
    · intro retried path' same
      obtain rfl := Option.some.inj same
      constructor
      · intro retained open_
        obtain ⟨s',returned,-,pending⟩ := retried.resumes retained open_
        obtain ⟨rfl,failed,verified⟩ := (resumed s').mp returned
        exact ⟨verified,failed,fun admin here => (resume_revives here.2).mp (pending admin here)⟩
      · intro lost
        by_contra nobody
        have vanished : Vanished s := by
          intro other recorded'
          rw [recorded] at recorded'
          rw [← Option.some.inj recorded',lost]
        exact notQueued (retried.repeats vanished fun delivery member status => nobody ⟨delivery,member,status⟩)
    · intro repairable
      have here := repairable path rfl
      constructor
      · intro retained open_
        obtain ⟨verified,failed,revivable⟩ := here.retained retained open_
        refine ⟨s.resume,(resumed _).mpr ⟨rfl,failed,verified⟩,rfl,?_⟩
        exact fun admin open_ => (resume_revives open_.2).mpr (revivable admin open_)
      · intro vanished undelivered
        obtain ⟨delivery,member,status⟩ := here.lost (vanished path recorded)
        exact absurd status (undelivered delivery member)

def enabledProfile : Profile := ⟨true,false,false⟩

/-- A build that gets so far, and the handling of the failure that ends it there. -/
def failsAfter (n : Nat) : List Act :=
  [.claim 0 7 true] ++ performs 0 n ++ [.fails 0 (.builtin "OSError" .transient)] ++ performs 0 5

/-- The run fails while its source is acquired: its backup is made again. -/
theorem retry_isComplete_small : ∃ s, Reached smallSetup (fun _ _ => True) s ∧ s.row.errorCode = some "PIPELINE_FAILED" ∧
    Retriable enabledProfile s.world ∧ Retried smallSetup enabledProfile s.world := by
  obtain ⟨s,run,passed⟩ := Runs.exists_of_follow (System.step smallSetup) (failsAfter 5)
    (fun s => s.row.errorCode = some "PIPELINE_FAILED" && s.row.status = .failed && s.row.leaseOwner = none &&
      s.row.pendingDirectory = none) smallStart_initial (by decide +kernel)
  simp only [Bool.and_eq_true,decide_eq_true_eq] at passed
  obtain ⟨⟨⟨code,failed⟩,unheld⟩,absent⟩ := passed
  have retriable : Retriable enabledProfile s.world := ⟨failed,unheld,rfl,rfl,rfl⟩
  refine ⟨s,run,code,retriable,(retry_isComplete smallSetup enabledProfile s.world retriable).mpr ?_⟩
  intro path recorded
  rw [absent] at recorded
  cases recorded

/-- It fails before its pending directory is made, whose path is recorded by then. -/
theorem retry_isRefused : ∃ s, Reached smallSetup (fun _ _ => True) s ∧ Retriable enabledProfile s.world ∧
    Vanished s.world ∧ s.world.deliveries = [] ∧ (∃ e, retry smallSetup enabledProfile s.world = .error e) ∧
    ¬Retried smallSetup enabledProfile s.world := by
  obtain ⟨s,run,passed⟩ := Runs.exists_of_follow (System.step smallSetup) (failsAfter 19)
    (fun s => s.row.status = .failed && s.row.leaseOwner = none && s.world.deliveries = [] &&
      s.row.pendingDirectory.any fun path => (s.world.spool path).isNone) smallStart_initial (by decide +kernel)
  simp only [Bool.and_eq_true,decide_eq_true_eq,Option.any_eq_true,Option.isNone_iff_eq_none] at passed
  obtain ⟨⟨⟨failed,unheld⟩,undelivered⟩,path,recorded,gone⟩ := passed
  have retriable : Retriable enabledProfile s.world := ⟨failed,unheld,rfl,rfl,rfl⟩
  have vanished : Vanished s.world := by
    intro other recorded'
    rw [recorded] at recorded'
    exact Option.some.inj recorded' ▸ gone
  have refused : retry smallSetup enabledProfile s.world = .error refusal := by
    simp [retry,retriable.retryable,recorded,undelivered]
  refine ⟨s,run,retriable,vanished,undelivered,⟨_,refused⟩,fun retried => ?_⟩
  have queued := retried.repeats vanished (by simp [undelivered])
  rw [refused] at queued
  cases queued

end BackupTelebot
