import BackupTelebot.RowSteps

/-! The ends of a run: terminal statuses stay, and a requested cancellation is the only
end that remains. Both laws have the same two exceptions in the code, a resumption and a
failure that are committed on the word of an older look at the row. -/
namespace BackupTelebot

open Interleave

def EndedFree (s : World) : Prop := s.run.status ∈ terminalStatuses → s.run.leaseOwner = none

/-- The commit of a resumption or of a failure finds the lease in the hands of its execution. -/
def CommitsOwned (s : System) (a : Act) : Prop :=
  ∀ t i, a = .perform t i → s.pointOf t = some .resumeCommit ∨ s.pointOf t = some .failCommit →
    ∃ e, s.execution t = some e ∧ s.row.leaseOwner = some e.owner

/-- How the status can change in one step of a run in which nobody holds ended runs. -/
inductive StatusChange (a : Act) (s s' : System) : Prop
  | same : s'.row.status = s.row.status → StatusChange a s s'
  | active : s.row.status.Active → s'.row.status.Active ∨ s'.row.leaseOwner = none → StatusChange a s s'
  | retried : (∃ t i, a = .perform t i ∧ s.pointOf t = some .retryCommit) → s.row.status = .failed →
      s'.row.status = .deliveryPending → StatusChange a s s'

/-- One operation of a task whose commits are owned. -/
theorem RowStep.statusChange {s s' : World} {e : Option Execution} {point : Point} (step : RowStep e point s s')
    (free : EndedFree s) (owned : point = .resumeCommit ∨ point = .failCommit → s.run.leaseOwner ≠ none) :
    s'.run.status = s.run.status ∨
      s.run.status.Active ∧ (s'.run.status.Active ∨ s'.run.leaseOwner = none) ∨
      point = .retryCommit ∧ s.run.status = .failed ∧ s'.run.status = .deliveryPending := by
  have active_of_held (held : s.run.leaseOwner ≠ none) : s.run.status.Active := by
    by_contra inactive
    refine held (free ?_)
    revert inactive
    cases s.run.status <;> decide
  rcases step.status with same | change
  · exact .inl same
  · right
    cases change with
    | started _ held running =>
      refine .inl ⟨active_of_held (by simp [held]),.inl ?_⟩
      rw [running]
      decide
    | deliverable _ held waiting =>
      refine .inl ⟨active_of_held (by simp [held]),.inl ?_⟩
      rw [waiting]
      decide
    | resumed waiting =>
      refine .inl ⟨active_of_held (owned (.inl rfl)),.inl ?_⟩
      rw [waiting]
      decide
    | cancelled active _ _ released => exact .inl ⟨active,.inr released⟩
    | settled waiting _ _ released =>
      refine .inl ⟨?_,.inr released⟩
      rw [waiting]
      decide
    | failed _ released => exact .inl ⟨active_of_held (owned (.inr rfl)),.inr released⟩
    | retried failed _ waiting => exact .inr ⟨rfl,failed,waiting⟩

theorem statusChange_of_step {c : Setup} {allowed : System → Act → Prop} {s s' : System} {a : Act}
    (run : Reached c allowed s) (free : EndedFree s.world) (ok : CommitsOwned s a)
    (h : System.step c s a = some s') : StatusChange a s s' ∧ EndedFree s'.world := by
  have granted (t : Nat) (owner : Owner) (active : s.row.status.Active) (eq : s' = s.start c t owner) :
      StatusChange a s s' ∧ EndedFree s'.world := by
    subst eq
    exact ⟨.same rfl,fun terminal => absurd active (not_active_of_terminal terminal)⟩
  have unchanged (same : s'.sys.shared.run = s.sys.shared.run) : StatusChange a s s' ∧ EndedFree s'.world := by
    refine ⟨.same (congrArg BackupRun.status same),?_⟩
    unfold EndedFree
    rw [System.world,same]
    exact free
  cases System.step_cases h with
  | @performed t i sys advanced =>
    obtain ⟨point,waits,step,-⟩ := rowStep_of_perform run h
    have owned (which : point = .resumeCommit ∨ point = .failCommit) : s.world.run.leaseOwner ≠ none := by
      obtain ⟨e,-,held⟩ : ∃ e, s.execution t = some e ∧ s.row.leaseOwner = some e.owner := by
        apply ok t i rfl
        rw [waits]
        simpa using which
      simp [System.world,held]
    rcases step.statusChange free owned with same | ⟨active,ends⟩ | ⟨rfl,failed,waiting⟩
    · refine ⟨.same same,fun terminal => ?_⟩
      have before := free (same ▸ terminal)
      rcases step.lease with kept | ⟨released,-⟩
      · exact kept.trans before
      · exact released
    · refine ⟨.active active ends,fun terminal => ?_⟩
      rcases ends with active | released
      · exact absurd active (not_active_of_terminal terminal)
      · exact released
    · refine ⟨.retried ⟨t,i,rfl,waits⟩ failed waiting,fun terminal => ?_⟩
      rw [waiting] at terminal
      exact absurd terminal (by decide)
  | raised _ interrupted sys_ _ =>
    obtain ⟨_,_,_,_,_,_,rfl⟩ := Sys.interrupt_cases interrupted
    exact unchanged (by rw [sys_])
  | claimed _ open_ => exact granted _ _ (claimStatuses_active (active_of_claimable open_).1) rfl
  | cancelClaimed _ open_ => exact granted _ _ (active_of_cancelClaimable open_).1 rfl
  | requested => exact unchanged rfl
  | crashed => exact unchanged rfl
  | beside _ _ _ change =>
    rcases change with same | change
    · exact unchanged (congrArg World.run same)
    · have apart := change.apart
      rcases apart.status with same | ⟨queued,unheld,cancelled⟩
      · refine ⟨.same same,fun terminal => ?_⟩
        exact apart.owner.trans (free (same ▸ terminal))
      · refine ⟨.active ?_ (.inr (apart.owner.trans unheld)),fun _ => apart.owner.trans unheld⟩
        rw [System.row,queued]
        decide

theorem endedFree_of_reached {c : Setup} {s : System} (run : Reached c CommitsOwned s) : EndedFree s.world := by
  induction run with
  | start initial =>
    obtain ⟨now,users,access,rfl | rfl⟩ := initial
    · exact fun _ => rfl
    · exact fun _ => rfl
  | next run ok h ih => exact (statusChange_of_step run ih ok h).2

/-- As long as resumptions and failures are committed by those who hold the lease, a run
that has succeeded, was cancelled or was skipped keeps its status, and one that has
failed changes it only by a retry. -/
theorem terminal_absorbing (c : Setup) (s s' : System) (a : Act) (run : Reached c CommitsOwned s)
    (ok : CommitsOwned s a) (h : System.step c s a = some s') :
    (s.row.status ∈ [RunStatus.succeeded,.cancelled,.skipped] → s'.row.status = s.row.status) ∧
    (s.row.status = .failed → s'.row.status = .failed ∨
      s'.row.status = .deliveryPending ∧ ∃ t i, a = .perform t i ∧ s.pointOf t = some .retryCommit) := by
  cases (statusChange_of_step run (endedFree_of_reached run) ok h).1 with
  | same same => exact ⟨fun _ => same,fun failed => .inl (same.trans failed)⟩
  | active active _ =>
    constructor
    · intro terminal
      have ended : s.row.status ∈ terminalStatuses := by
        revert terminal
        cases s.row.status <;> decide
      exact absurd active (not_active_of_terminal ended)
    · intro failed
      rw [failed] at active
      exact absurd active (by decide)
  | retried who failed waiting =>
    constructor
    · intro terminal
      rw [failed] at terminal
      exact absurd terminal (by decide)
    · exact fun _ => .inr ⟨waiting,who⟩

def commitsOwned (s : System) : Act → Bool
  | .perform t _ => (s.pointOf t ≠ some .resumeCommit && s.pointOf t ≠ some .failCommit) ||
      (s.execution t).any fun e => s.row.leaseOwner = some e.owner
  | _ => true

theorem commitsOwned_sound (s : System) (a : Act) (checked : commitsOwned s a = true) : CommitsOwned s a := by
  rintro t i rfl here
  simp only [commitsOwned,Bool.or_eq_true,Bool.and_eq_true,decide_eq_true_eq,Option.any_eq_true] at checked
  rcases checked with ⟨notResumed,notFailed⟩ | owned
  · rcases here with resumed | failed
    · exact absurd resumed notResumed
    · exact absurd failed notFailed
  · exact owned

/-- The first worker dies when the artifact is published; the second resumes it and delivers it. -/
def resumedAndDelivered : List Act :=
  [.claim 0 7 true] ++ performs 0 34 ++ [.crash 0,.tick (31 * second),.claim 1 8 true] ++ performs 1 26

/-- One of two recipients is lost for good. The second attempt finds a part too large and fails the
run, and an operator is about to resume it. -/
def failedAndRetried : List Act :=
  [.setUsers [⟨1,.superadmin,true,false⟩,⟨2,.superadmin,true,false⟩],.claim 0 7 true] ++ performs 0 49 ++
    [.fails 0 (.builtin "ValueError")] ++ performs 0 3 ++ [.fails 0 (.builtin "ConnectionError" .transient)] ++
    performs 0 2 ++ [.tick (2 * second),.claim 1 8 true] ++ performs 1 2 ++ [.fails 1 (.pipeline "UPLOAD_LIMIT")] ++
    performs 1 4 ++ [.request 2 .retry] ++ performs 2 1

theorem terminal_absorbing_small :
    (∃ s s', Reached smallSetup CommitsOwned s ∧ System.step smallSetup s (.perform 1 plainAnswer) = some s' ∧
      s'.row ≠ s.row ∧ s.row.status = .succeeded ∧ s'.row.status = .succeeded) ∧
    ∃ s s', Reached smallSetup CommitsOwned s ∧ System.step smallSetup s (.perform 2 plainAnswer) = some s' ∧
      s'.row ≠ s.row ∧ s.row.status = .failed ∧ (s'.row.status = .failed ∨ s'.row.status = .deliveryPending ∧
        ∃ t i, Act.perform 2 plainAnswer = .perform t i ∧ s.pointOf t = some .retryCommit) := by
  constructor
  · obtain ⟨s,run,passed⟩ := Runs.exists_of_checked (System.step smallSetup) resumedAndDelivered
      (fun s => s.row.status = .succeeded && commitsOwned s (.perform 1 plainAnswer) &&
        (System.step smallSetup s (.perform 1 plainAnswer)).any fun s' => s'.row ≠ s.row)
      commitsOwned_sound smallStart_initial (by decide +kernel)
    simp only [Bool.and_eq_true,decide_eq_true_eq,Option.any_eq_true] at passed
    obtain ⟨⟨succeeded,owned⟩,s',step,written⟩ := passed
    have stays := (terminal_absorbing smallSetup s s' _ run (commitsOwned_sound s _ owned) step).1
    exact ⟨s,s',run,step,written,succeeded,(stays (by rw [succeeded]; decide)).trans succeeded⟩
  · obtain ⟨s,run,passed⟩ := Runs.exists_of_checked (System.step smallSetup) failedAndRetried
      (fun s => s.row.status = .failed && commitsOwned s (.perform 2 plainAnswer) &&
        (System.step smallSetup s (.perform 2 plainAnswer)).any fun s' => s'.row ≠ s.row)
      commitsOwned_sound smallStart_initial (by decide +kernel)
    simp only [Bool.and_eq_true,decide_eq_true_eq,Option.any_eq_true] at passed
    obtain ⟨⟨failed,owned⟩,s',step,written⟩ := passed
    exact ⟨s,s',run,step,written,failed,
      (terminal_absorbing smallSetup s s' _ run (commitsOwned_sound s _ owned) step).2 failed⟩

/-- The first worker has read the row for its failure and removes the workspace; meanwhile
its lease expires, and a second worker ends the run for the cancellation that was asked. -/
def cancelledMeanwhile : List Act :=
  [.claim 0 7 true,.fails 0 (.pipeline "RSYNC_TRANSFER_FAILED")] ++ performs 0 4 ++
    [.tick (31 * second),.requestCancel,.claimCancel 1 8] ++ performs 1 3

/-- The failure is then committed over the cancellation. -/
theorem terminal_overwritten : ∃ s s', Reached smallSetup (fun _ _ => True) s ∧
    System.step smallSetup s (.perform 0 plainAnswer) = some s' ∧
    s.row.status = .cancelled ∧ s'.row.status = .failed := by
  obtain ⟨s,run,passed⟩ := Runs.exists_of_follow (System.step smallSetup) cancelledMeanwhile
    (fun s => s.row.status = .cancelled &&
      (System.step smallSetup s (.perform 0 plainAnswer)).any fun s' => s'.row.status = .failed)
    smallStart_initial (by decide +kernel)
  simp only [Bool.and_eq_true,decide_eq_true_eq,Option.any_eq_true] at passed
  obtain ⟨cancelled,s',step,failed⟩ := passed
  exact ⟨s,s',run,step,cancelled,failed⟩

/-- `_fail` commits only while no cancellation is requested. -/
def FailsUncancelled (s : System) (a : Act) : Prop :=
  ∀ t i, a = .perform t i → s.pointOf t = some .failCommit → s.row.cancelRequested = false

def CancelHonoured (row : BackupRun) : Prop := row.cancelRequested = true → row.status.Active ∨ row.status = .cancelled

theorem RowStep.cancelHonoured {s s' : World} {e : Option Execution} {point : Point} (step : RowStep e point s s')
    (honoured : CancelHonoured s.run) (uncancelled : point = .failCommit → s.run.cancelRequested = false) :
    CancelHonoured s'.run := by
  intro requested
  have before : s.run.cancelRequested = true := by
    rcases step.cancel with same | ⟨-,-,reset⟩
    · exact same ▸ requested
    · simp [reset] at requested
  rcases step.status with same | change
  · rw [same]
    exact honoured before
  · cases change with
    | started _ _ running => rw [running]; exact .inl (by decide)
    | deliverable _ _ waiting => rw [waiting]; exact .inl (by decide)
    | resumed waiting => rw [waiting]; exact .inl (by decide)
    | cancelled _ _ cancelled _ => exact .inr cancelled
    | settled _ notRequested _ _ => simp [notRequested] at before
    | failed _ _ => simp [uncancelled rfl] at before
    | retried _ _ waiting => rw [waiting]; exact .inl (by decide)

theorem cancelHonoured_of_step {c : Setup} {allowed : System → Act → Prop} {s s' : System} {a : Act}
    (run : Reached c allowed s) (honoured : CancelHonoured s.row) (ok : FailsUncancelled s a)
    (h : System.step c s a = some s') : CancelHonoured s'.row := by
  have unchanged (same : s'.sys.shared.run = s.sys.shared.run) : CancelHonoured s'.row := by
    rw [System.row,same]
    exact honoured
  cases System.step_cases h with
  | @performed t i sys advanced =>
    obtain ⟨point,waits,step,-⟩ := rowStep_of_perform run h
    exact step.cancelHonoured honoured fun same => ok t i rfl (same ▸ waits)
  | raised _ interrupted sys_ _ =>
    obtain ⟨_,_,_,_,_,_,rfl⟩ := Sys.interrupt_cases interrupted
    exact unchanged (by rw [sys_])
  | claimed _ _ => exact honoured
  | cancelClaimed _ _ => exact honoured
  | requested => exact unchanged rfl
  | crashed => exact unchanged rfl
  | beside _ _ _ change =>
    rcases change with same | change
    · exact unchanged (congrArg World.run same)
    · intro requested
      have apart := change.apart
      rcases apart.status with same | ⟨-,-,cancelled⟩
      · rw [System.row,same]
        rcases apart.cancel with kept | ⟨active,-⟩
        · exact honoured (kept ▸ requested)
        · exact .inl active
      · exact .inr cancelled

theorem cancelHonoured_of_reached {c : Setup} {s : System} (run : Reached c FailsUncancelled s) :
    CancelHonoured s.row := by
  induction run with
  | start initial =>
    obtain ⟨now,users,access,rfl | rfl⟩ := initial
    · exact fun requested => by cases requested
    · exact fun requested => by cases requested
  | next run ok h ih => exact cancelHonoured_of_step run ih ok h

/-- The request stays until the run has ended by it. -/
theorem cancelRequested_stays {c : Setup} {s s' : System} {a : Act} (run : Reached c FailsUncancelled s)
    (requested : s.row.cancelRequested = true) (h : System.step c s a = some s') : s'.row.cancelRequested = true := by
  cases System.step_cases h with
  | performed advanced =>
    obtain ⟨point,waits,step,-⟩ := rowStep_of_perform run h
    rcases step.cancel with same | ⟨-,failed,-⟩
    · exact same.trans requested
    · have honoured := cancelHonoured_of_reached run requested
      rw [System.row,failed] at honoured
      exact absurd honoured (by decide)
  | raised _ interrupted sys_ _ =>
    obtain ⟨_,_,_,_,_,_,rfl⟩ := Sys.interrupt_cases interrupted
    rw [System.row,sys_]
    exact requested
  | claimed _ _ => exact requested
  | cancelClaimed _ _ => exact requested
  | requested => exact requested
  | crashed => exact requested
  | beside _ _ _ change =>
    rcases change with same | change
    · exact (congrArg (fun w => w.run.cancelRequested) same).trans requested
    · rcases change.apart.cancel with kept | ⟨-,set⟩
      · exact kept.trans requested
      · exact set

/-- As long as no failure is committed over a requested cancellation, a run whose
cancellation was accepted is from then on active or cancelled. -/
theorem cancellation_honoured (c : Setup) (s accepted later : System) (run : Reached c FailsUncancelled s)
    (request : System.step c s .requestCancel = some accepted)
    (after : Runs (fun x => x = accepted) (System.step c) FailsUncancelled later) :
    later.row.status.Active ∨ later.row.status = .cancelled := by
  have reached : Reached c FailsUncancelled accepted := .next run (fun t i same => by cases same) request
  have asked : accepted.row.cancelRequested = true := by
    simp only [System.step] at request
    split_ifs at request
    obtain rfl := Option.some.inj request
    simp only [System.withWorld,System.row,World.requestCancel]
    split_ifs <;> rfl
  have stays : later.row.cancelRequested = true := by
    induction after with
    | start same => exact same ▸ asked
    | next before ok h ih => exact cancelRequested_stays (reached.continued before) ih h
  exact cancelHonoured_of_reached (reached.continued after) stays

def failsUncancelled (s : System) : Act → Bool
  | .perform t _ => s.pointOf t ≠ some .failCommit || !s.row.cancelRequested
  | _ => true

theorem failsUncancelled_sound (s : System) (a : Act) (checked : failsUncancelled s a = true) : FailsUncancelled s a := by
  rintro t i rfl failing
  simpa [failsUncancelled,failing] using checked

/-- The heartbeat sees the request and interrupts the execution, which ends the run. -/
def heartbeatCancels (t : Nat) : List Act := [.poll t false,.deliver t] ++ performs t 4

def uncancelledStep (s : System) (a : Act) : Option System :=
  if failsUncancelled s a then System.step smallSetup s a else none

/-- A run is cancelled while its source is acquired, and another one, that had failed and was resumed,
while it is delivered again. -/
theorem cancellation_honoured_small :
    (∃ s accepted later, Reached smallSetup FailsUncancelled s ∧ s.row.status = .running ∧
      System.step smallSetup s .requestCancel = some accepted ∧
      Runs (fun x => x = accepted) (System.step smallSetup) FailsUncancelled later ∧
      later.row.finishedAt.isSome = true ∧ (later.row.status.Active ∨ later.row.status = .cancelled)) ∧
    ∃ s accepted later, Reached smallSetup FailsUncancelled s ∧ s.row.status = .deliveryPending ∧
      System.step smallSetup s .requestCancel = some accepted ∧
      Runs (fun x => x = accepted) (System.step smallSetup) FailsUncancelled later ∧
      later.row.finishedAt.isSome = true ∧ (later.row.status.Active ∨ later.row.status = .cancelled) := by
  have ends (status : RunStatus) (acts : List Act) (t : Nat)
      (passes : (Runs.follow uncancelledStep acts smallStart).any (fun s => s.row.status = status &&
        (System.step smallSetup s .requestCancel).any fun accepted =>
          (Runs.follow uncancelledStep (heartbeatCancels t) accepted).any fun later => later.row.finishedAt.isSome) = true) :
      ∃ s accepted later, Reached smallSetup FailsUncancelled s ∧ s.row.status = status ∧
        System.step smallSetup s .requestCancel = some accepted ∧
        Runs (fun x => x = accepted) (System.step smallSetup) FailsUncancelled later ∧
        later.row.finishedAt.isSome = true ∧ (later.row.status.Active ∨ later.row.status = .cancelled) := by
    obtain ⟨s,run,passed⟩ := Runs.exists_of_checked (System.step smallSetup) acts _ failsUncancelled_sound
      smallStart_initial passes
    simp only [Bool.and_eq_true,decide_eq_true_eq] at passed
    obtain ⟨accepted,request,after⟩ := (Option.any_eq_true _ _).mp passed.2
    obtain ⟨later,after,ended⟩ := @Runs.exists_of_checked System Act (fun x => x = accepted) (System.step smallSetup)
      FailsUncancelled accepted (heartbeatCancels t) _ failsUncancelled failsUncancelled_sound rfl after
    exact ⟨s,accepted,later,run,passed.1,request,after,ended,
      cancellation_honoured smallSetup s accepted later run request after⟩
  constructor
  · exact ends .running ([.claim 0 7 true] ++ performs 0 6) 0 (by decide +kernel)
  · exact ends .deliveryPending (failedAndRetried ++ performs 2 1 ++ [.claim 3 9 true] ++ performs 3 2) 3 (by decide +kernel)

/-- The request comes between the look for a cancellation and the commit of the failure. -/
def cancelledTooLate : List Act :=
  [.claim 0 7 true,.fails 0 (.pipeline "RSYNC_TRANSFER_FAILED")] ++ performs 0 2

theorem cancellation_lost : ∃ s accepted later, Reached smallSetup (fun _ _ => True) s ∧
    System.step smallSetup s .requestCancel = some accepted ∧
    System.follow smallSetup (performs 0 3) accepted = some later ∧ later.row.status = .failed := by
  obtain ⟨s,run,passed⟩ := Runs.exists_of_follow (System.step smallSetup) cancelledTooLate
    (fun s => (System.step smallSetup s .requestCancel).any fun accepted =>
      (System.follow smallSetup (performs 0 3) accepted).any fun later => later.row.status = .failed)
    smallStart_initial (by decide +kernel)
  obtain ⟨accepted,request,passed⟩ := (Option.any_eq_true _ _).mp passed
  obtain ⟨later,follows,failed⟩ := (Option.any_eq_true _ _).mp passed
  exact ⟨s,accepted,later,run,request,follows,of_decide_eq_true failed⟩

end BackupTelebot
