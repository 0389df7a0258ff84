import BackupTelebot.Interleaving

/-! The call `run_cooperative_thread` on its event loop: the awaiting task with its
`shield` and its handler, the task around `asyncio.to_thread`, the executor's future and
the thread itself. Each event is one callback of the loop or one step of a thread. -/
namespace BackupTelebot.Cooperative

open Interleave

inductive Outcome (α ε : Type) where
  | returned (value : α)
  | raised (error : ε)
  | cancelled
deriving DecidableEq, Repr

inductive Future (α ε : Type) where
  | pending
  | done (outcome : Outcome α ε)
deriving DecidableEq, Repr

/-- The function: not yet submitted, in the executor's queue, taken by a thread, ended,
or removed from the queue before any thread took it. -/
inductive Work (α ε : Type) where
  | absent
  | queued
  | running
  | finished (outcome : Outcome α ε)
  | dropped
deriving DecidableEq, Repr

/-- Where `asyncio.to_thread` is: not started, awaiting `run_in_executor`, or over. -/
inductive Stage (α ε : Type) where
  | created
  | waiting
  | ended (outcome : Outcome α ε)
deriving DecidableEq, Repr

/-- Where the awaiting task is: at `await asyncio.shield(task)`, at `await task` in the
handler, or out of the call. -/
inductive Caller (α ε : Type) where
  | shielded
  | handling
  | left (outcome : Outcome α ε)
deriving DecidableEq, Repr

/-- `outer` is the future that `shield` returned. The two `mustCancel` flags are what
`Task.cancel` leaves behind when the awaited future is already done or there is none. -/
structure State (α ε : Type) where
  work : Work α ε
  future : Future α ε
  task : Stage α ε
  taskMustCancel : Bool
  outer : Future α ε
  caller : Caller α ε
  mustCancel : Bool
  stop : Bool
deriving DecidableEq, Repr

inductive Event (α ε : Type) where
  | cancel
  | resume
  | stepTask
  | start
  | finish (outcome : Outcome α ε)
  | deliver
  | withdraw
  | settle
deriving DecidableEq, Repr

variable {α ε : Type}

/-- What leaves the handler: the end of `task` is suppressed, other than a
`BaseException`, and the cancellation is raised again. -/
def afterHandler (isException : ε → Bool) : Outcome α ε → Outcome α ε
  | .raised e => if isException e then .cancelled else .raised e
  | _ => .cancelled

/-- The outcome that a woken task finds at its `await`. -/
def arrives (mustCancel : Bool) (outcome : Outcome α ε) : Outcome α ε :=
  if mustCancel then .cancelled else outcome

namespace State

/-- The state at the first suspension of the call. A cancellation that the task already
carries cancels the future it is about to await. -/
def entered (carried : Bool) : State α ε where
  work := .absent
  future := .pending
  task := .created
  taskMustCancel := false
  outer := if carried then .done .cancelled else .pending
  caller := .shielded
  mustCancel := false
  stop := false

/-- `task.cancel()` on the task around `to_thread`. -/
def cancelTask (s : State α ε) : State α ε :=
  match s.task, s.future with
  | .waiting, .pending => { s with future := .done .cancelled }
  | _, _ => { s with taskMustCancel := true }

/-- `cancel()` on the awaiting task: it cancels what the task awaits. -/
def cancel (s : State α ε) : Option (State α ε) :=
  match s.caller with
  | .shielded =>
      match s.outer with
      | .pending => some { s with outer := .done .cancelled }
      | .done _ => some { s with mustCancel := true }
  | .handling =>
      match s.task with
      | .ended _ => some { s with mustCancel := true }
      | _ => some s.cancelTask
  | .left _ => none

/-- The handler up to `await task`, which does not suspend when the task is over. -/
def handler (isException : ε → Bool) (s : State α ε) : State α ε :=
  match s.task with
  | .ended outcome => { s with caller := .left (afterHandler isException outcome), stop := true, mustCancel := false }
  | _ => { s with caller := .handling, stop := true, mustCancel := false }

def resume (isException : ε → Bool) (s : State α ε) : Option (State α ε) :=
  match s.caller with
  | .shielded =>
      match s.outer with
      | .pending => none
      | .done outcome =>
          match arrives s.mustCancel outcome with
          | .cancelled => some (s.handler isException)
          | outcome => some { s with caller := .left outcome }
  | .handling =>
      match s.task with
      | .ended outcome =>
          some { s with
            caller := .left (afterHandler isException (arrives s.mustCancel outcome)), mustCancel := false }
      | _ => none
  | .left _ => none

/-- `asyncio.to_thread`: the first step submits the function, the second ends with its
future. -/
def stepTask (s : State α ε) : Option (State α ε) :=
  match s.task with
  | .created =>
      if s.taskMustCancel then some { s with task := .ended .cancelled, taskMustCancel := false }
      else some { s with task := .waiting, work := .queued }
  | .waiting =>
      match s.future with
      | .pending => none
      | .done outcome =>
          some { s with task := .ended (arrives s.taskMustCancel outcome), taskMustCancel := false }
  | .ended _ => none

/-- One event. A thread takes the queued function and ends it in its own time. `deliver`
copies its end to the loop's future, `withdraw` removes the function from the queue after
that future was cancelled (a running function cannot be removed), and `settle` is the
callback that hands the end of the task to the future of `shield`. -/
def step (isException : ε → Bool) (s : State α ε) : Event α ε → Option (State α ε)
  | .cancel => s.cancel
  | .resume => s.resume isException
  | .stepTask => s.stepTask
  | .start =>
      match s.work with
      | .queued => some { s with work := .running }
      | _ => none
  | .finish outcome =>
      match s.work with
      | .running => some { s with work := .finished outcome }
      | _ => none
  | .deliver =>
      match s.work, s.future with
      | .finished outcome, .pending => some { s with future := .done outcome }
      | _, _ => none
  | .withdraw =>
      match s.work, s.future with
      | .queued, .done .cancelled => some { s with work := .dropped }
      | _, _ => none
  | .settle =>
      match s.task, s.outer with
      | .ended outcome, .pending => some { s with outer := .done outcome }
      | _, _ => none

def Finished (s : State α ε) : Prop := ∃ outcome, s.work = .finished outcome

def Ended (s : State α ε) : Prop := ∃ outcome, s.task = .ended outcome

def Left (s : State α ε) : Prop := ∃ outcome, s.caller = .left outcome

end State

/-- The runs of one call, from its first suspension, whose events meet a condition. -/
abbrev Reached (isException : ε → Bool) (allowed : State α ε → Event α ε → Prop) : State α ε → Prop :=
  Runs (fun s => ∃ carried, s = .entered carried) (State.step isException) allowed

/-- No cancellation reaches the awaiting task in the handler while the function has not
ended. -/
def Patient (s : State α ε) (event : Event α ε) : Prop :=
  event = .cancel → s.caller = .handling → s.Finished

namespace State

theorem cancel_cases {s s' : State α ε} (h : s.cancel = some s') :
    (s.caller = .shielded ∧ s' = { s with outer := .done .cancelled }) ∨
    s' = { s with mustCancel := true } ∨
    (s.caller = .handling ∧ s' = s.cancelTask) := by
  unfold cancel at h
  split at h
  next here =>
    split at h
    · exact .inl ⟨here,(Option.some.inj h).symm⟩
    · exact .inr (.inl (Option.some.inj h).symm)
  next here =>
    split at h
    · exact .inr (.inl (Option.some.inj h).symm)
    · exact .inr (.inr ⟨here,(Option.some.inj h).symm⟩)
  next => contradiction

/-- The awaiting task moves only itself and the stop signal. It leaves the call when the
task is over, or with what the future of `shield` was given other than a cancellation. -/
theorem resume_cases {isException : ε → Bool} {s s' : State α ε} (h : s.resume isException = some s') :
    ∃ caller stop mustCancel, s' = { s with caller := caller, stop := stop, mustCancel := mustCancel } ∧
      (s'.Left → s.Ended ∨ ∃ outcome, s.outer = .done outcome ∧ outcome ≠ .cancelled) := by
  unfold resume at h
  split at h
  next =>
    split at h
    next => contradiction
    next outcome arrived =>
      split at h
      next =>
        obtain rfl := Option.some.inj h
        unfold handler
        split
        next settled => exact ⟨_,_,_,rfl,fun _ => .inl ⟨_,settled⟩⟩
        next => exact ⟨_,_,_,rfl,fun ⟨_,left⟩ => by simp at left⟩
      next other =>
        obtain rfl := Option.some.inj h
        refine ⟨_,s.stop,s.mustCancel,rfl,fun _ => .inr ⟨outcome,arrived,?_⟩⟩
        rintro rfl
        exact other (by simp [arrives])
  next =>
    split at h
    next settled =>
      obtain rfl := Option.some.inj h
      exact ⟨_,s.stop,_,rfl,fun _ => .inl ⟨_,settled⟩⟩
    next => contradiction
  next => contradiction

theorem stepTask_cases {s s' : State α ε} (h : s.stepTask = some s') :
    (s.task = .created ∧ s.taskMustCancel = true ∧
      s' = { s with task := .ended .cancelled, taskMustCancel := false }) ∨
    (s.task = .created ∧ s' = { s with task := .waiting, work := .queued } ∧ s.taskMustCancel = false) ∨
    (∃ outcome, s.task = .waiting ∧ s.future = .done outcome ∧
      s' = { s with task := .ended (arrives s.taskMustCancel outcome), taskMustCancel := false }) := by
  unfold stepTask at h
  split at h
  next here =>
    split at h
    next flag => exact .inl ⟨here,flag,(Option.some.inj h).symm⟩
    next flag => exact .inr (.inl ⟨here,(Option.some.inj h).symm,by simpa using flag⟩)
  next here =>
    split at h
    next => contradiction
    next outcome done => exact .inr (.inr ⟨outcome,here,done,(Option.some.inj h).symm⟩)
  next => contradiction

end State

/-- Before the function has ended, nothing that would end the task has happened, and
control leaves only after the task. -/
structure Waits (s : State α ε) : Prop where
  submitted : s.task = .created → s.work = .absent
  future : s.future ≠ .pending → s.Finished
  flagged : s.taskMustCancel = true → s.Finished
  ended : s.Ended → s.Finished
  outer : ∀ outcome, s.outer = .done outcome → outcome = .cancelled ∨ s.Ended
  left : s.Left → s.Ended

theorem Waits.entered (carried : Bool) : Waits (State.entered carried : State α ε) := by
  constructor
  · intro _
    rfl
  · intro h
    exact absurd rfl h
  · intro h
    cases h
  · rintro ⟨_,h⟩
    cases h
  · intro outcome h
    cases carried with
    | false => cases h
    | true => exact .inl (by simpa [State.entered] using h.symm)
  · rintro ⟨_,h⟩
    cases h

theorem Waits.cancelled {s s' : State α ε} (waits : Waits s) (h : s.cancel = some s')
    (patient : s.caller = .handling → s.Finished) : Waits s' := by
  obtain ⟨_,rfl⟩ | rfl | ⟨here,rfl⟩ := State.cancel_cases h
  · exact ⟨waits.submitted,waits.future,waits.flagged,waits.ended,
      fun _ same => .inl (Future.done.inj same).symm,waits.left⟩
  · exact ⟨waits.submitted,waits.future,waits.flagged,waits.ended,waits.outer,waits.left⟩
  · have finished := patient here
    unfold State.cancelTask
    split
    · exact ⟨waits.submitted,fun _ => finished,waits.flagged,waits.ended,waits.outer,waits.left⟩
    · exact ⟨waits.submitted,waits.future,fun _ => finished,waits.ended,waits.outer,waits.left⟩

theorem Waits.resumed {isException : ε → Bool} {s s' : State α ε} (waits : Waits s)
    (h : s.resume isException = some s') : Waits s' := by
  obtain ⟨caller,stop,mustCancel,rfl,leaves⟩ := State.resume_cases h
  refine ⟨waits.submitted,waits.future,waits.flagged,waits.ended,waits.outer,fun left => ?_⟩
  rcases leaves left with settled | ⟨outcome,given,real⟩
  · exact settled
  · rcases waits.outer outcome given with same | settled
    · exact absurd same real
    · exact settled

theorem Waits.stepped {s s' : State α ε} (waits : Waits s) (h : s.stepTask = some s') : Waits s' := by
  rcases State.stepTask_cases h with ⟨here,flag,rfl⟩ | ⟨here,rfl,flag⟩ | ⟨outcome,here,done,rfl⟩
  · have finished : s.Finished := waits.flagged flag
    exact ⟨nofun,waits.future,nofun,fun _ => finished,
      fun _ _ => .inr ⟨_,rfl⟩,fun _ => ⟨_,rfl⟩⟩
  · -- The function is submitted, so it has not ended, and nothing may depend on its end.
    have unfinished : ¬ s.Finished := by
      rintro ⟨_,same⟩
      rw [waits.submitted here] at same
      cases same
    refine ⟨nofun,fun arrived => absurd (waits.future arrived) unfinished,
      fun flagged => absurd (waits.flagged flagged) unfinished,nofun,?_,?_⟩
    · intro outcome given
      rcases waits.outer outcome given with same | settled
      · exact .inl same
      · exact absurd (waits.ended settled) unfinished
    · intro left
      exact absurd (waits.ended (waits.left left)) unfinished
  · have finished : s.Finished := waits.future (by simp [done])
    exact ⟨nofun,waits.future,nofun,fun _ => finished,
      fun _ _ => .inr ⟨_,rfl⟩,fun _ => ⟨_,rfl⟩⟩

/-- A move of the thread before its end changes nothing that depends on that end. -/
theorem Waits.moved {s : State α ε} (waits : Waits s) (work : Work α ε) (started : s.task ≠ .created)
    (later : s.Finished → ∃ outcome, work = .finished outcome) : Waits { s with work := work } :=
  ⟨fun same => absurd same started,fun h => later (waits.future h),fun h => later (waits.flagged h),
    fun h => later (waits.ended h),waits.outer,waits.left⟩

theorem Waits.step {isException : ε → Bool} {s s' : State α ε} {event : Event α ε} (waits : Waits s)
    (patient : Patient s event) (h : s.step isException event = some s') : Waits s' := by
  cases event with
  | cancel => exact waits.cancelled h (patient rfl)
  | resume => exact waits.resumed h
  | stepTask => exact waits.stepped h
  | start =>
    simp only [State.step] at h
    split at h
    next queued =>
      obtain rfl := Option.some.inj h
      refine waits.moved _ (fun same => ?_) (fun ⟨_,same⟩ => ?_)
      · simp [waits.submitted same] at queued
      · simp [same] at queued
    next => contradiction
  | finish outcome =>
    simp only [State.step] at h
    split at h
    next running =>
      obtain rfl := Option.some.inj h
      refine waits.moved _ (fun same => ?_) (fun _ => ⟨_,rfl⟩)
      simp [waits.submitted same] at running
    next => contradiction
  | deliver =>
    simp only [State.step] at h
    split at h
    next finished _ =>
      obtain rfl := Option.some.inj h
      exact ⟨waits.submitted,fun _ => ⟨_,finished⟩,waits.flagged,waits.ended,waits.outer,waits.left⟩
    next => contradiction
  | withdraw =>
    simp only [State.step] at h
    split at h
    next queued done =>
      have ⟨_,finished⟩ := waits.future (by simp [done])
      simp [queued] at finished
    next => contradiction
  | settle =>
    simp only [State.step] at h
    split at h
    next settled _ =>
      obtain rfl := Option.some.inj h
      exact ⟨waits.submitted,waits.future,waits.flagged,waits.ended,fun _ _ => .inr ⟨_,settled⟩,waits.left⟩
    next => contradiction

/-- A cancelled task ends at its next step, whatever the thread does. -/
theorem State.cancelTask_ends {s : State α ε} (running : ¬ s.Ended) :
    ∃ s', s.cancelTask.stepTask = some s' ∧ s'.Ended ∧ s'.caller = s.caller ∧ s'.work = s.work := by
  unfold State.cancelTask State.stepTask
  cases here : s.task with
  | created => exact ⟨_,rfl,⟨_,rfl⟩,rfl,rfl⟩
  | waiting =>
    cases s.future with
    | pending => exact ⟨_,rfl,⟨_,rfl⟩,rfl,rfl⟩
    | done outcome => exact ⟨_,rfl,⟨_,rfl⟩,rfl,rfl⟩
  | ended outcome => exact absurd ⟨outcome,here⟩ running

theorem State.resume_leaves (isException : ε → Bool) {s : State α ε} (here : s.caller = .handling)
    (settled : s.Ended) : ∃ s', s.resume isException = some s' ∧ s'.Left ∧ s'.work = s.work := by
  obtain ⟨outcome,settled⟩ := settled
  unfold State.resume
  rw [here,settled]
  exact ⟨_,rfl,⟨_,rfl⟩,rfl⟩

/-- A cancellation in the handler reaches the task, which ends without the function:
control leaves while the function is where it was. -/
theorem cancel_leaves (isException : ε → Bool) {s : State α ε} (here : s.caller = .handling) :
    ∃ events s', Runs.follow (State.step isException) (.cancel :: events) s = some s' ∧
      s'.Left ∧ s'.work = s.work := by
  by_cases settled : s.Ended
  · obtain ⟨outcome,ended⟩ := settled
    have cancelled : s.cancel = some { s with mustCancel := true } := by
      simp [State.cancel,here,ended]
    obtain ⟨s',resumed,left,same⟩ :=
      State.resume_leaves isException (s := { s with mustCancel := true }) here ⟨outcome,ended⟩
    exact ⟨[.resume],s',by simp [Runs.follow,State.step,cancelled,resumed],left,same⟩
  · have cancelled : s.cancel = some s.cancelTask := by
      unfold State.cancel
      rw [here]
      cases task : s.task with
      | ended outcome => exact absurd ⟨outcome,task⟩ settled
      | created => rfl
      | waiting => rfl
    obtain ⟨middle,stepped,ended,caller,work⟩ := State.cancelTask_ends settled
    obtain ⟨s',resumed,left,same⟩ := State.resume_leaves isException (caller.trans here) ended
    exact ⟨[.stepTask,.resume],s',by simp [Runs.follow,State.step,cancelled,stepped,resumed],left,same.trans work⟩

/-- As long as every cancellation in the handler finds the function ended, control leaves
the call only after its end. A cancellation that finds it otherwise can be followed by
control leaving with the function where it was. -/
theorem runCooperativeThread_waits (isException : ε → Bool) :
    (∀ s : State α ε, Reached isException Patient s → s.Left → s.Finished) ∧
    (∀ s : State α ε, s.caller = .handling → ¬ s.Finished →
      ∃ events s', Runs.follow (State.step isException) (.cancel :: events) s = some s' ∧
        s'.Left ∧ s'.work = s.work) := by
  constructor
  · intro s run left
    have waits : Waits s := by
      refine Runs.invariant ?_ (fun _ _ _ waits patient done => waits.step patient done) run
      rintro _ ⟨carried,rfl⟩
      exact .entered carried
    exact waits.ended (waits.left left)
  · intro s here _
    exact cancel_leaves isException here

/-- A cancelled call that waits until its function has returned. -/
theorem runCooperativeThread_waits_small :
    ∃ s : State Unit Unit, Reached (fun _ => true) Patient s ∧ s.Left ∧ s.Finished := by
  have sound : ∀ (s : State Unit Unit) (event : Event Unit Unit),
      decide (event = .cancel → s.caller ≠ .handling) = true → Patient s event := by
    intro s event checked cancelled here
    exact absurd here (of_decide_eq_true checked cancelled)
  obtain ⟨s,run,passed⟩ : ∃ s : State Unit Unit, Reached (fun _ => true) Patient s ∧
      decide (s.caller = .left .cancelled) = true :=
    Runs.exists_of_checked (State.step fun _ => true)
      [.stepTask,.start,.cancel,.resume,.finish (.returned ()),.deliver,.stepTask,.resume] _ sound
      ⟨false,rfl⟩ (by decide +kernel)
  have left : s.Left := ⟨_,of_decide_eq_true passed⟩
  exact ⟨s,run,left,(runCooperativeThread_waits (fun _ => true)).1 s run left⟩

/-- Two cancellations, the second while the first is being handled: control leaves the
call with the function still in its thread. -/
theorem runCooperativeThread_leavesWriter :
    ∃ s : State Unit Unit, Reached (fun _ => true) (fun _ _ => True) s ∧ s.Left ∧ s.work = .running := by
  obtain ⟨s,run,passed⟩ : ∃ s : State Unit Unit, Reached (fun _ => true) (fun _ _ => True) s ∧
      decide (s.caller = .left .cancelled ∧ s.work = .running) = true :=
    Runs.exists_of_follow (State.step fun _ => true)
      [.stepTask,.start,.cancel,.resume,.cancel,.stepTask,.resume] _ ⟨false,rfl⟩ (by decide +kernel)
  obtain ⟨left,running⟩ := of_decide_eq_true passed
  exact ⟨s,run,⟨_,left⟩,running⟩

end BackupTelebot.Cooperative
