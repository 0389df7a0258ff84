import BackupTelebot.TimedAwait

/-! `RunDeadline` of the pipeline, and when the errors of its `wait_for` mean what they say.
Times are whole ticks of the monotonic clock. -/
namespace BackupTelebot.Deadline

open AsyncTimeout

/-- Exceptions with their identity. A timeout without one is raised by `asyncio.timeout`. -/
inductive Raised where
  | timeoutError (identity : Option Nat)
  | cancelledError (identity : Nat)
  | pipelineError (code message : String)
  | other (identity : Nat)
  deriving DecidableEq, Repr

def Raised.isTimeout : Raised → Bool
  | .timeoutError _ => true
  | _ => false

def Raised.isCancelled : Raised → Bool
  | .cancelledError _ => true
  | _ => false

structure RunDeadline where
  expiresAt : Int
  deriving DecidableEq, Repr

/-- `__init__`. A start without a time zone is taken as UTC. -/
def RunDeadline.init (seconds : Int) (startedAt : Option Int) (utcNow monotonic : Int) : RunDeadline :=
  ⟨monotonic + max 0 (seconds - startedAt.elim 0 fun started => max 0 (utcNow - started))⟩

def backupTimeout : Raised := .pipelineError "BACKUP_TIMEOUT" "backup run deadline exceeded"

def RunDeadline.remaining (d : RunDeadline) (now : Int) : Except Raised Int :=
  if d.expiresAt - now ≤ 0 then .error backupTimeout else .ok (d.expiresAt - now)

structure Options where
  maximum : Option Int := none
  timeoutCode : String := "BACKUP_TIMEOUT"
  timeoutMessage : String := "backup run deadline exceeded"
  deriving DecidableEq, Repr

/-- The moment of the call, how long it takes until the timer is set, and the cancellations
that the task has already been asked for. -/
structure Entry where
  start : Int
  lag : Nat
  cancelling : Nat
  deriving DecidableEq, Repr

/-- An awaitable, and what `close` raises where that is called. A coroutine that has not begun
raises nothing. -/
structure Work (ι α : Type) where
  body : Awaitable ι α Raised
  closes : Option Raised

section WaitFor

variable {ι α : Type} (d : RunDeadline) (o : Options) (entry : Entry)

def timeout (remaining : Int) : Int := o.maximum.elim remaining (min remaining)

def operationLimited (remaining : Int) : Bool := o.maximum.any (· < remaining)

/-- `asyncio.timeout`, entered. -/
def entered (remaining : Int) : Scope :=
  ⟨entry.start + entry.lag,entry.start + entry.lag + timeout o remaining,false,entry.cancelling⟩

/-- The handler of `except TimeoutError`. -/
def translated (remaining : Int) : Ended α Raised → Ended α Raised
  | .raised error =>
      if error.isTimeout then
        .raised (if operationLimited o remaining then .pipelineError o.timeoutCode o.timeoutMessage else backupTimeout)
      else .raised error
  | .returned value => .returned value

def waitFor (work : Work ι α) (schedule : List (Happening ι Raised)) : Option (Ended α Raised × Int) :=
  match d.remaining entry.start with
  | .error error => some (.raised (work.closes.getD error),entry.start)
  | .ok remaining =>
      ((entered o entry remaining).drive work.body schedule).map fun (ended,last) =>
        (translated o remaining (last.exit entry.cancelling Raised.isCancelled (.timeoutError none) ended),last.now)

def ownEnd (work : Work ι α) (schedule : List (Happening ι Raised)) : Option (Ended α Raised) :=
  match d.remaining entry.start with
  | .error _ => work.closes.map .raised
  | .ok remaining => ((entered o entry remaining).drive work.body schedule).map (·.1)

/-- Either the awaitable's own end, or an error of the deadline or of the smaller limit that
has passed by then. The code of the limit may not be that of the deadline before the deadline. -/
inductive Settles (own : Option (Ended α Raised)) (now : Int) : Ended α Raised → Prop
  | own {ended : Ended α Raised} (same : own = some ended) : Settles own now ended
  | deadline (elapsed : d.expiresAt ≤ now) : Settles own now (.raised backupTimeout)
  | limit {maximum : Int} (given : o.maximum = some maximum) (smaller : maximum < d.expiresAt - entry.start)
      (elapsed : entry.start + maximum ≤ now) (named : o.timeoutCode = "BACKUP_TIMEOUT" → d.expiresAt ≤ now) :
      Settles own now (.raised (.pipelineError o.timeoutCode o.timeoutMessage))

def limitAt : Int := entry.start + timeout o (d.expiresAt - entry.start)

/-- The awaitable did not get to its own end, or raised a timeout of its own. -/
def GivenUp (ended : Ended α Raised) (last : Scope) : Prop :=
  ∃ error, ended = .raised error ∧
    (error.isTimeout = true ∨ error.isCancelled = true ∧ last.handles entry.cancelling = true)

/-- No timeout of the awaitable's own comes before the limit, and no limit that bears the
deadline's code comes before the deadline. -/
structure Undisturbed (ended : Ended α Raised) (last : Scope) : Prop where
  inner : ∀ error, ended = .raised error → error.isTimeout = true → limitAt d o entry ≤ last.now
  code : operationLimited o (d.expiresAt - entry.start) = true → o.timeoutCode = "BACKUP_TIMEOUT" →
    GivenUp entry ended last → d.expiresAt ≤ last.now

end WaitFor

section Results

variable {ι α : Type} {d : RunDeadline} {o : Options} {entry : Entry}

theorem remaining_ok {now remaining : Int} (ok : d.remaining now = .ok remaining) :
    remaining = d.expiresAt - now ∧ now < d.expiresAt := by
  unfold RunDeadline.remaining at ok
  split_ifs at ok with elapsed
  exact ⟨(Except.ok.inj ok).symm,by omega⟩

theorem remaining_error {now : Int} {error : Raised} (failed : d.remaining now = .error error) :
    error = backupTimeout ∧ d.expiresAt ≤ now := by
  unfold RunDeadline.remaining at failed
  split_ifs at failed with elapsed
  exact ⟨(Except.error.inj failed).symm,by omega⟩

theorem operationLimited_iff {remaining : Int} :
    operationLimited o remaining = true ↔ ∃ maximum, o.maximum = some maximum ∧ maximum < remaining := by
  cases given : o.maximum with
  | none => simp [operationLimited,given]
  | some maximum => simp [operationLimited,given]

/-- The limit is the deadline, or that of the operation if it is smaller. -/
theorem limitAt_cases : operationLimited o (d.expiresAt - entry.start) = false ∧ limitAt d o entry = d.expiresAt ∨
    ∃ maximum, o.maximum = some maximum ∧ maximum < d.expiresAt - entry.start ∧
      operationLimited o (d.expiresAt - entry.start) = true ∧ limitAt d o entry = entry.start + maximum := by
  unfold limitAt timeout operationLimited
  cases given : o.maximum with
  | none => left; simp
  | some maximum =>
    by_cases smaller : maximum < d.expiresAt - entry.start
    · right
      exact ⟨maximum,rfl,smaller,by simpa using smaller,by simp [min_eq_right smaller.le]⟩
    · left
      simp [smaller,min_eq_left (not_lt.mp smaller)]

/-- The timer that cancelled the task was due. -/
theorem limitAt_of_expiring {awaitable : Awaitable ι α Raised} {schedule : List (Happening ι Raised)}
    {ended : Ended α Raised} {last : Scope}
    (run : (entered o entry (d.expiresAt - entry.start)).drive awaitable schedule = some (ended,last))
    (expiring : last.expiring = true) : limitAt d o entry ≤ last.now := by
  have after := Scope.after_drive run
  have due := after.inTime (by simp [entered]) expiring
  rw [after.due] at due
  unfold limitAt
  simp only [entered] at due
  omega

/-- What leaves the handler: the awaitable's own end, or the error of the limit. -/
theorem translated_exit (ended : Ended α Raised) (last : Scope) (remaining : Int) :
    ¬GivenUp entry ended last ∧
        translated o remaining (last.exit entry.cancelling Raised.isCancelled (.timeoutError none) ended) = ended ∨
      GivenUp entry ended last ∧
        translated o remaining (last.exit entry.cancelling Raised.isCancelled (.timeoutError none) ended) =
          .raised (if operationLimited o remaining then .pipelineError o.timeoutCode o.timeoutMessage
            else backupTimeout) := by
  cases ended with
  | returned value => simp [GivenUp,Scope.exit,translated]
  | raised error =>
    cases own : error.isTimeout with
    | true =>
      have notCancelled : error.isCancelled = false := by cases error <;> simp_all [Raised.isTimeout,Raised.isCancelled]
      simp [GivenUp,Scope.exit,translated,own,notCancelled]
    | false =>
      cases cancelled : error.isCancelled with
      | false => simp [GivenUp,Scope.exit,translated,own,cancelled]
      | true =>
        cases handled : last.handles entry.cancelling with
        | false => simp [GivenUp,Scope.exit,translated,own,cancelled,handled]
        | true =>
          right
          constructor
          · exact ⟨error,rfl,.inr ⟨cancelled,handled⟩⟩
          · simp [Scope.exit,translated,cancelled,handled,Raised.isTimeout]

/-- A given-up awaitable is told from its own end. -/
theorem givenUp_ne {ended : Ended α Raised} {last : Scope} (given : GivenUp entry ended last) {code message : String} :
    ended ≠ .raised (.pipelineError code message) := by
  rintro rfl
  obtain ⟨error,same,up⟩ := given
  obtain rfl := Ended.raised.inj same
  simp [Raised.isTimeout,Raised.isCancelled] at up

theorem limitAt_le : limitAt d o entry ≤ d.expiresAt := by
  rcases @limitAt_cases d o entry with ⟨_,same⟩ | ⟨maximum,_,smaller,_,same⟩
  · omega
  · omega

/-- Whoever gives up an undisturbed awaitable is in time. -/
theorem Undisturbed.limit_le {ended : Ended α Raised} {last : Scope} (undisturbed : Undisturbed d o entry ended last)
    (given : GivenUp entry ended last) (inTime : last.expiring = true → limitAt d o entry ≤ last.now) :
    limitAt d o entry ≤ last.now := by
  obtain ⟨error,same,own | ⟨_,handled⟩⟩ := given
  · exact undisturbed.inner error same own
  · simp only [Scope.handles,Bool.and_eq_true] at handled
    exact inTime handled.1

theorem settles_givenUp {ended : Ended α Raised} {last : Scope} (given : GivenUp entry ended last)
    (inTime : last.expiring = true → limitAt d o entry ≤ last.now) :
    Settles d o entry (some ended) last.now (.raised (if operationLimited o (d.expiresAt - entry.start) then
        .pipelineError o.timeoutCode o.timeoutMessage else backupTimeout)) ↔ Undisturbed d o entry ended last := by
  constructor
  · intro settles
    generalize result : Ended.raised (if operationLimited o (d.expiresAt - entry.start) then _ else backupTimeout) =
      answer at settles
    cases settles with
    | own same =>
      obtain rfl := Option.some.inj same
      split at result
      · exact absurd result.symm (givenUp_ne given)
      · exact absurd result.symm (givenUp_ne given)
    | deadline elapsed => exact ⟨fun _ _ _ => limitAt_le.trans elapsed,fun _ _ _ => elapsed⟩
    | @limit maximum is smaller elapsed named =>
      refine ⟨fun _ _ _ => ?_,fun _ code _ => named code⟩
      rcases @limitAt_cases d o entry with ⟨unlimited,_⟩ | ⟨other,is',_,_,same⟩
      · have limited := operationLimited_iff.mpr ⟨maximum,is,smaller⟩
        simp [limited] at unlimited
      · obtain rfl := Option.some.inj (is.symm.trans is')
        omega
  · intro undisturbed
    have passed := undisturbed.limit_le given inTime
    rcases @limitAt_cases d o entry with ⟨unlimited,same⟩ | ⟨maximum,is,smaller,limited,same⟩
    · rw [unlimited]
      exact .deadline (same ▸ passed)
    · rw [if_pos limited]
      exact .limit is smaller (same ▸ passed) fun code => undisturbed.code limited code given

/-- The errors of `wait_for` mean what they say exactly if the awaitable is undisturbed by
timeouts of its own, unless the deadline is over before it begins. -/
theorem wait_for_settles_iff (work : Work ι α) (schedule : List (Happening ι Raised)) (result : Ended α Raised) (now : Int)
    (done : waitFor d o entry work schedule = some (result,now)) :
    Settles d o entry (ownEnd d o entry work schedule) now result ↔
      d.expiresAt ≤ entry.start ∨
        ∀ ended last, (entered o entry (d.expiresAt - entry.start)).drive work.body schedule = some (ended,last) →
          Undisturbed d o entry ended last := by
  unfold waitFor at done
  unfold ownEnd
  cases looked : d.remaining entry.start with
  | error error =>
    obtain ⟨rfl,elapsed⟩ := remaining_error looked
    simp only [looked,Option.some.injEq,Prod.mk.injEq] at done
    obtain ⟨rfl,rfl⟩ := done
    constructor
    · exact fun _ => .inl elapsed
    · intro _
      cases closing : work.closes with
      | none => exact .deadline elapsed
      | some error => exact .own rfl
  | ok remaining =>
    obtain ⟨rfl,alive⟩ := remaining_ok looked
    simp only [looked,Option.map_eq_some_iff,Prod.mk.injEq,Prod.exists] at done
    obtain ⟨ended,last,run,rfl,rfl⟩ := done
    simp only [run,Option.map_some,Option.some.injEq,Prod.mk.injEq]
    have undisturbed_iff : (d.expiresAt ≤ entry.start ∨ ∀ ended' last', ended = ended' ∧ last = last' →
        Undisturbed d o entry ended' last') ↔ Undisturbed d o entry ended last := by
      constructor
      · rintro (elapsed | all)
        · omega
        · exact all ended last ⟨rfl,rfl⟩
      · rintro undisturbed
        right
        rintro _ _ ⟨rfl,rfl⟩
        exact undisturbed
    rw [undisturbed_iff]
    rcases @translated_exit α o entry ended last (d.expiresAt - entry.start) with ⟨kept,same⟩ | ⟨given,same⟩
    · rw [same]
      refine ⟨fun _ => ⟨fun error raised own => ?_,fun _ _ given => absurd given kept⟩,fun _ => .own rfl⟩
      exact absurd ⟨error,raised,.inl own⟩ kept
    · rw [same]
      exact settles_givenUp given (limitAt_of_expiring run)

end Results

def reply : Work Unit Unit := ⟨.suspends .ends,none⟩

/-- The limit of one operation, a minute, within the hour of the run. -/
theorem wait_for_settles_iff_minute : waitFor (RunDeadline.init 3600 (some 90) 100 500) ⟨some 60,"QUERY_TIMEOUT","query"⟩
      ⟨1000,1,0⟩ reply [.passes 61,.fires,.resumes (.raised (.cancelledError 3))] =
        some (.raised (.pipelineError "QUERY_TIMEOUT" "query"),1062) ∧
    Settles (RunDeadline.init 3600 (some 90) 100 500) ⟨some 60,"QUERY_TIMEOUT","query"⟩ ⟨1000,1,0⟩
      (some (.raised (.cancelledError 3) : Ended Unit Raised)) 1062 (.raised (.pipelineError "QUERY_TIMEOUT" "query")) := by
  have done : waitFor (RunDeadline.init 3600 (some 90) 100 500) ⟨some 60,"QUERY_TIMEOUT","query"⟩ ⟨1000,1,0⟩ reply
      [.passes 61,.fires,.resumes (.raised (.cancelledError 3))] =
        some (.raised (.pipelineError "QUERY_TIMEOUT" "query"),1062) := by decide
  refine ⟨done,(wait_for_settles_iff reply _ _ _ done).mpr (.inr fun ended last run => ?_)⟩
  have now : last.now = 1062 := by
    have ends : (ended,last) = (.raised (.cancelledError 3),⟨1062,1061,true,1⟩) := Option.some.inj (run.symm.trans (by decide))
    rw [(Prod.mk.inj ends).2]
  constructor
  · intro _ _ _
    rw [now]
    decide
  · intro _ code
    exact absurd code (by decide)

/-- A reply that times out after half a minute is reported as the deadline of the hour. -/
theorem wait_for_misreports : waitFor (RunDeadline.init 3600 none 0 0) {} ⟨0,0,0⟩ reply
      [.passes 30,.resumes (.raised (.timeoutError (some 7)))] = some (.raised backupTimeout,30) ∧
    ¬Settles (RunDeadline.init 3600 none 0 0) {} ⟨0,0,0⟩ (ownEnd (RunDeadline.init 3600 none 0 0) {} ⟨0,0,0⟩ reply
      [.passes 30,.resumes (.raised (.timeoutError (some 7)))]) 30 (.raised backupTimeout) := by
  constructor
  · decide
  · intro settles
    cases settles with
    | own same => exact absurd same (by decide)
    | deadline elapsed => exact absurd elapsed (by decide)
    | limit given => simp at given

end BackupTelebot.Deadline
