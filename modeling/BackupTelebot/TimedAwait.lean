import Mathlib.Algebra.Order.Group.Unbundled.Int

/-! An awaitable under `asyncio.timeout`, in its task on the event loop. The awaitable and what
the loop does while it waits are arbitrary; the timer only fires when it is due. -/
namespace AsyncTimeout

variable {ι α ε : Type}

inductive Ended (α ε : Type) where
  | returned (value : α)
  | raised (error : ε)
  deriving DecidableEq, Repr

/-- The rest of an awaitable. It keeps the loop to itself until it suspends, and is resumed with
a value or an exception, such as a cancellation. -/
inductive Awaitable (ι α ε : Type) where
  | ends (ended : Ended α ε)
  | works (duration : Nat) (next : Awaitable ι α ε)
  | cancels (next : Awaitable ι α ε)
  | uncancels (next : Nat → Awaitable ι α ε)
  | suspends (next : Ended ι ε → Awaitable ι α ε)

inductive Happening (ι ε : Type) where
  | passes (duration : Nat)
  | fires
  | cancels
  | resumes (sent : Ended ι ε)
  deriving DecidableEq, Repr

/-- The timeout that was entered, with the clock and the task's cancellation requests. -/
structure Scope where
  now : Int
  due : Int
  expiring : Bool
  cancelling : Nat
  deriving DecidableEq, Repr

namespace Scope

def passes (s : Scope) (duration : Nat) : Scope := { s with now := s.now + duration }

def cancels (s : Scope) : Scope := { s with cancelling := s.cancelling + 1 }

def uncancels (s : Scope) : Scope := { s with cancelling := s.cancelling - 1 }

/-- `_on_timeout`, which the loop calls once. -/
def fires (s : Scope) : Scope :=
  if s.expiring = false ∧ s.due ≤ s.now then { s.cancels with expiring := true } else s

def wait (resume : Ended ι ε → Scope → List (Happening ι ε) → Option (Ended α ε × Scope)) :
    Scope → List (Happening ι ε) → Option (Ended α ε × Scope)
  | _, [] => none
  | s, .passes duration :: rest => wait resume (s.passes duration) rest
  | s, .fires :: rest => wait resume s.fires rest
  | s, .cancels :: rest => wait resume s.cancels rest
  | s, .resumes sent :: rest => resume sent s rest

def drive : Awaitable ι α ε → Scope → List (Happening ι ε) → Option (Ended α ε × Scope)
  | .ends ended, s, _ => some (ended,s)
  | .works duration next, s, schedule => drive next (s.passes duration) schedule
  | .cancels next, s, schedule => drive next s.cancels schedule
  | .uncancels next, s, schedule => drive (next s.uncancels.cancelling) s.uncancels schedule
  | .suspends next, s, schedule => wait (fun sent => drive (next sent)) s schedule

/-- The timer cancelled the task, and nobody else did since it was entered. -/
def handles (s : Scope) (entered : Nat) : Bool := s.expiring && decide (s.uncancels.cancelling ≤ entered)

/-- `__aexit__`. -/
def exit (s : Scope) (entered : Nat) (isCancelled : ε → Bool) (timeoutError : ε) : Ended α ε → Ended α ε
  | .raised error => if s.handles entered && isCancelled error then .raised timeoutError else .raised error
  | .returned value => .returned value

/-- The timer stays set, time goes on, and the timer is in time. -/
structure After (s s' : Scope) : Prop where
  due : s'.due = s.due
  later : s.now ≤ s'.now
  inTime : (s.expiring = true → s.due ≤ s.now) → s'.expiring = true → s'.due ≤ s'.now

theorem After.refl (s : Scope) : s.After s := ⟨rfl,le_rfl,id⟩

theorem After.trans {s s' s'' : Scope} (first : s.After s') (second : s'.After s'') : s.After s'' :=
  ⟨second.due.trans first.due,first.later.trans second.later,fun before => second.inTime (first.inTime before)⟩

theorem after_passes (s : Scope) (duration : Nat) : s.After (s.passes duration) := by
  constructor
  · rfl
  · simp [passes]
  · intro before expiring
    have early := before expiring
    simp only [passes]
    omega

theorem after_cancels (s : Scope) : s.After s.cancels := ⟨rfl,le_rfl,id⟩

theorem after_uncancels (s : Scope) : s.After s.uncancels := ⟨rfl,le_rfl,id⟩

theorem after_fires (s : Scope) : s.After s.fires := by
  unfold fires
  split_ifs with ready
  · exact ⟨rfl,le_rfl,fun _ _ => ready.2⟩
  · exact After.refl s

theorem after_wait {resume : Ended ι ε → Scope → List (Happening ι ε) → Option (Ended α ε × Scope)}
    {ended : Ended α ε} {s' : Scope} (resumed : ∀ sent s schedule, resume sent s schedule = some (ended,s') → s.After s')
    {schedule : List (Happening ι ε)} {s : Scope} (run : wait resume s schedule = some (ended,s')) : s.After s' := by
  induction schedule generalizing s with
  | nil => simp [wait] at run
  | cons happening rest ih =>
    cases happening with
    | passes duration => exact (after_passes s duration).trans (ih run)
    | fires => exact (after_fires s).trans (ih run)
    | cancels => exact (after_cancels s).trans (ih run)
    | resumes sent => exact resumed sent s rest run

theorem after_drive {awaitable : Awaitable ι α ε} {schedule : List (Happening ι ε)} {s s' : Scope} {ended : Ended α ε}
    (run : drive awaitable s schedule = some (ended,s')) : s.After s' := by
  induction awaitable generalizing s schedule with
  | ends ended' =>
    simp only [drive,Option.some.injEq,Prod.mk.injEq] at run
    exact run.2 ▸ After.refl s
  | works duration next ih => exact (after_passes s duration).trans (ih run)
  | cancels next ih => exact (after_cancels s).trans (ih run)
  | uncancels next ih => exact (after_uncancels s).trans (ih _ run)
  | suspends next ih => exact after_wait (fun sent _ _ resumed => ih sent resumed) run

end Scope

end AsyncTimeout
