import Mathlib.Logic.Function.Basic
import Mathlib.Tactic.SplitIfs

/-! Tasks that share one state and are interleaved at named points. A task is the
tree of everything it may still do: at an action it waits until the guard holds and
then applies one atomic effect, or it receives an exception in the action's place.
Nothing here fixes what the shared state or the exceptions are. -/
namespace Interleave

/-- The rest of a task. `point` names the place in the code, `ι` is what the outside
world answers to one action, and `raised` is the rest after an exception there. -/
inductive Prog (π ι σ ε α : Type) : Type where
  | ret (result : Except ε α)
  | act (point : π) (guard : σ → Bool) (effect : ι → σ → σ)
      (next : ι → σ → Prog π ι σ ε α) (raised : ε → Prog π ι σ ε α)

namespace Prog

variable {π ι σ ε α β : Type}

def bind : Prog π ι σ ε α → (α → Prog π ι σ ε β) → Prog π ι σ ε β
  | .ret (.ok value), body => body value
  | .ret (.error e), _ => .ret (.error e)
  | .act point guard effect next raised, body =>
      .act point guard effect (fun i s => (next i s).bind body) (fun e => (raised e).bind body)

/-- Exceptions that reach the end of the protected part continue in the handler. -/
def handle : Prog π ι σ ε α → (ε → Prog π ι σ ε α) → Prog π ι σ ε α
  | .ret (.ok value), _ => .ret (.ok value)
  | .ret (.error e), handler => handler e
  | .act point guard effect next raised, handler =>
      .act point guard effect (fun i s => (next i s).handle handler)
        (fun e => (raised e).handle handler)

instance : Monad (Prog π ι σ ε) where
  pure value := .ret (.ok value)
  bind := bind

instance : MonadExcept ε (Prog π ι σ ε) where
  throw e := .ret (.error e)
  tryCatch := handle

/-- One awaited operation: a guarded effect whose result is computed from the answer
and the state it met. An exception delivered while waiting is raised to the caller. -/
def atomic (point : π) (guard : σ → Bool) (effect : ι → σ → σ)
    (result : ι → σ → Except ε α) : Prog π ι σ ε α :=
  .act point guard effect (fun i s => .ret (result i s)) (fun e => .ret (.error e))

/-- A read waits for nothing and changes nothing. -/
def read (point : π) (result : σ → Except ε α) : Prog π ι σ ε α :=
  atomic point (fun _ => true) (fun _ s => s) (fun _ s => result s)

@[simp] theorem pure_eq (value : α) : (pure value : Prog π ι σ ε α) = .ret (.ok value) := rfl
@[simp] theorem throw_eq (e : ε) : (throw e : Prog π ι σ ε α) = .ret (.error e) := rfl
@[simp] theorem tryCatch_eq (p : Prog π ι σ ε α) (handler : ε → Prog π ι σ ε α) :
    (tryCatch p handler) = p.handle handler := rfl
theorem bind_eq (p : Prog π ι σ ε α) (body : α → Prog π ι σ ε β) :
    (p >>= body) = p.bind body := rfl
@[simp] theorem bind_error (e : ε) (body : α → Prog π ι σ ε β) :
    ((.ret (.error e) : Prog π ι σ ε α) >>= body) = .ret (.error e) := rfl

def point : Prog π ι σ ε α → Option π
  | .ret _ => none
  | .act point .. => some point

/-- The task alone, from here to its end, with one answer for every action. An action
whose guard fails has nobody left to wait for, so the run stops there. -/
def alone (answer : ι) : Prog π ι σ ε α → σ → Option (Except ε α × σ)
  | .ret result, s => some (result, s)
  | .act _ guard effect next _, s =>
      if guard s then (next answer s).alone answer (effect answer s) else none

@[simp] theorem alone_ret (answer : ι) (result : Except ε α) (s : σ) :
    (ret result : Prog π ι σ ε α).alone answer s = some (result, s) := rfl

theorem alone_bind (answer : ι) (p : Prog π ι σ ε α) (body : α → Prog π ι σ ε β) (s : σ) :
    (p >>= body).alone answer s = (p.alone answer s).bind fun (result, s') =>
      match result with
      | .ok value => (body value).alone answer s'
      | .error e => some (.error e, s') := by
  rw [bind_eq]
  induction p generalizing s with
  | ret result => cases result <;> rfl
  | act point guard effect next raised ih _ =>
    simp only [bind,alone]
    split
    · exact ih answer s _
    · rfl

theorem alone_handle (answer : ι) (p : Prog π ι σ ε α) (handler : ε → Prog π ι σ ε α) (s : σ) :
    (p.handle handler).alone answer s = (p.alone answer s).bind fun (result, s') =>
      match result with
      | .ok value => some (.ok value, s')
      | .error e => (handler e).alone answer s' := by
  induction p generalizing s with
  | ret result => cases result <;> rfl
  | act point guard effect next raised ih _ =>
    simp only [handle,alone]
    split
    · exact ih answer s _
    · rfl

theorem alone_then {answer : ι} {p : Prog π ι σ ε α} (body : α → Prog π ι σ ε β) {value : α} {s s' : σ}
    (first : p.alone answer s = some (.ok value,s')) :
    (p >>= body).alone answer s = (body value).alone answer s' := by rw [alone_bind,first]; rfl

theorem alone_raises {answer : ι} {p : Prog π ι σ ε α} (body : α → Prog π ι σ ε β) {e : ε} {s s' : σ}
    (first : p.alone answer s = some (.error e,s')) :
    (p >>= body).alone answer s = some (.error e,s') := by rw [alone_bind,first]; rfl

theorem alone_handled {answer : ι} {p : Prog π ι σ ε α} (handler : ε → Prog π ι σ ε α) {e : ε} {s s' : σ}
    (first : p.alone answer s = some (.error e,s')) :
    (p.handle handler).alone answer s = (handler e).alone answer s' := by rw [alone_handle,first]; rfl

theorem alone_unhandled {answer : ι} {p : Prog π ι σ ε α} (handler : ε → Prog π ι σ ε α) {value : α} {s s' : σ}
    (first : p.alone answer s = some (.ok value,s')) :
    (p.handle handler).alone answer s = some (.ok value,s') := by rw [alone_handle,first]; rfl

@[simp] theorem alone_atomic (answer : ι) (point : π) (guard : σ → Bool) (effect : ι → σ → σ)
    (result : ι → σ → Except ε α) (s : σ) :
    (atomic point guard effect result).alone answer s =
      if guard s then some (result answer s, effect answer s) else none := rfl

def trace (answer : ι) : Prog π ι σ ε α → σ → List σ
  | .ret _, _ => []
  | .act _ guard effect next _, s =>
      if guard s then effect answer s :: (next answer s).trace answer (effect answer s) else []

theorem trace_bind (answer : ι) (p : Prog π ι σ ε α) (body : α → Prog π ι σ ε β) (s : σ) :
    (p >>= body).trace answer s = p.trace answer s ++
      match p.alone answer s with
      | some (.ok value,s') => (body value).trace answer s'
      | _ => [] := by
  rw [bind_eq]
  induction p generalizing s with
  | ret result => cases result <;> rfl
  | act point guard effect next raised ih _ =>
    simp only [bind,trace,alone]
    split
    · exact congrArg (effect answer s :: ·) (ih answer s _)
    · rfl

theorem trace_handle (answer : ι) (p : Prog π ι σ ε α) (handler : ε → Prog π ι σ ε α) (s : σ) :
    (p.handle handler).trace answer s = p.trace answer s ++
      match p.alone answer s with
      | some (.error e,s') => (handler e).trace answer s'
      | _ => [] := by
  induction p generalizing s with
  | ret result => cases result <;> rfl
  | act point guard effect next raised ih _ =>
    simp only [handle,trace,alone]
    split
    · exact congrArg (effect answer s :: ·) (ih answer s _)
    · rfl

/-- The rest of the task and the state after a given course of events: at each action the
answer it gets, or the exception that arrives there. -/
def drive : List (ι ⊕ ε) → Prog π ι σ ε α → σ → Option (Prog π ι σ ε α × σ)
  | [], p, s => some (p,s)
  | .inl i :: rest, .act _ guard effect next _, s =>
      if guard s then (next i s).drive rest (effect i s) else none
  | .inr e :: rest, .act _ _ _ _ raised, s => (raised e).drive rest s
  | _ :: _, .ret _, _ => none

/-- However the protected part has come to raise, the handler is what remains. -/
theorem drive_handle {events : List (ι ⊕ ε)} {p : Prog π ι σ ε α} {s s' : σ} {e : ε}
    (handler : ε → Prog π ι σ ε α) (raised : p.drive events s = some (.ret (.error e),s')) :
    (p.handle handler).drive events s = some (handler e,s') := by
  induction events generalizing p s with
  | nil =>
    obtain ⟨rfl,rfl⟩ : p = .ret (.error e) ∧ s = s' := by simpa [drive] using raised
    rfl
  | cons event rest ih =>
    cases p with
    | ret result => cases event <;> simp [drive] at raised
    | act point guard effect next raised' =>
      cases event with
      | inl i =>
        simp only [drive] at raised
        simp only [handle,drive]
        split_ifs at raised with open_
        rw [if_pos open_]
        exact ih raised
      | inr e' =>
        simp only [drive] at raised
        exact ih raised

def Keeps (answer : ι) (Inv : σ → Prop) (p : Prog π ι σ ε α) : Prop :=
  ∀ s, Inv s → ∃ result s', p.alone answer s = some (result,s') ∧ Inv s'

namespace Keeps

variable {answer : ι} {Inv : σ → Prop}

theorem ret (result : Except ε α) : Keeps answer Inv (ret result : Prog π ι σ ε α) :=
  fun s inv => ⟨result,s,rfl,inv⟩

theorem bind {p : Prog π ι σ ε α} {body : α → Prog π ι σ ε β} (first : Keeps answer Inv p)
    (next : ∀ value, Keeps answer Inv (body value)) : Keeps answer Inv (p >>= body) := by
  intro s inv
  obtain ⟨result,s',ran,inv'⟩ := first s inv
  cases result with
  | error e => exact ⟨.error e,s',alone_raises body ran,inv'⟩
  | ok value =>
    rw [alone_then body ran]
    exact next value s' inv'

theorem handle {p : Prog π ι σ ε α} {handler : ε → Prog π ι σ ε α} (first : Keeps answer Inv p)
    (handles : ∀ e, Keeps answer Inv (handler e)) : Keeps answer Inv (p.handle handler) := by
  intro s inv
  obtain ⟨result,s',ran,inv'⟩ := first s inv
  cases result with
  | ok value => exact ⟨.ok value,s',alone_unhandled handler ran,inv'⟩
  | error e =>
    rw [alone_handled handler ran]
    exact handles e s' inv'

end Keeps

end Prog

/-- Finitely or infinitely many tasks, of which each identifier names at most one. -/
structure Sys (π ι σ ε α : Type) where
  shared : σ
  task : Nat → Option (Prog π ι σ ε α)

namespace Sys

variable {π ι σ ε α : Type}

def spawn (s : Sys π ι σ ε α) (t : Nat) (p : Prog π ι σ ε α) : Sys π ι σ ε α :=
  { s with task := Function.update s.task t (some p) }

def kill (s : Sys π ι σ ε α) (t : Nat) : Sys π ι σ ε α :=
  { s with task := Function.update s.task t none }

def advance (s : Sys π ι σ ε α) (t : Nat) (i : ι) : Option (Sys π ι σ ε α) :=
  match s.task t with
  | some (.act _ guard effect next _) =>
      if guard s.shared then
        some ⟨effect i s.shared, Function.update s.task t (some (next i s.shared))⟩
      else none
  | _ => none

/-- An exception arrives at the action the task waits at, which is not performed. -/
def interrupt (s : Sys π ι σ ε α) (t : Nat) (e : ε) : Option (Sys π ι σ ε α) :=
  match s.task t with
  | some (.act _ _ _ _ raised) => some { s with task := Function.update s.task t (some (raised e)) }
  | _ => none

def pointOf (s : Sys π ι σ ε α) (t : Nat) : Option π := (s.task t).bind Prog.point

theorem advance_cases {s s' : Sys π ι σ ε α} {t : Nat} {i : ι} (h : s.advance t i = some s') :
    ∃ point guard effect next raised, s.task t = some (.act point guard effect next raised) ∧
      guard s.shared = true ∧
      s' = ⟨effect i s.shared, Function.update s.task t (some (next i s.shared))⟩ := by
  unfold advance at h
  split at h
  · rename_i point guard effect next raised waiting
    split at h
    · exact ⟨point,guard,effect,next,raised,waiting,by assumption,(Option.some.inj h).symm⟩
    · contradiction
  · contradiction

theorem interrupt_cases {s s' : Sys π ι σ ε α} {t : Nat} {e : ε} (h : s.interrupt t e = some s') :
    ∃ point guard effect next raised, s.task t = some (.act point guard effect next raised) ∧
      s' = { s with task := Function.update s.task t (some (raised e)) } := by
  unfold interrupt at h
  split at h
  · exact ⟨_,_,_,_,_,by assumption,(Option.some.inj h).symm⟩
  · contradiction

end Sys

/-- The states of the runs that start in an initial state and whose steps all meet a
condition on the state before them. -/
inductive Runs {σ α : Type} (initial : σ → Prop) (step : σ → α → Option σ) (allowed : σ → α → Prop) : σ → Prop
  | start {s : σ} : initial s → Runs initial step allowed s
  | next {s s' : σ} {a : α} : Runs initial step allowed s → allowed s a → step s a = some s' →
      Runs initial step allowed s'

namespace Runs

variable {σ α : Type} {initial : σ → Prop} {step : σ → α → Option σ} {allowed : σ → α → Prop}

/-- What holds at the start and is kept by every allowed step holds throughout. -/
theorem invariant {Inv : σ → Prop} (start : ∀ s, initial s → Inv s)
    (keep : ∀ s a s', Inv s → allowed s a → step s a = some s' → Inv s') {s : σ}
    (run : Runs initial step allowed s) : Inv s := by
  induction run with
  | start h => exact start _ h
  | next _ ok h ih => exact keep _ _ _ ih ok h

theorem mono {weaker : σ → α → Prop} (h : ∀ s a, allowed s a → weaker s a) {s : σ}
    (run : Runs initial step allowed s) : Runs initial step weaker s := by
  induction run with
  | start here => exact .start here
  | next _ ok done ih => exact .next ih (h _ _ ok) done

def follow (step : σ → α → Option σ) : List α → σ → Option σ
  | [], s => some s
  | a :: rest, s => (step s a).bind (follow step rest)

/-- Whether each step of the list is allowed where it is taken. -/
def Permitted (step : σ → α → Option σ) (allowed : σ → α → Prop) : List α → σ → Prop
  | [], _ => True
  | a :: rest, s => allowed s a ∧ ∀ s', step s a = some s' → Permitted step allowed rest s'

theorem permitted_of_forall (free : ∀ s a, allowed s a) (steps : List α) (s : σ) : Permitted step allowed steps s := by
  induction steps generalizing s with
  | nil => trivial
  | cons a rest ih => exact ⟨free s a,fun s' _ => ih s'⟩

theorem of_follow {s s' : σ} {steps : List α} (run : Runs initial step allowed s)
    (permitted : Permitted step allowed steps s) (done : follow step steps s = some s') :
    Runs initial step allowed s' := by
  induction steps generalizing s with
  | nil =>
    obtain rfl := Option.some.inj done
    exact run
  | cons a rest ih =>
    obtain ⟨middle,taken,later⟩ := Option.bind_eq_some_iff.mp done
    exact ih (.next run permitted.1 taken) (permitted.2 middle taken) later

/-- The runs that continue a run. -/
theorem continued {s s' : σ} (run : Runs initial step allowed s) (later : Runs (fun x => x = s) step allowed s') :
    Runs initial step allowed s' := by
  induction later with
  | start same => exact same ▸ run
  | next _ ok done ih => exact .next ih ok done

/-- Every run has begun somewhere. -/
theorem started {s : σ} (run : Runs initial step allowed s) :
    ∃ first, initial first ∧ Runs (fun x => x = first) step allowed s := by
  induction run with
  | start here => exact ⟨_,here,.start rfl⟩
  | next _ ok done ih =>
    obtain ⟨first,here,run⟩ := ih
    exact ⟨first,here,.next run ok done⟩

variable (step) in
/-- A list of steps that can be taken leads to a state of an unrestricted run. -/
theorem exists_of_follow {s : σ} (steps : List α) (test : σ → Bool) (here : initial s)
    (passes : (follow step steps s).any test = true) :
    ∃ s', Runs initial step (fun _ _ => True) s' ∧ test s' = true := by
  obtain ⟨s',done,passed⟩ := (Option.any_eq_true _ _).mp passes
  exact ⟨s',of_follow (.start here) (permitted_of_forall (fun _ _ => trivial) steps s) done,passed⟩

variable (step) in
/-- Where each step also passes a check, the run meets every condition the check implies. -/
theorem exists_of_checked {s : σ} (steps : List α) (test : σ → Bool) {check : σ → α → Bool}
    (sound : ∀ s a, check s a = true → allowed s a) (here : initial s)
    (passes : (follow (fun s a => if check s a then step s a else none) steps s).any test = true) :
    ∃ s', Runs initial step allowed s' ∧ test s' = true := by
  obtain ⟨s',done,passed⟩ := (Option.any_eq_true _ _).mp passes
  refine ⟨s',?_,passed⟩
  have run : Runs initial step allowed s := .start here
  clear passes here
  induction steps generalizing s with
  | nil =>
    obtain rfl := Option.some.inj done
    exact run
  | cons a rest ih =>
    obtain ⟨middle,taken,later⟩ := Option.bind_eq_some_iff.mp done
    dsimp only at taken
    split_ifs at taken with checked
    exact ih later (.next run (sound s a checked) taken)

end Runs

end Interleave
