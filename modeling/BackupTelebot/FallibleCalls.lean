import Mathlib.Data.List.Basic

/-! Programs of calls any of which may fail, with `try` in its two forms. What each call comes to
is read from a script; a program that does not fit its script has no run. -/
namespace FallibleCalls

variable {κ ρ σ ε α β : Type}

/-- A call that was made, and its answer unless it raised. -/
structure Event (κ ρ : Type) where
  call : κ
  answer : Option ρ
  deriving DecidableEq, Repr

structure Frame (κ ρ σ : Type) where
  state : σ
  log : List (Event κ ρ)
  script : List (Event κ ρ)
  deriving DecidableEq

def Program (κ ρ σ ε α : Type) : Type := Frame κ ρ σ → Option (Except ε α × Frame κ ρ σ)

namespace Program

def bind (m : Program κ ρ σ ε α) (body : α → Program κ ρ σ ε β) : Program κ ρ σ ε β := fun frame =>
  match m frame with
  | none => none
  | some (.error error,frame) => some (.error error,frame)
  | some (.ok value,frame) => body value frame

instance : Monad (Program κ ρ σ ε) where
  pure value frame := some (.ok value,frame)
  bind := bind

def raise (error : ε) : Program κ ρ σ ε α := fun frame => some (.error error,frame)

def stuck : Program κ ρ σ ε α := fun _ => none

def get : Program κ ρ σ ε σ := fun frame => some (.ok frame.state,frame)

def modify (f : σ → σ) : Program κ ρ σ ε Unit := fun frame => some (.ok (),{ frame with state := f frame.state })

/-- The next event of the script must be this call. -/
def call [DecidableEq κ] (fault : κ → ε) (k : κ) : Program κ ρ σ ε ρ := fun frame =>
  match frame.script with
  | [] => none
  | event :: rest =>
    if event.call = k then
      match event.answer with
      | some answer => some (.ok answer,⟨frame.state,frame.log ++ [event],rest⟩)
      | none => some (.error (fault k),⟨frame.state,frame.log ++ [event],rest⟩)
    else none

/-- `except Exception: handler; raise`. -/
def onError (m : Program κ ρ σ ε α) (handler : Program κ ρ σ ε Unit) : Program κ ρ σ ε α := fun frame =>
  match m frame with
  | some (.error error,frame) => handler.bind (fun _ => raise error) frame
  | other => other

/-- `finally: cleanup`. -/
def tryFinally (m : Program κ ρ σ ε α) (cleanup : Program κ ρ σ ε Unit) : Program κ ρ σ ε α := fun frame =>
  match m frame with
  | none => none
  | some (.error error,frame) => cleanup.bind (fun _ => raise error) frame
  | some (.ok value,frame) => cleanup.bind (fun _ => pure value) frame

/-- At most so many turns. -/
def loop (step : β → Program κ ρ σ ε (α ⊕ β)) : Nat → β → Program κ ρ σ ε α
  | 0, _ => stuck
  | turns + 1, b => (step b).bind fun
    | .inl value => pure value
    | .inr b => loop step turns b

/-- Every run from the precondition that ends leads to one of the two postconditions. -/
def Ensures (pre : σ → List (Event κ ρ) → Prop) (m : Program κ ρ σ ε α) (ok : α → σ → List (Event κ ρ) → Prop)
    (err : σ → List (Event κ ρ) → Prop) : Prop :=
  ∀ frame result frame', pre frame.state frame.log → m frame = some (result,frame') →
    match result with
    | .ok value => ok value frame'.state frame'.log
    | .error _ => err frame'.state frame'.log

variable {pre : σ → List (Event κ ρ) → Prop} {m : Program κ ρ σ ε α} {ok : α → σ → List (Event κ ρ) → Prop}
  {err : σ → List (Event κ ρ) → Prop}

theorem ensures_pure (value : α) : Ensures (ok value) (pure value : Program κ ρ σ ε α) ok err := by
  intro frame result frame' before run
  obtain ⟨rfl,rfl⟩ := Prod.mk.inj (Option.some.inj run)
  exact before

theorem ensures_skip (value : α) : Ensures pre (pure value : Program κ ρ σ ε α) (fun _ => pre) err :=
  @ensures_pure _ _ _ _ _ (fun _ => pre) err value

theorem ensures_raise (error : ε) : Ensures err (raise error : Program κ ρ σ ε α) ok err := by
  intro frame result frame' before run
  obtain ⟨rfl,rfl⟩ := Prod.mk.inj (Option.some.inj run)
  exact before

theorem ensures_stuck : Ensures pre (stuck : Program κ ρ σ ε α) ok err := by
  intro frame result frame' _ run
  simp [stuck] at run

theorem ensures_get {ok : σ → σ → List (Event κ ρ) → Prop} (holds : ∀ s log, pre s log → ok s s log) :
    Ensures pre (get : Program κ ρ σ ε σ) ok err := by
  intro frame result frame' before run
  obtain ⟨rfl,rfl⟩ := Prod.mk.inj (Option.some.inj run)
  exact holds _ _ before

theorem ensures_modify {f : σ → σ} {ok : Unit → σ → List (Event κ ρ) → Prop}
    (holds : ∀ s log, pre s log → ok () (f s) log) : Ensures pre (modify f : Program κ ρ σ ε Unit) ok err := by
  intro frame result frame' before run
  obtain ⟨rfl,rfl⟩ := Prod.mk.inj (Option.some.inj run)
  exact holds _ _ before

theorem ensures_call [DecidableEq κ] {fault : κ → ε} {k : κ} {ok : ρ → σ → List (Event κ ρ) → Prop}
    (done : ∀ s log answer, pre s log → ok answer s (log ++ [⟨k,some answer⟩]))
    (failed : ∀ s log, pre s log → err s (log ++ [⟨k,none⟩])) : Ensures pre (call fault k) ok err := by
  intro frame result frame' before run
  unfold call at run
  cases script : frame.script with
  | nil => simp [script] at run
  | cons event rest =>
    obtain ⟨made,answer⟩ := event
    simp only [script] at run
    split_ifs at run with same
    subst same
    cases answer with
    | some answer =>
      obtain ⟨rfl,rfl⟩ := Prod.mk.inj (Option.some.inj run)
      exact done _ _ answer before
    | none =>
      obtain ⟨rfl,rfl⟩ := Prod.mk.inj (Option.some.inj run)
      exact failed _ _ before

theorem Ensures.bind {middle : α → σ → List (Event κ ρ) → Prop} {ok : β → σ → List (Event κ ρ) → Prop}
    {body : α → Program κ ρ σ ε β} (first : Ensures pre m middle err)
    (second : ∀ value, Ensures (middle value) (body value) ok err) : Ensures pre (m >>= body) ok err := by
  intro frame result frame' before run
  change m.bind body frame = some (result,frame') at run
  unfold Program.bind at run
  cases ran : m frame with
  | none => simp [ran] at run
  | some ended =>
    obtain ⟨value | value,frame''⟩ := ended
    · rw [ran] at run
      obtain ⟨rfl,rfl⟩ := Prod.mk.inj (Option.some.inj run)
      exact first frame _ frame'' before ran
    · rw [ran] at run
      exact second value frame'' result frame' (first frame _ frame'' before ran) run

theorem Ensures.weaken {pre' : σ → List (Event κ ρ) → Prop} {ok' : α → σ → List (Event κ ρ) → Prop}
    {err' : σ → List (Event κ ρ) → Prop} (holds : Ensures pre m ok err) (before : ∀ s log, pre' s log → pre s log)
    (after : ∀ value s log, ok value s log → ok' value s log) (failed : ∀ s log, err s log → err' s log) :
    Ensures pre' m ok' err' := by
  intro frame result frame' start run
  have ended := holds frame result frame' (before _ _ start) run
  cases result with
  | ok value => exact after value _ _ ended
  | error error => exact failed _ _ ended

/-- What is known before the run does not depend on it. -/
theorem ensures_given {known : Prop} (holds : known → Ensures pre m ok err) :
    Ensures (fun s log => known ∧ pre s log) m ok err :=
  fun frame result frame' before run => holds before.1 frame result frame' before.2 run

theorem Ensures.onError {err' : σ → List (Event κ ρ) → Prop} {handler : Program κ ρ σ ε Unit} (body : Ensures pre m ok err)
    (handled : Ensures err handler (fun _ => err') err') : Ensures pre (m.onError handler) ok err' := by
  intro frame result frame' before run
  unfold Program.onError at run
  cases ran : m frame with
  | none => simp [ran] at run
  | some ended =>
    obtain ⟨error | value,frame''⟩ := ended
    · rw [ran] at run
      exact (handled.bind fun _ => ensures_raise error) frame'' result frame' (body frame _ frame'' before ran) run
    · rw [ran] at run
      obtain ⟨rfl,rfl⟩ := Prod.mk.inj (Option.some.inj run)
      exact body frame _ frame'' before ran

theorem Ensures.tryFinally {ok' : α → σ → List (Event κ ρ) → Prop} {err' : σ → List (Event κ ρ) → Prop}
    {cleanup : Program κ ρ σ ε Unit} (body : Ensures pre m ok err)
    (after : ∀ value, Ensures (ok value) cleanup (fun _ => ok' value) err')
    (failed : Ensures err cleanup (fun _ => err') err') : Ensures pre (m.tryFinally cleanup) ok' err' := by
  intro frame result frame' before run
  unfold Program.tryFinally at run
  cases ran : m frame with
  | none => simp [ran] at run
  | some ended =>
    obtain ⟨error | value,frame''⟩ := ended
    · rw [ran] at run
      exact (failed.bind fun _ => ensures_raise error) frame'' result frame' (body frame _ frame'' before ran) run
    · rw [ran] at run
      exact ((after value).bind fun _ => ensures_pure value) frame'' result frame' (body frame _ frame'' before ran) run

/-- A loop keeps its invariant. -/
theorem ensures_loop {step : β → Program κ ρ σ ε (α ⊕ β)} {inv : β → σ → List (Event κ ρ) → Prop}
    (turn : ∀ b, Ensures (inv b) (step b) (Sum.elim ok inv) err) (turns : Nat) (b : β) :
    Ensures (inv b) (loop step turns b) ok err := by
  induction turns generalizing b with
  | zero => exact ensures_stuck
  | succ turns ih =>
    apply (turn b).bind
    intro next
    cases next with
    | inl value => exact ensures_pure value
    | inr b => exact ih b

end Program

end FallibleCalls
