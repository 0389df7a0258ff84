import BackupTelebot.InterleavingRules

/-! Sessions of one database: each runs the program of its job, may be cut off, and is
rolled back once the server notices that it is gone. Nothing here fixes what a job is or
what the sessions share. -/
namespace Interleave

section Statements

variable {π ι σ ε α β : Type}

/-- One statement of a session. What the outside world says to it may be that it raises
although it has taken effect. -/
def Prog.statement (f : ι → Option ε) (point : π) (guard : σ → Bool) (effect : ι → σ → σ)
    (result : ι → σ → Except ε α) : Prog π ι σ ε α :=
  .act point guard effect
    (fun i s => .ret (match f i with
      | some e => .error e
      | none => result i s))
    (fun e => .ret (.error e))

/-- A task that keeps a contract keeps one that assumes more and guarantees less. -/
theorem Holds.weaken {C D : Contract π ι σ ε} (rely : ∀ point a b, D.rely point a b → C.rely point a b)
    (allowed : ∀ point i s, D.allowed point i s → C.allowed point i s) (known : ∀ point a b, C.known point a b)
    (raises : ∀ point e s, C.raises point e s) (guar : ∀ point a b, C.guar point a b → D.guar point a b)
    {post : Except ε α → σ → Prop} {p : Prog π ι σ ε α} {s : σ} (holds : Holds C post p s) : Holds D post p s := by
  induction p generalizing s with
  | ret result => exact holds
  | act point guard effect next raised ihNext ihRaised =>
    intro s' within
    have now := holds s' (rely point s s' within)
    constructor
    · intro open_ i here _
      obtain ⟨kept,later⟩ := now.1 open_ i (allowed point i s' here) (known point _ _)
      exact ⟨guar point _ _ kept,ihNext i s' later⟩
    · intro e _
      exact ihRaised e (now.2 e (raises point e s'))

def Ends (Q : α → σ → Prop) : Except ε α → σ → Prop
  | .ok value, s => Q value s
  | .error _, _ => True

def Keeps (C : Contract π ι σ ε) (P : σ → Prop) (Q : α → σ → Prop) (p : Prog π ι σ ε α) : Prop :=
  ∀ s, P s → Holds C (Ends Q) p s

namespace Keeps

variable {C : Contract π ι σ ε} {P : σ → Prop}

theorem pure {Q : α → σ → Prop} {value : α} (h : ∀ s, P s → Q value s) : Keeps C P Q (Pure.pure value) :=
  fun s here => h s here

theorem throw {Q : α → σ → Prop} (e : ε) : Keeps C P Q (MonadExcept.throw e) := fun _ _ => trivial

theorem bind {M : α → σ → Prop} {Q : β → σ → Prop} {p : Prog π ι σ ε α} {body : α → Prog π ι σ ε β}
    (first : Keeps C P M p) (next : ∀ value, Keeps C (M value) Q (body value)) : Keeps C P Q (p >>= body) := by
  intro s here
  apply Holds.bind
  apply Holds.mono ?_ (first s here)
  rintro (e | value) s' h
  · trivial
  · exact next value s' h

theorem statement {Q : α → σ → Prop} {f : ι → Option ε} {point : π} {guard : σ → Bool} {effect : ι → σ → σ}
    {result : ι → σ → Except ε α} (stable : ∀ a b, C.rely point a b → P a → P b)
    (step : ∀ s i, P s → guard s = true → C.allowed point i s →
      C.guar point s (effect i s) ∧ ∀ value, result i s = .ok value → Q value (effect i s)) :
    Keeps C P Q (Prog.statement f point guard effect result) := by
  intro s here s' rely
  have here' := stable s s' rely here
  refine ⟨fun open_ i allowed _ => ?_,fun _ _ => trivial⟩
  obtain ⟨guar,returns⟩ := step s' i here' open_ allowed
  refine ⟨guar,?_⟩
  simp only [Holds.ret_iff]
  cases f i with
  | some e => trivial
  | none =>
    cases returned : result i s' with
    | error e => simp [Ends]
    | ok value => exact returns value returned

/-- A session that is left by an exception ends it with a handler that raises it again. -/
theorem handled {Q : α → σ → Prop} {p : Prog π ι σ ε α} {last : Prog π ι σ ε Unit} (first : Keeps C P Q p)
    (ends : Keeps C (fun _ => True) (fun _ _ => True) last) {s : σ} (here : P s) :
    Holds C (fun _ _ => True) (p.handle fun e => do last; MonadExcept.throw e) s := by
  apply Holds.handle
  apply Holds.mono ?_ (first s here)
  rintro (e | value) s' _
  · exact Holds.mono (fun _ _ _ => trivial) ((ends.bind fun _ => throw (Q := Q) e) s' trivial)
  · trivial

end Keeps

namespace Prog

/-- Every operation of the program keeps an invariant, whatever has happened before it. -/
def Preserves (I : σ → Prop) : Prog π ι σ ε α → Prop
  | .ret _ => True
  | .act _ guard effect next raised =>
      (∀ i s, guard s = true → I s → I (effect i s)) ∧ (∀ i s, (next i s).Preserves I) ∧ ∀ e, (raised e).Preserves I

namespace Preserves

variable {I : σ → Prop}

theorem bind {p : Prog π ι σ ε α} {body : α → Prog π ι σ ε β} (first : p.Preserves I)
    (next : ∀ value, (body value).Preserves I) : (p >>= body).Preserves I := by
  rw [bind_eq]
  induction p with
  | ret result =>
    cases result with
    | error e => trivial
    | ok value => exact next value
  | act point guard effect rest raised ihNext ihRaised =>
    exact ⟨first.1,fun i s => ihNext i s (first.2.1 i s),fun e => ihRaised e (first.2.2 e)⟩

theorem handle {p : Prog π ι σ ε α} {handler : ε → Prog π ι σ ε α} (first : p.Preserves I)
    (handles : ∀ e, (handler e).Preserves I) : (p.handle handler).Preserves I := by
  induction p with
  | ret result =>
    cases result with
    | error e => exact handles e
    | ok value => trivial
  | act point guard effect rest raised ihNext ihRaised =>
    exact ⟨first.1,fun i s => ihNext i s (first.2.1 i s),fun e => ihRaised e (first.2.2 e)⟩

end Preserves

/-- Every operation of the program is such a step, whatever has happened before it. -/
def Steps (R : σ → σ → Prop) : Prog π ι σ ε α → Prop
  | .ret _ => True
  | .act _ guard effect next raised =>
      (∀ i s, guard s = true → R s (effect i s)) ∧ (∀ i s, (next i s).Steps R) ∧ ∀ e, (raised e).Steps R

namespace Steps

variable {R : σ → σ → Prop}

theorem statement {f : ι → Option ε} {point : π} {guard : σ → Bool} {effect : ι → σ → σ}
    {result : ι → σ → Except ε α} (step : ∀ i s, guard s = true → R s (effect i s)) :
    (Prog.statement f point guard effect result).Steps R :=
  ⟨step,fun _ _ => trivial,fun _ => trivial⟩

theorem bind {p : Prog π ι σ ε α} {body : α → Prog π ι σ ε β} (first : p.Steps R)
    (next : ∀ value, (body value).Steps R) : (p >>= body).Steps R := by
  rw [bind_eq]
  induction p with
  | ret result =>
    cases result with
    | error e => trivial
    | ok value => exact next value
  | act point guard effect rest raised ihNext ihRaised =>
    exact ⟨first.1,fun i s => ihNext i s (first.2.1 i s),fun e => ihRaised e (first.2.2 e)⟩

/-- What such steps and the others keep is kept by the program. -/
theorem keeps {C : Contract π ι σ ε} {P : σ → Prop} {p : Prog π ι σ ε α} (steps : p.Steps R)
    (stable : ∀ point a b, C.rely point a b → P a → P b)
    (kept : ∀ point a b, R a b → P a → C.guar point a b ∧ P b) : Interleave.Keeps C P (fun _ => P) p := by
  induction p with
  | ret result =>
    intro s here
    cases result with
    | error e => trivial
    | ok value => exact here
  | act point guard effect rest raised ihNext ihRaised =>
    intro s here s' rely
    have here' := stable point s s' rely here
    refine ⟨fun open_ i _ _ => ?_,fun e _ => ihRaised e (steps.2.2 e) s' here'⟩
    obtain ⟨guar,after⟩ := kept point s' _ (steps.1 i s' open_) here'
    exact ⟨guar,ihNext i s' (steps.2.1 i s') _ after⟩

end Steps

end Prog

end Statements

structure Sessions (π ι σ ε J : Type) where
  program : Nat → J → Prog π ι σ ε Unit
  rollback : Nat → σ → σ

namespace Sessions

variable {π ι σ ε J : Type}

/-- Each number names at most one session, with the job it was started for. -/
structure State (π ι σ ε J : Type) where
  sys : Sys π ι σ ε Unit
  job : Nat → Option J

inductive Act (ι ε J : Type) where
  | perform (t : Nat) (i : ι)
  /-- The action raises without taking effect. -/
  | fails (t : Nat) (e : ε)
  | crash (t : Nat)
  /-- The server notices that a session is gone. -/
  | lost (t : Nat)
  | start (t : Nat) (job : J)

def step (S : Sessions π ι σ ε J) (s : State π ι σ ε J) : Act ι ε J → Option (State π ι σ ε J)
  | .perform t i => (s.sys.advance t i).map fun sys => { s with sys := sys }
  | .fails t e => (s.sys.interrupt t e).map fun sys => { s with sys := sys }
  | .crash t => some { s with sys := s.sys.kill t }
  | .lost t =>
      if (s.job t).isSome && (s.sys.pointOf t).isNone then
        some { s with sys := { s.sys with shared := S.rollback t s.sys.shared } }
      else none
  | .start t job =>
      if (s.sys.task t).isNone && (s.job t).isNone then
        some ⟨s.sys.spawn t (S.program t job),Function.update s.job t (some job)⟩
      else none

def fresh (shared : σ) : State π ι σ ε J := ⟨⟨shared,fun _ => none⟩,fun _ => none⟩

/-- What makes sessions keep their contracts side by side, in the runs whose steps are all
careful: an invariant, what a session finds that has not started, and for each step that
one session takes what the others may go on relying on. -/
structure Discipline (S : Sessions π ι σ ε J) (careful : State π ι σ ε J → Act ι ε J → Prop) where
  contract : Nat → J → Contract π ι σ ε
  inv : σ → Prop
  untouched : Nat → σ → Prop
  raises : ∀ t j point e s, (contract t j).raises point e s
  known : ∀ t j point a b, (contract t j).known point a b
  program : ∀ t j s, inv s → untouched t s → Holds (contract t j) (fun _ _ => True) (S.program t j) s
  allowed : ∀ s t i point j, careful s (.perform t i) → s.sys.pointOf t = some point → s.job t = some j →
    (contract t j).allowed point i s.sys.shared
  performed : ∀ (s : State π ι σ ε J) t i point j after, careful s (.perform t i) → s.sys.pointOf t = some point →
    s.job t = some j → inv s.sys.shared → (contract t j).guar point s.sys.shared after → inv after ∧
      ∀ u, u ≠ t → (untouched u s.sys.shared → untouched u after) ∧
        ∀ waits k, s.sys.pointOf u = some waits → s.job u = some k → (contract u k).rely waits s.sys.shared after
  lost : ∀ (s : State π ι σ ε J) t, inv s.sys.shared → inv (S.rollback t s.sys.shared) ∧
      ∀ u, u ≠ t → (untouched u s.sys.shared → untouched u (S.rollback t s.sys.shared)) ∧
        ∀ waits k, s.sys.pointOf u = some waits → s.job u = some k →
          (contract u k).rely waits s.sys.shared (S.rollback t s.sys.shared)

/-- What no session performs leaves the shared state alone, or rolls a session back. -/
theorem unperformed {S : Sessions π ι σ ε J} {s s' : State π ι σ ε J} {a : Act ι ε J}
    (performs : ∀ t i, a ≠ .perform t i) (h : S.step s a = some s') :
    s'.sys.shared = s.sys.shared ∨ ∃ t, s'.sys.shared = S.rollback t s.sys.shared := by
  cases a with
  | perform t i => exact absurd rfl (performs t i)
  | fails t e =>
    obtain ⟨sys,interrupted,rfl⟩ := Option.map_eq_some_iff.mp h
    obtain ⟨_,_,_,_,_,_,rfl⟩ := Sys.interrupt_cases interrupted
    exact .inl rfl
  | crash t =>
    obtain rfl := Option.some.inj h
    exact .inl rfl
  | lost t =>
    simp only [Sessions.step] at h
    split_ifs at h
    obtain rfl := Option.some.inj h
    exact .inr ⟨t,rfl⟩
  | start t job =>
    simp only [Sessions.step] at h
    split_ifs at h
    obtain rfl := Option.some.inj h
    exact .inl rfl

/-- What every operation and every rollback keeps holds throughout. -/
theorem preserved {S : Sessions π ι σ ε J} {I : σ → Prop} (programs : ∀ t job, (S.program t job).Preserves I)
    (rolls : ∀ t shared, I shared → I (S.rollback t shared)) {initial : State π ι σ ε J → Prop}
    (start : ∀ s, initial s → I s.sys.shared ∧ ∀ t p, s.sys.task t = some p → p.Preserves I)
    {careful : State π ι σ ε J → Act ι ε J → Prop} {s : State π ι σ ε J} (run : Runs initial S.step careful s) :
    I s.sys.shared ∧ ∀ t p, s.sys.task t = some p → p.Preserves I := by
  induction run with
  | start here => exact start _ here
  | @next s s' a _ _ h ih =>
    obtain ⟨inv,tasks⟩ := ih
    have others {t u : Nat} {p q : Prog π ι σ ε Unit} (here : p.Preserves I)
        (task : Function.update s.sys.task t (some p) u = some q) : q.Preserves I := by
      by_cases same : u = t
      · subst same
        rw [Function.update_self] at task
        exact Option.some.inj task ▸ here
      · rw [Function.update_of_ne same] at task
        exact tasks u q task
    cases a with
    | perform t i =>
      obtain ⟨sys,advanced,rfl⟩ := Option.map_eq_some_iff.mp h
      obtain ⟨_,_,_,_,_,task,open_,rfl⟩ := Sys.advance_cases advanced
      have here := tasks t _ task
      exact ⟨here.1 i _ open_ inv,fun u q => others (here.2.1 i _)⟩
    | fails t e =>
      obtain ⟨sys,interrupted,rfl⟩ := Option.map_eq_some_iff.mp h
      obtain ⟨_,_,_,_,_,task,rfl⟩ := Sys.interrupt_cases interrupted
      exact ⟨inv,fun u q => others ((tasks t _ task).2.2 e)⟩
    | crash t =>
      obtain rfl := Option.some.inj h
      refine ⟨inv,fun u q task => ?_⟩
      simp only [Sys.kill,Function.update_apply] at task
      split_ifs at task
      exact tasks u q task
    | lost t =>
      simp only [Sessions.step] at h
      split_ifs at h
      obtain rfl := Option.some.inj h
      exact ⟨rolls t _ inv,tasks⟩
    | start t job =>
      simp only [Sessions.step] at h
      split_ifs at h
      obtain rfl := Option.some.inj h
      exact ⟨inv,fun u q => others (programs t job)⟩

namespace Discipline

variable {S : Sessions π ι σ ε J} {careful : State π ι σ ε J → Act ι ε J → Prop} (D : Discipline S careful)
variable {s s' : State π ι σ ε J}

def contractOf (t : Nat) : Option J → Contract π ι σ ε
  | none => Contract.idle
  | some j => D.contract t j

structure Coherent (s : State π ι σ ε J) : Prop where
  inv : D.inv s.sys.shared
  unused : ∀ t, s.job t = none → s.sys.task t = none ∧ D.untouched t s.sys.shared
  sound : Sound (fun t => D.contractOf t (s.job t)) (fun _ _ _ => True) s.sys

variable {D}

theorem Coherent.started (coherent : D.Coherent s) {t : Nat} {point : π} (waits : s.sys.pointOf t = some point) :
    ∃ j, s.job t = some j := by
  apply Option.ne_none_iff_exists'.mp
  intro absent
  rw [Sys.pointOf,(coherent.unused t absent).1] at waits
  cases waits

theorem Coherent.perform (coherent : D.Coherent s) {t : Nat} {i : ι} (careful : careful s (.perform t i))
    (h : S.step s (.perform t i) = some s') : D.Coherent s' ∧ ∃ point j, s.sys.pointOf t = some point ∧
      s.job t = some j ∧ (D.contract t j).guar point s.sys.shared s'.sys.shared := by
  obtain ⟨sys,advanced,rfl⟩ := Option.map_eq_some_iff.mp h
  obtain ⟨point,_,_,_,_,task,-,same⟩ := Sys.advance_cases advanced
  have waits : s.sys.pointOf t = some point := by simp [Sound.pointOf_eq task,Prog.point]
  obtain ⟨j,started⟩ := coherent.started waits
  have step := Sound.advance coherent.sound advanced waits
    (by rw [started]; exact D.allowed s t i point j careful waits started)
    (by rw [started]; exact D.known t j point _ _)
  obtain ⟨guar,sound,-⟩ := step
  rw [started] at guar
  have others := D.performed s t i point j sys.shared careful waits started coherent.inv guar
  refine ⟨⟨others.1,fun u absent => ?_,sound ?_⟩,point,j,waits,started,guar⟩
  · have other : u ≠ t := by
      rintro rfl
      rw [started] at absent
      cases absent
    obtain ⟨idle,untouched⟩ := coherent.unused u absent
    refine ⟨?_,(others.2 u other).1 untouched⟩
    subst same
    exact (Function.update_of_ne other _ _).trans idle
  · intro u at_ other waiting
    obtain ⟨k,job⟩ := coherent.started waiting
    change (D.contractOf u (s.job u)).rely at_ s.sys.shared sys.shared
    rw [job]
    exact (others.2 u other).2 at_ k waiting job

theorem Coherent.other (coherent : D.Coherent s) {a : Act ι ε J} (performs : ∀ t i, a ≠ .perform t i)
    (h : S.step s a = some s') : D.Coherent s' := by
  cases a with
  | perform t i => exact absurd rfl (performs t i)
  | fails t e =>
    obtain ⟨sys,interrupted,rfl⟩ := Option.map_eq_some_iff.mp h
    obtain ⟨point,_,_,_,_,task,same⟩ := Sys.interrupt_cases interrupted
    have waits : s.sys.pointOf t = some point := by simp [Sound.pointOf_eq task,Prog.point]
    obtain ⟨j,started⟩ := coherent.started waits
    have step := Sound.interrupt coherent.sound interrupted waits (by rw [started]; exact D.raises t j point e _)
    have shared : sys.shared = s.sys.shared := step.1
    refine ⟨by simpa only [shared] using coherent.inv,fun u absent => ?_,step.2.1⟩
    obtain ⟨idle,untouched⟩ := coherent.unused u absent
    have other : u ≠ t := by
      rintro rfl
      rw [idle] at task
      cases task
    subst same
    exact ⟨(Function.update_of_ne other _ _).trans idle,untouched⟩
  | crash t =>
    obtain rfl := Option.some.inj h
    refine ⟨coherent.inv,fun u absent => ?_,Sound.kill coherent.sound t⟩
    obtain ⟨idle,untouched⟩ := coherent.unused u absent
    refine ⟨?_,untouched⟩
    simp only [Sys.kill,Function.update_apply]
    split
    · rfl
    · exact idle
  | lost t =>
    simp only [Sessions.step] at h
    split_ifs at h with gone
    obtain rfl := Option.some.inj h
    simp only [Bool.and_eq_true,Option.isNone_iff_eq_none] at gone
    have others := D.lost s t coherent.inv
    have apart {u : Nat} (alive : (s.sys.pointOf u).isSome ∨ s.job u = none) : u ≠ t := by
      rintro rfl
      rcases alive with running | absent
      · simp [gone.2] at running
      · simp [absent] at gone
    refine ⟨others.1,fun u absent => ?_,Sound.outside coherent.sound _ fun u point waits => ?_⟩
    · obtain ⟨idle,untouched⟩ := coherent.unused u absent
      exact ⟨idle,(others.2 u (apart (.inr absent))).1 untouched⟩
    · obtain ⟨k,job⟩ := coherent.started waits
      rw [job]
      exact (others.2 u (apart (.inl (by simp [waits])))).2 point k waits job
  | start t job =>
    simp only [Sessions.step] at h
    split_ifs at h with unused
    obtain rfl := Option.some.inj h
    simp only [Bool.and_eq_true,Option.isNone_iff_eq_none] at unused
    refine ⟨coherent.inv,fun u absent => ?_,Sound.spawn (fun u q point task waits => ?_) ?_⟩
    · have other : u ≠ t := by
        rintro rfl
        simp at absent
      simp only [Function.update_of_ne other] at absent
      obtain ⟨idle,untouched⟩ := coherent.unused u absent
      exact ⟨(Function.update_of_ne other _ _).trans idle,untouched⟩
    · have other : u ≠ t := by
        rintro rfl
        simp [unused.1] at task
      simp only [Function.update_of_ne other]
      exact coherent.sound u q point task waits
    · simp only [Function.update_self]
      exact D.program t job _ coherent.inv (coherent.unused t unused.2).2

/-- Disciplined sessions are coherent in every state that careful steps lead to. -/
theorem coherent_of_runs {initial : State π ι σ ε J → Prop} (start : ∀ s, initial s → D.Coherent s)
    (run : Runs initial S.step careful s) : D.Coherent s := by
  induction run with
  | start here => exact start _ here
  | @next s s' a run ok h ih =>
    by_cases performs : ∃ t i, a = .perform t i
    · obtain ⟨t,i,rfl⟩ := performs
      exact (ih.perform ok h).1
    · exact ih.other (fun t i same => performs ⟨t,i,same⟩) h

theorem coherent_fresh {shared : σ} (inv : D.inv shared) (untouched : ∀ t, D.untouched t shared) :
    D.Coherent (fresh shared) := by
  refine ⟨inv,fun t _ => ⟨rfl,untouched t⟩,fun t p point task => ?_⟩
  cases task

end Discipline

end Sessions

end Interleave
