import BackupTelebot.InterleavingRules
import BackupTelebot.System

/-! The rules of the awaited operations: what a task that is alone computes, and what a
contract asks of each operation. -/
namespace BackupTelebot

open Interleave

section Alone

variable {i : Answer} (quiet : i.fault = none)
include quiet

theorem alone_op {α : Type} (point : Point) (effect : Answer → World → World)
    (result : Answer → World → Except Exc α) (s : World) :
    (op point effect result).alone i s = some (result i s,effect i s) := by
  simp [op,Prog.alone,quiet]

theorem alone_look {α : Type} (point : Point) (result : World → Except Exc α) (s : World) :
    (look point result).alone i s = some (result s,s) := alone_op quiet point _ _ s

theorem alone_op_bind {α β : Type} (point : Point) (effect : Answer → World → World)
    (result : Answer → World → Except Exc α) (body : α → Proc β) (s : World) :
    (op point effect result >>= body).alone i s =
      match result i s with
      | .ok value => (body value).alone i (effect i s)
      | .error e => some (.error e,effect i s) := by
  rw [Prog.alone_bind,alone_op quiet,Option.bind_some]
  cases result i s with
  | ok value => rfl
  | error e => rfl

theorem alone_look_bind {α β : Type} (point : Point) (result : World → Except Exc α) (body : α → Proc β)
    (s : World) : (look point result >>= body).alone i s =
      match result s with
      | .ok value => (body value).alone i s
      | .error e => some (.error e,s) := alone_op_bind quiet point _ _ body s

omit quiet in
theorem trace_op {α : Type} (point : Point) (effect : Answer → World → World)
    (result : Answer → World → Except Exc α) (s : World) :
    (op point effect result).trace i s = [effect i s] := rfl

theorem trace_op_bind {α β : Type} (point : Point) (effect : Answer → World → World)
    (result : Answer → World → Except Exc α) (body : α → Proc β) (s : World) :
    (op point effect result >>= body).trace i s = effect i s ::
      match result i s with
      | .ok value => (body value).trace i (effect i s)
      | .error _ => [] := by
  rw [Prog.trace_bind,alone_op quiet,trace_op,List.singleton_append]
  cases result i s with
  | ok value => rfl
  | error e => rfl

theorem trace_look_bind {α β : Type} (point : Point) (result : World → Except Exc α) (body : α → Proc β)
    (s : World) : (look point result >>= body).trace i s = s ::
      match result s with
      | .ok value => (body value).trace i s
      | .error _ => [] := trace_op_bind quiet point _ _ body s

theorem alone_commit (point : Point) (run : Orm) (s : World) :
    (commit point run).alone i s = some (.ok run.flushed,{ s with run := run.flush s.now s.run }) :=
  alone_op quiet point _ _ s

theorem alone_boundary (point : Point) (owner : Option Owner) (run : Orm) {s : World}
    (holds : checkFence owner true s.run = .ok ()) :
    (boundary point owner run).alone i s = some (.ok (run.refreshFence s.run,s.now),s) := by
  rw [boundary,alone_look quiet,holds]
  rfl

theorem keeps_op {α : Type} {Inv : World → Prop} {point : Point} {effect : Answer → World → World}
    {result : Answer → World → Except Exc α} (kept : ∀ s, Inv s → Inv (effect i s)) :
    Prog.Keeps i Inv (op point effect result) :=
  fun s inv => ⟨_,_,alone_op quiet point effect result s,kept s inv⟩

end Alone

theorem checkFence_ok {owner : Option Owner} {checkCancel : Bool} {row : BackupRun} :
    checkFence owner checkCancel row = .ok () ↔
      row.leaseOwner = owner ∧ (checkCancel = true → row.cancelRequested = false) := by
  unfold checkFence
  by_cases same : row.leaseOwner = owner <;> cases checkCancel <;> cases row.cancelRequested <;> simp [same]

/-- A postcondition with one part for a result and one for every exception. -/
def Ends {α : Type} (ok : α → World → Prop) (err : World → Prop) : Except Exc α → World → Prop
  | .ok value, s => ok value s
  | .error _, s => err s

@[simp] theorem ends_ok {α : Type} {ok : α → World → Prop} {err : World → Prop} {value : α} {s : World} :
    Ends ok err (.ok value) s ↔ ok value s := Iff.rfl

@[simp] theorem ends_error {α : Type} {ok : α → World → Prop} {err : World → Prop} {e : Exc} {s : World} :
    Ends ok err (.error e) s ↔ err s := Iff.rfl

namespace Holds

variable {C : Contract Point Answer World Exc} {α β : Type} {err : World → Prop}

/-- What follows may use the postcondition of what came first; exceptions pass through. -/
theorem andThen {mid : α → World → Prop} {ok : β → World → Prop} {p : Proc α} {body : α → Proc β} {s : World}
    (first : Holds C (Ends mid err) p s) (next : ∀ value s, mid value s → Holds C (Ends ok err) (body value) s) :
    Holds C (Ends ok err) (p >>= body) s :=
  Holds.seq first (fun value s h => next value s h) (fun _ _ h => h)

theorem weaken {ok weaker : α → World → Prop} {p : Proc α} {s : World} (h : ∀ value s, ok value s → weaker value s)
    (holds : Holds C (Ends ok err) p s) : Holds C (Ends weaker err) p s := by
  apply holds.mono
  rintro (e | value) s here
  · exact here
  · exact h value s here

theorem relax {err' : World → Prop} {ok : α → World → Prop} {p : Proc α} {s : World} (h : ∀ s, err s → err' s)
    (holds : Holds C (Ends ok err) p s) : Holds C (Ends ok err') p s := by
  apply holds.mono
  rintro (e | value) s here
  · exact h s here
  · exact here

theorem op {ok : α → World → Prop} {point : Point} {effect : Answer → World → World}
    {result : Answer → World → Except Exc α} {s : World}
    (performed : ∀ s' i, C.rely point s s' → C.allowed point i s' → C.known point s' (effect i s') →
      C.guar point s' (effect i s') ∧ err (effect i s') ∧ ∀ value, result i s' = .ok value → ok value (effect i s'))
    (raised : ∀ s', C.rely point s s' → err s') : Holds C (Ends ok err) (BackupTelebot.op point effect result) s := by
  intro s' rely
  refine ⟨fun _ i allowed known => ?_,fun _ _ => raised s' rely⟩
  obtain ⟨guar,bad,good⟩ := performed s' i rely allowed known
  refine ⟨guar,?_⟩
  rw [Interleave.Holds.ret_iff]
  split
  · exact bad
  · cases outcome : result i s' with
    | error e => exact bad
    | ok value => exact good value outcome

theorem look {ok : α → World → Prop} {point : Point} {result : World → Except Exc α} {s : World}
    (seen : ∀ s', C.rely point s s' → C.guar point s' s' ∧ err s' ∧ ∀ value, result s' = .ok value → ok value s') :
    Holds C (Ends ok err) (BackupTelebot.look point result) s :=
  op (fun s' _ rely _ _ => seen s' rely) (fun s' rely => (seen s' rely).2.1)

theorem boundary {ok : Orm × Time → World → Prop} {point : Point} {owner : Option Owner} {run : Orm} {s : World}
    (seen : ∀ s', C.rely point s s' → C.guar point s' s' ∧ err s' ∧
      (s'.run.leaseOwner = owner → s'.run.cancelRequested = false → ok (run.refreshFence s'.run,s'.now) s')) :
    Holds C (Ends ok err) (BackupTelebot.boundary point owner run) s := by
  refine look fun s' rely => ⟨(seen s' rely).1,(seen s' rely).2.1,fun value result => ?_⟩
  cases checked : checkFence owner true s'.run with
  | error e => simp [checked,Except.map] at result
  | ok _ =>
    obtain ⟨same,notCancelled⟩ := checkFence_ok.mp checked
    obtain rfl : (run.refreshFence s'.run,s'.now) = value := by simpa [checked,Except.map] using result
    exact (seen s' rely).2.2 same (notCancelled rfl)

theorem fenced {ok : α → World → Prop} {point : Point} {owner : Option Owner} {checkCancel : Bool}
    {effect : Answer → World → World} {result : Answer → World → α} {s : World}
    (refused : ∀ s', C.rely point s s' → C.guar point s' s' ∧ err s')
    (performed : ∀ s' i, C.rely point s s' → C.allowed point i s' → C.known point s' (effect i s') →
      s'.run.leaseOwner = owner → (checkCancel = true → s'.run.cancelRequested = false) →
      C.guar point s' (effect i s') ∧ err (effect i s') ∧ ok (result i s') (effect i s')) :
    Holds C (Ends ok err) (BackupTelebot.fenced point owner checkCancel effect result) s := by
  refine op (fun s' i rely allowed known => ?_) (fun s' rely => (refused s' rely).2)
  cases checked : checkFence owner checkCancel s'.run with
  | error e =>
    simp only
    exact ⟨(refused s' rely).1,(refused s' rely).2,by simp [Except.map]⟩
  | ok _ =>
    rw [checked] at known
    obtain ⟨same,notCancelled⟩ := checkFence_ok.mp checked
    obtain ⟨guar,bad,good⟩ := performed s' i rely allowed known same notCancelled
    refine ⟨guar,bad,fun value result => ?_⟩
    obtain rfl := by simpa [Except.map] using result
    exact good

theorem commit {ok : Orm → World → Prop} {point : Point} {run : Orm} {s : World}
    (performed : ∀ s', C.rely point s s' → C.known point s' { s' with run := run.flush s'.now s'.run } →
      C.guar point s' { s' with run := run.flush s'.now s'.run } ∧ err { s' with run := run.flush s'.now s'.run } ∧
        ok run.flushed { s' with run := run.flush s'.now s'.run })
    (raised : ∀ s', C.rely point s s' → err s') : Holds C (Ends ok err) (BackupTelebot.commit point run) s := by
  refine op (fun s' i rely _ known => ?_) raised
  obtain ⟨guar,bad,good⟩ := performed s' rely known
  refine ⟨guar,bad,fun value result => ?_⟩
  obtain rfl := Except.ok.inj result
  exact good

/-- The handler of failures runs from any state in which the protected part may raise. -/
theorem onFailure {ok : α → World → Prop} {p : Proc α} {handler : Failure → Proc α} {s : World}
    (protected_ : Holds C (Ends ok err) p s)
    (handled : ∀ e s, err s → Holds C (Ends ok err) (handler e) s) :
    Holds C (Ends ok err) (BackupTelebot.onFailure p handler) s := by
  apply Holds.handle
  apply protected_.mono
  rintro (e | value) s here
  · cases e with
    | cancelled => exact here
    | failure e => exact handled e s here
  · exact here

/-- A handler of all exceptions. -/
theorem handled {ok : α → World → Prop} {middle : World → Prop} {p : Proc α} {handler : Exc → Proc α} {s : World}
    (protected_ : Holds C (Ends ok middle) p s)
    (handles : ∀ e s, middle s → Holds C (Ends ok err) (handler e) s) :
    Holds C (Ends ok err) (p.handle handler) s := by
  apply Holds.handle
  apply protected_.mono
  rintro (e | value) s here
  · exact handles e s here
  · exact here

end Holds

end BackupTelebot
