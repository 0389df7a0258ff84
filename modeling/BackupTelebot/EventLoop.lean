import Mathlib.Logic.Relation
import Mathlib.Logic.Function.Basic
import Mathlib.Data.List.Basic

/-! Coroutines on one event loop. A coroutine has the loop to itself until it waits for the outside
world or for a lock that is held: taking a free lock does not give up control. -/
namespace EventLoop

/-- The rest of a coroutine. `ι` is what the outside world answers. -/
inductive Coroutine (σ ι κ α : Type) : Type where
  | ret (value : α)
  | act (effect : ι → σ → σ) (next : ι → σ → Coroutine σ ι κ α)
  | acquire (lock : κ) (next : Coroutine σ ι κ α)
  | release (lock : κ) (next : Coroutine σ ι κ α)
  | wait (next : ι → Coroutine σ ι κ α)

namespace Coroutine

variable {σ ι κ α β : Type}

def bind : Coroutine σ ι κ α → (α → Coroutine σ ι κ β) → Coroutine σ ι κ β
  | .ret value, body => body value
  | .act effect next, body => .act effect fun i s => (next i s).bind body
  | .acquire lock next, body => .acquire lock (next.bind body)
  | .release lock next, body => .release lock (next.bind body)
  | .wait next, body => .wait fun i => (next i).bind body

instance : Monad (Coroutine σ ι κ) where
  pure := .ret
  bind := bind

/-- Code without a wait. -/
def perform (f : ι → σ → α × σ) : Coroutine σ ι κ α := .act (fun i s => (f i s).2) fun i s => .ret (f i s).1

/-- `async with lock`. -/
def withLock (lock : κ) (body : Coroutine σ ι κ α) : Coroutine σ ι κ α :=
  .acquire lock (body.bind fun value => .release lock (.ret value))

def resumed (i : ι) : Coroutine σ ι κ α → Coroutine σ ι κ α
  | .wait next => next i
  | c => c

def Turn : Coroutine σ ι κ α → σ → α → σ → Prop
  | .ret value, s, value', s' => value = value' ∧ s = s'
  | .act effect next, s, value, s' => ∃ i, (next i s).Turn (effect i s) value s'
  | .acquire _ next, s, value, s' => next.Turn s value s'
  | .release _ next, s, value, s' => next.Turn s value s'
  | .wait _, _, _, _ => False

/-- Under the locks `outer` the coroutine does not wait, and gives back what else it takes. -/
def Inner [DecidableEq κ] (outer : List κ) : Coroutine σ ι κ α → List κ → Prop
  | .ret _, held => held = []
  | .act _ next, held => ∀ i s, (next i s).Inner outer held
  | .acquire lock next, held => lock ∉ outer ∧ lock ∉ held ∧ next.Inner outer (lock :: held)
  | .release lock next, held => lock ∈ held ∧ next.Inner outer (held.erase lock)
  | .wait _, _ => False

section Turns

variable {s s' : σ} {value : α}

theorem bind_eq (c : Coroutine σ ι κ α) (body : α → Coroutine σ ι κ β) : (c >>= body) = c.bind body := rfl

theorem turn_pure {other : α} : (pure value : Coroutine σ ι κ α).Turn s other s' ↔ value = other ∧ s = s' := Iff.rfl

theorem turn_bind {c : Coroutine σ ι κ α} {body : α → Coroutine σ ι κ β} {result : β} :
    (c >>= body).Turn s result s' ↔ ∃ value middle, c.Turn s value middle ∧ (body value).Turn middle result s' := by
  rw [bind_eq]
  induction c generalizing s with
  | ret value =>
    constructor
    · intro turn
      exact ⟨value,s,⟨rfl,rfl⟩,turn⟩
    · rintro ⟨_,_,⟨rfl,rfl⟩,turn⟩
      exact turn
  | act effect next ih =>
    constructor
    · rintro ⟨i,turn⟩
      obtain ⟨value,middle,first,second⟩ := (ih i s).mp turn
      exact ⟨value,middle,⟨i,first⟩,second⟩
    · rintro ⟨value,middle,⟨i,first⟩,second⟩
      exact ⟨i,(ih i s).mpr ⟨value,middle,first,second⟩⟩
  | acquire lock next ih => exact ih
  | release lock next ih => exact ih
  | wait next ih =>
    constructor
    · intro turn
      exact turn.elim
    · rintro ⟨_,_,turn,_⟩
      exact turn

theorem turn_perform {f : ι → σ → α × σ} : (perform f : Coroutine σ ι κ α).Turn s value s' ↔ ∃ i, f i s = (value,s') := by
  constructor
  · rintro ⟨i,rfl,rfl⟩
    exact ⟨i,rfl⟩
  · rintro ⟨i,same⟩
    exact ⟨i,congrArg Prod.fst same,congrArg Prod.snd same⟩

theorem turn_withLock {lock : κ} {body : Coroutine σ ι κ α} : (withLock lock body).Turn s value s' ↔ body.Turn s value s' := by
  change (body >>= fun value => release lock (.ret value)).Turn s value s' ↔ _
  rw [turn_bind]
  constructor
  · rintro ⟨value,middle,turn,rfl,rfl⟩
    exact turn
  · intro turn
    exact ⟨value,s',turn,rfl,rfl⟩

variable [DecidableEq κ] {outer held : List κ}

theorem inner_bind {c : Coroutine σ ι κ α} {body : α → Coroutine σ ι κ β} (first : c.Inner outer held)
    (second : ∀ value, (body value).Inner outer []) : (c >>= body).Inner outer held := by
  rw [bind_eq]
  induction c generalizing held with
  | ret value =>
    obtain rfl : held = [] := first
    exact second value
  | act effect next ih => exact fun i s => ih i s (first i s)
  | acquire lock next ih => exact ⟨first.1,first.2.1,ih first.2.2⟩
  | release lock next ih => exact ⟨first.1,ih first.2⟩
  | wait next ih => exact first

theorem inner_pure : (pure value : Coroutine σ ι κ α).Inner outer [] := rfl

theorem inner_perform {f : ι → σ → α × σ} : (perform f : Coroutine σ ι κ α).Inner outer [] := fun _ _ => rfl

theorem inner_weaken {c : Coroutine σ ι κ α} {lock : κ} (inner : c.Inner (lock :: outer) held) :
    (c.bind fun value => .release lock (.ret value)).Inner outer (held ++ [lock]) := by
  induction c generalizing held with
  | ret value =>
    obtain rfl : held = [] := inner
    exact ⟨List.mem_singleton_self lock,by simp [Inner]⟩
  | act effect next ih => exact fun i s => ih i s (inner i s)
  | acquire other next ih =>
    obtain ⟨outside,free,rest⟩ := inner
    rw [List.mem_cons,not_or] at outside
    refine ⟨outside.2,?_,ih rest⟩
    rw [List.mem_append,List.mem_singleton]
    rintro (inside | same)
    · exact free inside
    · exact outside.1 same
  | release other next ih =>
    refine ⟨List.mem_append_left _ inner.1,?_⟩
    rw [List.erase_append_left _ inner.1]
    exact ih inner.2
  | wait next ih => exact inner

theorem inner_withLock {body : Coroutine σ ι κ α} {lock : κ} (free : lock ∉ outer) (inner : body.Inner (lock :: outer) []) :
    (withLock lock body).Inner outer [] :=
  ⟨free,List.not_mem_nil,inner_weaken inner⟩

end Turns

end Coroutine

structure Loop (σ ι κ α : Type) where
  shared : σ
  holder : κ → Option ℕ
  tasks : ℕ → Option (Coroutine σ ι κ α)
  running : Option ℕ

namespace Loop

variable {σ ι κ α : Type}

def put (l : Loop σ ι κ α) (id : ℕ) (c : Coroutine σ ι κ α) : Loop σ ι κ α := { l with tasks := Function.update l.tasks id (some c) }

def Free (l : Loop σ ι κ α) : Prop := ∀ lock, l.holder lock = none

section

variable {l : Loop σ ι κ α} {id : ℕ} {c : Coroutine σ ι κ α}

@[simp] theorem put_running : (l.put id c).running = l.running := rfl
@[simp] theorem put_holder : (l.put id c).holder = l.holder := rfl
@[simp] theorem put_shared : (l.put id c).shared = l.shared := rfl
theorem put_self : (l.put id c).tasks id = some c := Function.update_self ..
theorem put_ne {other : ℕ} (apart : other ≠ id) : (l.put id c).tasks other = l.tasks other := Function.update_of_ne apart ..

theorem free_of_holders {held : List κ} (holders : ∀ lock other, l.holder lock = some other ↔ other = id ∧ lock ∈ held)
    (empty : held = []) : l.Free := by
  intro lock
  cases found : l.holder lock with
  | none => rfl
  | some other => simpa [empty] using ((holders lock other).mp found).2

end

variable [DecidableEq κ]

/-- One step of the loop, whose tasks run what is in `code`. -/
inductive Step (code : Coroutine σ ι κ α → Prop) : Loop σ ι κ α → Loop σ ι κ α → Prop
  | spawn {l : Loop σ ι κ α} {id : ℕ} {c : Coroutine σ ι κ α} (fresh : l.tasks id = none) (member : code c) :
      Step code l (l.put id c)
  | resume {l : Loop σ ι κ α} {id : ℕ} {c : Coroutine σ ι κ α} (i : ι) (idle : l.running = none) (task : l.tasks id = some c) :
      Step code l { l.put id (c.resumed i) with running := some id }
  | act {l : Loop σ ι κ α} {id : ℕ} {effect : ι → σ → σ} {next : ι → σ → Coroutine σ ι κ α} (i : ι)
      (runs : l.running = some id) (task : l.tasks id = some (.act effect next)) :
      Step code l { l.put id (next i l.shared) with shared := effect i l.shared }
  | acquire {l : Loop σ ι κ α} {id : ℕ} {lock : κ} {next : Coroutine σ ι κ α} (runs : l.running = some id)
      (task : l.tasks id = some (.acquire lock next)) (free : l.holder lock = none) :
      Step code l { l.put id next with holder := Function.update l.holder lock (some id) }
  | block {l : Loop σ ι κ α} {id : ℕ} {lock : κ} {next : Coroutine σ ι κ α} {other : ℕ} (runs : l.running = some id)
      (task : l.tasks id = some (.acquire lock next)) (held : l.holder lock = some other) :
      Step code l { l with running := none }
  | release {l : Loop σ ι κ α} {id : ℕ} {lock : κ} {next : Coroutine σ ι κ α} (runs : l.running = some id)
      (task : l.tasks id = some (.release lock next)) :
      Step code l { l.put id next with holder := Function.update l.holder lock none }
  | wait {l : Loop σ ι κ α} {id : ℕ} {next : ι → Coroutine σ ι κ α} (runs : l.running = some id)
      (task : l.tasks id = some (.wait next)) : Step code l { l with running := none }
  | finish {l : Loop σ ι κ α} {id : ℕ} {value : α} (runs : l.running = some id) (task : l.tasks id = some (.ret value)) :
      Step code l { l with tasks := Function.update l.tasks id none, running := none }

abbrev Run (code : Coroutine σ ι κ α → Prop) : Loop σ ι κ α → Loop σ ι κ α → Prop := Relation.ReflTransGen (Step code)

/-- The next step of the running coroutine; an idle loop resumes the task `id`. -/
def next (l : Loop σ ι κ α) (i : ι) (id : ℕ) : Loop σ ι κ α :=
  match l.running with
  | none =>
    match l.tasks id with
    | none => l
    | some c => { l.put id (c.resumed i) with running := some id }
  | some id =>
    match l.tasks id with
    | none => l
    | some (.ret _) => { l with tasks := Function.update l.tasks id none, running := none }
    | some (.act effect next) => { l.put id (next i l.shared) with shared := effect i l.shared }
    | some (.acquire lock next) =>
      match l.holder lock with
      | none => { l.put id next with holder := Function.update l.holder lock (some id) }
      | some _ => { l with running := none }
    | some (.release lock next) => { l.put id next with holder := Function.update l.holder lock none }
    | some (.wait _) => { l with running := none }

def drive (l : Loop σ ι κ α) (i : ι) (id : ℕ) : ℕ → Loop σ ι κ α
  | 0 => l
  | n + 1 => (l.next i id).drive i id n

theorem next_step (code : Coroutine σ ι κ α → Prop) (l : Loop σ ι κ α) (i : ι) (id : ℕ) : l.next i id = l ∨ Step code l (l.next i id) := by
  unfold next
  split
  · rename_i idle
    split
    · exact .inl rfl
    · rename_i c task
      exact .inr (.resume i idle task)
  · rename_i id runs
    split
    · exact .inl rfl
    · rename_i task
      exact .inr (.finish runs task)
    · rename_i task
      exact .inr (.act i runs task)
    · rename_i task
      split
      · rename_i free
        exact .inr (.acquire runs task free)
      · rename_i held
        exact .inr (.block runs task held)
    · rename_i task
      exact .inr (.release runs task)
    · rename_i task
      exact .inr (.wait runs task)

theorem drive_run (code : Coroutine σ ι κ α → Prop) (l : Loop σ ι κ α) (i : ι) (id n : ℕ) : Run code l (l.drive i id n) := by
  induction n generalizing l with
  | zero => exact .refl
  | succ n ih =>
    rcases next_step code l i id with same | step
    · rw [drive,same]
      exact ih l
    · exact .head step (ih _)

end Loop

end EventLoop
