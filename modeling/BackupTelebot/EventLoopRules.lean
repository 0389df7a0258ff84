import BackupTelebot.EventLoop
import Mathlib.Tactic.SplitIfs

/-! Rules for what holds of a shared state whenever no lock is held, and for how one such state leads to
the next, whatever the coroutines of a loop do in between. -/
namespace EventLoop

def anchor {σ κ : Type} : List κ → σ → σ → σ
  | [], _, s => s
  | _ :: _, base, _ => base

@[simp] theorem anchor_nil {σ κ : Type} (base s : σ) : anchor ([] : List κ) base s = s := rfl

theorem anchor_ne {σ κ : Type} {held : List κ} (some_ : held ≠ []) (base s : σ) : anchor held base s = base := by
  cases held with
  | nil => exact absurd rfl some_
  | cons lock rest => rfl

namespace Coroutine

section Safe

variable {σ ι κ α β : Type} [DecidableEq κ] (P : σ → Prop) (R : σ → σ → Prop)

/-- From a state `s`, with the locks `held`, the coroutine keeps to `P` and `R`, and takes no lock twice.
While it waits others may do what keeps to them. -/
def Safe : Coroutine σ ι κ α → List κ → σ → (α → List κ → σ → σ → Prop) → σ → Prop
  | .ret value, held, base, Q, s => Q value held base s
  | .act effect next, held, base, Q, s => ∀ i, (held = [] → P (effect i s) ∧ R base (effect i s)) ∧
      (next i s).Safe held (anchor held base (effect i s)) Q (effect i s)
  | .acquire lock next, held, base, Q, s => lock ∉ held ∧ next.Safe (lock :: held) base Q s
  | .release lock next, held, base, Q, s => lock ∈ held ∧ (held.erase lock = [] → P s ∧ R base s) ∧
      next.Safe (held.erase lock) (anchor (held.erase lock) base s) Q s
  | .wait next, held, base, Q, _ => held = [] ∧ ∀ i s', P s' → R base s' → (next i).Safe [] s' Q s'

def done (_ : α) (held : List κ) (_ _ : σ) : Prop := held = []

def Resumable (c : Coroutine σ ι κ α) (base : σ) : Prop := ∀ i s, P s → R base s → (c.resumed i).Safe P R [] s done s

variable {P R}

theorem Safe.mono {c : Coroutine σ ι κ α} {held : List κ} {base s : σ} {Q Q' : α → List κ → σ → σ → Prop}
    (weaker : ∀ value held base s, Q value held base s → Q' value held base s) (safe : c.Safe P R held base Q s) :
    c.Safe P R held base Q' s := by
  induction c generalizing held base s with
  | ret value => exact weaker _ _ _ _ safe
  | act effect next ih => exact fun i => ⟨(safe i).1,ih i s (safe i).2⟩
  | acquire lock next ih => exact ⟨safe.1,ih safe.2⟩
  | release lock next ih => exact ⟨safe.1,safe.2.1,ih safe.2.2⟩
  | wait next ih => exact ⟨safe.1,fun i s' holds follows => ih i (safe.2 i s' holds follows)⟩

theorem Safe.bind {c : Coroutine σ ι κ α} {body : α → Coroutine σ ι κ β} {held : List κ} {base s : σ} {Q : β → List κ → σ → σ → Prop}
    (safe : c.Safe P R held base (fun value held base s => (body value).Safe P R held base Q s) s) :
    (c >>= body).Safe P R held base Q s := by
  rw [bind_eq]
  induction c generalizing held base s with
  | ret value => exact safe
  | act effect next ih => exact fun i => ⟨(safe i).1,ih i s (safe i).2⟩
  | acquire lock next ih => exact ⟨safe.1,ih safe.2⟩
  | release lock next ih => exact ⟨safe.1,safe.2.1,ih safe.2.2⟩
  | wait next ih => exact ⟨safe.1,fun i s' holds follows => ih i (safe.2 i s' holds follows)⟩

theorem safe_inner {c : Coroutine σ ι κ α} {lock : κ} {held : List κ} {base s : σ} {Q : α → List κ → σ → σ → Prop}
    (inner : c.Inner [lock] held) (turns : ∀ value s', c.Turn s value s' → P s' ∧ R base s' ∧ Q value [] s' s') :
    (c.bind fun value => .release lock (.ret value)).Safe P R (held ++ [lock]) base Q s := by
  have inside (held : List κ) : held ++ [lock] ≠ [] := by simp
  induction c generalizing held s with
  | ret value =>
    obtain rfl : held = [] := inner
    obtain ⟨holds,follows,after⟩ := turns value s ⟨rfl,rfl⟩
    refine ⟨List.mem_singleton_self lock,fun _ => ⟨holds,follows⟩,?_⟩
    simpa [Safe] using after
  | act effect next ih =>
    intro i
    refine ⟨fun empty => absurd empty (inside held),?_⟩
    rw [anchor_ne (inside held)]
    exact ih i s (inner i s) fun value s' turn => turns value s' ⟨i,turn⟩
  | acquire other next ih =>
    obtain ⟨outside,free,rest⟩ := inner
    refine ⟨?_,ih rest turns⟩
    rw [List.mem_append]
    rintro (taken | taken)
    · exact free taken
    · exact outside taken
  | release other next ih =>
    have shape := List.erase_append_left [lock] inner.1
    refine ⟨List.mem_append_left _ inner.1,?_⟩
    rw [shape,anchor_ne (inside _)]
    exact ⟨fun empty => absurd empty (inside _),ih inner.2 turns⟩
  | wait next ih => exact inner.elim

/-- Code under a lock that does not wait is as good as what it leads to. -/
theorem Safe.withLock {body : Coroutine σ ι κ α} {lock : κ} {base s : σ} {Q : α → List κ → σ → σ → Prop}
    (inner : body.Inner [lock] []) (turns : ∀ value s', body.Turn s value s' → P s' ∧ R base s' ∧ Q value [] s' s') :
    (withLock lock body).Safe P R [] base Q s :=
  ⟨List.not_mem_nil,safe_inner inner turns⟩

theorem Safe.resumed {c : Coroutine σ ι κ α} {s : σ} {Q : α → List κ → σ → σ → Prop} (refl : ∀ s, R s s) (holds : P s)
    (safe : c.Safe P R [] s Q s) (i : ι) : (c.resumed i).Safe P R [] s Q s := by
  cases c with
  | wait next => exact safe.2 i s holds (refl s)
  | ret value => exact safe
  | act effect next => exact safe
  | acquire lock next => exact safe
  | release lock next => exact safe

theorem Resumable.later {c : Coroutine σ ι κ α} {base later : σ} (trans : ∀ {a b c}, R a b → R b c → R a c)
    (resumable : c.Resumable P R base) (follows : R base later) : c.Resumable P R later :=
  fun i s holds next => resumable i s holds (trans follows next)

end Safe

section Keeps

variable {σ ι κ α β : Type} [DecidableEq κ] {P : σ → Prop} {R : σ → σ → Prop} {s : σ} {c : Coroutine σ ι κ α}
  {Q Q' : α → σ → Prop}

/-- From `s` the coroutine keeps to `P` and `R`, and `Q` holds at its end. -/
def Keeps (P : σ → Prop) (R : σ → σ → Prop) (c : Coroutine σ ι κ α) (s : σ) (Q : α → σ → Prop) : Prop :=
  c.Safe P R [] s (fun value held base s' => held = [] ∧ base = s' ∧ Q value s') s

theorem Keeps.mono (weaker : ∀ value s', Q value s' → Q' value s') (keeps : c.Keeps P R s Q) : c.Keeps P R s Q' :=
  Safe.mono (fun value _ _ s' last => ⟨last.1,last.2.1,weaker value s' last.2.2⟩) keeps

theorem Keeps.pure {value : α} (last : Q value s) : (Pure.pure value : Coroutine σ ι κ α).Keeps P R s Q := ⟨rfl,rfl,last⟩

theorem Keeps.bind {body : α → Coroutine σ ι κ β} {Q : β → σ → Prop}
    (keeps : c.Keeps P R s fun value s' => (body value).Keeps P R s' Q) : (c >>= body).Keeps P R s Q := by
  refine Safe.bind (Safe.mono ?_ keeps)
  rintro value held base s' ⟨rfl,rfl,rest⟩
  exact rest

theorem Keeps.withLock {lock : κ} (inner : c.Inner [lock] [])
    (turns : ∀ value s', c.Turn s value s' → P s' ∧ R s s' ∧ Q value s') : (Coroutine.withLock lock c).Keeps P R s Q :=
  Safe.withLock inner fun value s' turn => ⟨(turns value s' turn).1,(turns value s' turn).2.1,rfl,rfl,(turns value s' turn).2.2⟩

theorem Keeps.perform {f : ι → σ → α × σ} (each : ∀ i, P (f i s).2 ∧ R s (f i s).2 ∧ Q (f i s).1 (f i s).2) :
    (perform f : Coroutine σ ι κ α).Keeps P R s Q :=
  fun i => ⟨fun _ => ⟨(each i).1,(each i).2.1⟩,rfl,rfl,(each i).2.2⟩

theorem Keeps.wait {next : ι → Coroutine σ ι κ α} (later : ∀ i s', P s' → R s s' → (next i).Keeps P R s' Q) :
    (Coroutine.wait next).Keeps P R s Q := ⟨rfl,later⟩

theorem Keeps.ends (keeps : c.Keeps P R s Q) : c.Safe P R [] s done s := Safe.mono (fun _ _ _ _ last => last.1) keeps

end Keeps

end Coroutine

namespace Loop

open Coroutine

section Sound

variable {σ ι κ α : Type} [DecidableEq κ]

/-- The running coroutine holds what locks are held, and every coroutine is safe in what it has yet to do. -/
structure Sound (P : σ → Prop) (R : σ → σ → Prop) (l : Loop σ ι κ α) (base : σ) : Prop where
  holds : P base
  resumable : ∀ id c, l.tasks id = some c → l.running ≠ some id → c.Resumable P R base
  idle : l.running = none → l.Free ∧ l.shared = base
  busy : ∀ id, l.running = some id → ∃ c held, l.tasks id = some c ∧ held.Nodup ∧
    (∀ lock other, l.holder lock = some other ↔ other = id ∧ lock ∈ held) ∧ (held = [] → l.shared = base) ∧ c.Safe P R held base done l.shared

variable {P : σ → Prop} {R : σ → σ → Prop} {code : Coroutine σ ι κ α → Prop} {l l' : Loop σ ι κ α} {base : σ} {id : ℕ}
  {c : Coroutine σ ι κ α}

theorem Sound.free (sound : Sound P R l base) (free : l.Free) : l.shared = base := by
  cases runs : l.running with
  | none => exact (sound.idle runs).2
  | some id =>
    obtain ⟨c,held,-,-,holders,same,-⟩ := sound.busy id runs
    refine same (List.eq_nil_iff_forall_not_mem.mpr fun lock member => ?_)
    have := (holders lock id).mpr ⟨rfl,member⟩
    rw [free lock] at this
    cases this

/-- What the running coroutine may count on. -/
theorem Sound.task (sound : Sound P R l base) (runs : l.running = some id) (task : l.tasks id = some c) :
    ∃ held : List κ, held.Nodup ∧ (∀ lock other, l.holder lock = some other ↔ other = id ∧ lock ∈ held) ∧
      (held = [] → l.shared = base) ∧ c.Safe P R held base done l.shared := by
  obtain ⟨c',held,task',rest⟩ := sound.busy id runs
  obtain rfl := Option.some.inj (task'.symm.trans task)
  exact ⟨held,rest⟩

theorem Sound.others (sound : Sound P R l base) (runs : l.running = none ∨ l.running = some id) (other : ℕ) (c : Coroutine σ ι κ α)
    (task : l.tasks other = some c) (apart : other ≠ id) : c.Resumable P R base := by
  refine sound.resumable other c task ?_
  rcases runs with runs | runs
  · simp [runs]
  · rw [runs]
    exact fun same => apart (Option.some.inj same).symm

/-- After a step of the running coroutine, which then has the locks `held` and goes on with `c`. -/
theorem Sound.proceed {base' : σ} (held : List κ) (holds : P base') (runs : l'.running = some id) (task : l'.tasks id = some c)
    (rest : ∀ other c, l'.tasks other = some c → other ≠ id → c.Resumable P R base') (distinct : held.Nodup)
    (holders : ∀ lock other, l'.holder lock = some other ↔ other = id ∧ lock ∈ held) (same : held = [] → l'.shared = base')
    (safe : c.Safe P R held base' done l'.shared) : Sound P R l' base' where
  holds := holds
  resumable other c task apart := by
    refine rest other c task fun same => apart ?_
    rw [runs,same]
  idle none_ := by simp [runs] at none_
  busy other runs' := by
    obtain rfl := Option.some.inj (runs.symm.trans runs')
    exact ⟨c,held,task,distinct,holders,same,safe⟩

end Sound

section Steps

variable {σ ι κ α : Type} [DecidableEq κ] {P : σ → Prop} {R : σ → σ → Prop} {code : Coroutine σ ι κ α → Prop}
  {l l' : Loop σ ι κ α} {base : σ} (refl : ∀ s, R s s) (trans : ∀ {a b c}, R a b → R b c → R a c)
  (ready : ∀ c, code c → ∀ s, P s → c.Safe P R [] s done s)

include refl trans ready

theorem Sound.step (sound : Sound P R l base) (step : Step code l l') : ∃ base', R base base' ∧ Sound P R l' base' := by
  cases step with
  | @spawn id c fresh member =>
    refine ⟨base,refl base,sound.holds,?_,sound.idle,?_⟩
    · intro other c' task apart
      by_cases same : other = id
      · rw [same,put_self] at task
        obtain rfl := Option.some.inj task
        exact fun i s holds _ => Safe.resumed refl holds (ready c member s holds) i
      · rw [put_ne same] at task
        exact sound.resumable other c' task apart
    · intro other runs
      obtain ⟨c',held,task,rest⟩ := sound.busy other runs
      have same : other ≠ id := by
        rintro rfl
        simp [fresh] at task
      exact ⟨c',held,(put_ne same).trans task,rest⟩
  | @resume id c i idle task =>
    obtain ⟨free,same⟩ := sound.idle idle
    refine ⟨base,refl base,Sound.proceed [] sound.holds rfl put_self ?_ List.nodup_nil ?_ (fun _ => same) ?_⟩
    · intro other c' task' apart
      exact sound.others (.inl idle) other c' ((put_ne apart).symm.trans task') apart
    · intro lock other
      simp [free lock]
    · have := sound.resumable id c task (by simp [idle]) i base sound.holds (refl base)
      simpa [same] using this
  | @act id effect next i runs task =>
    obtain ⟨held,distinct,holders,same,safe⟩ := sound.task runs task
    obtain ⟨reached,rest⟩ := safe i
    have follows : R base (anchor held base (effect i l.shared)) := by
      by_cases empty : held = []
      · subst empty
        exact (reached rfl).2
      · rw [anchor_ne empty]
        exact refl base
    have holds : P (anchor held base (effect i l.shared)) := by
      by_cases empty : held = []
      · subst empty
        exact (reached rfl).1
      · rw [anchor_ne empty]
        exact sound.holds
    refine ⟨_,follows,Sound.proceed held holds runs put_self ?_ distinct holders ?_ rest⟩
    · intro other c' task' apart
      exact (sound.others (.inr runs) other c' ((put_ne apart).symm.trans task') apart).later trans follows
    · rintro rfl
      rfl
  | @acquire id lock next runs task free =>
    obtain ⟨held,distinct,holders,same,fresh,safe⟩ := sound.task runs task
    refine ⟨base,refl base,Sound.proceed (lock :: held) sound.holds runs put_self ?_ (List.nodup_cons.mpr ⟨fresh,distinct⟩) ?_ (by simp) safe⟩
    · intro other c' task' apart
      exact sound.others (.inr runs) other c' ((put_ne apart).symm.trans task') apart
    · intro lock' other
      by_cases here : lock' = lock
      · subst here
        simp [eq_comm]
      · simp [here,holders]
  | @block id lock next other runs task taken =>
    obtain ⟨held,-,holders,-,fresh,-⟩ := sound.task runs task
    exact absurd ((holders lock other).mp taken).2 fresh
  | @release id lock next runs task =>
    obtain ⟨held,distinct,holders,same,member,reached,rest⟩ := sound.task runs task
    have follows : R base (anchor (held.erase lock) base l.shared) := by
      by_cases empty : held.erase lock = []
      · rw [empty]
        exact (reached empty).2
      · rw [anchor_ne empty]
        exact refl base
    have holds : P (anchor (held.erase lock) base l.shared) := by
      by_cases empty : held.erase lock = []
      · rw [empty]
        exact (reached empty).1
      · rw [anchor_ne empty]
        exact sound.holds
    refine ⟨_,follows,Sound.proceed (held.erase lock) holds runs put_self ?_ (distinct.erase lock) ?_ ?_ rest⟩
    · intro other c' task' apart
      exact (sound.others (.inr runs) other c' ((put_ne apart).symm.trans task') apart).later trans follows
    · intro lock' other
      by_cases here : lock' = lock
      · subst here
        simp [distinct.mem_erase_iff]
      · simp [here,holders,distinct.mem_erase_iff]
    · intro empty
      rw [empty]
      rfl
  | @wait id next runs task =>
    obtain ⟨held,-,holders,same,empty,later⟩ := sound.task runs task
    refine ⟨base,refl base,sound.holds,?_,fun _ => ⟨free_of_holders holders empty,same empty⟩,by simp⟩
    intro other c' task' _
    by_cases here : other = id
    · subst here
      obtain rfl := Option.some.inj (task.symm.trans task')
      exact later
    · exact sound.others (.inr runs) other c' task' here
  | @finish id value runs task =>
    obtain ⟨held,-,holders,same,empty⟩ := sound.task runs task
    refine ⟨base,refl base,sound.holds,?_,fun _ => ⟨free_of_holders holders empty,same empty⟩,by simp⟩
    intro other c' task' _
    by_cases here : other = id
    · subst here
      simp at task'
    · have old : l.tasks other = some c' := (Function.update_of_ne here ..).symm.trans task'
      exact sound.others (.inr runs) other c' old here

theorem Sound.run (sound : Sound P R l base) (run : Run code l l') : ∃ base', R base base' ∧ Sound P R l' base' := by
  induction run with
  | refl => exact ⟨base,refl base,sound⟩
  | tail _ step ih =>
    obtain ⟨middle,first,sound⟩ := ih
    obtain ⟨last,second,sound⟩ := sound.step refl trans ready step
    exact ⟨last,trans first second,sound⟩

end Steps

section Runs

variable {σ ι κ α : Type} [DecidableEq κ] {P : σ → Prop} {R : σ → σ → Prop} {code : Coroutine σ ι κ α → Prop}
  {s : σ} {l l' : Loop σ ι κ α}

def start (s : σ) : Loop σ ι κ α := ⟨s,fun _ => none,fun _ => none,none⟩

theorem start_sound (holds : P s) : Sound P R (start s : Loop σ ι κ α) s where
  holds := holds
  resumable id c task := by simp [start] at task
  idle _ := ⟨fun _ => rfl,rfl⟩
  busy id runs := by simp [start] at runs

variable (refl : ∀ s, R s s) (trans : ∀ {a b c}, R a b → R b c → R a c)
  (keeps : ∀ c, code c → ∀ s, P s → c.Keeps P R s fun _ _ => True) (holds : P s)

include refl trans keeps holds

/-- In a run `P` holds whenever no lock is held. -/
theorem run_holds (run : Run code (start s) l) (free : l.Free) : P l.shared := by
  obtain ⟨base,-,sound⟩ := (start_sound holds).run refl trans (fun c member s holds => (keeps c member s holds).ends) run
  rw [sound.free free]
  exact sound.holds

/-- What holds of the states in which no lock is held, one after the other. -/
theorem run_follows (run : Run code (start s) l) (free : l.Free) (later : Run code l l') (free' : l'.Free) : R l.shared l'.shared := by
  have ready : ∀ c, code c → ∀ s, P s → c.Safe P R [] s done s := fun c member s holds => (keeps c member s holds).ends
  obtain ⟨base,-,sound⟩ := (start_sound holds).run refl trans ready run
  obtain ⟨base',follows,sound'⟩ := sound.run refl trans ready later
  rw [sound.free free,sound'.free free']
  exact follows

end Runs

end Loop

end EventLoop
