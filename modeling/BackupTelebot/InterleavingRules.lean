import BackupTelebot.Interleaving

/-! Rely-guarantee rules for interleaved tasks. What the other tasks may do depends on
the point at which a task waits, so that a lock held there or a window excluded there
can be said point by point. -/
namespace Interleave

variable {π ι σ ε α β : Type}

/-- What one task may assume and must establish. `rely` relates the state in which the
task starts to wait at a point to any state in which it may continue. `allowed` and
`raises` are the steps and exceptions the runs under study contain; `known` is what another
contract has already established about every step. -/
structure Contract (π ι σ ε : Type) where
  rely : π → σ → σ → Prop
  guar : π → σ → σ → Prop
  allowed : π → ι → σ → Prop
  raises : π → ε → σ → Prop
  known : π → σ → σ → Prop
  refl : ∀ point s, rely point s s
  trans : ∀ {point a b c}, rely point a b → rely point b c → rely point a c

def Contract.idle : Contract π ι σ ε where
  rely := fun _ _ _ => True
  guar := fun _ _ _ => True
  allowed := fun _ _ _ => True
  raises := fun _ _ _ => True
  known := fun _ _ _ => True
  refl := fun _ _ => trivial
  trans := fun _ _ => trivial

/-- Every step of the task from here on meets the guarantee, and its result meets the
postcondition in the state in which it ends. -/
def Holds (C : Contract π ι σ ε) (post : Except ε α → σ → Prop) : Prog π ι σ ε α → σ → Prop
  | .ret result, s => post result s
  | .act point guard effect next raised, s => ∀ s', C.rely point s s' →
      (guard s' = true → ∀ i, C.allowed point i s' → C.known point s' (effect i s') →
        C.guar point s' (effect i s') ∧ Holds C post (next i s') (effect i s')) ∧
      ∀ e, C.raises point e s' → Holds C post (raised e) s'

/-- The postcondition of a first part whose value the rest of the task continues with. -/
def Continues (C : Contract π ι σ ε) (post : Except ε β → σ → Prop)
    (body : α → Prog π ι σ ε β) : Except ε α → σ → Prop
  | .ok value, s => Holds C post (body value) s
  | .error e, s => post (.error e) s

def Recovers (C : Contract π ι σ ε) (post : Except ε α → σ → Prop)
    (handler : ε → Prog π ι σ ε α) : Except ε α → σ → Prop
  | .ok value, s => post (.ok value) s
  | .error e, s => Holds C post (handler e) s

namespace Holds

variable {C : Contract π ι σ ε}

@[simp] theorem ret_iff {post : Except ε α → σ → Prop} {result : Except ε α} {s : σ} :
    Holds C post (.ret result) s ↔ post result s := Iff.rfl

theorem mono {post weaker : Except ε α → σ → Prop} (h : ∀ result s, post result s → weaker result s)
    {p : Prog π ι σ ε α} {s : σ} (holds : Holds C post p s) : Holds C weaker p s := by
  induction p generalizing s with
  | ret result => exact h _ _ holds
  | act point guard effect next raised ihNext ihRaised =>
    intro s' rely
    have now := holds s' rely
    refine ⟨fun open_ i allowed known => ⟨(now.1 open_ i allowed known).1,?_⟩,fun e raises => ?_⟩
    · exact ihNext i s' (now.1 open_ i allowed known).2
    · exact ihRaised e (now.2 e raises)

theorem bind {post : Except ε β → σ → Prop} {body : α → Prog π ι σ ε β} {p : Prog π ι σ ε α} {s : σ}
    (holds : Holds C (Continues C post body) p s) : Holds C post (p >>= body) s := by
  rw [Prog.bind_eq]
  induction p generalizing s with
  | ret result => cases result <;> exact holds
  | act point guard effect next raised ihNext ihRaised =>
    intro s' rely
    have now := holds s' rely
    refine ⟨fun open_ i allowed known => ⟨(now.1 open_ i allowed known).1,?_⟩,fun e raises => ?_⟩
    · exact ihNext i s' (now.1 open_ i allowed known).2
    · exact ihRaised e (now.2 e raises)

theorem handle {post : Except ε α → σ → Prop} {handler : ε → Prog π ι σ ε α} {p : Prog π ι σ ε α}
    {s : σ} (holds : Holds C (Recovers C post handler) p s) : Holds C post (p.handle handler) s := by
  induction p generalizing s with
  | ret result => cases result <;> exact holds
  | act point guard effect next raised ihNext ihRaised =>
    intro s' rely
    have now := holds s' rely
    refine ⟨fun open_ i allowed known => ⟨(now.1 open_ i allowed known).1,?_⟩,fun e raises => ?_⟩
    · exact ihNext i s' (now.1 open_ i allowed known).2
    · exact ihRaised e (now.2 e raises)

/-- A part with a known postcondition, followed by a continuation that only needs it. -/
theorem seq {M : Except ε α → σ → Prop} {post : Except ε β → σ → Prop}
    {body : α → Prog π ι σ ε β} {p : Prog π ι σ ε α} {s : σ} (first : Holds C M p s)
    (ok : ∀ value s, M (.ok value) s → Holds C post (body value) s)
    (error : ∀ e s, M (.error e) s → post (.error e) s) : Holds C post (p >>= body) s := by
  apply bind
  apply first.mono
  rintro (e | value) s h
  · exact error e s h
  · exact ok value s h

theorem atomic_iff {post : Except ε α → σ → Prop} {point : π} {guard : σ → Bool}
    {effect : ι → σ → σ} {result : ι → σ → Except ε α} {s : σ} :
    Holds C post (Prog.atomic point guard effect result) s ↔ ∀ s', C.rely point s s' →
      (guard s' = true → ∀ i, C.allowed point i s' → C.known point s' (effect i s') →
        C.guar point s' (effect i s') ∧ post (result i s') (effect i s')) ∧
      ∀ e, C.raises point e s' → post (.error e) s' := Iff.rfl

/-- Under a contract that guarantees nothing every program holds. -/
theorem unguarded (free : ∀ point s s', C.guar point s s') (p : Prog π ι σ ε α) (s : σ) :
    Holds C (fun _ _ => True) p s := by
  induction p generalizing s with
  | ret result => trivial
  | act point guard effect next raised ihNext ihRaised =>
    exact fun s' _ => ⟨fun _ i _ _ => ⟨free _ _ _,ihNext i s' _⟩,fun e _ => ihRaised e s'⟩

/-- A waiting task is not disturbed by what its rely permits. -/
theorem stable {post : Except ε α → σ → Prop} {p : Prog π ι σ ε α} {point : π} {s s' : σ}
    (waits : p.point = some point) (rely : C.rely point s s') (holds : Holds C post p s) :
    Holds C post p s' := by
  cases p with
  | ret result => contradiction
  | act p guard effect next raised =>
    obtain rfl : p = point := Option.some.inj waits
    exact fun s'' more => holds s'' (C.trans rely more)

end Holds

variable (C : Nat → Contract π ι σ ε) (post : Nat → Except ε α → σ → Prop)

/-- Every task that is still running keeps its contract from the present state on. -/
def Sound (s : Sys π ι σ ε α) : Prop :=
  ∀ t p point, s.task t = some p → p.point = some point → Holds (C t) (post t) p s.shared

def Undisturbed (s : Sys π ι σ ε α) (except : Nat) (after : σ) : Prop :=
  ∀ u point, u ≠ except → s.pointOf u = some point → (C u).rely point s.shared after

namespace Sound

variable {C post} {s s' : Sys π ι σ ε α}

theorem pointOf_eq {u : Nat} {p : Prog π ι σ ε α} (h : s.task u = some p) :
    s.pointOf u = p.point := by simp [Sys.pointOf,h]

/-- The step itself: the guarantee, and the postcondition if it was the last one. -/
theorem advance (sound : Sound C post s) {t : Nat} {i : ι} (h : s.advance t i = some s')
    {point : π} (waits : s.pointOf t = some point) (allowed : (C t).allowed point i s.shared)
    (known : (C t).known point s.shared s'.shared) :
    (C t).guar point s.shared s'.shared ∧
      ((Undisturbed C s t s'.shared) → Sound C post s') ∧
      ∀ result, s'.task t = some (.ret result) → post t result s'.shared := by
  obtain ⟨p,guard,effect,next,raised,task,open_,rfl⟩ := Sys.advance_cases h
  obtain rfl : p = point := by simpa [pointOf_eq task,Prog.point] using waits
  have now := ((sound t _ p task rfl) s.shared ((C t).refl _ _)).1 open_ i allowed known
  refine ⟨now.1,?_,?_⟩
  · intro calm u q point hq waiting
    by_cases same : u = t
    · subst u
      simp only [Function.update_self,Option.some.injEq] at hq
      exact hq ▸ now.2
    · simp only [Function.update_of_ne same] at hq
      have rely := calm u point same (by rw [pointOf_eq hq,waiting])
      exact (sound u q point hq waiting).stable waiting rely
  · intro result ended
    simp only [Function.update_self,Option.some.injEq] at ended
    exact Holds.ret_iff.mp (ended ▸ now.2)

theorem interrupt (sound : Sound C post s) {t : Nat} {e : ε} (h : s.interrupt t e = some s')
    {point : π} (waits : s.pointOf t = some point) (raises : (C t).raises point e s.shared) :
    s'.shared = s.shared ∧ Sound C post s' ∧
      ∀ result, s'.task t = some (.ret result) → post t result s'.shared := by
  obtain ⟨p,guard,effect,next,raised,task,rfl⟩ := Sys.interrupt_cases h
  obtain rfl : p = point := by simpa [pointOf_eq task,Prog.point] using waits
  have now := ((sound t _ p task rfl) s.shared ((C t).refl _ _)).2 e raises
  refine ⟨rfl,?_,?_⟩
  · intro u q point hq waiting
    by_cases same : u = t
    · subst u
      simp only [Function.update_self,Option.some.injEq] at hq
      exact hq ▸ now
    · simp only [Function.update_of_ne same] at hq
      exact sound u q point hq waiting
  · intro result ended
    simp only [Function.update_self,Option.some.injEq] at ended
    exact Holds.ret_iff.mp (ended ▸ now)

/-- A change made by no task of the system. -/
theorem outside (sound : Sound C post s) (after : σ)
    (calm : ∀ u point, s.pointOf u = some point → (C u).rely point s.shared after) :
    Sound C post { s with shared := after } := by
  intro u q point hq waiting
  change s.task u = some q at hq
  exact (sound u q point hq waiting).stable waiting (calm u point (by rw [pointOf_eq hq,waiting]))

theorem spawn (sound : Sound C post s) {t : Nat} {p : Prog π ι σ ε α}
    (holds : Holds (C t) (post t) p s.shared) : Sound C post (s.spawn t p) := by
  intro u q point hq waiting
  by_cases same : u = t
  · subst u
    simp only [Sys.spawn,Function.update_self,Option.some.injEq] at hq
    exact hq ▸ holds
  · simp only [Sys.spawn,Function.update_of_ne same] at hq
    exact sound u q point hq waiting

theorem kill (sound : Sound C post s) (t : Nat) : Sound C post (s.kill t) := by
  intro u q point hq waiting
  by_cases same : u = t
  · subst u
    simp [Sys.kill] at hq
  · simp only [Sys.kill,Function.update_of_ne same] at hq
    exact sound u q point hq waiting

end Sound

end Interleave
