import BackupTelebot.Sessions
import Mathlib.Data.Set.Basic
import Mathlib.Logic.Relation

/-! Sessions that lock rows until they end and wait for the rows of others. What a session
holds when it asks for a row is read off its program; where the requests ascend in some
rank of the rows, no sessions wait for each other in a circle. -/
namespace Interleave

/-- The locks in what the sessions share, and what it would be without one of them. -/
structure Locking (σ κ : Type) where
  holder : σ → κ → Option Nat
  release : κ → σ → σ

namespace Locking

variable {π ι σ ε κ ν J α β : Type} (L : Locking σ κ)

def own (t : Nat) (s : σ) : Set κ := {k | L.holder s k = some t}

/-- The guard fails, and would not without the lock. -/
def Blocks (s : σ) (k : κ) (guard : σ → Bool) : Prop := guard s = false ∧ guard (L.release k s) = true

def Wants (sys : Sys π ι σ ε α) (t : Nat) (k : κ) : Prop :=
  ∃ point guard effect next raised, sys.task t = some (.act point guard effect next raised) ∧ L.Blocks sys.shared k guard

def WaitsFor (sys : Sys π ι σ ε α) (t u : Nat) : Prop := ∃ k, L.Wants sys t k ∧ L.holder sys.shared k = some u

/-- Where everybody holds only rows of a lower rank than the one he waits for, nobody waits
for himself. -/
theorem no_cycle {ρ : Type} [Preorder ρ] (rank : κ → ρ) {sys : Sys π ι σ ε α}
    (ascends : ∀ t k k', L.holder sys.shared k = some t → L.Wants sys t k' → rank k < rank k') (t : Nat) :
    ¬Relation.TransGen (L.WaitsFor sys) t t := by
  have climbs {u : Nat} (path : Relation.TransGen (L.WaitsFor sys) t u) :
      ∃ k, L.Wants sys t k ∧ ∀ k', L.Wants sys u k' → rank k < rank k' := by
    induction path with
    | single waits =>
      obtain ⟨k,wants,holds⟩ := waits
      exact ⟨k,wants,fun k' => ascends _ k k' holds⟩
    | tail _ waits ih =>
      obtain ⟨k,wants,below⟩ := ih
      obtain ⟨middle,here,holds⟩ := waits
      exact ⟨k,wants,fun k' there => (below middle here).trans (ascends _ middle k' holds there)⟩
  intro cycle
  obtain ⟨k,wants,below⟩ := climbs cycle
  exact lt_irrefl _ (below k wants)

structure View (κ ν : Type) where
  notes : ν
  held : Set κ

/-- What its statements add to the notes of a session, and what it may ask for. -/
structure Manners (π ι κ ν : Type) where
  blank : ν
  note : π → ι → ν → ν
  fine : View κ ν → κ → Prop

variable (M : Manners π ι κ ν) (t : Nat)

/-- Whatever the program waits for it may ask for, and it takes and drops locks of its own
session only. -/
def Climbs (post : Except ε α → View κ ν → Prop) : Prog π ι σ ε α → View κ ν → Prop
  | .ret result, v => post result v
  | .act point guard effect next raised, v =>
      (∀ s k, L.own t s = v.held → L.Blocks s k guard → M.fine v k) ∧
      (∀ i s, L.own t s = v.held → guard s = true →
        (∀ u, u ≠ t → L.own u (effect i s) = L.own u s) ∧
        Climbs post (next i s) ⟨M.note point i v.notes,L.own t (effect i s)⟩) ∧
      ∀ e, Climbs post (raised e) v

/-- The part asks for nothing out of order, and a regular end has its property. -/
def Asks (P : View κ ν → Prop) (Q : α → View κ ν → Prop) (p : Prog π ι σ ε α) : Prop :=
  ∀ v, P v → L.Climbs M t (Ends Q) p v

variable {L M t}

namespace Climbs

variable {p : Prog π ι σ ε α} {v : View κ ν}

theorem mono {post weaker : Except ε α → View κ ν → Prop} (h : ∀ result v, post result v → weaker result v)
    (climbs : L.Climbs M t post p v) : L.Climbs M t weaker p v := by
  induction p generalizing v with
  | ret result => exact h _ _ climbs
  | act point guard effect next raised ihNext ihRaised =>
    refine ⟨climbs.1,fun i s held open_ => ?_,fun e => ihRaised e (climbs.2.2 e)⟩
    obtain ⟨others,later⟩ := climbs.2.1 i s held open_
    exact ⟨others,ihNext i s later⟩

theorem bind {M' : Except ε α → View κ ν → Prop} {post : Except ε β → View κ ν → Prop} {body : α → Prog π ι σ ε β}
    (first : L.Climbs M t M' p v) (ok : ∀ value v, M' (.ok value) v → L.Climbs M t post (body value) v)
    (error : ∀ e v, M' (.error e) v → post (.error e) v) : L.Climbs M t post (p >>= body) v := by
  rw [Prog.bind_eq]
  induction p generalizing v with
  | ret result =>
    cases result with
    | error e => exact error e v first
    | ok value => exact ok value v first
  | act point guard effect next raised ihNext ihRaised =>
    refine ⟨first.1,fun i s held open_ => ?_,fun e => ihRaised e (first.2.2 e)⟩
    obtain ⟨others,later⟩ := first.2.1 i s held open_
    exact ⟨others,ihNext i s later⟩

theorem handle {M' post : Except ε α → View κ ν → Prop} {handler : ε → Prog π ι σ ε α}
    (first : L.Climbs M t M' p v) (ok : ∀ value v, M' (.ok value) v → post (.ok value) v)
    (error : ∀ e v, M' (.error e) v → L.Climbs M t post (handler e) v) : L.Climbs M t post (p.handle handler) v := by
  induction p generalizing v with
  | ret result =>
    cases result with
    | error e => exact error e v first
    | ok value => exact ok value v first
  | act point guard effect next raised ihNext ihRaised =>
    refine ⟨first.1,fun i s held open_ => ?_,fun e => ihRaised e (first.2.2 e)⟩
    obtain ⟨others,later⟩ := first.2.1 i s held open_
    exact ⟨others,ihNext i s later⟩

end Climbs

namespace Asks

variable {P P' : View κ ν → Prop}

theorem pure {Q : α → View κ ν → Prop} {value : α} (h : ∀ v, P v → Q value v) :
    L.Asks M t P Q (Pure.pure value : Prog π ι σ ε α) := fun v here => h v here

theorem throw {Q : α → View κ ν → Prop} (e : ε) : L.Asks M t P Q (MonadExcept.throw e : Prog π ι σ ε α) :=
  fun _ _ => trivial

theorem bind {N : α → View κ ν → Prop} {Q : β → View κ ν → Prop} {p : Prog π ι σ ε α} {body : α → Prog π ι σ ε β}
    (first : L.Asks M t P N p) (next : ∀ value, L.Asks M t (N value) Q (body value)) : L.Asks M t P Q (p >>= body) :=
  fun v here => (first v here).bind (fun value v => next value v) fun _ _ _ => trivial

theorem before {Q : α → View κ ν → Prop} {p : Prog π ι σ ε α} (asks : L.Asks M t P Q p) (stronger : ∀ v, P' v → P v) :
    L.Asks M t P' Q p := fun v here => asks v (stronger v here)

theorem after {Q Q' : α → View κ ν → Prop} {p : Prog π ι σ ε α} (asks : L.Asks M t P Q p)
    (weaker : ∀ value v, Q value v → Q' value v) : L.Asks M t P Q' p := by
  intro v here
  apply (asks v here).mono
  rintro (e | value) v' h
  · trivial
  · exact weaker value v' h

theorem statement {Q : α → View κ ν → Prop} {f : ι → Option ε} {point : π} {guard : σ → Bool} {effect : ι → σ → σ}
    {result : ι → σ → Except ε α} (fine : ∀ v s k, P v → L.own t s = v.held → L.Blocks s k guard → M.fine v k)
    (step : ∀ v s i, P v → L.own t s = v.held → guard s = true → (∀ u, u ≠ t → L.own u (effect i s) = L.own u s) ∧
      ∀ value, result i s = .ok value → Q value ⟨M.note point i v.notes,L.own t (effect i s)⟩) :
    L.Asks M t P Q (Prog.statement f point guard effect result) := by
  intro v here
  refine ⟨fun s k => fine v s k here,fun i s held open_ => ?_,fun _ => trivial⟩
  obtain ⟨others,returns⟩ := step v s i here held open_
  refine ⟨others,?_⟩
  cases failed : f i with
  | some e =>
    simp only [failed]
    trivial
  | none =>
    simp only [failed]
    cases returned : result i s with
    | error e => trivial
    | ok value => exact returns value returned

/-- A session that is left by an exception ends it with a handler that raises it again. -/
theorem handled {p : Prog π ι σ ε Unit} {last : Prog π ι σ ε Unit} {Q : Unit → View κ ν → Prop} (first : L.Asks M t P Q p)
    (ends : L.Asks M t (fun _ => True) (fun _ _ => True) last) {v : View κ ν} (here : P v) :
    L.Climbs M t (fun _ _ => True) (p.handle fun e => do last; MonadExcept.throw e) v := by
  apply (first v here).handle (fun _ _ _ => trivial)
  intro e v _
  exact (ends v trivial).bind (fun _ _ _ => trivial) fun _ _ _ => trivial

end Asks

structure Noted (π ι σ ε J ν : Type) where
  state : Sessions.State π ι σ ε J
  notes : Nat → ν

namespace Noted

abbrev sys (s : Noted π ι σ ε J ν) : Sys π ι σ ε Unit := s.state.sys

variable (M)

def noted (s : Noted π ι σ ε J ν) : Sessions.Act ι ε J → Nat → ν
  | .perform t i => Function.update s.notes t (((s.sys.pointOf t).map fun point => M.note point i (s.notes t)).getD (s.notes t))
  | .start t _ => Function.update s.notes t M.blank
  | _ => s.notes

def step (S : Sessions π ι σ ε J) (s : Noted π ι σ ε J ν) (a : Sessions.Act ι ε J) : Option (Noted π ι σ ε J ν) :=
  (S.step s.state a).map fun state => ⟨state,s.noted M a⟩

def fresh (shared : σ) : Noted π ι σ ε J ν := ⟨Sessions.fresh shared,fun _ => M.blank⟩

end Noted

structure Orderly (L : Locking σ κ) (M : Manners π ι κ ν) (s : Noted π ι σ ε J ν) : Prop where
  climbs : ∀ t p, s.sys.task t = some p → L.Climbs M t (fun _ _ => True) p ⟨s.notes t,L.own t s.sys.shared⟩
  unused : ∀ t, s.state.job t = none → s.sys.task t = none ∧ L.own t s.sys.shared = ∅

namespace Orderly

variable {s s' : Noted π ι σ ε J ν}

theorem fine (orderly : Orderly L M s) {t : Nat} {k : κ} (wants : L.Wants s.sys t k) :
    M.fine ⟨s.notes t,L.own t s.sys.shared⟩ k := by
  obtain ⟨point,guard,effect,next,raised,task,blocks⟩ := wants
  exact (orderly.climbs t _ task).1 s.sys.shared k rfl blocks

variable {S : Sessions π ι σ ε J}

theorem step (programs : ∀ t job, L.Climbs M t (fun _ _ => True) (S.program t job) ⟨M.blank,∅⟩)
    (rolls : ∀ t u shared, u ≠ t → L.own u (S.rollback t shared) = L.own u shared) {a : Sessions.Act ι ε J}
    (orderly : Orderly L M s) (h : s.step M S a = some s') : Orderly L M s' := by
  obtain ⟨state,stepped,rfl⟩ := Option.map_eq_some_iff.mp h
  cases a with
  | perform t i =>
    obtain ⟨sys,advanced,rfl⟩ := Option.map_eq_some_iff.mp stepped
    obtain ⟨point,_,_,_,_,task,open_,rfl⟩ := Sys.advance_cases advanced
    obtain ⟨others,later⟩ := (orderly.climbs t _ task).2.1 i _ rfl open_
    have waits : s.sys.pointOf t = some point := by simp [Sound.pointOf_eq task,Prog.point]
    constructor
    · intro u p here
      by_cases same : u = t
      · subst same
        simp only [Function.update_self,Option.some.injEq] at here
        subst here
        simpa only [Noted.noted,Function.update_self,waits,Option.map_some,Option.getD_some] using later
      · simp only [Function.update_of_ne same] at here
        simp only [Noted.noted,Function.update_of_ne same,others u same]
        exact orderly.climbs u p here
    · intro u none_
      obtain ⟨idle,nothing⟩ := orderly.unused u none_
      have other : u ≠ t := by
        rintro rfl
        simp [idle] at task
      exact ⟨(Function.update_of_ne other _ _).trans idle,(others u other).trans nothing⟩
  | fails t e =>
    obtain ⟨sys,interrupted,rfl⟩ := Option.map_eq_some_iff.mp stepped
    obtain ⟨_,_,_,_,_,task,rfl⟩ := Sys.interrupt_cases interrupted
    constructor
    · intro u p here
      by_cases same : u = t
      · subst same
        simp only [Function.update_self,Option.some.injEq] at here
        subst here
        exact (orderly.climbs u _ task).2.2 e
      · simp only [Function.update_of_ne same] at here
        exact orderly.climbs u p here
    · intro u none_
      obtain ⟨idle,nothing⟩ := orderly.unused u none_
      have other : u ≠ t := by
        rintro rfl
        simp [idle] at task
      exact ⟨(Function.update_of_ne other _ _).trans idle,nothing⟩
  | crash t =>
    obtain rfl := Option.some.inj stepped
    constructor
    · intro u p here
      simp only [Sys.kill,Function.update_apply] at here
      split_ifs at here
      exact orderly.climbs u p here
    · intro u none_
      obtain ⟨idle,nothing⟩ := orderly.unused u none_
      refine ⟨?_,nothing⟩
      simp only [Sys.kill,Function.update_apply]
      split
      · rfl
      · exact idle
  | lost t =>
    simp only [Sessions.step] at stepped
    split_ifs at stepped with gone
    obtain rfl := Option.some.inj stepped
    simp only [Bool.and_eq_true,Option.isNone_iff_eq_none] at gone
    constructor
    · intro u p here
      by_cases same : u = t
      · subst same
        cases p with
        | ret result => trivial
        | act point guard effect next raised =>
          have waits : s.sys.pointOf u = some point := Sound.pointOf_eq (s := s.sys) here
          cases waits.symm.trans gone.2
      · simp only [rolls t u s.sys.shared same]
        exact orderly.climbs u p here
    · intro u none_
      obtain ⟨idle,nothing⟩ := orderly.unused u none_
      have other : u ≠ t := by
        rintro rfl
        rw [show s.state.job u = none from none_] at gone
        cases gone.1
      exact ⟨idle,(rolls t u s.sys.shared other).trans nothing⟩
  | start t job =>
    simp only [Sessions.step] at stepped
    split_ifs at stepped with unused
    obtain rfl := Option.some.inj stepped
    simp only [Bool.and_eq_true,Option.isNone_iff_eq_none] at unused
    constructor
    · intro u p here
      by_cases same : u = t
      · subst same
        simp only [Sys.spawn,Function.update_self,Option.some.injEq] at here
        subst here
        have nothing : L.own u s.sys.shared = ∅ := (orderly.unused u unused.2).2
        simpa only [Noted.noted,Function.update_self,Sys.spawn,nothing] using programs u job
      · simp only [Sys.spawn,Function.update_of_ne same] at here
        simp only [Noted.noted,Function.update_of_ne same]
        exact orderly.climbs u p here
    · intro u none_
      have other : u ≠ t := by
        rintro rfl
        simp at none_
      simp only [Function.update_of_ne other] at none_
      obtain ⟨idle,nothing⟩ := orderly.unused u none_
      exact ⟨(Function.update_of_ne other _ _).trans idle,nothing⟩

theorem of_fresh {shared : σ} (free : ∀ k, L.holder shared k = none) : Orderly (J := J) (ε := ε) L M (Noted.fresh M shared) := by
  constructor
  · intro t p task
    cases task
  · intro t _
    refine ⟨rfl,Set.eq_empty_of_forall_notMem fun k held => ?_⟩
    cases (free k).symm.trans held

end Orderly

end Locking

end Interleave
