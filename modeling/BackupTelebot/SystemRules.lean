import BackupTelebot.OperationRules

/-! One step of the system: a task performs its operation or is interrupted, a new task
starts, or something changes beside the tasks. -/
namespace BackupTelebot

open Interleave

inductive Beside (c : Setup) : World → World → Prop
  | lost (s : World) (lost : Nat → Bool) : Beside c s { s with leaseLost := lost }
  | renewed (s : World) (owner : Owner) : s.run.leaseOwner = some owner → Beside c s (s.renew c owner)
  | cancelRequested (s : World) : s.run.status.Active → Beside c s s.requestCancel
  | users (s : World) (users : List User) : Beside c s { s with users := users }
  | access (s : World) (access : List AdminId) : Beside c s { s with access := access }
  | time (s : World) (duration : Time) : Beside c s { s with now := s.now + duration }

structure Apart (s s' : World) : Prop where
  now : s.now ≤ s'.now
  claims : s'.claims = s.claims
  deliveries : s'.deliveries = s.deliveries
  artifacts : s'.artifacts = s.artifacts
  spool : s'.spool = s.spool
  workspace : s'.workspace = s.workspace
  uploads : s'.uploads = s.uploads
  owner : s'.run.leaseOwner = s.run.leaseOwner
  cancel : s'.run.cancelRequested = s.run.cancelRequested ∨
    s.run.status.Active ∧ s'.run.cancelRequested = true
  status : s'.run.status = s.run.status ∨
    s.run.status = .queued ∧ s.run.leaseOwner = none ∧ s'.run.status = .cancelled

theorem Beside.apart {c : Setup} {s s' : World} (change : Beside c s s') : Apart s s' := by
  cases change with
  | lost lost => exact ⟨le_rfl,rfl,rfl,rfl,rfl,rfl,rfl,rfl,.inl rfl,.inl rfl⟩
  | renewed owner held =>
    unfold World.renew
    rw [if_pos held]
    exact ⟨le_rfl,rfl,rfl,rfl,rfl,rfl,rfl,rfl,.inl rfl,.inl rfl⟩
  | cancelRequested active =>
    unfold World.requestCancel
    dsimp only
    split_ifs with queued
    · exact ⟨le_rfl,rfl,rfl,rfl,rfl,rfl,rfl,rfl,.inr ⟨active,rfl⟩,.inr ⟨queued.1,queued.2,rfl⟩⟩
    · exact ⟨le_rfl,rfl,rfl,rfl,rfl,rfl,rfl,rfl,.inr ⟨active,rfl⟩,.inl rfl⟩
  | users users => exact ⟨le_rfl,rfl,rfl,rfl,rfl,rfl,rfl,rfl,.inl rfl,.inl rfl⟩
  | access access => exact ⟨le_rfl,rfl,rfl,rfl,rfl,rfl,rfl,rfl,.inl rfl,.inl rfl⟩
  | time duration => exact ⟨Nat.le_add_right _ _,rfl,rfl,rfl,rfl,rfl,rfl,rfl,.inl rfl,.inl rfl⟩

theorem not_active_of_terminal {status : RunStatus} (terminal : status ∈ terminalStatuses) : ¬status.Active := by
  revert terminal
  cases status <;> decide

theorem claimStatuses_active {status : RunStatus} {capacity : Bool}
    (member : (claimStatuses capacity).contains status = true) : status.Active := by
  cases capacity <;> cases status <;> first | decide | contradiction

/-- Only active runs are claimed. -/
theorem active_of_claimable {statuses : List RunStatus} {s : World} (h : claimable statuses s = true) :
    statuses.contains s.run.status = true ∧ s.run.cancelRequested = false ∧ leaseFree s.run s.now = true := by
  simp only [claimable,Bool.and_eq_true,Bool.not_eq_true'] at h
  exact ⟨h.1.1.1,h.1.1.2,h.1.2⟩

theorem active_of_cancelClaimable {s : World} (h : cancelClaimable s = true) :
    s.run.status.Active ∧ s.run.cancelRequested = true ∧ leaseFree s.run s.now = true := by
  simp only [cancelClaimable,Bool.and_eq_true] at h
  exact ⟨List.contains_iff_mem.mp h.1.1,h.1.2,h.2⟩

namespace System

inductive Stepped (c : Setup) (s : System) : Act → System → Prop
  | performed {t : Nat} {i : Answer} {sys : Sys Point Answer World Exc Unit} :
      s.sys.advance t i = some sys → Stepped c s (.perform t i) { s with sys := sys }
  | raised {a : Act} {t : Nat} {e : Exc} {sys : Sys Point Answer World Exc Unit} {s' : System} :
      ((∃ f, a = .fails t f ∧ e = .failure f) ∨ a = .deliver t ∧ e = .cancelled) →
      s.sys.interrupt t e = some sys → s'.sys = sys → s'.execution = s.execution → Stepped c s a s'
  | claimed {t : Nat} {owner : Owner} {capacity : Bool} : s.unused t = true →
      claimable (claimStatuses capacity) s.world = true → Stepped c s (.claim t owner capacity) (s.start c t owner)
  | cancelClaimed {t : Nat} {owner : Owner} : s.unused t = true → cancelClaimable s.world = true →
      Stepped c s (.claimCancel t owner) (s.start c t owner)
  | requested {t : Nat} {r : Request} : s.unused t = true →
      Stepped c s (.request t r) { s with sys := s.sys.spawn t (r.program c) }
  | crashed {t : Nat} : Stepped c s (.crash t) { s with sys := s.sys.kill t }
  | beside {a : Act} {s' : System} : (∀ t i, a ≠ .perform t i) → s'.sys.task = s.sys.task → s'.execution = s.execution →
      (s'.world = s.world ∨ Beside c s.world s'.world) → Stepped c s a s'

theorem loseLease_beside {c : Setup} {s : System} (t : Nat) {a : Act} (other : ∀ t i, a ≠ .perform t i) :
    Stepped c s a (s.loseLease t) := .beside other rfl rfl (.inr (.lost s.world _))

theorem step_cases {c : Setup} {s s' : System} {a : Act} (h : step c s a = some s') : Stepped c s a s' := by
  cases a with
  | perform t i =>
    obtain ⟨sys,advanced,rfl⟩ := Option.map_eq_some_iff.mp h
    exact .performed advanced
  | fails t e =>
    obtain ⟨sys,interrupted,rfl⟩ := Option.map_eq_some_iff.mp h
    exact .raised (.inl ⟨e,rfl,rfl⟩) interrupted rfl rfl
  | deliver t =>
    simp only [step] at h
    split_ifs at h
    obtain ⟨sys,interrupted,rfl⟩ := Option.map_eq_some_iff.mp h
    exact .raised (.inr ⟨rfl,rfl⟩) interrupted rfl rfl
  | stop t =>
    obtain rfl := Option.some.inj h
    exact .beside (by simp) rfl rfl (.inl rfl)
  | crash t =>
    obtain rfl := Option.some.inj h
    exact .crashed
  | poll t renewalDue =>
    simp only [step] at h
    split at h
    · contradiction
    · split_ifs at h
      · obtain rfl := Option.some.inj h
        exact loseLease_beside t (by simp)
      all_goals
        obtain rfl := Option.some.inj h
        exact .beside (by simp) rfl rfl (.inl rfl)
  | renew t =>
    simp only [step] at h
    split at h
    · contradiction
    · split_ifs at h with held
      · obtain rfl := Option.some.inj h
        exact .beside (by simp) rfl rfl (.inr (.renewed s.world _ held))
      · obtain rfl := Option.some.inj h
        exact loseLease_beside t (by simp)
  | heartbeatFails t =>
    simp only [step] at h
    split_ifs at h
    obtain rfl := Option.some.inj h
    exact loseLease_beside t (by simp)
  | claim t owner capacity =>
    simp only [step] at h
    split_ifs at h with open_
    obtain rfl := Option.some.inj h
    rw [Bool.and_eq_true] at open_
    exact .claimed open_.1 open_.2
  | claimCancel t owner =>
    simp only [step] at h
    split_ifs at h with open_
    obtain rfl := Option.some.inj h
    rw [Bool.and_eq_true] at open_
    exact .cancelClaimed open_.1 open_.2
  | requestCancel =>
    simp only [step] at h
    split_ifs at h with active
    obtain rfl := Option.some.inj h
    exact .beside (by simp) rfl rfl (.inr (.cancelRequested s.world active))
  | request t r =>
    simp only [step] at h
    split_ifs at h with unused
    obtain rfl := Option.some.inj h
    exact .requested unused
  | setUsers users =>
    obtain rfl := Option.some.inj h
    exact .beside (by simp) rfl rfl (.inr (.users s.world users))
  | setAccess access =>
    obtain rfl := Option.some.inj h
    exact .beside (by simp) rfl rfl (.inr (.access s.world access))
  | tick duration =>
    obtain rfl := Option.some.inj h
    exact .beside (by simp) rfl rfl (.inr (.time s.world duration))

theorem unused_iff {s : System} {t : Nat} : s.unused t = true ↔ s.sys.task t = none ∧ s.execution t = none := by
  simp [unused]

structure Granted (s : System) (a : Act) (t : Nat) (owner : Owner) : Prop where
  unused : s.unused t = true
  claim : (∃ capacity, a = .claim t owner capacity ∧ claimable (claimStatuses capacity) s.world = true) ∨
    a = .claimCancel t owner ∧ cancelClaimable s.world = true

theorem Granted.active {s : System} {a : Act} {t : Nat} {owner : Owner} (granted : Granted s a t owner) :
    s.row.status.Active := by
  rcases granted.claim with ⟨capacity,-,open_⟩ | ⟨-,open_⟩
  · exact claimStatuses_active (active_of_claimable open_).1
  · exact (active_of_cancelClaimable open_).1

/-- A step in which no task performs grants a claim, or changes the world only beside the tasks. -/
theorem world_cases {c : Setup} {s s' : System} {a : Act} (h : step c s a = some s')
    (other : ∀ t i, a ≠ .perform t i) :
    s'.execution = s.execution ∧ (s'.world = s.world ∨ Beside c s.world s'.world) ∨
      ∃ t owner, Granted s a t owner ∧ s' = s.start c t owner := by
  cases step_cases h with
  | performed => exact absurd rfl (other _ _)
  | raised _ interrupted sys_ executions =>
    obtain ⟨_,_,_,_,_,_,rfl⟩ := Sys.interrupt_cases interrupted
    exact .inl ⟨executions,.inl (by rw [world,sys_])⟩
  | claimed unused open_ => exact .inr ⟨_,_,⟨unused,.inl ⟨_,rfl,open_⟩⟩,rfl⟩
  | cancelClaimed unused open_ => exact .inr ⟨_,_,⟨unused,.inr ⟨rfl,open_⟩⟩,rfl⟩
  | requested => exact .inl ⟨rfl,.inl rfl⟩
  | crashed => exact .inl ⟨rfl,.inl rfl⟩
  | beside _ _ executions change => exact .inl ⟨executions,change⟩

/-- A task that waits after a step waited before it, or has just been started. -/
theorem survivor {c : Setup} {s s' : System} {a : Act} (h : step c s a = some s') {u : Nat} {point : Point}
    (waiting : s'.pointOf u = some point) : (∃ before, s.pointOf u = some before) ∨ s.unused u = true := by
  have updated (t : Nat) (rest : Option (Proc Unit)) (here : (∃ before, s.pointOf t = some before) ∨ s.unused t = true)
      (tasks : s'.sys.task = Function.update s.sys.task t rest) :
      (∃ before, s.pointOf u = some before) ∨ s.unused u = true := by
    by_cases same : u = t
    · exact same ▸ here
    · refine .inl ⟨point,?_⟩
      rw [← waiting]
      simp only [pointOf,Sys.pointOf,tasks,Function.update_of_ne same]
  cases step_cases h with
  | performed advanced =>
    obtain ⟨at_,_,_,_,_,task,_,rfl⟩ := Sys.advance_cases advanced
    exact updated _ _ (.inl ⟨at_,by simp [pointOf,Sys.pointOf,task,Prog.point]⟩) rfl
  | @raised _ t _ _ _ _ interrupted sys_ _ =>
    obtain ⟨at_,_,_,_,_,task,rfl⟩ := Sys.interrupt_cases interrupted
    exact updated t _ (.inl ⟨at_,by simp [pointOf,Sys.pointOf,task,Prog.point]⟩) (by rw [sys_])
  | claimed unused _ => exact updated _ _ (.inr unused) rfl
  | cancelClaimed unused _ => exact updated _ _ (.inr unused) rfl
  | requested unused => exact updated _ _ (.inr unused) rfl
  | @crashed t =>
    by_cases same : u = t
    · subst u
      simp [pointOf,Sys.pointOf,Sys.kill] at waiting
    · refine .inl ⟨point,?_⟩
      rw [← waiting]
      simp only [pointOf,Sys.pointOf,Sys.kill,Function.update_of_ne same]
  | beside _ tasks _ _ =>
    refine .inl ⟨point,?_⟩
    rw [← waiting]
    simp only [pointOf,Sys.pointOf,tasks]

/-- The contract of a task may depend on the execution it carries out, if it carries out one. -/
abbrev Contracts := Nat → Option Execution → Contract Point Answer World Exc

def Sound (K : Contracts) (s : System) : Prop :=
  Interleave.Sound (fun t => K t (s.execution t)) (fun _ _ _ => True) s.sys

variable {K : Contracts} {c : Setup} {s s' : System}

theorem Sound.perform (sound : Sound K s) {t : Nat} {i : Answer} (h : step c s (.perform t i) = some s')
    {point : Point} (waits : s.pointOf t = some point) (allowed : (K t (s.execution t)).allowed point i s.world)
    (known : (K t (s.execution t)).known point s.world s'.world) :
    (K t (s.execution t)).guar point s.world s'.world ∧
      ((∀ u at_, u ≠ t → s.pointOf u = some at_ → (K u (s.execution u)).rely at_ s.world s'.world) → Sound K s') := by
  cases step_cases h with
  | performed advanced =>
    obtain ⟨guar,next,-⟩ := Interleave.Sound.advance sound advanced waits allowed known
    exact ⟨guar,next⟩
  | raised which => rcases which with ⟨f,impossible,-⟩ | ⟨impossible,-⟩ <;> cases impossible
  | beside other => exact absurd rfl (other t i)

/-- The point at which a task waits that performs. -/
theorem waits_of_perform {t : Nat} {i : Answer} (h : step c s (.perform t i) = some s') :
    ∃ point, s.pointOf t = some point := by
  obtain ⟨sys,advanced,-⟩ := Option.map_eq_some_iff.mp h
  obtain ⟨point,_,_,_,_,task,-⟩ := Sys.advance_cases advanced
  exact ⟨point,by simp [pointOf,Interleave.Sound.pointOf_eq task,Prog.point]⟩

/-- A step in which no task performs keeps all contracts when the new task has one, no
waiting task is disturbed, and the exception is one that the contracts take into account. -/
theorem Sound.other (sound : Sound K s) {a : Act} (h : step c s a = some s') (other : ∀ t i, a ≠ .perform t i)
    (raises : ∀ t e point, s.pointOf t = some point → ((∃ f, a = .fails t f ∧ e = .failure f) ∨ a = .deliver t ∧ e = .cancelled) →
      (K t (s.execution t)).raises point e s.world)
    (starts : ∀ t owner, s' = s.start c t owner →
      Holds (K t (some ⟨owner,s.world.claims + 1⟩)) (fun _ _ => True) (execute c owner t) s'.world)
    (requests : ∀ t r, a = .request t r →
      Holds (K t none) (fun _ _ => True) (r.program c) s.world)
    (calm : ∀ u point, s.pointOf u = some point → s'.sys.shared ≠ s.sys.shared →
      (K u (s.execution u)).rely point s.world s'.world) : Sound K s' := by
  have still (u : Nat) (point : Point) (waiting : s.pointOf u = some point) :
      (K u (s.execution u)).rely point s.world s'.world := by
    by_cases same : s'.sys.shared = s.sys.shared
    · rw [world,world,same]
      exact (K u (s.execution u)).refl _ _
    · exact calm u point waiting same
  have started (t : Nat) (owner : Owner) (unused : s.unused t = true) (eq : s' = s.start c t owner) : Sound K s' := by
    subst eq
    intro u q point task waiting
    by_cases same : u = t
    · subst u
      simp only [start,Function.update_self,Option.some.injEq] at task ⊢
      exact task ▸ starts t owner rfl
    · simp only [start,Function.update_of_ne same] at task ⊢
      have waits : s.pointOf u = some point := by rw [← waiting]; exact Interleave.Sound.pointOf_eq task
      exact (sound u q point task waiting).stable waiting (still u point waits)
  cases step_cases h with
  | performed advanced => exact absurd rfl (other _ _)
  | @raised _ t e sys _ which interrupted sys_ executions =>
    obtain ⟨point,_,_,_,_,task,-⟩ := Sys.interrupt_cases interrupted
    have waits : s.pointOf t = some point := by simp [pointOf,Interleave.Sound.pointOf_eq task,Prog.point]
    unfold Sound
    rw [executions,sys_]
    exact (Interleave.Sound.interrupt sound interrupted waits (raises t e point waits which)).2.1
  | claimed unused _ => exact started _ _ unused rfl
  | cancelClaimed unused _ => exact started _ _ unused rfl
  | @requested t r unused =>
    apply Interleave.Sound.spawn sound
    rw [(unused_iff.mp unused).2]
    exact requests t r rfl
  | crashed => exact Interleave.Sound.kill sound _
  | beside other tasks executions change =>
    intro u q point task waiting
    rw [tasks] at task
    rw [executions]
    have waits : s.pointOf u = some point := by rw [← waiting]; exact Interleave.Sound.pointOf_eq task
    exact (sound u q point task waiting).stable waiting (still u point waits)

end System

end BackupTelebot
