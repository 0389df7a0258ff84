import BackupTelebot.Transport

/-! One step of the transport's machine, and from it every run: a contract that all calls
keep, what holds between calls, and what holds always. -/
namespace BackupTelebot.Telegram

open Interleave

/-- What can happen to a client behind the transport's back: it loses its connection or
its update loop, or its disconnect ends. It never connects by itself. -/
def Outside (s s' : State) : Prop :=
  ∃ f : Client → Client, (∀ client, (f client).connected = true → client.connected = true) ∧
    s' = { s with client := s.client.map f }

namespace Outside

variable {s s' : State}

theorem refl (s : State) : Outside s s := ⟨id,fun _ h => h,by cases s; simp⟩

theorem trans {s s' s'' : State} (first : Outside s s') (second : Outside s' s'') : Outside s s'' := by
  obtain ⟨f,falls,rfl⟩ := first
  obtain ⟨g,falls',rfl⟩ := second
  exact ⟨g ∘ f,fun client h => falls client (falls' (f client) h),by simp⟩

theorem connected (out : Outside s s') (here : s'.connected = true) : s.connected = true := by
  obtain ⟨f,falls,rfl⟩ := out
  cases given : s.client with
  | none => simp [State.connected,given] at here
  | some client =>
    simp only [State.connected,given,Option.map_some,Option.any_some] at here ⊢
    exact falls client here

theorem client_none (out : Outside s s') : s'.client = none ↔ s.client = none := by
  obtain ⟨f,falls,rfl⟩ := out
  exact Option.map_eq_none_iff

theorem retired (out : Outside s s') : s'.retired = s.retired := by
  obtain ⟨f,falls,rfl⟩ := out
  rfl

theorem keeps (out : Outside s s') :
    s'.authKey = s.authKey ∧ s'.marker = s.marker ∧ s'.bootstrapPending = s.bootstrapPending ∧
      s'.verified = s.verified ∧ s'.refused = s.refused := by
  obtain ⟨f,falls,rfl⟩ := out
  exact ⟨rfl,rfl,rfl,rfl,rfl⟩

end Outside

/-- The contract of the calls, what holds in every state, what holds between calls, and
what a call leaves with its result. -/
structure Discipline (o : Options) (allowed : Machine → Act → Prop) where
  contract : Contract Point Reply State Exc
  always : State → Prop
  between : State → Prop
  ends : Except Exc Unit → State → Prop
  opens : ∀ {s given}, s.verified = false → o.accepts s given = true →
    always (s.opened given) ∧ between (s.opened given)
  reopens : ∀ {m : Machine} {given}, allowed m (.restart given) → always m.shared →
    (m.idle = true → between m.shared) → o.accepts m.shared given = true →
    always (m.shared.opened given) ∧ between (m.shared.opened given)
  calls : ∀ {s} (k : Kind), always s → between s →
    always { s with refused := false } ∧ Holds contract ends (k.program o) { s with refused := false }
  settles : ∀ {result s}, ends result s → between s
  performs : ∀ {m : Machine} {r point}, allowed m (.perform r) → m.pointOf 0 = some point →
    contract.allowed point r m.shared
  guards : ∀ {point s s'}, contract.guar point s s' → always s → always s'
  learns : ∀ {point s s'}, always s → contract.known point s s'
  interrupts : ∀ {m : Machine} {e point}, allowed m (.raises e) → m.pointOf 0 = some point →
    point.accepts e = true → contract.raises point e m.shared
  outside : ∀ {s s'}, Outside s s' → (always s → always s') ∧ (between s → between s') ∧
    (∀ result, ends result s → ends result s') ∧ ∀ point, contract.rely point s s'

namespace Discipline

variable {o : Options} {allowed : Machine → Act → Prop} (D : Discipline o allowed)

structure Kept (m : Machine) : Prop where
  sound : Sound (fun _ => D.contract) (fun _ => D.ends) m
  only : ∀ t, t ≠ 0 → m.task t = none
  always : D.always m.shared
  ended : ∀ result, m.task 0 = some (.ret result) → D.ends result m.shared
  free : m.task 0 = none → D.between m.shared

variable {D} {m m' : Machine}

theorem Kept.between (kept : Kept D m) (idle : m.idle = true) : D.between m.shared := by
  cases given : m.task 0 with
  | none => exact kept.free given
  | some p =>
    cases p with
    | ret result => exact D.settles (kept.ended result given)
    | act => simp [Machine.idle,Sys.pointOf,given,Prog.point] at idle

theorem Kept.empty {s : State} (always : D.always s) (between : D.between s) : Kept D ⟨s,fun _ => none⟩ where
  sound := fun t p point there => by cases there
  only := fun t other => rfl
  always := always
  ended := fun result there => by cases there
  free := fun _ => between

theorem Kept.onClient (kept : Kept D m) {f : Client → Client}
    (falls : ∀ client, (f client).connected = true → client.connected = true) : Kept D (m.onClient f) := by
  obtain ⟨always,between,ends,rely⟩ := D.outside ⟨f,falls,rfl⟩ (s := m.shared)
  exact {
    sound := kept.sound.outside _ fun _ point _ => rely point
    only := kept.only
    always := always kept.always
    ended := fun result there => ends result (kept.ended result there)
    free := fun there => between (kept.free there) }

theorem Kept.perform (kept : Kept D m) {r : Reply} (may : allowed m (.perform r))
    (taken : m.advance 0 r = some m') : Kept D m' ∧ ∀ point, m.pointOf 0 = some point →
      D.contract.guar point m.shared m'.shared := by
  obtain ⟨point,guard,effect,next,raised,waiting,open_,rfl⟩ := Sys.advance_cases taken
  have at_ : m.pointOf 0 = some point := by simp [Sys.pointOf,waiting,Prog.point]
  obtain ⟨guar,sound,ended⟩ := kept.sound.advance taken at_ (D.performs may at_) (D.learns kept.always)
  refine ⟨⟨sound ?_,?_,D.guards guar kept.always,ended,?_⟩,?_⟩
  · intro u other differs there
    rw [Sys.pointOf,kept.only u differs] at there
    cases there
  · intro t other
    exact (Function.update_of_ne other _ _).trans (kept.only t other)
  · intro there
    simp at there
  · intro point' same
    obtain rfl : point = point' := Option.some.inj (at_.symm.trans same)
    exact guar

theorem Kept.raise (kept : Kept D m) {e : Exc} (may : allowed m (.raises e)) {point : Point}
    (at_ : m.pointOf 0 = some point) (accepts : point.accepts e = true)
    (taken : m.interrupt 0 e = some m') : Kept D m' := by
  obtain ⟨same,sound,ended⟩ := kept.sound.interrupt taken at_ (D.interrupts may at_ accepts)
  obtain ⟨_,guard,effect,next,raised,waiting,rfl⟩ := Sys.interrupt_cases taken
  refine ⟨sound,?_,kept.always,ended,?_⟩
  · intro t other
    exact (Function.update_of_ne other _ _).trans (kept.only t other)
  · intro there
    simp at there

theorem Kept.call (kept : Kept D m) (k : Kind) (idle : m.idle = true) :
    Kept D (({ m with shared := { m.shared with refused := false } } : Machine).spawn 0 (k.program o)) := by
  obtain ⟨always,holds⟩ := D.calls k kept.always (kept.between idle)
  refine ⟨?_,?_,always,?_,?_⟩
  · apply Sound.spawn
    · intro t p point there waiting
      by_cases same : t = 0
      · subst same
        have waits : m.pointOf 0 = p.point := Sound.pointOf_eq there
        simp [Machine.idle,waits,waiting] at idle
      · rw [show m.task t = none from kept.only t same] at there
        cases there
    · exact holds
  · intro t other
    exact (Function.update_of_ne other _ _).trans (kept.only t other)
  · intro result there
    have same : k.program o = .ret result := by simpa [Sys.spawn] using there
    rw [same] at holds
    exact holds
  · intro there
    simp [Sys.spawn] at there

theorem kept_step (kept : Kept D m) {a : Act} (may : allowed m a) (taken : m.step o a = some m') : Kept D m' := by
  cases a with
  | call k =>
    simp only [Machine.step] at taken
    split at taken
    · obtain rfl := Option.some.inj taken
      exact kept.call k (by assumption)
    · cases taken
  | perform r => exact (kept.perform may taken).1
  | raises e =>
    simp only [Machine.step] at taken
    split at taken
    · obtain ⟨point,at_,accepts⟩ := (Option.any_eq_true _ _).mp (by assumption)
      exact kept.raise may at_ accepts taken
    · cases taken
  | drops =>
    obtain rfl := Option.some.inj taken
    exact kept.onClient fun client h => by cases h
  | backgroundError =>
    obtain rfl := Option.some.inj taken
    exact kept.onClient fun client h => h
  | disconnected normally =>
    simp only [Machine.step] at taken
    split at taken
    · obtain rfl := Option.some.inj taken
      exact kept.onClient fun client h => h
    · cases taken
  | restart given =>
    simp only [Machine.step] at taken
    split at taken
    · obtain rfl := Option.some.inj taken
      obtain ⟨always,between⟩ := D.reopens may kept.always kept.between (by assumption)
      exact .empty always between
    · cases taken

theorem kept_of_reached (run : Machine.Reached o allowed m) : Kept D m := by
  apply Runs.invariant _ _ run
  · rintro _ ⟨s,given,fresh,accepts,rfl⟩
    obtain ⟨always,between⟩ := D.opens fresh accepts
    exact .empty always between
  · exact fun m a m' kept may taken => kept_step kept may taken

end Discipline

end BackupTelebot.Telegram
