import BackupTelebot.InterleavingRules

/-! Two ways of saying what a program does that ask nothing of the tasks beside it: at which
places it may wait and what it returns, and what it does in the light of what it has seen
on the way. -/
namespace Interleave

namespace Prog

variable {π ι σ ε α β γ : Type}

/-- Every place at which the program may wait, and every result, whatever happens meanwhile. -/
def Within (P : π → Prop) (Q : α → Prop) : Prog π ι σ ε α → Prop
  | .ret result => ∀ value, result = .ok value → Q value
  | .act point _ _ next raised => P point ∧ (∀ i s, (next i s).Within P Q) ∧ ∀ e, (raised e).Within P Q

namespace Within

variable {P P' : π → Prop} {Q Q' : α → Prop}

theorem ret {value : α} (h : Q value) : Within P Q (.ret (.ok value) : Prog π ι σ ε α) := by
  intro other same
  exact Except.ok.inj same ▸ h

theorem raise (e : ε) : Within P Q (.ret (.error e) : Prog π ι σ ε α) := by
  intro value same
  cases same

theorem mono {p : Prog π ι σ ε α} (within : p.Within P Q) (points : ∀ point, P point → P' point)
    (results : ∀ value, Q value → Q' value) : p.Within P' Q' := by
  induction p with
  | ret result => exact fun value same => results value (within value same)
  | act point guard effect next raised ihNext ihRaised =>
    exact ⟨points point within.1,fun i s => ihNext i s (within.2.1 i s),fun e => ihRaised e (within.2.2 e)⟩

theorem bind {R : β → Prop} {p : Prog π ι σ ε α} {body : α → Prog π ι σ ε β} (first : p.Within P Q)
    (next : ∀ value, Q value → (body value).Within P R) : (p >>= body).Within P R := by
  rw [bind_eq]
  induction p with
  | ret result =>
    cases result with
    | error e => exact .raise e
    | ok value => exact next value (first value rfl)
  | act point guard effect rest raised ihNext ihRaised =>
    exact ⟨first.1,fun i s => ihNext i s (first.2.1 i s),fun e => ihRaised e (first.2.2 e)⟩

theorem handle {p : Prog π ι σ ε α} {handler : ε → Prog π ι σ ε α} (first : p.Within P Q)
    (handles : ∀ e, (handler e).Within P Q) : (p.handle handler).Within P Q := by
  induction p with
  | ret result =>
    cases result with
    | error e => exact handles e
    | ok value => exact .ret (first value rfl)
  | act point guard effect rest raised ihNext ihRaised =>
    exact ⟨first.1,fun i s => ihNext i s (first.2.1 i s),fun e => ihRaised e (first.2.2 e)⟩

theorem ite {condition : Prop} [Decidable condition] {p q : Prog π ι σ ε α} (yes : condition → p.Within P Q)
    (no : ¬condition → q.Within P Q) : (if condition then p else q).Within P Q := by
  split
  · exact yes (by assumption)
  · exact no (by assumption)

end Within

/-- The program is safe at each operation, given what it has noted at the earlier ones, and
its result agrees with its notes. -/
def Obeys (note : π → σ → γ → γ) (safe : π → σ → σ → γ → Prop) (post : Except ε α → γ → Prop) :
    Prog π ι σ ε α → γ → Prop
  | .ret result, g => post result g
  | .act point guard effect next raised, g =>
      (∀ s i, guard s = true → safe point s (effect i s) g ∧ Obeys note safe post (next i s) (note point s g)) ∧
        ∀ e, Obeys note safe post (raised e) g

namespace Obeys

variable {note : π → σ → γ → γ} {safe : π → σ → σ → γ → Prop} {Q Q' : Except ε α → γ → Prop} {g : γ}

theorem mono {p : Prog π ι σ ε α} (obeys : Obeys note safe Q p g) (weaker : ∀ result g, Q result g → Q' result g) :
    Obeys note safe Q' p g := by
  induction p generalizing g with
  | ret result => exact weaker _ _ obeys
  | act point guard effect next raised ihNext ihRaised =>
    refine ⟨fun s i open_ => ?_,fun e => ihRaised e (obeys.2 e)⟩
    exact ⟨(obeys.1 s i open_).1,ihNext i s (obeys.1 s i open_).2⟩

/-- What follows may use the postcondition of what came first. -/
theorem bind {final : Except ε β → γ → Prop} {p : Prog π ι σ ε α} {body : α → Prog π ι σ ε β}
    (first : Obeys note safe Q p g) (next : ∀ value g, Q (.ok value) g → Obeys note safe final (body value) g)
    (error : ∀ e g, Q (.error e) g → final (.error e) g) : Obeys note safe final (p >>= body) g := by
  rw [bind_eq]
  induction p generalizing g with
  | ret result =>
    cases result with
    | error e => exact error e g first
    | ok value => exact next value g first
  | act point guard effect rest raised ihNext ihRaised =>
    refine ⟨fun s i open_ => ?_,fun e => ihRaised e (first.2 e)⟩
    exact ⟨(first.1 s i open_).1,ihNext i s (first.1 s i open_).2⟩

theorem handle {final : Except ε α → γ → Prop} {p : Prog π ι σ ε α} {handler : ε → Prog π ι σ ε α}
    (first : Obeys note safe Q p g) (ok : ∀ value g, Q (.ok value) g → final (.ok value) g)
    (handles : ∀ e g, Q (.error e) g → Obeys note safe final (handler e) g) :
    Obeys note safe final (p.handle handler) g := by
  induction p generalizing g with
  | ret result =>
    cases result with
    | error e => exact handles e g first
    | ok value => exact ok value g first
  | act point guard effect rest raised ihNext ihRaised =>
    refine ⟨fun s i open_ => ?_,fun e => ihRaised e (first.2 e)⟩
    exact ⟨(first.1 s i open_).1,ihNext i s (first.1 s i open_).2⟩

theorem ite {condition : Prop} [Decidable condition] {p q : Prog π ι σ ε α}
    (yes : condition → Obeys note safe Q p g) (no : ¬condition → Obeys note safe Q q g) :
    Obeys note safe Q (if condition then p else q) g := by
  split
  · exact yes (by assumption)
  · exact no (by assumption)

/-- A program that waits only at places where nothing is asked keeps what the notes say. -/
theorem within {P : π → Prop} {Q : α → Prop} {I : γ → Prop} {p : Prog π ι σ ε α} (within : p.Within P Q)
    (harmless : ∀ point s s' g, P point → safe point s s' g) (kept : ∀ point s g, P point → I g → I (note point s g))
    (inv : I g) : Obeys note safe (fun result g => I g ∧ ∀ value, result = .ok value → Q value) p g := by
  induction p generalizing g with
  | ret result => exact ⟨inv,within⟩
  | act point guard effect next raised ihNext ihRaised =>
    refine ⟨fun s i _ => ⟨harmless _ _ _ _ within.1,?_⟩,fun e => ihRaised e (within.2.2 e) inv⟩
    exact ihNext i s (within.2.1 i s) (kept _ _ _ within.1 inv)

end Obeys

end Prog

/-- A program that waits only at places where an invariant is kept, by it and by the others. -/
theorem Holds.within {π ι σ ε α : Type} {C : Contract π ι σ ε} {P : π → Prop} {Q : α → Prop} {Inv : σ → Prop}
    {p : Prog π ι σ ε α} {s : σ} (within : p.Within P Q)
    (stable : ∀ point s s', P point → C.rely point s s' → Inv s → Inv s')
    (kept : ∀ point i s s', P point → Inv s → C.allowed point i s → C.known point s s' → C.guar point s s' ∧ Inv s')
    (inv : Inv s) : Holds C (fun result s => Inv s ∧ ∀ value, result = .ok value → Q value) p s := by
  induction p generalizing s with
  | ret result => exact ⟨inv,within⟩
  | act point guard effect next raised ihNext ihRaised =>
    intro s' rely
    have inv' := stable point s s' within.1 rely inv
    refine ⟨fun _ i allowed known => ?_,fun e _ => ihRaised e (within.2.2 e) inv'⟩
    obtain ⟨guar,inv''⟩ := kept point i s' _ within.1 inv' allowed known
    exact ⟨guar,ihNext i s' (within.2.1 i s') inv''⟩

end Interleave
