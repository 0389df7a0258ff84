import BackupTelebot.InterleavingRules
import BackupTelebot.Queue

/-! What each session does to the control database while the others go on: it writes only
to rows that it has locked, what it has read under a lock stays true, and a scheduled
request ends with a run of its slot in sight. -/
namespace BackupTelebot.Queue

open PyJson Interleave Transactions

variable {κ : Type}

theorem Contents.same_equivalence (k : Key) : Equivalence (Contents.Same (κ := κ) k) := by
  cases k with
  | settings => exact ⟨fun _ => rfl,fun h => h.symm,fun h h' => h'.trans h⟩
  | server id => exact ⟨fun _ => rfl,fun h => h.symm,fun h h' => h'.trans h⟩
  | profile p =>
    refine ⟨fun _ => ⟨rfl,rfl,rfl⟩,fun h => ⟨h.1.symm,h.2.1.symm,h.2.2.symm⟩,fun h h' => ?_⟩
    exact ⟨h'.1.trans h.1,h'.2.1.trans h.2.1,h'.2.2.trans h.2.2⟩

structure Run.Lasts (a b : Run κ) : Prop where
  id : b.id = a.id
  profileId : b.profileId = a.profileId
  trigger : b.trigger = a.trigger
  scheduledFor : b.scheduledFor = a.scheduledFor
  snapshot : b.configurationSnapshot = a.configurationSnapshot

theorem Run.Lasts.refl (run : Run κ) : Run.Lasts run run := ⟨rfl,rfl,rfl,rfl,rfl⟩

theorem Run.Lasts.trans {a b c : Run κ} (first : Run.Lasts a b) (second : Run.Lasts b c) : Run.Lasts a c :=
  ⟨second.id.trans first.id,second.profileId.trans first.profileId,second.trigger.trans first.trigger,
    second.scheduledFor.trans first.scheduledFor,second.snapshot.trans first.snapshot⟩

theorem Run.fills_iff {run : Run κ} {p : ProfileId} {slot : Time} :
    run.fills p slot = true ↔ run.profileId = p ∧ run.trigger = .scheduled ∧ run.scheduledFor = some slot := by
  simp [Run.fills,and_assoc]

theorem Run.Lasts.fills {a b : Run κ} (lasts : Run.Lasts a b) {p : ProfileId} {slot : Time}
    (fills : a.fills p slot = true) : b.fills p slot = true := by
  rw [Run.fills_iff] at fills ⊢
  exact ⟨lasts.profileId.trans fills.1,lasts.trigger.trans fills.2.1,lasts.scheduledFor.trans fills.2.2⟩

theorem Clash.symm (a b : Run κ) (clash : Clash a b) : Clash b a := by
  refine ⟨clash.1.symm,clash.2.imp And.symm ?_⟩
  rintro ⟨trigger,slot,isSome⟩
  exact ⟨trigger.symm,slot.symm,slot ▸ isSome⟩

abbrev Kept (t : Nat) (a b : Db (Contents κ) Key (Run κ)) : Prop := Db.Kept Contents.Same Run.Lasts t a b
abbrev Moves (t : Nat) (a b : Db (Contents κ) Key (Run κ)) : Prop := Db.Moves Contents.Same Run.Lasts Clash t a b
abbrev Valid (db : Db (Contents κ) Key (Run κ)) : Prop := db.Valid Contents.Same Clash

/-! ### Invariants -/

/-- A session inserts a skipped run only for a profile with an active one. -/
structure Sane (s : Control κ) : Prop where
  valid : Valid s.db
  fair : ∀ t run, (t,run) ∈ s.db.inserted →
    run.status = .queued ∨ run.status = .skipped ∧ run.profileId ∈ s.sawActive t

/-- At some time this was the complete configuration of the profile, and the profile could
be run. -/
def Contents.Offers (c : Contents κ) (p : ProfileId) (config : RunConfig κ) : Prop :=
  c.configuration p = some config ∧ ∃ profile, c.profile p = some profile ∧ profile.enabled = true ∧
    profile.archivedAt = none

def Snapshotted (s : Control κ) : Prop :=
  ∀ run ∈ s.db.everything, ∀ config, run.configurationSnapshot = some config →
    ∃ c ∈ s.db.history, c.Offers run.profileId config

/-- The cursors that a commit moves away from a slot: there is a run of the slot. -/
def Moved (now : Time) (t : Nat) (a b : Control κ) : Prop :=
  ∀ p before after due, a.db.contents.profile p = some before → before.nextScheduledAt = some due →
    b.db.contents.profile p = some after → after.nextScheduledAt ≠ some due →
    due ≤ now ∧ ∃ run ∈ b.db.rows, run.fills p due = true ∧
      (run ∈ a.db.rows ∨ (t,run) ∈ a.db.inserted ∧
        (run.status = .queued ∨ run.status = .skipped ∧ p ∈ a.sawActive t))

/-! ### The contract of a session -/

structure Rely (t : Nat) (a b : Control κ) : Prop where
  kept : Kept t a.db b.db
  held : b.held t = a.held t
  saw : b.sawActive t = a.sawActive t
  sane : Sane a → Sane b

theorem Rely.refl (t : Nat) (a : Control κ) : Rely t a a :=
  ⟨.refl Contents.same_equivalence Run.Lasts.refl t a.db,rfl,rfl,id⟩

theorem Rely.trans {t : Nat} {a b c : Control κ} (first : Rely t a b) (second : Rely t b c) : Rely t a c :=
  ⟨first.kept.trans Contents.same_equivalence Run.Lasts.trans second.kept,second.held.trans first.held,
    second.saw.trans first.saw,fun sane => second.sane (first.sane sane)⟩

def Seen (t : Nat) (a b : Control κ) : Prop :=
  ∀ p ∈ b.sawActive t, p ∈ a.sawActive t ∨ ∃ run ∈ a.db.table t, run.profileId = p ∧ run.status.Active

structure Guar (fresh : Prop) (t : Nat) (job : Job κ) (a b : Control κ) : Prop where
  others : ∀ u, u ≠ t → Rely u a b
  sane : Sane a → Sane b
  snapshots : fresh → Snapshotted a → Snapshotted b
  moved : ∀ now timezone, job = .tick now timezone → Moved now t a b
  seen : Seen t a b

/-- Where a retry locks the profile, its session holds no outdated object of it. -/
def Uptodate (t : Nat) (job : Job κ) (point : Point) (s : Control κ) : Prop :=
  ∀ id p, job = .retry id → point = .lockProfile p → s.held t p = s.db.contents.profile p

def sessionContract (fresh : Prop) (t : Nat) (job : Job κ) : Contract Point Reply (Control κ) Failure where
  rely := fun _ => Rely t
  guar := fun _ => Guar fresh t job
  allowed := fun point _ s => fresh → Uptodate t job point s
  raises := fun _ _ _ => True
  known := fun _ _ _ => True
  refl := fun _ => Rely.refl t
  trans := Rely.trans

/-- What a session's own statements before its commit, and everybody else's, add to. -/
structure Progress (t : Nat) (a b : Control κ) : Prop where
  draft : b.db.draft t = a.db.draft t
  locked : ∀ k, a.db.holder k = some t → b.db.holder k = some t ∧ Contents.Same k a.db.contents b.db.contents
  rows : ∀ run ∈ a.db.rows, ∃ later ∈ b.db.rows, Run.Lasts run later
  inserted : ∀ run, (t,run) ∈ a.db.inserted → (t,run) ∈ b.db.inserted
  saw : ∀ p ∈ a.sawActive t, p ∈ b.sawActive t
  held : ∀ p row, a.held t p = some row → b.held t p = some row
  history : ∀ c ∈ a.db.history, c ∈ b.db.history

namespace Progress

variable {t : Nat} {a b c : Control κ}

theorem refl (t : Nat) (a : Control κ) : Progress t a a :=
  ⟨rfl,fun k h => ⟨h,(Contents.same_equivalence k).refl _⟩,fun run member => ⟨run,member,.refl run⟩,fun _ h => h,
    fun _ h => h,fun _ _ h => h,fun _ h => h⟩

theorem trans (first : Progress t a b) (second : Progress t b c) : Progress t a c where
  draft := second.draft.trans first.draft
  locked := by
    intro k h
    obtain ⟨held,same⟩ := first.locked k h
    obtain ⟨held',same'⟩ := second.locked k held
    exact ⟨held',(Contents.same_equivalence k).trans same same'⟩
  rows := by
    intro run member
    obtain ⟨middle,there,lasts⟩ := first.rows run member
    obtain ⟨last,here,lasts'⟩ := second.rows middle there
    exact ⟨last,here,lasts.trans lasts'⟩
  inserted := fun run h => second.inserted run (first.inserted run h)
  saw := fun p h => second.saw p (first.saw p h)
  held := fun p row h => second.held p row (first.held p row h)
  history := fun c h => second.history c (first.history c h)

end Progress

theorem Rely.progress {t : Nat} {a b : Control κ} (rely : Rely t a b) : Progress t a b where
  draft := rely.kept.draft
  locked := fun k h => ⟨rely.kept.holder k h,rely.kept.contents k h⟩
  rows := rely.kept.rows
  inserted := by
    intro run h
    rw [← Db.mem_insertedBy,rely.kept.inserted,Db.mem_insertedBy]
    exact h
  saw := fun p h => rely.saw ▸ h
  held := fun p row h => by rw [rely.held]; exact h
  history := rely.kept.history

def Grows (t : Nat) (P : Control κ → Prop) : Prop := ∀ a b, Progress t a b → P a → P b

def Stable (t : Nat) (P : Control κ → Prop) : Prop := ∀ a b, Rely t a b → P a → P b

theorem Grows.stable {t : Nat} {P : Control κ → Prop} (grows : Grows t P) : Stable t P :=
  fun a b rely => grows a b rely.progress

theorem Grows.and {t : Nat} {P Q : Control κ → Prop} (first : Grows t P) (second : Grows t Q) :
    Grows t fun s => P s ∧ Q s := fun a b progress h => ⟨first a b progress h.1,second a b progress h.2⟩

/-! ### Programs of a session -/

section Rules

variable {fresh : Prop} {t : Nat} {job : Job κ} {α β : Type}

/-- The program keeps the contract; as long as it has not committed, the session has made
progress and the result has its property. -/
def Spec (fresh : Prop) (t : Nat) (job : Job κ) (P : Control κ → Prop) (opens : Prop) (Q : α → Control κ → Prop)
    (p : Proc κ α) : Prop :=
  ∀ s, Sane s → P s → Holds (sessionContract fresh t job) (fun result s' => match result with
    | .ok value => Sane s' ∧ (opens → Progress t s s' ∧ Q value s')
    | .error _ => True) p s

namespace Spec

variable {P P' R : Control κ → Prop} {opens : Prop} {Q Q' : α → Control κ → Prop}

theorem pure {value : α} (h : ∀ s, P s → Q value s) : Spec fresh t job P opens Q (Pure.pure value : Proc κ α) :=
  fun s sane here => ⟨sane,fun _ => ⟨.refl t s,h s here⟩⟩

theorem throw (e : Failure) : Spec fresh t job P opens Q (MonadExcept.throw e : Proc κ α) := fun _ _ _ => trivial

theorem bind {M : α → Control κ → Prop} {Q : β → Control κ → Prop} {p : Proc κ α} {body : α → Proc κ β}
    (first : Spec fresh t job P True M p) (next : ∀ value, Spec fresh t job (M value) opens Q (body value)) :
    Spec fresh t job P opens Q (p >>= body) := by
  intro s sane here
  refine Holds.bind (Holds.mono ?_ (first s sane here))
  rintro (e | value) s' h
  · trivial
  · obtain ⟨sane',progress⟩ := h
    refine Holds.mono ?_ (next value s' sane' (progress trivial).2)
    rintro (e | value) s'' h
    · trivial
    · exact ⟨h.1,fun open_ => ⟨(progress trivial).1.trans (h.2 open_).1,(h.2 open_).2⟩⟩

/-- After a commit nothing is known but that the database is sound. -/
theorem bind_closed {M : α → Control κ → Prop} {p : Proc κ α} {body : α → Proc κ β}
    (first : Spec fresh t job P False M p)
    (next : ∀ value, Spec fresh t job (fun _ => True) False (fun _ _ => True) (body value)) :
    Spec fresh t job P False (fun _ _ => True) (p >>= body) := by
  intro s sane here
  refine Holds.bind (Holds.mono ?_ (first s sane here))
  rintro (e | value) s' h
  · trivial
  · refine Holds.mono ?_ (next value s' h.1 trivial)
    rintro (e | value) s'' h
    · trivial
    · exact ⟨h.1,False.elim⟩

theorem before {p : Proc κ α} (weaker : ∀ s, P' s → P s) (spec : Spec fresh t job P opens Q p) :
    Spec fresh t job P' opens Q p := fun s sane here => spec s sane (weaker s here)

theorem after {p : Proc κ α} (spec : Spec fresh t job P opens Q p) (weaker : ∀ value s, Q value s → Q' value s) :
    Spec fresh t job P opens Q' p := by
  intro s sane here
  refine Holds.mono ?_ (spec s sane here)
  rintro (e | value) s' h
  · trivial
  · exact ⟨h.1,fun open_ => ⟨(h.2 open_).1,weaker _ _ (h.2 open_).2⟩⟩

theorem close {p : Proc κ α} (spec : Spec fresh t job P opens Q p) :
    Spec fresh t job P False (fun _ _ => True) p := by
  intro s sane here
  refine Holds.mono ?_ (spec s sane here)
  rintro (e | value) s' h
  · trivial
  · exact ⟨h.1,False.elim⟩

/-- What stays true while the session goes on need not be carried through. -/
theorem frame {p : Proc κ α} (grows : Grows t R) (spec : Spec fresh t job P opens Q p) :
    Spec fresh t job (fun s => P s ∧ R s) opens (fun value s => Q value s ∧ R s) p := by
  intro s sane here
  refine Holds.mono ?_ (spec s sane here.1)
  rintro (e | value) s' h
  · trivial
  · exact ⟨h.1,fun open_ => ⟨(h.2 open_).1,(h.2 open_).2,grows _ _ (h.2 open_).1 here.2⟩⟩

theorem given {fact : Prop} {p : Proc κ α} (spec : fact → Spec fresh t job P opens Q p) :
    Spec fresh t job (fun s => fact ∧ P s) opens Q p := fun s sane here => spec here.1 s sane here.2

theorem ite {condition : Prop} [Decidable condition] {p q : Proc κ α} (yes : condition → Spec fresh t job P opens Q p)
    (no : ¬condition → Spec fresh t job P opens Q q) : Spec fresh t job P opens Q (if condition then p else q) := by
  split
  · exact yes (by assumption)
  · exact no (by assumption)

/-- One statement, which finds what the session knows still true. -/
theorem stmt {point : Point} {guard : Control κ → Bool} {effect : Reply → Control κ → Control κ}
    {result : Reply → Control κ → Except Failure α} (stable : Stable t P)
    (performed : ∀ i s, Sane s → P s → guard s = true → (fresh → Uptodate t job point s) →
      Guar fresh t job s (effect i s) ∧
        (opens → Progress t s (effect i s) ∧ ∀ value, result i s = .ok value → Q value (effect i s))) :
    Spec fresh t job P opens Q (Queue.stmt point guard effect result) := by
  intro s sane here s' rely
  have sane' := rely.sane sane
  refine ⟨fun open_ i allowed _ => ?_,fun _ _ => trivial⟩
  obtain ⟨guar,rest⟩ := performed i s' sane' (stable _ _ rely here) open_ allowed
  refine ⟨guar,?_⟩
  rw [Holds.ret_iff]
  split
  · rename_i value returned
    refine ⟨guar.sane sane',fun open_ => ⟨rely.progress.trans (rest open_).1,(rest open_).2 value ?_⟩⟩
    cases fault : i.fault with
    | some e => simp [fault] at returned
    | none => simpa [fault] using returned
  · trivial

end Spec

theorem Guar.refl (s : Control κ) : Guar fresh t job s s := by
  refine ⟨fun u _ => .refl u s,id,fun _ => id,fun _ _ _ p before after due was cursor is moved => ?_,fun _ h => .inl h⟩
  rw [was] at is
  exact absurd (Option.some.inj is ▸ cursor) moved

/-- A statement that changes nothing others can see. -/
theorem Spec.ask {P : Control κ → Prop} {Q : α → Control κ → Prop} {point : Point}
    {result : Control κ → Except Failure α} (stable : Stable t P)
    (results : ∀ s, Sane s → P s → ∀ value, result s = .ok value → Q value s) :
    Spec fresh t job P True Q (Queue.ask point result) :=
  Spec.stmt stable fun _ s sane here _ _ => ⟨.refl s,fun _ => ⟨.refl t s,results s sane here⟩⟩

end Rules

/-! ### Single statements -/

section Statements

variable {fresh : Prop} {t : Nat} {job : Job κ} {s s' : Control κ}

/-- A statement that commits nothing and inserts nothing. -/
theorem Guar.still (moves : Moves t s.db s'.db) (held : ∀ u, u ≠ t → s'.held u = s.held u)
    (saw : ∀ u, u ≠ t → s'.sawActive u = s.sawActive u) (sawMore : ∀ u p, p ∈ s.sawActive u → p ∈ s'.sawActive u)
    (contents : s'.db.contents = s.db.contents) (rows : s'.db.rows = s.db.rows)
    (inserted : ∀ entry ∈ s'.db.inserted, entry ∈ s.db.inserted) (history : s'.db.history = s.db.history)
    (seen : Seen t s s') : Guar fresh t job s s' := by
  have sane (before : Sane s) : Sane s' := by
    refine ⟨moves.valid before.valid,fun u run member => ?_⟩
    rcases before.fair u run (inserted _ member) with queued | ⟨skipped,seen⟩
    · exact .inl queued
    · exact .inr ⟨skipped,sawMore u _ seen⟩
  refine ⟨fun u other => ⟨moves.kept u other,held u other,saw u other,sane⟩,sane,fun _ snapshots => ?_,
    fun _ _ _ p before after due was cursor is moved => ?_,seen⟩
  · intro run member config snapshot
    rw [history]
    refine snapshots run ?_ config snapshot
    unfold Db.everything at member ⊢
    rw [rows] at member
    rcases List.mem_append.mp member with committed | open_
    · exact List.mem_append_left _ committed
    · obtain ⟨entry,there,same⟩ := List.mem_map.mp open_
      exact List.mem_append_right _ (List.mem_map.mpr ⟨entry,inserted entry there,same⟩)
  · rw [contents,was] at is
    exact absurd (Option.some.inj is ▸ cursor) moved

/-- A statement on the session's own objects. -/
theorem Guar.local (moves : Moves t s.db s'.db) (held : ∀ u, u ≠ t → s'.held u = s.held u)
    (saw : s'.sawActive = s.sawActive) (contents : s'.db.contents = s.db.contents) (rows : s'.db.rows = s.db.rows)
    (inserted : s'.db.inserted = s.db.inserted) (history : s'.db.history = s.db.history) : Guar fresh t job s s' :=
  .still moves held (fun _ _ => by rw [saw]) (fun _ _ h => by rw [saw]; exact h) contents rows (fun _ h => inserted ▸ h)
    history fun _ h => .inl (saw ▸ h)

theorem moves_lock {k : Key} (open_ : s.db.free t k = true) : Moves t s.db (s.db.lock t k) :=
  Db.moves_lock Contents.same_equivalence Run.Lasts.refl open_

theorem moves_refl (s : Control κ) : Moves t s.db s.db := Db.Moves.refl Contents.same_equivalence Run.Lasts.refl t s.db

theorem moves_lockRow {p : ProfileId} (open_ : s.db.free t (.profile p) = true) : Moves t s.db (s.lockRow t p).db := by
  unfold Control.lockRow
  split
  · exact moves_lock open_
  · exact moves_refl s

theorem lockRow_fields (s : Control κ) (t : Nat) (p : ProfileId) :
    (s.lockRow t p).db.contents = s.db.contents ∧ (s.lockRow t p).db.rows = s.db.rows ∧
      (s.lockRow t p).db.inserted = s.db.inserted ∧ (s.lockRow t p).db.history = s.db.history ∧
      (s.lockRow t p).db.draft = s.db.draft ∧ (s.lockRow t p).held = s.held ∧
      (s.lockRow t p).sawActive = s.sawActive := by
  unfold Control.lockRow
  split
  · exact ⟨rfl,rfl,rfl,rfl,rfl,rfl,rfl⟩
  · exact ⟨rfl,rfl,rfl,rfl,rfl,rfl,rfl⟩

theorem lock_holder {k k' : Key} (held : s.db.holder k' = some t) : (s.db.lock t k).holder k' = some t := by
  simp only [Db.lock,Function.update_apply]
  split
  · rfl
  · exact held

theorem lockRow_holder (p : ProfileId) {k : Key} (held : s.db.holder k = some t) : (s.lockRow t p).db.holder k = some t := by
  unfold Control.lockRow
  split
  · exact lock_holder held
  · exact held

/-- A row that is there is locked. -/
theorem lockRow_locked {p : ProfileId} (there : ((s.sees t).profile p).isSome = true) :
    (s.lockRow t p).db.holder (.profile p) = some t := by
  rw [Control.lockRow,if_pos there]
  exact Function.update_self _ _ _

/-- Locking and looking is progress. -/
theorem Progress.locking (draft : s'.db.draft = s.db.draft) (contents : s'.db.contents = s.db.contents)
    (holder : ∀ k, s.db.holder k = some t → s'.db.holder k = some t) (rows : s'.db.rows = s.db.rows)
    (inserted : s'.db.inserted = s.db.inserted) (saw : s'.sawActive = s.sawActive) (history : s'.db.history = s.db.history)
    (held : ∀ p row, s.held t p = some row → s'.held t p = some row) : Progress t s s' where
  draft := by rw [draft]
  locked := fun k h => ⟨holder k h,by rw [contents]; exact (Contents.same_equivalence k).refl _⟩
  rows := fun run member => ⟨run,by rw [rows]; exact member,.refl run⟩
  inserted := fun run h => by rw [inserted]; exact h
  saw := fun p h => by rw [saw]; exact h
  held := held
  history := fun c h => by rw [history]; exact h

def Quiet (t : Nat) (s : Control κ) : Prop := s.db.draft t = id

theorem Quiet.sees (quiet : Quiet t s) : s.sees t = s.db.contents := by
  unfold Control.sees Db.sees
  rw [show s.db.draft t = id from quiet]
  rfl

theorem grows_quiet : Grows t (Quiet (κ := κ) t) := fun _ _ progress h => progress.draft.trans h

def Owns (t : Nat) (k : Key) (s : Control κ) : Prop := s.db.holder k = some t

theorem grows_owns (k : Key) : Grows t (Owns (κ := κ) t k) := fun _ _ progress h => (progress.locked k h).1

def Reads (t : Nat) (p : ProfileId) (fact : Contents κ → Prop) (s : Control κ) : Prop :=
  Owns t (.profile p) s ∧ fact s.db.contents

theorem grows_reads {p : ProfileId} {fact : Contents κ → Prop}
    (local_ : ∀ a b, Contents.Same (.profile p) a b → fact a → fact b) : Grows t (Reads t p fact) :=
  fun _ _ progress h => ⟨(progress.locked _ h.1).1,local_ _ _ (progress.locked _ h.1).2 h.2⟩

/-- The statement by which a row is locked and an object of it enters the identity map. -/
theorem lockRow_remember_guar {p : ProfileId} (row : BackupProfile κ) (open_ : s.db.free t (.profile p) = true) :
    Guar fresh t job s ((s.lockRow t p).remember t p row) := by
  obtain ⟨contents,rows,inserted,history,-,held,saw⟩ := lockRow_fields s t p
  refine .local (moves_lockRow open_) (fun u other => ?_) saw contents rows inserted history
  simp only [Control.remember,Function.update_of_ne other,held]

theorem lockRow_remember_progress {p : ProfileId} {row : BackupProfile κ}
    (known : s.held t p = none ∨ s.held t p = some row) :
    Progress t s ((s.lockRow t p).remember t p row) := by
  obtain ⟨contents,rows,inserted,history,draft,held,saw⟩ := lockRow_fields s t p
  refine .locking draft contents (fun k => lockRow_holder p) rows inserted saw history fun q other here => ?_
  simp only [Control.remember,Function.update_self,Function.update_apply,held]
  split
  · rename_i same
    subst same
    rcases known with none_ | known
    · simp [here] at none_
    · exact known.symm.trans here ▸ rfl
  · exact here

theorem identity_known (s : Control κ) (t : Nat) (p : ProfileId) (row : BackupProfile κ) :
    s.held t p = none ∨ s.held t p = some (s.identity t p row) := by
  unfold Control.identity
  cases s.held t p with
  | none => exact .inl rfl
  | some held => exact .inr rfl

/-- An insertion that the keys admit. -/
theorem insert_guar {run : Run κ} {n : RunId} (waited : s.db.clear Clash t run = true)
    (untaken : s.db.taken Clash t run = false)
    (fair : run.status = .queued ∨ run.status = .skipped ∧ run.profileId ∈ s.sawActive t)
    (snapshot : fresh → ∀ config, run.configurationSnapshot = some config →
      ∃ c ∈ s.db.history, c.Offers run.profileId config) :
    Guar fresh t job s { s with serial := n, db := s.db.insert t run } := by
  have moves : Moves t s.db (s.db.insert t run) :=
    Db.moves_insert Contents.same_equivalence Run.Lasts.refl Clash.symm waited untaken
  have sane (before : Sane s) : Sane { s with serial := n, db := s.db.insert t run } := by
    refine ⟨moves.valid before.valid,fun u other member => ?_⟩
    rcases List.mem_append.mp member with old | new
    · exact before.fair u other old
    · obtain ⟨rfl,rfl⟩ := Prod.mk.inj (List.mem_singleton.mp new)
      exact fair
  refine ⟨fun u other => ⟨moves.kept u other,rfl,rfl,sane⟩,sane,fun here snapshots => ?_,
    fun _ _ _ p before after due was cursor is moved => ?_,fun _ h => .inl h⟩
  · intro other member config taken
    simp only [Db.everything,Db.insert,List.map_append,List.map_cons,List.map_nil,← List.append_assoc] at member
    rcases List.mem_append.mp member with old | new
    · exact snapshots other old config taken
    · obtain rfl := List.mem_singleton.mp new
      exact snapshot here config taken
  · rw [show (s.db.insert t run).contents = s.db.contents from rfl,was] at is
    exact absurd (Option.some.inj is ▸ cursor) moved

theorem insert_progress (t : Nat) (s : Control κ) (run : Run κ) (n : RunId) :
    Progress t s { s with serial := n, db := s.db.insert t run } where
  draft := rfl
  locked := fun k h => ⟨h,(Contents.same_equivalence k).refl _⟩
  rows := fun run member => ⟨run,member,.refl run⟩
  inserted := fun _ h => List.mem_append_left _ h
  saw := fun _ h => h
  held := fun _ _ h => h
  history := fun _ h => h

/-- The end of a transaction, whatever its draft has done to the contents. -/
theorem commit_guar (sane : Sane s)
    (moved : ∀ now timezone, job = .tick now timezone → Moved now t s { s with db := s.db.commit t }) :
    Guar fresh t job s { s with db := s.db.commit t } := by
  have moves : Moves t s.db (s.db.commit t) :=
    Db.moves_commit Contents.same_equivalence Run.Lasts.refl Clash.symm sane.valid
  have after (before : Sane s) : Sane { s with db := s.db.commit t } :=
    ⟨moves.valid before.valid,fun u run member => before.fair u run (List.mem_filter.mp member).1⟩
  refine ⟨fun u other => ⟨moves.kept u other,rfl,rfl,after⟩,after,fun _ snapshots run member config snapshot => ?_,moved,
    fun _ h => .inl h⟩
  obtain ⟨c,recorded,offers⟩ := snapshots run ((Db.everything_perm t s.db).mem_iff.mpr member) config snapshot
  exact ⟨c,List.mem_cons_of_mem _ recorded,offers⟩

theorem rollback_guar : Guar fresh t job s { s with db := s.db.rollback t } :=
  .still (Db.moves_rollback Contents.same_equivalence Run.Lasts.refl) (fun _ _ => rfl) (fun _ _ => rfl) (fun _ _ h => h)
    rfl rfl (fun _ h => (List.mem_filter.mp h).1) rfl fun _ h => .inl h

/-- A change of rows that the session has locked. -/
theorem write_moves {change : Contents κ → Contents κ}
    (locked : ∀ k c, s.db.holder k ≠ some t → Contents.Same k c (change c)) : Moves t s.db (s.db.write t change) :=
  Db.moves_write Contents.same_equivalence Run.Lasts.refl locked

end Statements

/-! ### Queueing a run -/

section Enqueue

variable {fresh : Prop} {t : Nat} {job : Job κ}

/-- The session has locked the row, has read it, and its object of it is up to date. -/
def Loaded (t : Nat) (p : ProfileId) (row : BackupProfile κ) (s : Control κ) : Prop :=
  Reads t p (fun c => c.profile p = some row) s ∧ s.held t p = some row

theorem grows_loaded (p : ProfileId) (row : BackupProfile κ) : Grows t (Loaded t p row) := by
  refine Grows.and (grows_reads fun a b same h => ?_) fun _ _ progress h => progress.held p row h
  exact same.1.trans h

/-- Why the object that `_enqueue` works on is up to date: the session has no other, has
locked the row before, or is a retry whose object happens to be so. -/
def Loadable (t : Nat) (job : Job κ) (p : ProfileId) (s : Control κ) : Prop :=
  (∃ id, job = .retry id) ∨ s.held t p = none ∨ ∃ row, Loaded t p row s

theorem stable_loadable (p : ProfileId) : Stable t (Loadable t job p) := by
  rintro a b rely (retry | none_ | ⟨row,loaded⟩)
  · exact .inl retry
  · exact .inr (.inl (by rw [rely.held]; exact none_))
  · exact .inr (.inr ⟨row,(grows_loaded p row).stable _ _ rely loaded⟩)

def Selected (fresh : Prop) (t : Nat) (p : ProfileId) (found : Option (BackupProfile κ)) (s : Control κ) : Prop :=
  Quiet t s ∧ ∀ profile, found = some profile →
    Owns t (.profile p) s ∧ (fresh → Reads t p (fun c => c.profile p = some profile) s)

theorem selectForUpdate_spec (p : ProfileId) :
    Spec fresh t job (fun s => Quiet t s ∧ Loadable t job p s) True (Selected fresh t p) (selectForUpdate t p) := by
  refine Spec.stmt ?_ fun i s sane here open_ uptodate => ?_
  · exact fun a b rely h => ⟨grows_quiet.stable _ _ rely h.1,stable_loadable p _ _ rely h.2⟩
  · obtain ⟨quiet,loadable⟩ := here
    cases found : (s.sees t).profile p with
    | none =>
      refine ⟨.refl s,fun _ => ⟨.refl t s,fun value returned => ⟨quiet,fun profile some_ => ?_⟩⟩⟩
      simp at returned
      simp [← returned] at some_
    | some row =>
      have progress := lockRow_remember_progress (p := p) (identity_known s t p row)
      refine ⟨lockRow_remember_guar _ open_,fun _ => ⟨progress,fun value returned => ?_⟩⟩
      simp only [Option.map_some,Except.ok.injEq] at returned
      refine ⟨grows_quiet _ _ progress quiet,fun profile some_ => ?_⟩
      obtain rfl := Option.some.inj (returned.trans some_)
      have owned : Owns t (.profile p) ((s.lockRow t p).remember t p (s.identity t p row)) :=
        lockRow_locked (by simp [found])
      refine ⟨owned,fun fresh => ⟨owned,?_⟩⟩
      have there : s.db.contents.profile p = some row := by rw [← quiet.sees]; exact found
      have current : s.identity t p row = row := by
        unfold Control.identity
        rcases loadable with ⟨id,retry⟩ | none_ | ⟨row',loaded⟩
        · rw [uptodate fresh id p retry rfl,there]
          rfl
        · rw [none_]
          rfl
        · obtain rfl : row' = row := Option.some.inj (loaded.1.2.symm.trans there)
          rw [loaded.2]
          rfl
      rw [current]
      exact (congrArg (fun c => c.profile p) (lockRow_fields s t p).1).trans there

def Slotted (t : Nat) (p : ProfileId) (slot : Time) (s : Control κ) : Prop :=
  (∃ run ∈ s.db.rows, run.fills p slot = true) ∨ ∃ run, (t,run) ∈ s.db.inserted ∧ run.fills p slot = true

theorem grows_slotted (p : ProfileId) (slot : Time) : Grows t (Slotted (κ := κ) t p slot) := by
  rintro a b progress (⟨run,member,fills⟩ | ⟨run,member,fills⟩)
  · obtain ⟨later,there,lasts⟩ := progress.rows run member
    exact .inl ⟨later,there,lasts.fills fills⟩
  · exact .inr ⟨run,progress.inserted run member,fills⟩

def Gathered (fresh : Prop) (p : ProfileId) (config : RunConfig κ) (s : Control κ) : Prop :=
  fresh → ∃ c ∈ s.db.history, c.Offers p config

theorem grows_gathered (p : ProfileId) (config : RunConfig κ) : Grows t (Gathered fresh p config) := by
  intro a b progress gathered fresh
  obtain ⟨c,member,offers⟩ := gathered fresh
  exact ⟨c,progress.history c member,offers⟩

theorem lockServer_spec (id : ServerId) :
    Spec fresh t job (Quiet t) True
      (fun found s => Owns t (.server id) s ∧ found = some (s.db.contents.server id)) (lockServer t id) := by
  refine Spec.stmt grows_quiet.stable fun i s sane quiet open_ _ => ?_
  have guar : Guar fresh t job s { s with db := s.db.lock t (.server id) } :=
    .local (moves_lock open_) (fun _ _ => rfl) rfl rfl rfl rfl rfl
  refine ⟨guar,fun _ => ⟨.locking rfl rfl (fun _ => lock_holder) rfl rfl rfl rfl fun _ _ h => h,fun value returned => ?_⟩⟩
  refine ⟨Function.update_self _ _ _,?_⟩
  obtain rfl := Except.ok.inj returned
  rw [quiet.sees]
  rfl

/-- The profile row that the rest of the gathering goes by. -/
def Selects (fresh : Prop) (t : Nat) (p : ProfileId) (profile : BackupProfile κ) (s : Control κ) : Prop :=
  Quiet t s ∧ Owns t (.profile p) s ∧ (fresh → Reads t p (fun c => c.profile p = some profile) s)

theorem grows_selects (p : ProfileId) (profile : BackupProfile κ) : Grows t (Selects fresh t p profile) := by
  refine Grows.and grows_quiet (Grows.and (grows_owns _) fun a b progress h fresh => ?_)
  exact grows_reads (fun a b same h => same.1.trans h) a b progress (h fresh)

def pathsOf (c : Contents κ) (p : ProfileId) (source : Option (Source κ)) : List κ :=
  if hasPaths source then c.paths p else []

theorem loadPaths_spec (p : ProfileId) (source : Option (Source κ)) :
    Spec fresh t job (fun s => Quiet t s ∧ Owns t (.profile p) s) True
      (fun paths s => Reads t p (fun c => paths = pathsOf c p source) s) (loadPaths t p source) := by
  apply Spec.ite
  · intro files
    refine Spec.ask (grows_quiet.and (grows_owns _)).stable fun s _ here value returned => ?_
    obtain rfl := Except.ok.inj returned
    refine ⟨here.2,?_⟩
    dsimp only
    rw [pathsOf,if_pos files,here.1.sees]
  · intro noFiles
    refine Spec.pure fun s here => ⟨here.2,?_⟩
    dsimp only
    rw [pathsOf,if_neg noFiles]

def Serves (t : Nat) (source : Option (Source κ)) (server : Option κ) (s : Control κ) : Prop :=
  server = (source.bind Source.remoteServerId).map s.db.contents.server ∧
    ∀ id, source.bind Source.remoteServerId = some id → Owns t (.server id) s

theorem grows_serves (source : Option (Source κ)) (server : Option κ) : Grows t (Serves t source server) := by
  rintro a b progress ⟨rfl,owned⟩
  refine ⟨?_,fun id remote => grows_owns _ _ _ progress (owned id remote)⟩
  cases remote : source.bind Source.remoteServerId with
  | none => rfl
  | some id =>
    have kept : b.db.contents.server id = a.db.contents.server id := (progress.locked _ (owned id remote)).2
    simp only [Option.map_some,kept]

theorem remoteServer_spec (source : Option (Source κ)) :
    Spec fresh t job (Quiet t) True (Serves t source) (remoteServer t source) := by
  unfold remoteServer Serves
  cases source.bind Source.remoteServerId with
  | none => exact Spec.pure fun s _ => ⟨rfl,fun _ none_ => by cases none_⟩
  | some id =>
    refine (lockServer_spec id).after ?_
    rintro found s ⟨owned,rfl⟩
    refine ⟨rfl,fun id' same => ?_⟩
    obtain rfl := Option.some.inj same
    exact owned

/-- Everything in the snapshot was read under locks that are still held when the last part
of it is read. -/
theorem gather_spec (p : ProfileId) :
    Spec fresh t job (fun s => Quiet t s ∧ Loadable t job p s) True (Gathered fresh p) (gather t p) := by
  apply Spec.bind (selectForUpdate_spec p)
  rintro (_ | profile)
  · exact Spec.throw _
  · apply Spec.ite (fun _ => Spec.throw _)
    intro runnable
    have able : profile.archivedAt = none ∧ profile.enabled = true := by simpa using runnable
    refine Spec.before (P := Selects fresh t p profile) (fun s h => ⟨h.1,h.2 profile rfl⟩) ?_
    have selects : Grows t (Selects fresh t p profile) := grows_selects p profile
    refine Spec.bind (M := fun source s => Selects fresh t p profile s ∧ Reads t p (fun c => c.source p = source) s)
      (Spec.ask selects.stable fun s _ here value returned => ?_) fun source => ?_
    · obtain rfl := Except.ok.inj returned
      rw [here.1.sees]
      exact ⟨here,here.2.1,rfl⟩
    have reads : Grows t (Reads t p fun c : Contents κ => c.source p = source) :=
      grows_reads fun a b same h => same.2.1.trans h
    have known := selects.and reads
    refine Spec.bind ((Spec.frame known (loadPaths_spec p source)).before fun s h => ⟨⟨h.1.1,h.1.2.1⟩,h⟩) fun paths => ?_
    have readPaths : Grows t (Reads t p fun c : Contents κ => paths = pathsOf c p source) :=
      grows_reads fun a b same h => h.trans (by rw [pathsOf,pathsOf,same.2.2])
    have all := known.and readPaths
    refine Spec.bind ((Spec.frame all (remoteServer_spec source)).before fun s h => ⟨h.2.1.1,h.2,h.1⟩) fun server => ?_
    refine Spec.bind (M := fun admins s => Gathered fresh p (serializeRunConfig profile source paths server admins) s)
      (Spec.ask ((grows_serves source server).and all).stable fun s sane here admins returned fresh => ?_)
      fun admins => Spec.pure fun _ h => h
    obtain ⟨⟨serverIs,-⟩,⟨selected,-,sourceIs⟩,-,pathsAre⟩ := here
    obtain rfl := Except.ok.inj returned
    have there := (selected.2.2 fresh).2
    refine ⟨s.db.contents,sane.valid.recorded,?_,profile,there,able.2,able.1⟩
    unfold Contents.configuration
    rw [there,Option.map_some,sourceIs,← serverIs,selected.1.sees,pathsAre]
    rfl

theorem commit_spec {P : Control κ → Prop} (notTick : ∀ now timezone, job ≠ .tick now timezone) (stable : Stable t P) :
    Spec fresh t job P False (fun _ _ => True) (commit t) :=
  Spec.stmt stable fun _ _ sane _ _ _ =>
    ⟨commit_guar sane fun now timezone same => absurd same (notTick now timezone),False.elim⟩

/-- An insertion ends with the row, or with a key that is taken. -/
theorem insertRow_spec {P : Control κ → Prop} (grows : Grows t P) (point : Point) (row : RunId → Run κ)
    (fair : ∀ s, P s → ∀ id, (row id).status = .queued ∨ (row id).status = .skipped ∧ (row id).profileId ∈ s.sawActive t)
    (snapshot : ∀ s, P s → fresh → ∀ id config, (row id).configurationSnapshot = some config →
      ∃ c ∈ s.db.history, c.Offers (row id).profileId config) :
    Spec fresh t job P True
      (fun found s => P s ∧ ∀ run, found = some run → (t,run) ∈ s.db.inserted ∧ ∃ id, run = row id)
      (insertRow point t row) := by
  refine Spec.stmt grows.stable fun i s sane here waited _ => ?_
  cases taken : s.db.taken Clash t (row s.serial) with
  | true =>
    have guar : Guar fresh t job s { s with serial := s.serial + 1 } :=
      .local (moves_refl s) (fun _ _ => rfl) rfl rfl rfl rfl rfl
    have progress : Progress t s { s with serial := s.serial + 1 } :=
      .locking rfl rfl (fun _ h => h) rfl rfl rfl rfl fun _ _ h => h
    simp only [if_true]
    refine ⟨guar,fun _ => ⟨progress,fun found returned => ⟨grows _ _ progress here,fun run some_ => ?_⟩⟩⟩
    simp [← Except.ok.inj returned] at some_
  | false =>
    have progress := insert_progress t s (row s.serial) (s.serial + 1)
    simp only [Bool.false_eq_true,if_false]
    refine ⟨insert_guar waited taken (fair s here _) fun fresh config => snapshot s here fresh _ config,fun _ =>
      ⟨progress,fun found returned => ⟨grows _ _ progress here,fun run some_ => ?_⟩⟩⟩
    obtain rfl := Except.ok.inj returned
    obtain rfl := Option.some.inj some_
    exact ⟨List.mem_append_right _ (List.mem_singleton_self _),s.serial,rfl⟩

theorem slotted_of_table {s : Control κ} {p : ProfileId} {slot : Time} {run : Run κ} (member : run ∈ s.db.table t)
    (fills : run.fills p slot = true) : Slotted t p slot s := by
  rcases Db.mem_table.mp member with committed | own
  · exact .inl ⟨run,committed,fills⟩
  · exact .inr ⟨run,own,fills⟩

def Found (t : Nat) (p : ProfileId) (trigger : RunTrigger) (scheduledFor : Option Time) (s : Control κ) : Prop :=
  ∀ slot, trigger = .scheduled → scheduledFor = some slot → Slotted t p slot s

theorem grows_found (p : ProfileId) (trigger : RunTrigger) (scheduledFor : Option Time) :
    Grows t (Found (κ := κ) t p trigger scheduledFor) :=
  fun _ _ progress found slot scheduled same => grows_slotted p slot _ _ progress (found slot scheduled same)

theorem existingSlot_spec {P : Control κ → Prop} (grows : Grows t P) (p : ProfileId) (trigger : RunTrigger)
    (scheduledFor : Option Time) :
    Spec fresh t job P True (fun found s => P s ∧ (found.isSome → Found t p trigger scheduledFor s))
      (existingSlot t p trigger scheduledFor) := by
  unfold existingSlot
  split
  · rename_i slot
    refine Spec.ask grows.stable fun s _ here found returned => ⟨here,fun isSome slot' _ same => ?_⟩
    obtain rfl := Except.ok.inj returned
    obtain rfl := Option.some.inj same
    obtain ⟨run,is⟩ := Option.isSome_iff_exists.mp isSome
    exact slotted_of_table (List.mem_of_find?_eq_some is) (by simpa using List.find?_some is)
  · exact Spec.pure fun s here => ⟨here,fun isSome => by cases isSome⟩

/-- A session that finds an active run remembers the profile. -/
theorem activeForProfile_spec {P : Control κ → Prop} (grows : Grows t P) (p : ProfileId) :
    Spec fresh t job P True (fun found s => P s ∧ (found.isSome → p ∈ s.sawActive t)) (activeForProfile t p) := by
  refine Spec.stmt grows.stable fun i s sane here _ _ => ?_
  cases found : activeOf (s.db.table t) p with
  | none =>
    refine ⟨.refl s,fun _ => ⟨.refl t s,fun value returned => ⟨here,fun isSome => ?_⟩⟩⟩
    rw [← Except.ok.inj returned] at isSome
    cases isSome
  | some run =>
    have progress : Progress t s { s with sawActive := Function.update s.sawActive t (p :: s.sawActive t) } := by
      refine ⟨rfl,fun k h => ⟨h,(Contents.same_equivalence k).refl _⟩,fun run member => ⟨run,member,.refl run⟩,
        fun _ h => h,fun q seen => ?_,fun _ _ h => h,fun _ h => h⟩
      simp only [Function.update_self]
      exact List.mem_cons_of_mem _ seen
    have guar : Guar fresh t job s { s with sawActive := Function.update s.sawActive t (p :: s.sawActive t) } := by
      refine .still (moves_refl s) (fun _ _ => rfl) (fun u other => Function.update_of_ne other _ _) (fun u q seen => ?_)
        rfl rfl (fun _ h => h) rfl fun q seen => ?_
      · by_cases same : u = t
        · subst same
          simp only [Function.update_self]
          exact List.mem_cons_of_mem _ seen
        · simp only [Function.update_of_ne same]
          exact seen
      · simp only [Function.update_self] at seen
        rcases List.mem_cons.mp seen with rfl | before
        · have chosen := List.mem_filter.mp (List.argmax_mem found)
          simp only [Bool.and_eq_true,decide_eq_true_eq] at chosen
          exact .inr ⟨run,chosen.1,chosen.2⟩
        · exact .inl before
    refine ⟨guar,fun _ => ⟨progress,fun value _ => ⟨grows _ _ progress here,fun _ => ?_⟩⟩⟩
    simp

theorem fills_row {p : ProfileId} {slot : Time} {run : Run κ} (profile : run.profileId = p)
    (trigger : run.trigger = .scheduled) (scheduledFor : run.scheduledFor = some slot) : run.fills p slot = true :=
  Run.fills_iff.mpr ⟨profile,trigger,scheduledFor⟩

section Ends

variable {commits : Bool} (may : commits = true → ∀ now timezone, job ≠ .tick now timezone)
include may

/-- The commit that some callers ask for ends what is known of the session. -/
theorem created_spec {P : Control κ → Prop} (grows : Grows t P) (run : Run κ) :
    Spec fresh t job P (commits = false) (fun _ => P) (created t commits run) := by
  cases commits with
  | false => exact Spec.pure fun _ here => here
  | true =>
    have closed : Spec fresh t job P False (fun _ _ => True) (created t true run) :=
      Spec.bind_closed (commit_spec (may rfl) grows.stable) fun _ => Spec.pure fun _ _ => trivial
    intro s sane here
    refine Holds.mono ?_ (closed s sane here)
    rintro (e | found) s' h
    · trivial
    · exact ⟨h.1,fun open_ => by cases open_⟩

theorem recordSkipped_spec (p : ProfileId) (scheduledFor : Option Time) :
    Spec fresh t job (fun s => p ∈ s.sawActive t) (commits = false) (fun _ => Found t p .scheduled scheduledFor)
      (recordSkipped t p scheduledFor commits) := by
  have seen : Grows t fun s : Control κ => p ∈ s.sawActive t := fun _ _ progress h => progress.saw p h
  refine Spec.bind (insertRow_spec seen .insertSkipped (skippedRun p scheduledFor) (fun s here _ => .inr ⟨rfl,here⟩)
    fun _ _ _ _ _ none_ => by cases none_) ?_
  rintro (_ | run)
  · refine Spec.bind ((existingSlot_spec seen p .scheduled scheduledFor).before fun _ h => h.1) ?_
    rintro (_ | existing)
    · exact Spec.throw _
    · exact Spec.pure fun s here => here.2 rfl
  · refine (created_spec may (grows_found p .scheduled scheduledFor) _).before fun s here slot _ same => ?_
    obtain ⟨own,id,rfl⟩ := here.2 run rfl
    exact .inr ⟨_,own,fills_row rfl rfl same⟩

theorem whenActive_spec (p : ProfileId) (trigger : RunTrigger) (scheduledFor : Option Time) (active : Run κ) :
    Spec fresh t job (fun s => p ∈ s.sawActive t) (commits = false) (fun _ => Found t p trigger scheduledFor)
      (whenActive t p trigger scheduledFor commits active) := by
  cases trigger with
  | manual => exact Spec.pure fun s _ slot impossible => by cases impossible
  | scheduled => exact recordSkipped_spec may p scheduledFor

/-- `_enqueue` of a scheduled slot ends with a run of the slot in sight. -/
theorem enqueue_spec (p : ProfileId) (trigger : RunTrigger) (scheduledFor : Option Time) :
    Spec fresh t job (fun s => Quiet t s ∧ Loadable t job p s) (commits = false)
      (fun _ => Found t p trigger scheduledFor) (enqueue t p trigger scheduledFor commits) := by
  apply Spec.bind (gather_spec p)
  intro config
  have gathered : Grows t (Gathered fresh p config) := grows_gathered p config
  apply Spec.bind (existingSlot_spec gathered p trigger scheduledFor)
  rintro (_ | existing)
  · refine Spec.bind ((activeForProfile_spec gathered p).before fun _ h => h.1) ?_
    rintro (_ | active)
    · refine Spec.bind ((insertRow_spec gathered .insertRun _ (fun _ _ _ => .inl rfl) ?_).before fun _ h => h.1) ?_
      · intro s here fresh id config' same
        obtain rfl := Option.some.inj same
        exact here fresh
      rintro (_ | run)
      · refine Spec.bind ((existingSlot_spec gathered p trigger scheduledFor).before fun _ h => h.1) ?_
        rintro (_ | existing)
        · refine Spec.bind ((activeForProfile_spec gathered p).before fun _ h => h.1) ?_
          rintro (_ | active)
          · exact Spec.throw _
          · exact (whenActive_spec may p trigger scheduledFor active).before fun _ h => h.2 rfl
        · exact Spec.pure fun s here => here.2 rfl
      · refine (created_spec may (grows_found p trigger scheduledFor) _).before fun s here slot scheduled same => ?_
        obtain ⟨own,id,rfl⟩ := here.2 run rfl
        exact .inr ⟨_,own,fills_row rfl scheduled same⟩
    · exact (whenActive_spec may p trigger scheduledFor active).before fun _ h => h.2 rfl
  · exact Spec.pure fun s here => here.2 rfl

end Ends

end Enqueue

end BackupTelebot.Queue
