import BackupTelebot.SystemRules

/-! What one operation of any task can do to the row, its deliveries and the history of
uploads, whatever the other tasks do in between. The session's view of the row may be as
old as the session: only the columns that it has changed are written. -/
namespace BackupTelebot

open Interleave

def deliveryPoints : List Point :=
  [.createDeliveries,.maxAttempts,.skipRevoked,.startPart,.recordFailure,.acknowledge,.succeeded,.retryCommit]

inductive Transition (e : Option Execution) : Point → World → World → Prop
  | started {s s' : World} {owner : Owner} {epoch : Nat} : e = some ⟨owner,epoch⟩ →
      s.run.leaseOwner = some owner → s'.run.status = .running → Transition e .stageFenced s s'
  | deliverable {s s' : World} {owner : Owner} {epoch : Nat} : e = some ⟨owner,epoch⟩ →
      s.run.leaseOwner = some owner → s'.run.status = .deliveryPending → Transition e .deliveryPending s s'
  | resumed {s s' : World} : s'.run.status = .deliveryPending → Transition e .resumeCommit s s'
  | cancelled {s s' : World} : s.run.status.Active → s.run.cancelRequested = true →
      s'.run.status = .cancelled → s'.run.leaseOwner = none → Transition e .finalizeCancel s s'
  | settled {s s' : World} : s.run.status = .deliveryPending → s.run.cancelRequested = false →
      (s'.run.status = .succeeded ∨ s'.run.status = .failed) → s'.run.leaseOwner = none → Transition e .settle s s'
  | failed {s s' : World} : s'.run.status = .failed → s'.run.leaseOwner = none → Transition e .failCommit s s'
  | retried {s s' : World} : s.run.status = .failed → s.run.leaseOwner = none →
      s'.run.status = .deliveryPending → Transition e .retryCommit s s'

structure RowStep (e : Option Execution) (point : Point) (s s' : World) : Prop where
  now : s'.now = s.now
  claims : s'.claims = s.claims
  users : s'.users = s.users
  access : s'.access = s.access
  leaseLost : s'.leaseLost = s.leaseLost
  uploads : point ≠ .send → point ≠ .sendResult → s'.uploads = s.uploads
  deliveries : point ∉ deliveryPoints → s'.deliveries = s.deliveries
  cancel : s'.run.cancelRequested = s.run.cancelRequested ∨
    point = .retryCommit ∧ s.run.status = .failed ∧ s'.run.cancelRequested = false
  lease : s'.run.leaseOwner = s.run.leaseOwner ∨
    s'.run.leaseOwner = none ∧
      (point = .settle ∨ point = .finalizeCancel ∨ point = .failCommit ∨ point = .failRelease)
  expiry : s'.run.leaseOwner ≠ none → s'.run.leaseExpiresAt = s.run.leaseExpiresAt
  status : s'.run.status = s.run.status ∨ Transition e point s s'

/-! ### The session's view -/

/-- A view without changes to the columns by which runs are claimed and ended. -/
structure Orm.Neutral (run : Orm) : Prop where
  status : run.cur.status = run.base.status
  cancel : run.cur.cancelRequested = run.base.cancelRequested
  owner : run.cur.leaseOwner = run.base.leaseOwner
  expiry : run.cur.leaseExpiresAt = run.base.leaseExpiresAt

/-- Attributes are assigned, none of which is such a column. -/
structure Quiet (f : BackupRun → BackupRun) : Prop where
  status : ∀ r, (f r).status = r.status
  cancel : ∀ r, (f r).cancelRequested = r.cancelRequested
  owner : ∀ r, (f r).leaseOwner = r.leaseOwner
  expiry : ∀ r, (f r).leaseExpiresAt = r.leaseExpiresAt

namespace Orm.Neutral

theorem load (row : BackupRun) : (Orm.load row).Neutral := ⟨rfl,rfl,rfl,rfl⟩

theorem flushed (run : Orm) : run.flushed.Neutral := ⟨rfl,rfl,rfl,rfl⟩

variable {run : Orm} (neutral : run.Neutral)
include neutral

theorem refresh (row : BackupRun) : (run.refreshFence row).Neutral := ⟨neutral.status,rfl,rfl,neutral.expiry⟩

theorem assign {f : BackupRun → BackupRun} (quiet : Quiet f) : (run.assign f).Neutral where
  status := (quiet.status _).trans neutral.status
  cancel := (quiet.cancel _).trans neutral.cancel
  owner := (quiet.owner _).trans neutral.owner
  expiry := (quiet.expiry _).trans neutral.expiry

theorem flush_status (now : Time) (row : BackupRun) : (run.flush now row).status = row.status := if_pos neutral.status

theorem flush_cancel (now : Time) (row : BackupRun) : (run.flush now row).cancelRequested = row.cancelRequested :=
  if_pos neutral.cancel

theorem flush_owner (now : Time) (row : BackupRun) : (run.flush now row).leaseOwner = row.leaseOwner :=
  if_pos neutral.owner

theorem flush_expiry (now : Time) (row : BackupRun) : (run.flush now row).leaseExpiresAt = row.leaseExpiresAt :=
  if_pos neutral.expiry

end Orm.Neutral

namespace RowStep

variable {e : Option Execution} {point : Point} {s s' : World}

/-- An operation that keeps the four columns. -/
theorem quiet (now : s'.now = s.now) (claims : s'.claims = s.claims) (users : s'.users = s.users)
    (access : s'.access = s.access) (lost : s'.leaseLost = s.leaseLost)
    (uploads : point ≠ .send → point ≠ .sendResult → s'.uploads = s.uploads)
    (deliveries : point ∉ deliveryPoints → s'.deliveries = s.deliveries)
    (status : s'.run.status = s.run.status) (cancel : s'.run.cancelRequested = s.run.cancelRequested)
    (owner : s'.run.leaseOwner = s.run.leaseOwner) (expiry : s'.run.leaseExpiresAt = s.run.leaseExpiresAt) :
    RowStep e point s s' :=
  ⟨now,claims,users,access,lost,uploads,deliveries,.inl cancel,.inl owner,fun _ => expiry,.inl status⟩

theorem refl (s : World) : RowStep e point s s :=
  quiet rfl rfl rfl rfl rfl (fun _ _ => rfl) (fun _ => rfl) rfl rfl rfl rfl

/-- An operation on the files of the run. -/
theorem files (spool : Path → Option Dir) (workspace : Option Posix.Tree) (artifacts : List BackupArtifact) :
    RowStep e point s { s with spool := spool, workspace := workspace, artifacts := artifacts } :=
  quiet rfl rfl rfl rfl rfl (fun _ _ => rfl) (fun _ => rfl) rfl rfl rfl rfl

/-- The commit of a neutral view, with artifact rows. -/
theorem commit {run : Orm} (neutral : run.Neutral) (artifacts : List BackupArtifact) :
    RowStep e point s { s with run := run.flush s.now s.run, artifacts := artifacts } :=
  quiet rfl rfl rfl rfl rfl (fun _ _ => rfl) (fun _ => rfl) (neutral.flush_status _ _) (neutral.flush_cancel _ _)
    (neutral.flush_owner _ _) (neutral.flush_expiry _ _)

/-- The commit of a neutral view with deliveries. -/
theorem store {run : Orm} (neutral : run.Neutral) (deliveries : List BackupDelivery)
    (member : point ∈ deliveryPoints) :
    RowStep e point s { s with run := run.flush s.now s.run, deliveries := deliveries } :=
  quiet rfl rfl rfl rfl rfl (fun _ _ => rfl) (fun absent => absurd member absent) (neutral.flush_status _ _)
    (neutral.flush_cancel _ _) (neutral.flush_owner _ _) (neutral.flush_expiry _ _)

end RowStep

/-! ### Programs whose operations are row steps -/

def requestPoints : List Point :=
  [.retryDetails,.retryCommit,.purgeDetails,.purgeCommit,.cleanup,.recoverySelect,.recoveryPending,.recoveryCommit,
    .removeWorkspace .startup]

/-- Nothing is assumed about the other tasks. -/
def rowContract (e : Option Execution) : Contract Point Answer World Exc where
  rely := fun _ _ _ => True
  guar := fun point s s' => RowStep e point s s' ∧ (e = none → point ∈ requestPoints)
  allowed := fun _ _ _ => True
  raises := fun _ _ _ => True
  known := fun _ _ _ => True
  refl := fun _ _ => trivial
  trans := fun _ _ => trivial

def RowSafe (e : Option Execution) {α : Type} (ok : α → Prop) (p : Proc α) : Prop :=
  ∀ s, Holds (rowContract e) (Ends (fun value _ => ok value) (fun _ => True)) p s

namespace RowSafe

variable {e : Option Execution} {α β : Type}

theorem pure {ok : α → Prop} {value : α} (h : ok value) : RowSafe e ok (Pure.pure value : Proc α) := fun _ => h

theorem throw {ok : α → Prop} (err : Exc) : RowSafe e ok (MonadExcept.throw err : Proc α) := fun _ => trivial

theorem bind {M : α → Prop} {ok : β → Prop} {p : Proc α} {body : α → Proc β} (first : RowSafe e M p)
    (next : ∀ value, M value → RowSafe e ok (body value)) : RowSafe e ok (p >>= body) :=
  fun s => Holds.andThen (first s) fun value s h => next value h s

theorem weaken {ok weaker : α → Prop} {p : Proc α} (h : ∀ value, ok value → weaker value) (safe : RowSafe e ok p) :
    RowSafe e weaker p := fun s => Holds.weaken (fun value _ => h value) (safe s)

/-- An operation of a task that carries out no execution. -/
theorem request {ok : α → Prop} {point : Point} (member : point ∈ requestPoints) {effect : Answer → World → World}
    {result : Answer → World → Except Exc α} (steps : ∀ i s, RowStep none point s (effect i s))
    (results : ∀ i s value, result i s = .ok value → ok value) :
    RowSafe none ok (BackupTelebot.op point effect result) :=
  fun _ => Holds.op (fun s' i _ _ _ => ⟨⟨steps i s',fun _ => member⟩,trivial,fun value => results i s' value⟩)
    (fun _ _ => trivial)

theorem requestLook {ok : α → Prop} {point : Point} (member : point ∈ requestPoints) {result : World → Except Exc α}
    (results : ∀ s value, result s = .ok value → ok value) :
    RowSafe none ok (BackupTelebot.look point result) :=
  request member (fun _ s => .refl s) fun _ s value => results s value

theorem requestCommit {point : Point} (member : point ∈ requestPoints) {run : Orm} (neutral : run.Neutral) :
    RowSafe none (fun after => after = run.flushed) (BackupTelebot.commit point run) :=
  fun _ => Holds.commit (fun s' _ _ => ⟨⟨.commit neutral s'.artifacts,fun _ => member⟩,trivial,rfl⟩) (fun _ _ => trivial)

section Execution

variable {x : Execution}

theorem op {ok : α → Prop} {point : Point} {effect : Answer → World → World}
    {result : Answer → World → Except Exc α} (steps : ∀ i s, RowStep (some x) point s (effect i s))
    (results : ∀ i s value, result i s = .ok value → ok value) :
    RowSafe (some x) ok (BackupTelebot.op point effect result) :=
  fun _ => Holds.op (fun s' i _ _ _ => ⟨⟨steps i s',nofun⟩,trivial,fun value => results i s' value⟩) (fun _ _ => trivial)

theorem look {ok : α → Prop} {point : Point} {result : World → Except Exc α}
    (results : ∀ s value, result s = .ok value → ok value) : RowSafe (some x) ok (BackupTelebot.look point result) :=
  op (fun _ s => .refl s) fun _ s value => results s value

theorem commit {point : Point} {run : Orm} (neutral : run.Neutral) :
    RowSafe (some x) (fun after => after = run.flushed) (BackupTelebot.commit point run) :=
  fun _ => Holds.commit (fun s' _ _ => ⟨⟨.commit neutral s'.artifacts,nofun⟩,trivial,rfl⟩) (fun _ _ => trivial)

theorem commitAssign {point : Point} {run : Orm} {f : BackupRun → BackupRun} (neutral : run.Neutral) (quiet : Quiet f) :
    RowSafe (some x) Orm.Neutral (BackupTelebot.commit point (run.assign f)) := by
  apply (commit (neutral.assign quiet)).weaken
  rintro _ rfl
  exact .flushed _

end Execution

theorem fenced {x : Execution} {ok : α → Prop} {point : Point} {owner : Option Owner} {checkCancel : Bool}
    {effect : Answer → World → World} {result : Answer → World → α}
    (steps : ∀ i s, s.run.leaseOwner = owner → (checkCancel = true → s.run.cancelRequested = false) →
      RowStep (some x) point s (effect i s) ∧ ok (result i s)) :
    RowSafe (some x) ok (BackupTelebot.fenced point owner checkCancel effect result) :=
  fun _ => Holds.fenced (fun s' _ => ⟨⟨.refl s',nofun⟩,trivial⟩)
    (fun s' i _ _ _ same notCancelled =>
      ⟨⟨(steps i s' same notCancelled).1,nofun⟩,trivial,(steps i s' same notCancelled).2⟩)

theorem boundary {x : Execution} {point : Point} {owner : Option Owner} {run : Orm} (neutral : run.Neutral) :
    RowSafe (some x) (fun found => found.1.Neutral ∧ found.1.cur.status = run.cur.status)
      (BackupTelebot.boundary point owner run) :=
  fun _ => Holds.boundary fun s' _ => ⟨⟨.refl s',nofun⟩,trivial,fun _ _ => ⟨neutral.refresh _,rfl⟩⟩

theorem onFailure {ok : α → Prop} {p : Proc α} {handler : Failure → Proc α} (first : RowSafe e ok p)
    (handles : ∀ f, RowSafe e ok (handler f)) : RowSafe e ok (BackupTelebot.onFailure p handler) :=
  fun s => Holds.onFailure (first s) fun f s _ => handles f s

theorem handle {ok : α → Prop} {p : Proc α} {handler : Exc → Proc α} (first : RowSafe e ok p)
    (handles : ∀ f, RowSafe e ok (handler f)) : RowSafe e ok (p.handle handler) :=
  fun s => Holds.handled (first s) fun f s _ => handles f s

theorem ite {ok : α → Prop} {condition : Prop} [Decidable condition] {p q : Proc α}
    (yes : condition → RowSafe e ok p) (no : ¬condition → RowSafe e ok q) :
    RowSafe e ok (if condition then p else q) := by
  split
  · exact yes (by assumption)
  · exact no (by assumption)

end RowSafe

/-! ### The build -/

section Build

variable {x : Execution} {c : Setup} {owner : Owner} {epoch : Nat}

theorem quiet_stage (next : RunStage) : Quiet fun r => { r with stage := next } :=
  ⟨fun _ => rfl,fun _ => rfl,fun _ => rfl,fun _ => rfl⟩

theorem quiet_workspacePath (path : Option Path) : Quiet fun r => { r with workspacePath := path } :=
  ⟨fun _ => rfl,fun _ => rfl,fun _ => rfl,fun _ => rfl⟩

theorem removeWorkspace_safe {phase : Phase} : RowSafe (some x) (fun _ => True) (removeWorkspace phase) :=
  RowSafe.op (fun _ s => .files s.spool _ s.artifacts) fun _ _ _ _ => trivial

theorem createWorkspace_safe : RowSafe (some x) (fun _ => True) createWorkspace :=
  RowSafe.op (fun _ s => .files s.spool _ s.artifacts) fun _ _ _ _ => trivial

structure Orm.Startable (run : Orm) : Prop where
  status : run.cur.status = run.base.status ∨ run.cur.status = .running
  cancel : run.cur.cancelRequested = run.base.cancelRequested
  owner : run.cur.leaseOwner = run.base.leaseOwner
  expiry : run.cur.leaseExpiresAt = run.base.leaseExpiresAt

theorem Orm.Neutral.startable {run : Orm} (neutral : run.Neutral) : run.Startable :=
  ⟨.inl neutral.status,neutral.cancel,neutral.owner,neutral.expiry⟩

theorem Orm.neutral_of_clean {run : Orm} (clean : run.dirty = false) : run.Neutral := by
  have same : run.cur = run.base := by simpa [Orm.dirty] using clean
  exact ⟨congrArg _ same,congrArg _ same,congrArg _ same,congrArg _ same⟩

theorem stage_safe {run : Orm} (startable : run.Startable) (next : RunStage) :
    RowSafe (some ⟨owner,epoch⟩) Orm.Neutral (stage owner run next) := by
  apply RowSafe.ite
  · intro _
    apply RowSafe.fenced
    intro i s held _
    let view := (run.refreshFence s.run).assign fun r => { r with stage := next }
    have cancel : (view.flush s.now s.run).cancelRequested = s.run.cancelRequested := if_pos rfl
    have owner_ : (view.flush s.now s.run).leaseOwner = s.run.leaseOwner := if_pos rfl
    have expiry : (view.flush s.now s.run).leaseExpiresAt = s.run.leaseExpiresAt := if_pos startable.expiry
    have status : (view.flush s.now s.run).status = s.run.status ∨ (view.flush s.now s.run).status = .running := by
      by_cases same : run.cur.status = run.base.status
      · exact .inl (if_pos same)
      · exact .inr ((if_neg same).trans (startable.status.resolve_left same))
    refine ⟨⟨rfl,rfl,rfl,rfl,rfl,fun _ _ => rfl,fun _ => rfl,.inl cancel,.inl owner_,fun _ => expiry,?_⟩,
      Orm.Neutral.flushed _⟩
    exact status.imp_right fun running => .started rfl held running
  · intro clean
    have neutral := Orm.neutral_of_clean (Bool.eq_false_of_not_eq_true clean)
    apply RowSafe.bind (RowSafe.boundary neutral)
    rintro ⟨run',now⟩ ⟨neutral',-⟩
    exact RowSafe.commitAssign neutral' (quiet_stage next)

theorem ownershipChecks_safe (n : Nat) {run : Orm} (neutral : run.Neutral) :
    RowSafe (some x) Orm.Neutral (ownershipChecks owner n run) := by
  induction n generalizing run with
  | zero => exact RowSafe.pure neutral
  | succ n ih => exact RowSafe.bind (RowSafe.boundary neutral) fun found h => ih h.1

theorem acquire_safe {run : Orm} (neutral : run.Neutral) :
    RowSafe (some x) (fun found => found.1.Neutral) (acquire owner run) := by
  apply RowSafe.bind (M := fun _ => True)
  · exact RowSafe.op (fun _ s => .files s.spool _ s.artifacts) fun _ _ _ _ => trivial
  · rintro ⟨checks,source⟩ -
    exact RowSafe.bind (ownershipChecks_safe checks neutral) fun run' neutral' => RowSafe.pure neutral'

theorem persistAcquisition_safe {run : Orm} (neutral : run.Neutral) (source : SourceArtifact) :
    RowSafe (some x) Orm.Neutral (persistAcquisition owner run source) := by
  apply RowSafe.bind (RowSafe.boundary neutral)
  rintro ⟨run',now⟩ ⟨neutral',-⟩
  exact RowSafe.commitAssign neutral' ⟨fun _ => rfl,fun _ => rfl,fun _ => rfl,fun _ => rfl⟩

theorem transform_safe : RowSafe (some x) (fun _ => True) transform :=
  RowSafe.op (fun _ s => .files s.spool _ s.artifacts) fun _ _ _ _ => trivial

theorem prepare_safe {run : Orm} (startable : run.Startable) :
    RowSafe (some ⟨owner,epoch⟩) (fun found => found.1.Neutral) (prepare c owner run) := by
  apply RowSafe.bind (stage_safe startable _)
  intro run neutral
  apply RowSafe.bind removeWorkspace_safe
  intro _ _
  apply RowSafe.bind createWorkspace_safe
  intro _ _
  apply RowSafe.bind (RowSafe.commitAssign neutral (quiet_workspacePath _))
  intro run neutral
  apply RowSafe.bind (acquire_safe neutral)
  rintro ⟨run,source⟩ neutral
  apply RowSafe.bind (persistAcquisition_safe neutral source)
  intro run neutral
  apply RowSafe.bind (stage_safe neutral.startable _)
  intro run neutral
  dsimp only
  generalize skipped : (if source.nativeCompression = true then
    run.assign fun r => { r with sourceMetadata := some (if source.nativeCompression then source.metadata.skipSecondary else source.metadata).json.dump } else run) = view
  have neutral : view.Neutral := by
    rw [← skipped]
    split
    · exact neutral.assign ⟨fun _ => rfl,fun _ => rfl,fun _ => rfl,fun _ => rfl⟩
    · exact neutral
  apply RowSafe.bind transform_safe
  intro _ _
  apply RowSafe.bind (stage_safe neutral.startable _)
  intro run neutral
  apply RowSafe.bind transform_safe
  intro _ _
  apply RowSafe.bind (stage_safe neutral.startable _)
  intro run neutral
  apply RowSafe.bind (stage_safe neutral.startable _)
  intro run neutral
  exact RowSafe.pure neutral

structure Orm.Deliverable (run : Orm) : Prop where
  neutral : run.Neutral
  status : run.cur.status = .deliveryPending

theorem runSteps_safe (path : Path) (steps : List FsStep) : RowSafe (some x) (fun _ => True) (runSteps path steps) := by
  induction steps with
  | nil => exact RowSafe.pure trivial
  | cons step rest ih =>
    refine RowSafe.bind (M := fun _ => True) ?_ fun _ _ => ih
    exact RowSafe.op (fun _ s => .files _ s.workspace s.artifacts) fun _ _ _ _ => trivial

theorem discard_safe (path : Path) : RowSafe (some x) (fun _ => True) (discard path) :=
  RowSafe.op (fun _ s => .files _ s.workspace s.artifacts) fun _ _ _ _ => trivial

theorem finalizeArtifact_safe (p : Publication) : RowSafe (some x) (fun _ => True) (finalizeArtifact c p) := by
  apply RowSafe.bind (M := fun _ => True)
  · refine RowSafe.op (fun i s => ?_) fun _ _ _ _ => trivial
    split
    · exact .refl s
    · exact .files _ s.workspace s.artifacts
  · rintro ⟨torn,sameDevice⟩ -
    apply RowSafe.ite
    · intro _
      exact RowSafe.bind (discard_safe _) fun _ _ => RowSafe.throw _
    · intro _
      refine RowSafe.bind (M := fun _ => True) ?_ fun _ _ => RowSafe.pure trivial
      apply RowSafe.handle (runSteps_safe _ _)
      intro f
      exact RowSafe.bind (discard_safe _) fun _ _ => RowSafe.throw _

theorem clearWorkspacePath_safe {run : Orm} (deliverable : run.Deliverable) :
    RowSafe (some x) Orm.Deliverable (commit .clearWorkspacePath (run.assign fun r => { r with workspacePath := none })) := by
  apply (RowSafe.commit (deliverable.neutral.assign (quiet_workspacePath none))).weaken
  rintro _ rfl
  exact ⟨.flushed _,deliverable.status⟩

theorem deliveryPendingCommit_safe {run : Orm} (neutral : run.Neutral) (finalized : FinalizedArtifact)
    (manifest : List Nat) : RowSafe (some ⟨owner,epoch⟩) Orm.Deliverable
      (deliveryPendingCommit c owner (run.assign (·.finalizedAs finalized)) finalized manifest) := by
  refine RowSafe.bind (M := fun found => found.1.Deliverable) (RowSafe.fenced fun i s held _ => ?_) ?_
  · refine ⟨?_,Orm.Neutral.flushed _,rfl⟩
    split
    · exact .refl s
    · let view := (run.assign (·.finalizedAs finalized)).refreshFence s.run
      have cancel : (view.flush s.now s.run).cancelRequested = s.run.cancelRequested := if_pos rfl
      have owner_ : (view.flush s.now s.run).leaseOwner = s.run.leaseOwner := if_pos rfl
      have expiry : (view.flush s.now s.run).leaseExpiresAt = s.run.leaseExpiresAt := if_pos neutral.expiry
      have status : (view.flush s.now s.run).status = s.run.status ∨
          (view.flush s.now s.run).status = .deliveryPending := by
        by_cases same : RunStatus.deliveryPending = run.base.status
        · exact .inl (if_pos same)
        · exact .inr (if_neg same)
      exact ⟨rfl,rfl,rfl,rfl,rfl,fun _ _ => rfl,fun _ => rfl,.inl cancel,.inl owner_,fun _ => expiry,
        status.imp_right fun waiting => .deliverable rfl held waiting⟩
  · rintro ⟨run,clash⟩ deliverable
    apply RowSafe.ite
    · exact fun _ => RowSafe.throw _
    · exact fun _ => RowSafe.pure deliverable

theorem publish_safe {run : Orm} (neutral : run.Neutral) (p : Publication) :
    RowSafe (some ⟨owner,epoch⟩) Orm.Deliverable (publish c owner run p) := by
  refine RowSafe.bind (RowSafe.commitAssign neutral ⟨fun _ => rfl,fun _ => rfl,fun _ => rfl,fun _ => rfl⟩) ?_
  intro run neutral
  apply RowSafe.bind (finalizeArtifact_safe p)
  intro finalized _
  apply RowSafe.bind (RowSafe.boundary neutral)
  rintro ⟨run,now⟩ ⟨neutral,-⟩
  apply RowSafe.bind (M := fun _ => True) (RowSafe.look fun _ _ _ => trivial)
  intro manifest _
  apply RowSafe.bind (deliveryPendingCommit_safe neutral finalized manifest)
  intro run deliverable
  apply RowSafe.bind removeWorkspace_safe
  intro _ _
  exact clearWorkspacePath_safe deliverable

/-- The view after a resumption: of a deliverable run, or of one to be built. -/
def Resumption (found : Bool × Orm × Time) : Prop :=
  if found.1 then found.2.1.Deliverable else found.2.1.Neutral

theorem resume_safe {run : Orm} (neutral : run.Neutral) (now : Time) (finalized : FinalizedArtifact)
    (metadata : PyJson.Json) : RowSafe (some x) Resumption (resumeFinalized.resume c run now finalized metadata) := by
  apply RowSafe.bind (M := Orm.Deliverable)
  · refine RowSafe.op (fun i s => ?_) fun i s value returned => ?_
    · split
      · exact .refl s
      · let view := run.assign (·.resumedFrom finalized metadata)
        have cancel : (view.flush s.now s.run).cancelRequested = s.run.cancelRequested := if_pos neutral.cancel
        have owner_ : (view.flush s.now s.run).leaseOwner = s.run.leaseOwner := if_pos neutral.owner
        have expiry : (view.flush s.now s.run).leaseExpiresAt = s.run.leaseExpiresAt := if_pos neutral.expiry
        have status : (view.flush s.now s.run).status = s.run.status ∨
            (view.flush s.now s.run).status = .deliveryPending := by
          by_cases same : RunStatus.deliveryPending = run.base.status
          · exact .inl (if_pos same)
          · exact .inr (if_neg same)
        exact ⟨rfl,rfl,rfl,rfl,rfl,fun _ _ => rfl,fun _ => rfl,.inl cancel,.inl owner_,fun _ => expiry,
          status.imp_right fun waiting => .resumed waiting⟩
    · split at returned
      · contradiction
      · obtain rfl := Except.ok.inj returned
        exact ⟨.flushed _,rfl⟩
  · intro run deliverable
    apply RowSafe.bind removeWorkspace_safe
    intro _ _
    apply RowSafe.bind (clearWorkspacePath_safe deliverable)
    intro run deliverable
    exact RowSafe.pure deliverable

theorem resumeFinalized_safe {run : Orm} (neutral : run.Neutral) (now : Time) :
    RowSafe (some x) Resumption (resumeFinalized c run now) := by
  unfold resumeFinalized
  split
  · exact RowSafe.pure neutral
  · apply RowSafe.bind (M := fun _ => True) (RowSafe.look fun _ _ _ => trivial)
    rintro (_ | ⟨finalized,metadata⟩) -
    · refine RowSafe.op (fun _ s => .commit (neutral.assign ?_) s.artifacts) fun i s value returned => ?_
      · exact ⟨fun _ => rfl,fun _ => rfl,fun _ => rfl,fun _ => rfl⟩
      · obtain rfl := Except.ok.inj returned
        exact Orm.Neutral.flushed _
    · dsimp only
      split
      · apply RowSafe.ite
        · exact fun _ => RowSafe.throw _
        · exact fun _ => resume_safe neutral now finalized metadata
      · exact resume_safe neutral now finalized metadata

theorem build_safe {run : Orm} (neutral : run.Neutral) (now : Time) :
    RowSafe (some ⟨owner,epoch⟩) Orm.Deliverable (build c owner run now) := by
  apply RowSafe.bind (resumeFinalized_safe neutral now)
  rintro ⟨resumed,run,now⟩ after
  cases resumed with
  | true => exact RowSafe.pure after
  | false =>
    have neutral : run.Neutral := after
    refine RowSafe.bind (prepare_safe ⟨.inr rfl,neutral.cancel,neutral.owner,neutral.expiry⟩) ?_
    rintro ⟨run,p⟩ neutral
    exact publish_safe neutral p

end Build

/-! ### The delivery -/

section Delivery

variable {x : Execution} {c : Setup} {owner : Option Owner}

def Session.Deliverable (session : Session) : Prop := session.run.Deliverable

theorem Orm.Deliverable.refresh {run : Orm} (deliverable : run.Deliverable) (row : BackupRun) :
    (run.refreshFence row).Deliverable := ⟨deliverable.neutral.refresh row,deliverable.status⟩

theorem Orm.Deliverable.flushed {run : Orm} (deliverable : run.Deliverable) : run.flushed.Deliverable :=
  ⟨.flushed _,deliverable.status⟩

theorem boundary_deliverable {point : Point} {run : Orm} (deliverable : run.Deliverable) :
    RowSafe (some x) (fun found => found.1.Deliverable) (boundary point owner run) := by
  apply (RowSafe.boundary deliverable.neutral).weaken
  rintro found ⟨neutral,status⟩
  exact ⟨neutral,status.trans deliverable.status⟩

theorem createDeliveries_safe (selected : List AdminId) (loaded : List BackupDelivery) :
    RowSafe (some x) (fun _ => True) (createDeliveries selected loaded) := by
  refine RowSafe.op (fun i s => ?_) fun _ _ _ _ => trivial
  split
  · exact .refl s
  · exact .quiet rfl rfl rfl rfl rfl (fun _ _ => rfl) (fun absent => absurd (by decide) absent) rfl rfl rfl rfl

theorem commitDelivery_safe {point : Point} {session : Session} (deliverable : session.Deliverable)
    (base : BackupDelivery) (assigned : Time → BackupDelivery) (member : point ∈ deliveryPoints) :
    RowSafe (some x) (fun found => found.1.Deliverable) (commitDelivery point session base assigned) := by
  refine RowSafe.op (fun i s => .store deliverable.neutral _ member) fun i s value returned => ?_
  obtain rfl := Except.ok.inj returned
  exact Orm.Deliverable.flushed deliverable

theorem fencedDelivery_safe {point : Point} {checkCancel : Bool} {session : Session}
    (deliverable : session.Deliverable) (base : BackupDelivery) (assigned : Answer → Time → BackupDelivery)
    (member : point ∈ deliveryPoints) : RowSafe (some x) (fun found => found.1.Deliverable)
      (fencedDelivery point owner checkCancel session base assigned) := by
  refine RowSafe.fenced fun i s _ _ => ⟨?_,(Orm.Deliverable.refresh deliverable s.run).flushed⟩
  exact .store (deliverable.neutral.refresh s.run) _ member

theorem sendFile_safe (admin : AdminId) (part : Nat) : RowSafe (some x) (fun _ => True) (sendFile admin part) := by
  apply RowSafe.onFailure
  · refine RowSafe.bind (M := fun _ => True) (RowSafe.op (fun i s => ?_) fun _ _ _ _ => trivial) fun _ _ => ?_
    · exact .quiet rfl rfl rfl rfl rfl (fun here _ => absurd rfl here) (fun _ => rfl) rfl rfl rfl rfl
    · refine RowSafe.bind (M := fun _ => True) (RowSafe.op (fun i s => ?_) fun _ _ _ _ => trivial) fun _ _ => ?_
      · exact .quiet rfl rfl rfl rfl rfl (fun _ here => absurd rfl here) (fun _ => rfl) rfl rfl rfl rfl
      · exact RowSafe.pure trivial
  · exact fun _ => RowSafe.pure trivial

theorem sendParts_safe (admin : AdminId) (parts : List ArtifactPart) {session : Session}
    (deliverable : session.Deliverable) (delivery : BackupDelivery) :
    RowSafe (some x) (fun found => found.1.Deliverable) (sendParts c owner admin parts session delivery) := by
  induction parts generalizing session delivery with
  | nil => exact RowSafe.pure deliverable
  | cons artifact rest ih =>
    apply RowSafe.bind (fencedDelivery_safe deliverable _ _ (by decide))
    rintro ⟨session,delivery⟩ deliverable
    apply RowSafe.bind (sendFile_safe admin artifact.number)
    rintro (f | ⟨messageId,fileId⟩) -
    · exact fencedDelivery_safe deliverable _ _ (by decide)
    · apply RowSafe.bind (fencedDelivery_safe deliverable _ _ (by decide))
      rintro ⟨session,delivery⟩ deliverable
      exact ih deliverable delivery

theorem authorize_safe (users : List User) (admin : AdminId) : RowSafe (some x) (fun _ => True) (authorize users admin) := by
  unfold authorize
  split
  · exact RowSafe.pure trivial
  · apply RowSafe.ite
    · exact fun _ => RowSafe.pure trivial
    · exact fun _ => RowSafe.look fun _ _ _ => trivial

theorem serve_safe (round : Round) (admin : AdminId) {session : Session} (deliverable : session.Deliverable) :
    RowSafe (some x) Session.Deliverable (serve c round admin session) := by
  apply RowSafe.bind (boundary_deliverable deliverable)
  rintro ⟨run,now⟩ running
  have deliverable : Session.Deliverable ⟨run,session.deliveries⟩ := running
  dsimp only
  split
  · exact RowSafe.pure deliverable
  · rename_i delivery _
    have written {point : Point} (assigned : Time → BackupDelivery) (member : point ∈ deliveryPoints) :
        RowSafe (some x) Session.Deliverable
          (commitDelivery point ⟨run,session.deliveries⟩ delivery assigned >>= fun found => Pure.pure found.1) :=
      RowSafe.bind (commitDelivery_safe deliverable _ _ member) fun found after => RowSafe.pure after
    apply RowSafe.ite (fun _ => RowSafe.pure deliverable)
    intro _
    apply RowSafe.ite (fun _ => written _ (by decide))
    intro _
    apply RowSafe.bind (authorize_safe _ _)
    intro authorized _
    apply RowSafe.ite (fun _ => written _ (by decide))
    intro _
    apply RowSafe.bind (sendParts_safe admin _ deliverable delivery)
    rintro ⟨session,delivery⟩ deliverable
    apply RowSafe.ite
    · intro _
      exact RowSafe.bind (commitDelivery_safe deliverable _ _ (by decide)) fun found after => RowSafe.pure after
    · exact fun _ => RowSafe.pure deliverable

theorem serveAll_safe (round : Round) (admins : List AdminId) {session : Session}
    (deliverable : session.Deliverable) : RowSafe (some x) Session.Deliverable (serveAll c round admins session) := by
  induction admins generalizing session with
  | nil => exact RowSafe.pure deliverable
  | cons admin rest ih => exact RowSafe.bind (serve_safe round admin deliverable) fun session after => ih after

theorem settle_safe {session : Session} (deliverable : session.Deliverable) :
    RowSafe (some x) (fun _ => True) (settle c owner session) := by
  refine RowSafe.fenced fun i s _ notCancelled => ⟨?_,trivial⟩
  have neutral := deliverable.neutral.refresh s.run
  dsimp only
  split
  · let view := (session.run.refreshFence s.run).assign BackupRun.released
    have status : (view.flush s.now s.run).status = s.run.status :=
      if_pos (deliverable.status.symm.trans deliverable.neutral.status)
    have released : (view.flush s.now s.run).leaseOwner = none := by
      by_cases none_ : s.run.leaseOwner = none
      · exact (if_pos none_.symm).trans none_
      · exact if_neg fun same => none_ same.symm
    exact ⟨rfl,rfl,rfl,rfl,rfl,fun _ _ => rfl,fun _ => rfl,.inl (if_pos rfl),.inr ⟨released,.inl rfl⟩,
      fun held => absurd released held,.inl status⟩
  · rename_i status ends
    split_ifs with waiting
    · have result : status = .succeeded ∨ status = .failed := by
        unfold outcome at ends
        split_ifs at ends
        · exact .inr (Option.some.inj ends).symm
        · exact .inl (Option.some.inj ends).symm
      exact ⟨rfl,rfl,rfl,rfl,rfl,fun _ _ => rfl,fun _ => rfl,.inl (neutral.flush_cancel s.now s.run),.inr ⟨rfl,.inl rfl⟩,
        fun held => absurd rfl held,.inr (.settled waiting (notCancelled rfl) result rfl)⟩
    · exact .refl s

theorem removeDelivered_safe {run : Orm} (neutral : run.Neutral) : RowSafe (some x) (fun _ => True) (removeDelivered c run) := by
  unfold removeDelivered
  split
  · exact RowSafe.throw _
  · refine RowSafe.bind (M := fun _ => True) (RowSafe.op (fun i s => ?_) fun _ _ _ _ => trivial) fun _ _ => ?_
    · exact .files _ s.workspace s.artifacts
    · refine RowSafe.bind (RowSafe.commitAssign neutral ?_) fun _ _ => RowSafe.pure trivial
      exact ⟨fun _ => rfl,fun _ => rfl,fun _ => rfl,fun _ => rfl⟩

theorem selectUsers_safe : RowSafe (some x) (fun _ => True) (selectUsers c) := by
  refine RowSafe.bind (M := fun _ => True) (RowSafe.look fun _ _ _ => trivial) fun _ _ => ?_
  refine RowSafe.bind (M := fun _ => True) (RowSafe.look fun _ _ _ => trivial) fun _ _ => ?_
  exact RowSafe.bind (M := fun _ => True) (RowSafe.look fun _ _ _ => trivial) fun _ _ => RowSafe.pure trivial

theorem attempt_safe {run : Orm} (deliverable : run.Deliverable) : RowSafe (some x) (fun _ => True) (attempt c run) := by
  apply RowSafe.bind (boundary_deliverable deliverable)
  rintro ⟨run',now⟩ deliverable
  dsimp only
  split
  · exact RowSafe.throw _
  · apply RowSafe.bind (M := fun _ => True) (RowSafe.look fun _ _ _ => trivial)
    intro artifacts _
    apply RowSafe.bind selectUsers_safe
    intro users _
    apply RowSafe.bind (M := fun _ => True) (RowSafe.look fun _ _ _ => trivial)
    intro loaded _
    apply RowSafe.bind (createDeliveries_safe _ _)
    intro deliveries _
    apply RowSafe.bind (boundary_deliverable deliverable)
    rintro ⟨run'',now⟩ deliverable
    have sending : Session.Deliverable ⟨run''.assign fun r => { r with stage := .telegramDelivery },deliveries⟩ :=
      ⟨deliverable.neutral.assign (quiet_stage _),deliverable.status⟩
    apply RowSafe.bind (serveAll_safe _ _ sending)
    intro session deliverable
    apply RowSafe.bind (settle_safe deliverable)
    rintro (_ | status | _) -
    · exact RowSafe.pure trivial
    · apply RowSafe.bind (M := Orm.Neutral)
      · refine RowSafe.look fun s value returned => ?_
        obtain rfl := Except.ok.inj returned
        exact .load _
      · intro run neutral
        apply RowSafe.ite
        · exact fun _ => RowSafe.pure trivial
        · exact fun _ => removeDelivered_safe neutral
    · exact RowSafe.bind (boundary_deliverable deliverable) fun _ _ => RowSafe.throw _

end Delivery

/-! ### The ends of an execution -/

section Ends

variable {x : Execution} {c : Setup} {owner : Owner} {epoch : Nat}

theorem clearCancelledPaths_safe (cleanup : CancellationCleanup)
    (workspaceCleaned pendingCleaned : Bool) :
    RowSafe (some x) (fun _ => True) (clearCancelledPaths cleanup workspaceCleaned pendingCleaned) := by
  apply RowSafe.bind (M := fun found => ∀ run, found = some run → run.Neutral)
  · refine RowSafe.look fun s value returned => ?_
    obtain rfl := Except.ok.inj returned
    intro run found
    split_ifs at found
    · obtain rfl := Option.some.inj found
      exact .load _
  · rintro (_ | run) neutral
    · exact RowSafe.pure trivial
    · refine RowSafe.bind (RowSafe.commitAssign (neutral run rfl) ?_) fun _ _ => RowSafe.pure trivial
      exact ⟨fun _ => rfl,fun _ => rfl,fun _ => rfl,fun _ => rfl⟩

theorem removeCancelledPending_safe (path : Path) :
    RowSafe (some x) (fun _ => True) (removeCancelledPending c path) := by
  refine RowSafe.op (fun i s => ?_) fun _ _ _ _ => trivial
  split
  · exact .files _ s.workspace s.artifacts
  · exact .refl s

theorem finalizeCancelRequested_safe :
    RowSafe (some x) (fun _ => True) (finalizeCancelRequested c owner) := by
  apply RowSafe.bind (M := fun _ => True)
  · refine RowSafe.op (fun i s => ?_) fun _ _ _ _ => trivial
    unfold World.finalizeCancelRequested
    split_ifs with held
    · have held : s.run.status.Active ∧ s.run.cancelRequested = true := by
        simp only [finalizable,Bool.and_eq_true,decide_eq_true_eq] at held
        exact ⟨List.contains_iff_mem.mp held.1.1,held.1.2⟩
      exact ⟨rfl,rfl,rfl,rfl,rfl,fun _ _ => rfl,fun _ => rfl,.inl rfl,.inr ⟨rfl,.inr (.inl rfl)⟩,
        fun kept => absurd rfl kept,.inr (.cancelled held.1 held.2 rfl rfl)⟩
    · exact .refl s
  · rintro (_ | cleanup) -
    · exact RowSafe.pure trivial
    · have clear (workspaceCleaned pendingCleaned : Bool) : RowSafe (some x) (fun _ => True) (do
          if workspaceCleaned || pendingCleaned then clearCancelledPaths cleanup workspaceCleaned pendingCleaned
          return true) := by
        cases workspaceCleaned || pendingCleaned with
        | true => exact RowSafe.bind (clearCancelledPaths_safe _ _ _) fun _ _ => RowSafe.pure trivial
        | false => exact RowSafe.pure trivial
      have pending (path : Path) : RowSafe (some x) (fun _ => True)
          (onFailure (do removeCancelledPending c path; return true) fun _ => return false) :=
        RowSafe.onFailure (RowSafe.bind (removeCancelledPending_safe path) fun _ _ => RowSafe.pure trivial)
          fun _ => RowSafe.pure trivial
      have workspace : RowSafe (some x) (fun _ => True)
          (onFailure (do removeWorkspace .cancelled; return true) fun _ => return false) :=
        RowSafe.onFailure (RowSafe.bind removeWorkspace_safe fun _ _ => RowSafe.pure trivial)
          fun _ => RowSafe.pure trivial
      have nothing : RowSafe (some x) (fun _ => True) (Pure.pure true : Proc Bool) := RowSafe.pure trivial
      obtain ⟨workspacePath,pendingDirectory⟩ := cleanup
      cases workspacePath with
      | none =>
        cases pendingDirectory with
        | none =>
          exact RowSafe.bind nothing fun _ _ => RowSafe.bind nothing fun _ _ => clear _ _
        | some path =>
          exact RowSafe.bind nothing fun _ _ => RowSafe.bind (pending path) fun _ _ => clear _ _
      | some _ =>
        cases pendingDirectory with
        | none =>
          exact RowSafe.bind workspace fun _ _ => RowSafe.bind nothing fun _ _ => clear _ _
        | some path =>
          exact RowSafe.bind workspace fun _ _ => RowSafe.bind (pending path) fun _ _ => clear _ _

theorem failPoint_cases (row : BackupRun) (code : String) :
    failPoint row code = .failCommit ∨ failPoint row code = .failRelease := by
  by_cases released : row.status = .deliveryPending ∧ !terminalCodes.contains code
  · exact .inr (if_pos released)
  · exact .inl (if_neg released)

theorem failedWith_cases (row : BackupRun) (c : Setup) (code : String) (now : Time) :
    ((row.failedWith c code now).status = row.status ∨
      failPoint row code = .failCommit ∧ (row.failedWith c code now).status = .failed) ∧
      (row.failedWith c code now).cancelRequested = row.cancelRequested := by
  unfold BackupRun.failedWith BackupRun.completed failPoint
  by_cases waiting : row.status = .deliveryPending
  · by_cases terminal : code ∈ terminalCodes
    · simp [waiting,terminal]
    · simp [waiting,terminal]
  · simp [waiting]

theorem fail_safe (code : String) : RowSafe (some ⟨owner,epoch⟩) (fun _ => True) (fail c owner code) := by
  apply RowSafe.bind (M := fun found => ∀ row, found = some row → row.leaseOwner = some owner)
  · refine RowSafe.look fun s value returned => ?_
    obtain rfl := Except.ok.inj returned
    intro row found
    split_ifs at found with held
    · obtain rfl := Option.some.inj found
      exact held.2
  · rintro (_ | row) held
    · exact RowSafe.pure trivial
    · have commits : RowSafe (some ⟨owner,epoch⟩) (fun _ => True) (op (failPoint row code)
          (fun _ s => { s with run := ((Orm.load row).assign (·.failedWith c code s.now)).flush s.now s.run })
          (fun _ _ => .ok ())) := by
        refine RowSafe.op (fun i s => ?_) fun _ _ _ _ => trivial
        let view := (Orm.load row).assign (·.failedWith c code s.now)
        have released : (view.flush s.now s.run).leaseOwner = none := by
          refine if_neg fun same => ?_
          have none_ : none = row.leaseOwner := same
          rw [held row rfl] at none_
          contradiction
        have status : (view.flush s.now s.run).status = s.run.status ∨
            failPoint row code = .failCommit ∧ (view.flush s.now s.run).status = .failed := by
          by_cases same : (row.failedWith c code s.now).status = row.status
          · exact .inl (if_pos same)
          · obtain ⟨ends,failed⟩ := (failedWith_cases row c code s.now).1.resolve_left same
            exact .inr ⟨ends,(if_neg same).trans failed⟩
        refine ⟨rfl,rfl,rfl,rfl,rfl,fun _ _ => rfl,fun _ => ?_,.inl (if_pos (failedWith_cases row c code s.now).2),
          .inr ⟨released,.inr (.inr (failPoint_cases row code))⟩,fun kept => absurd released kept,?_⟩
        · rfl
        · exact status.imp_right fun ⟨ends,failed⟩ => ends ▸ .failed failed released
      dsimp only
      split_ifs
      · exact RowSafe.bind removeWorkspace_safe fun _ _ => commits
      · exact commits

theorem handleException_safe (task : Nat) (f : Exc) :
    RowSafe (some ⟨owner,epoch⟩) (fun _ => True) (handleException c owner task f) := by
  rw [handleException.eq_def]
  apply RowSafe.bind (M := fun _ => True) (RowSafe.look fun _ _ _ => trivial)
  intro lost _
  apply RowSafe.ite (fun _ => RowSafe.pure trivial)
  intro _
  apply RowSafe.bind finalizeCancelRequested_safe
  intro done _
  apply RowSafe.ite (fun _ => RowSafe.pure trivial)
  intro _
  cases f with
  | cancelled => exact RowSafe.throw _
  | failure f => exact fail_safe _

theorem work_safe : RowSafe (some ⟨owner,epoch⟩) (fun _ => True) (work c owner) := by
  apply RowSafe.bind (M := fun found => ∃ row, found.1 = Orm.load row)
  · refine RowSafe.look fun s value returned => ?_
    obtain rfl := Except.ok.inj returned
    exact ⟨_,rfl⟩
  · rintro ⟨_,now⟩ ⟨row,rfl⟩
    apply RowSafe.ite (fun _ => RowSafe.throw _)
    intro _
    apply RowSafe.ite (fun waiting => attempt_safe ⟨.load row,waiting⟩)
    intro _
    apply RowSafe.ite (fun _ => RowSafe.throw _)
    intro _
    exact RowSafe.bind (build_safe (.load row) now) fun run deliverable => attempt_safe deliverable

/-- Every operation of an execution is a row step. -/
theorem execute_safe (task : Nat) : RowSafe (some ⟨owner,epoch⟩) (fun _ => True) (execute c owner task) :=
  RowSafe.handle work_safe fun f => handleException_safe task f

end Ends

/-! ### Requests -/

section Requests

variable {c : Setup}

theorem retryFailed_safe : RowSafe none (fun _ => True) (retryFailed c) := by
  apply RowSafe.bind (M := fun _ => True) (RowSafe.requestLook (by decide) fun _ _ _ => trivial)
  rintro ⟨row,loaded⟩ -
  refine RowSafe.request (by decide) (fun i s => ?_) fun _ _ _ _ => trivial
  dsimp only
  split
  · rename_i verified
    have failed : s.run.status = .failed ∧ s.run.leaseOwner = none := by
      have checked := (Bool.and_eq_true _ _ ▸ verified).1
      split at checked
      · contradiction
      · simp only [retryable,Bool.and_eq_true,decide_eq_true_eq,Option.isNone_iff_eq_none] at checked
        exact checked.1.1
    exact ⟨rfl,rfl,rfl,rfl,rfl,fun _ _ => rfl,fun absent => absurd (by decide) absent,.inr ⟨rfl,failed.1,rfl⟩,
      .inl rfl,fun _ => rfl,.inr (.retried failed.1 failed.2 rfl)⟩
  · exact .refl s

theorem dropRetained_step {point : Point} (s : World) (path : Path) (i : Answer) :
    RowStep none point s (s.dropRetained c path i) := by
  unfold World.dropRetained
  dsimp only
  split
  · exact .files _ s.workspace s.artifacts
  · exact .quiet rfl rfl rfl rfl rfl (fun _ _ => rfl) (fun _ => rfl) rfl rfl rfl rfl

theorem purgeFailedArtifact_safe : RowSafe none (fun _ => True) (purgeFailedArtifact c) := by
  apply RowSafe.bind (M := fun _ => True) (RowSafe.requestLook (by decide) fun _ _ _ => trivial)
  intro row _
  refine RowSafe.request (by decide) (fun i s => ?_) fun _ _ _ _ => trivial
  dsimp only
  split
  · exact dropRetained_step s _ i
  · exact .refl s

theorem cleanupRun_step {point : Point} (i : Answer) (s : World) : RowStep none point s (cleanupRun c i s) := by
  have quiet (run : BackupRun) (spool : Path → Option Dir) (status : run.status = s.run.status)
      (cancel : run.cancelRequested = s.run.cancelRequested) (owner : run.leaseOwner = s.run.leaseOwner)
      (expiry : run.leaseExpiresAt = s.run.leaseExpiresAt) :
      RowStep none point s { s with run := run, spool := spool } :=
    .quiet rfl rfl rfl rfl rfl (fun _ _ => rfl) (fun _ => rfl) status cancel owner expiry
  unfold cleanupRun
  dsimp only
  split
  · exact .refl s
  split
  · exact .refl s
  split
  · exact quiet _ s.spool rfl rfl rfl rfl
  split
  · exact .refl s
  split
  · exact quiet _ s.spool rfl rfl rfl rfl
  split
  · exact quiet _ s.spool rfl rfl rfl rfl
  split
  · exact quiet _ s.spool rfl rfl rfl rfl
  split
  · exact quiet _ _ rfl rfl rfl rfl
  · exact dropRetained_step s _ i

theorem cleanupExpired_safe : RowSafe none (fun _ => True) (cleanupExpired c) :=
  RowSafe.request (by decide) (fun i s => cleanupRun_step i s) fun _ _ _ _ => trivial

theorem recoverWorkspace_safe {run : Orm} (neutral : run.Neutral) : RowSafe none Orm.Neutral (recoverWorkspace run) := by
  apply RowSafe.ite
  · intro _
    refine RowSafe.bind (M := fun _ => True) (RowSafe.request (by decide) (fun _ s => ?_) fun _ _ _ _ => trivial) fun _ _ => ?_
    · exact .files s.spool _ s.artifacts
    · exact RowSafe.pure (neutral.assign (quiet_workspacePath none))
  · exact fun _ => RowSafe.pure neutral

theorem recoverPending_safe {run : Orm} (neutral : run.Neutral) : RowSafe none Orm.Neutral (recoverPending c run) := by
  unfold recoverPending
  split
  · exact RowSafe.pure neutral
  · apply RowSafe.ite
    · intro _
      refine RowSafe.bind (M := fun _ => True) (RowSafe.request (by decide) (fun i s => ?_) fun _ _ _ _ => trivial)
        fun _ _ => ?_
      · split
        · exact .files _ s.workspace s.artifacts
        · exact .refl s
      · exact RowSafe.pure (neutral.assign ⟨fun _ => rfl,fun _ => rfl,fun _ => rfl,fun _ => rfl⟩)
    · exact fun _ => RowSafe.pure neutral

theorem recoverRecorded_safe : RowSafe none (fun _ => True) (recoverRecorded c) := by
  apply RowSafe.bind (M := fun found => ∀ run, found = some run → run.Neutral)
  · refine RowSafe.requestLook (by decide) fun s value returned => ?_
    obtain rfl := Except.ok.inj returned
    intro run found
    split_ifs at found
    obtain rfl := Option.some.inj found
    exact .load _
  · rintro (_ | run) neutral
    · exact cleanupExpired_safe
    · apply RowSafe.bind (recoverWorkspace_safe (neutral run rfl))
      intro run neutral
      apply RowSafe.bind (recoverPending_safe neutral)
      intro run neutral
      exact RowSafe.bind (RowSafe.requestCommit (by decide) neutral) fun _ _ => cleanupExpired_safe

theorem request_safe (r : Request) : RowSafe none (fun _ => True) (r.program c) := by
  cases r with
  | retry => exact retryFailed_safe
  | purge => exact purgeFailedArtifact_safe
  | cleanup => exact cleanupExpired_safe
  | recovery => exact recoverRecorded_safe

end Requests

/-! ### All tasks of a run -/

def rowContracts : System.Contracts := fun _ e => rowContract e

theorem rowContracts_sound {c : Setup} {allowed : System → Act → Prop} {s : System} (run : Reached c allowed s) :
    System.Sound rowContracts s := by
  refine Runs.invariant ?_ ?_ run
  · rintro s ⟨now,users,access,rfl | rfl⟩ t p point task
    · contradiction
    · contradiction
  · intro s a s' sound _ h
    by_cases performs : ∃ t i, a = .perform t i
    · obtain ⟨t,i,rfl⟩ := performs
      obtain ⟨point,waits⟩ := System.waits_of_perform h
      exact (sound.perform h waits trivial trivial).2 fun _ _ _ _ => trivial
    · refine sound.other h (fun t i same => performs ⟨t,i,same⟩) (fun _ _ _ _ _ => trivial) ?_ ?_ fun _ _ _ _ => trivial
      · exact fun t owner _ => Holds.mono (fun _ _ _ => trivial) (execute_safe t _)
      · intro t r _
        exact Holds.mono (fun _ _ _ => trivial) (request_safe r _)

/-- In every run, whatever a task performs is a row step of its execution. -/
theorem rowStep_of_perform {c : Setup} {allowed : System → Act → Prop} {s s' : System} {t : Nat} {i : Answer}
    (run : Reached c allowed s) (h : System.step c s (.perform t i) = some s') :
    ∃ point, s.pointOf t = some point ∧ RowStep (s.execution t) point s.world s'.world ∧
      (s.execution t = none → point ∈ requestPoints) := by
  obtain ⟨point,waits⟩ := System.waits_of_perform h
  exact ⟨point,waits,((rowContracts_sound run).perform h waits trivial trivial).1⟩

end BackupTelebot
