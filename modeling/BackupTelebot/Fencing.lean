import BackupTelebot.RowSteps

/-! Lease fencing. Ownership is compared in the row, so an execution whose run was claimed
again is stopped at its next comparison. What it does without one, between an earlier look
and its next comparison, is the window that a later claim must not fall into. -/
namespace BackupTelebot

open Interleave

/-- The places from which an execution goes on to write what it does not compare again. -/
def uncheckedPoints : List Point :=
  [.load,.recover,.forgetPending,.resumeCommit,.stageCommit,.persistCommit,.intentCommit,.verifyArtifacts,
    .liveAssigned,.assignedAdmins,.superadmins,.loadDeliveries,.createDeliveries,.maxAttempts,.authorize,
    .skipRevoked,.send,.succeeded,.removeWorkspace .failing,.failCommit,.failRelease]

def releasePoints : List Point := [.settle,.finalizeCancel,.failCommit,.failRelease]

def statusPoints : List Point :=
  [.stageFenced,.deliveryPending,.resumeCommit,.finalizeCancel,.settle,.failCommit,.retryCommit]

def Upload.starts : Upload → Bool
  | .sent .. => true
  | .acknowledged .. => false

/-- Nothing is written to the run but the path of its workspace, nothing to its deliveries
and artifacts, and no upload starts. -/
structure Untouched (s s' : World) : Prop where
  row : { s'.run with workspacePath := s.run.workspacePath, updatedAt := s.run.updatedAt } = s.run
  deliveries : s'.deliveries = s.deliveries
  artifacts : s'.artifacts = s.artifacts
  uploads : s'.uploads.filter Upload.starts = s.uploads.filter Upload.starts

namespace Untouched

variable {s s' : World} (same : Untouched s s')
include same

theorem status : s'.run.status = s.run.status := by
  have row := congrArg BackupRun.status same.row
  exact row

theorem owner : s'.run.leaseOwner = s.run.leaseOwner := by
  have row := congrArg BackupRun.leaseOwner same.row
  exact row

end Untouched

theorem Untouched.refl (s : World) : Untouched s s := ⟨rfl,rfl,rfl,rfl⟩

def Closed (s : World) : Prop := s.run.status = .succeeded ∨ s.run.status = .cancelled

/-! ### The contract of an execution -/

section Contract

variable (x : Execution)

def Barred (s : World) : Prop := s.claims ≠ x.epoch → s.run.leaseOwner ≠ some x.owner

/-- What the others leave alone while this is the latest claim, and that no other claim is
granted to this owner or falls into an unchecked window. -/
structure FenceRely (point : Point) (s s' : World) : Prop where
  claims : s.claims ≤ s'.claims
  later : s.claims ≠ x.epoch → s'.claims ≠ x.epoch
  barred : Barred x s → Barred x s'
  window : point ∈ uncheckedPoints → s.claims = x.epoch → s'.claims = x.epoch
  lease : s'.claims = s.claims → s.claims = x.epoch → s'.run.leaseOwner = s.run.leaseOwner
  closed : s.claims = x.epoch → Closed s → s'.claims = s.claims ∧ s'.run.status = s.run.status

theorem FenceRely.refl (point : Point) (s : World) : FenceRely x point s s :=
  ⟨le_rfl,id,id,fun _ => id,fun _ _ => rfl,fun _ _ => ⟨rfl,rfl⟩⟩

theorem FenceRely.trans {point : Point} {a b c : World} (first : FenceRely x point a b)
    (second : FenceRely x point b c) : FenceRely x point a c where
  claims := first.claims.trans second.claims
  later := fun h => second.later (first.later h)
  barred := fun h => second.barred (first.barred h)
  window := fun member h => second.window member (first.window member h)
  lease := by
    intro same latest
    have before : b.claims = a.claims := le_antisymm (same ▸ second.claims) first.claims
    exact (second.lease (same.trans before.symm) (before.trans latest)).trans (first.lease before latest)
  closed := by
    intro latest ended
    obtain ⟨claims,status⟩ := first.closed latest ended
    have ended' : Closed b := by
      unfold Closed
      rw [status]
      exact ended
    obtain ⟨claims',status'⟩ := second.closed (claims.trans latest) ended'
    exact ⟨claims'.trans claims,status'.trans status⟩

def fenceContract : Contract Point Answer World Exc where
  rely := FenceRely x
  guar := fun _ s s' => s.claims ≠ x.epoch → Untouched s s'
  allowed := fun _ _ _ => True
  raises := fun _ _ _ => True
  known := RowStep (some x)
  refl := FenceRely.refl x
  trans := FenceRely.trans x

def Current (s : World) : Prop := s.claims = x.epoch ∧ s.run.leaseOwner = some x.owner

def Finished (s : World) : Prop := s.claims = x.epoch ∧ Closed s

end Contract

section Phases

variable {x : Execution} {point : Point} {s s' : World}

theorem Current.barred (current : Current x s) : Barred x s := fun later => absurd current.1 later

theorem Finished.barred (finished : Finished x s) : Barred x s := fun later => absurd finished.1 later

/-- Who is named by the row is the latest claim. -/
theorem Barred.current (barred : Barred x s) (owned : s.run.leaseOwner = some x.owner) : Current x s := by
  refine ⟨?_,owned⟩
  by_contra later
  exact barred later owned

theorem Barred.step {e : Option Execution} (barred : Barred x s) (step : RowStep e point s s') : Barred x s' := by
  intro later owned
  rw [step.claims] at later
  rcases step.lease with same | ⟨released,-⟩
  · exact barred later (same ▸ owned)
  · simp [released] at owned

theorem Current.rely (current : Current x s) (rely : FenceRely x point s s') (window : point ∈ uncheckedPoints) :
    Current x s' := by
  have latest := rely.window window current.1
  exact ⟨latest,(rely.lease (latest.trans current.1.symm) current.1).trans current.2⟩

theorem Finished.rely (finished : Finished x s) (rely : FenceRely x point s s') : Finished x s' := by
  obtain ⟨claims,status⟩ := rely.closed finished.1 finished.2
  refine ⟨claims.trans finished.1,?_⟩
  unfold Closed
  rw [status]
  exact finished.2

/-- An operation by which the lease is not given up. -/
theorem Current.step (current : Current x s) (step : RowStep (some x) point s s') (keeps : point ∉ releasePoints) :
    Current x s' := by
  refine ⟨step.claims.trans current.1,?_⟩
  rcases step.lease with same | ⟨-,which⟩
  · exact same.trans current.2
  · exfalso
    apply keeps
    rcases which with rfl | rfl | rfl | rfl <;> simp [releasePoints]

/-- An operation that does not change the status. -/
theorem Finished.step (finished : Finished x s) (step : RowStep (some x) point s s') (keeps : point ∉ statusPoints) :
    Finished x s' := by
  have status : s'.run.status = s.run.status := by
    rcases step.status with same | change
    · exact same
    · cases change <;> simp [statusPoints] at keeps
  refine ⟨step.claims.trans finished.1,?_⟩
  unfold Closed
  rw [status]
  exact finished.2

end Phases

/-! ### Programs under the contract -/

/-- From states of one kind the program leads to states of another; what it raises, it
raises where the row names this owner only if nobody has claimed the run again. -/
def Walk (x : Execution) {α : Type} (P : World → Prop) (Q : α → World → Prop) (p : Proc α) : Prop :=
  ∀ s, P s → Holds (fenceContract x) (Ends Q (Barred x)) p s

namespace Walk

variable {x : Execution} {α β : Type} {P P' : World → Prop}

theorem bind {M : α → World → Prop} {Q : β → World → Prop} {p : Proc α} {body : α → Proc β} (first : Walk x P M p)
    (next : ∀ value, Walk x (M value) Q (body value)) : Walk x P Q (p >>= body) :=
  fun s here => Holds.andThen (first s here) fun value s h => next value s h

theorem pure {Q : α → World → Prop} {value : α} (h : ∀ s, P s → Q value s) : Walk x P Q (Pure.pure value : Proc α) :=
  fun s here => h s here

theorem throw {Q : α → World → Prop} (err : Exc) (h : ∀ s, P s → Barred x s) :
    Walk x P Q (MonadExcept.throw err : Proc α) := fun s here => h s here

theorem before {Q : α → World → Prop} {p : Proc α} (weaker : ∀ s, P' s → P s) (walk : Walk x P Q p) : Walk x P' Q p :=
  fun s here => walk s (weaker s here)

theorem after {Q Q' : α → World → Prop} {p : Proc α} (walk : Walk x P Q p) (weaker : ∀ value s, Q value s → Q' value s) :
    Walk x P Q' p := fun s here => Holds.weaken weaker (walk s here)

/-- A fact about values rather than states. -/
theorem given {fact : Prop} {Q : α → World → Prop} {p : Proc α} (walk : fact → Walk x P Q p) :
    Walk x (fun s => fact ∧ P s) Q p := fun s here => walk here.1 s here.2

theorem ite {condition : Prop} [Decidable condition] {Q : α → World → Prop} {p q : Proc α}
    (yes : condition → Walk x P Q p) (no : ¬condition → Walk x P Q q) : Walk x P Q (if condition then p else q) := by
  split
  · exact yes (by assumption)
  · exact no (by assumption)

theorem onFailure {Q : α → World → Prop} {p : Proc α} {handler : Failure → Proc α} (first : Walk x P Q p)
    (handles : ∀ f, Walk x (Barred x) Q (handler f)) : Walk x P Q (BackupTelebot.onFailure p handler) :=
  fun s here => Holds.onFailure (first s here) fun f s h => handles f s h

theorem handle {Q : α → World → Prop} {p : Proc α} {handler : Exc → Proc α} (first : Walk x P Q p)
    (handles : ∀ f, Walk x (Barred x) Q (handler f)) : Walk x P Q (p.handle handler) :=
  fun s here => Holds.handled (first s here) fun f s h => handles f s h

/-- In a window the execution is the latest claim, so it may do anything but release. -/
theorem window {Q : α → Prop} (point : Point) (unchecked : point ∈ uncheckedPoints ∧ point ∉ releasePoints)
    {effect : Answer → World → World} {result : Answer → World → Except Exc α}
    (results : ∀ i s value, Current x s → result i s = .ok value → Q value) :
    Walk x (Current x) (fun value s => Q value ∧ Current x s) (BackupTelebot.op point effect result) := by
  intro s current
  refine Holds.op (fun s' i rely _ step => ?_) fun s' rely => (current.rely rely unchecked.1).barred
  have now := current.rely rely unchecked.1
  have next := now.step step unchecked.2
  exact ⟨fun later => absurd now.1 later,next.barred,fun value returned => ⟨results i s' value now returned,next⟩⟩

/-- Elsewhere an operation that touches nothing is harmless. -/
theorem harmless {Q : α → Prop} {point : Point} {effect : Answer → World → World}
    {result : Answer → World → Except Exc α} (untouched : ∀ i s, Untouched s (effect i s))
    (results : ∀ i s value, result i s = .ok value → Q value) :
    Walk x (Barred x) (fun value s => Q value ∧ Barred x s) (BackupTelebot.op point effect result) := by
  intro s barred
  refine Holds.op (fun s' i rely _ step => ?_) fun s' rely => rely.barred barred
  have next := (rely.barred barred).step step
  exact ⟨fun _ => untouched i s',next,fun value returned => ⟨results i s' value returned,next⟩⟩

/-- An operation that touches nothing and whose result does not matter. -/
theorem idle (point : Point) {effect : Answer → World → World} {result : Answer → World → Except Exc α}
    (untouched : ∀ i s, Untouched s (effect i s)) :
    Walk x (Barred x) (fun _ s => Barred x s) (BackupTelebot.op point effect result) :=
  (harmless (Q := fun _ => True) untouched fun _ _ _ _ => trivial).after fun _ _ h => h.2

/-- Nobody claims a run that is over, so its execution may still clean up. -/
theorem closing_op {point : Point} {effect : Answer → World → World} {result : Answer → World → Except Exc α}
    (keeps : point ∉ statusPoints) {s : World} (finished : Finished x s) :
    Holds (fenceContract x) (Ends (fun _ s => Finished x s) (Finished x)) (BackupTelebot.op point effect result) s := by
  refine Holds.op (fun s' i rely _ step => ?_) fun s' rely => finished.rely rely
  have now := finished.rely rely
  have next := now.step step keeps
  exact ⟨fun later => absurd now.1 later,next,fun _ _ => next⟩

theorem closing (point : Point) (keeps : point ∉ statusPoints) {effect : Answer → World → World}
    {result : Answer → World → Except Exc α} :
    Walk x (Finished x) (fun _ s => Finished x s) (BackupTelebot.op point effect result) :=
  fun _ finished => Holds.relax (fun _ => Finished.barred) (closing_op keeps finished)

/-- A comparison that holds makes the execution the latest claim. -/
theorem boundary {point : Point} {run : Orm} :
    Walk x (Barred x) (fun found s => found.1.cur.leaseOwner = some x.owner ∧ Current x s)
      (BackupTelebot.boundary point (some x.owner) run) := by
  intro s barred
  refine Holds.boundary fun s' rely => ?_
  have now := rely.barred barred
  exact ⟨fun _ => .refl s',now,fun owned _ => ⟨owned,now.current owned⟩⟩

/-- So does one with the row locked, and what is then committed cannot be stale. -/
theorem fenced {Q : α → Prop} {point : Point} (keeps : point ∉ releasePoints) {checkCancel : Bool}
    {effect : Answer → World → World} {result : Answer → World → α}
    (results : ∀ i s, s.run.leaseOwner = some x.owner → Q (result i s)) :
    Walk x (Barred x) (fun value s => Q value ∧ Current x s)
      (BackupTelebot.fenced point (some x.owner) checkCancel effect result) := by
  intro s barred
  refine Holds.fenced (fun s' rely => ⟨fun _ => .refl s',rely.barred barred⟩) fun s' i rely _ step owned _ => ?_
  have now := (rely.barred barred).current owned
  have next := now.step step keeps
  exact ⟨fun later => absurd now.1 later,next.barred,results i s' owned,next⟩

end Walk

/-! ### The build -/

section Build

variable {x : Execution} {c : Setup}

def Orm.Mine (x : Execution) (run : Orm) : Prop := run.cur.leaseOwner = some x.owner

def Orm.Clean (run : Orm) : Prop := run.cur = run.base

/-- The commit of a view that has changed the path of the workspace alone. -/
theorem untouched_workspacePath {run : Orm} (clean : run.Clean) (path : Option Path) (s : World) :
    Untouched s { s with run := (run.assign fun r => { r with workspacePath := path }).flush s.now s.run } := by
  obtain ⟨base,cur⟩ := run
  obtain rfl : cur = base := clean
  refine ⟨?_,rfl,rfl,rfl⟩
  simp [Orm.flush,Orm.assign]

theorem commitPath_walk {point : Point} {run : Orm} (mine : run.Mine x) (clean : run.Clean) (path : Option Path) :
    Walk x (Barred x) (fun after s => (after.Mine x ∧ after.Clean) ∧ Barred x s)
      (commit point (run.assign fun r => { r with workspacePath := path })) := by
  refine Walk.harmless (fun i s => untouched_workspacePath clean path s) fun i s value returned => ?_
  obtain rfl := Except.ok.inj returned
  exact ⟨mine,rfl⟩

/-- A commit in a window. -/
theorem commit_walk (point : Point) (unchecked : point ∈ uncheckedPoints ∧ point ∉ releasePoints) (run : Orm)
    (mine : run.Mine x) :
    Walk x (Current x) (fun after s => (after.Mine x ∧ after.Clean) ∧ Current x s) (commit point run) := by
  refine Walk.window _ unchecked fun i s value _ returned => ?_
  obtain rfl := Except.ok.inj returned
  exact ⟨mine,rfl⟩

theorem removeWorkspace_walk (phase : Phase) : Walk x (Barred x) (fun _ s => Barred x s) (removeWorkspace phase) :=
  Walk.idle _ fun _ _ => ⟨rfl,rfl,rfl,rfl⟩

theorem createWorkspace_walk : Walk x (Barred x) (fun _ s => Barred x s) createWorkspace :=
  Walk.idle _ fun _ _ => ⟨rfl,rfl,rfl,rfl⟩

theorem stage_walk (run : Orm) (next : RunStage) :
    Walk x (Barred x) (fun after s => (after.Mine x ∧ after.Clean) ∧ Current x s) (stage x.owner run next) := by
  apply Walk.ite
  · exact fun _ => Walk.fenced (by decide) fun i s owned => ⟨owned,rfl⟩
  · intro _
    apply Walk.bind Walk.boundary
    rintro ⟨run,now⟩
    apply Walk.given
    intro mine
    exact commit_walk _ (by decide) _ mine

theorem ownershipChecks_walk (n : Nat) {run : Orm} (mine : run.Mine x) :
    Walk x (Barred x) (fun after s => after.Mine x ∧ Barred x s) (ownershipChecks x.owner n run) := by
  induction n generalizing run with
  | zero => exact Walk.pure fun s barred => ⟨mine,barred⟩
  | succ n ih =>
    apply Walk.bind Walk.boundary
    rintro ⟨run,now⟩
    exact Walk.given fun mine => (ih mine).before fun _ current => current.barred

theorem acquire_walk {run : Orm} (mine : run.Mine x) :
    Walk x (Barred x) (fun found s => found.1.Mine x ∧ Barred x s) (acquire x.owner run) := by
  apply Walk.bind (M := fun _ s => Barred x s)
  · exact Walk.idle _ fun _ _ => ⟨rfl,rfl,rfl,rfl⟩
  · rintro ⟨checks,source⟩
    apply Walk.bind (ownershipChecks_walk checks mine)
    intro run
    exact Walk.pure fun s h => h

theorem persistAcquisition_walk (run : Orm) (source : SourceArtifact) :
    Walk x (Barred x) (fun after s => after.Mine x ∧ Barred x s) (persistAcquisition x.owner run source) := by
  apply Walk.bind Walk.boundary
  rintro ⟨run,now⟩
  apply Walk.given
  intro mine
  refine (commit_walk (x := x) _ (by decide) (run.assign _) ?_).after fun _ _ h => ⟨h.1.1,h.2.barred⟩
  exact mine

theorem transform_walk : Walk x (Barred x) (fun _ s => Barred x s) transform :=
  Walk.idle _ fun _ _ => ⟨rfl,rfl,rfl,rfl⟩

theorem prepare_walk (run : Orm) :
    Walk x (Barred x) (fun found s => found.1.Mine x ∧ Current x s) (prepare c x.owner run) := by
  apply Walk.bind (stage_walk run .backup)
  intro run
  apply Walk.given
  rintro ⟨mine,clean⟩
  apply Walk.bind ((removeWorkspace_walk .rebuild).before fun _ current => current.barred)
  intro _
  apply Walk.bind createWorkspace_walk
  intro _
  apply Walk.bind (commitPath_walk mine clean _)
  intro run
  apply Walk.given
  rintro ⟨mine,-⟩
  apply Walk.bind (acquire_walk mine)
  rintro ⟨run,source⟩
  apply Walk.given
  intro _
  apply Walk.bind (persistAcquisition_walk run source)
  intro run
  apply Walk.given
  intro _
  apply Walk.bind (stage_walk run .compress)
  intro run
  apply Walk.given
  intro _
  dsimp only
  apply Walk.bind (transform_walk.before fun _ current => current.barred)
  intro _
  apply Walk.bind (stage_walk _ .encrypt)
  intro run
  apply Walk.given
  intro _
  apply Walk.bind (transform_walk.before fun _ current => current.barred)
  rintro ⟨artifact,stamp,createdAt,extensions⟩
  apply Walk.bind (stage_walk run .checksum)
  intro run
  apply Walk.given
  intro _
  apply Walk.bind ((stage_walk run .finalize).before fun _ current => current.barred)
  intro run
  exact Walk.pure fun s h => ⟨h.1.1,h.2⟩

theorem runSteps_walk (path : Path) (steps : List FsStep) :
    Walk x (Barred x) (fun _ s => Barred x s) (runSteps path steps) := by
  induction steps with
  | nil => exact Walk.pure fun _ barred => barred
  | cons step rest ih =>
    refine Walk.bind (M := fun _ => Barred x) ?_ fun _ => ih
    exact Walk.idle _ fun _ _ => ⟨rfl,rfl,rfl,rfl⟩

theorem discard_walk (path : Path) : Walk x (Barred x) (fun _ s => Barred x s) (discard path) :=
  Walk.idle _ fun _ _ => ⟨rfl,rfl,rfl,rfl⟩

theorem finalizeArtifact_walk (p : Publication) :
    Walk x (Barred x) (fun _ s => Barred x s) (finalizeArtifact c p) := by
  refine Walk.bind (M := fun _ => Barred x) (Walk.idle _ fun i s => ?_) ?_
  · split
    · exact .refl s
    · exact ⟨rfl,rfl,rfl,rfl⟩
  · rintro ⟨torn,sameDevice⟩
    apply Walk.ite
    · intro _
      exact Walk.bind (discard_walk _) fun _ => Walk.throw _ fun _ barred => barred
    · intro _
      refine Walk.bind (M := fun _ => Barred x) ?_ fun _ => Walk.pure fun _ barred => barred
      apply Walk.handle (runSteps_walk _ _)
      intro f
      exact Walk.bind (discard_walk _) fun _ => Walk.throw _ fun _ barred => barred

theorem deliveryPendingCommit_walk (run : Orm) (finalized : FinalizedArtifact) (manifest : List Nat) :
    Walk x (Barred x) (fun after s => (after.Mine x ∧ after.Clean) ∧ Current x s)
      (deliveryPendingCommit c x.owner run finalized manifest) := by
  refine Walk.bind (M := fun found s => (found.1.Mine x ∧ found.1.Clean) ∧ Current x s)
    (Walk.fenced (by decide) fun i s owned => ⟨owned,rfl⟩) ?_
  rintro ⟨run,clash⟩
  apply Walk.ite
  · exact fun _ => Walk.throw _ fun _ h => h.2.barred
  · exact fun _ => Walk.pure fun _ h => h

/-- The workspace goes and its path is cleared. -/
theorem clearWorkspace_walk (phase : Phase) {run : Orm} (mine : run.Mine x) (clean : run.Clean) :
    Walk x (Barred x) (fun after s => after.Mine x ∧ Barred x s) (do
      removeWorkspace phase
      commit .clearWorkspacePath (run.assign fun r => { r with workspacePath := none })) := by
  apply Walk.bind (removeWorkspace_walk phase)
  intro _
  exact (commitPath_walk mine clean none).after fun _ _ h => ⟨h.1.1,h.2⟩

theorem publish_walk {run : Orm} (mine : run.Mine x) (p : Publication) :
    Walk x (Current x) (fun after s => after.Mine x ∧ Barred x s) (publish c x.owner run p) := by
  refine Walk.bind (M := fun after s => (after.Mine x ∧ after.Clean) ∧ Current x s) (commit_walk .intentCommit (by decide) (run.assign _) mine) ?_
  intro run
  apply Walk.given
  intro _
  apply Walk.bind ((finalizeArtifact_walk p).before fun _ current => current.barred)
  intro finalized
  apply Walk.bind Walk.boundary
  rintro ⟨run,now⟩
  apply Walk.given
  intro _
  dsimp only
  apply Walk.bind ((Walk.idle .hashManifest fun i s => .refl s).before
    fun _ current => current.barred)
  intro manifest
  apply Walk.bind (deliveryPendingCommit_walk _ finalized manifest)
  intro run
  apply Walk.given
  rintro ⟨mine,clean⟩
  exact (clearWorkspace_walk .built mine clean).before fun _ current => current.barred

theorem resume_walk {run : Orm} (mine : run.Mine x) (now : Time) (finalized : FinalizedArtifact)
    (metadata : PyJson.Json) : Walk x (Current x) (fun found s => found.2.1.Mine x ∧ Barred x s)
      (resumeFinalized.resume c run now finalized metadata) := by
  refine Walk.bind (M := fun after s => (after.Mine x ∧ after.Clean) ∧ Current x s)
    (Walk.window .resumeCommit (by decide) fun i s value _ returned => ?_) ?_
  · split at returned
    · contradiction
    · obtain rfl := Except.ok.inj returned
      exact ⟨mine,rfl⟩
  · intro run
    apply Walk.given
    rintro ⟨mine,clean⟩
    apply Walk.bind ((removeWorkspace_walk .resumed).before fun _ current => current.barred)
    intro _
    apply Walk.bind (commitPath_walk mine clean none)
    intro run
    exact Walk.pure fun _ h => ⟨h.1.1,h.2⟩

theorem resumeFinalized_walk {run : Orm} (mine : run.Mine x) (now : Time) :
    Walk x (Current x) (fun found s => found.2.1.Mine x ∧ Barred x s) (resumeFinalized c run now) := by
  unfold resumeFinalized
  split
  · exact Walk.pure fun _ current => ⟨mine,current.barred⟩
  · refine Walk.bind (M := fun _ s => True ∧ Current x s) (Walk.window .recover (by decide) fun _ _ _ _ _ => trivial) ?_
    rintro (_ | ⟨finalized,metadata⟩)
    · refine ((Walk.window _ (Q := fun found => found.2.1.Mine x) (by decide) fun i s value _ returned => ?_).after
        fun _ _ h => ⟨h.1,h.2.barred⟩).before fun _ h => h.2
      obtain rfl := Except.ok.inj returned
      exact mine
    · dsimp only
      apply Walk.given
      intro _
      split
      · apply Walk.ite
        · exact fun _ => Walk.throw _ fun _ current => current.barred
        · exact fun _ => resume_walk mine now finalized metadata
      · exact resume_walk mine now finalized metadata

theorem build_walk {run : Orm} (mine : run.Mine x) (now : Time) :
    Walk x (Current x) (fun after s => after.Mine x ∧ Barred x s) (build c x.owner run now) := by
  apply Walk.bind (resumeFinalized_walk mine now)
  rintro ⟨resumed,run,now⟩
  cases resumed with
  | true => exact Walk.pure fun _ h => h
  | false =>
    refine (Walk.bind (prepare_walk _) ?_).before fun _ h => h.2
    rintro ⟨run,p⟩
    exact Walk.given fun mine => publish_walk mine p

end Build

/-! ### The delivery -/

section Delivery

variable {x : Execution} {c : Setup}

/-- A look in a window. -/
theorem look_walk {α : Type} (point : Point) (unchecked : point ∈ uncheckedPoints ∧ point ∉ releasePoints)
    (result : World → Except Exc α) : Walk x (Current x) (fun _ s => Current x s) (look point result) :=
  (Walk.window (Q := fun _ => True) _ unchecked fun _ _ _ _ _ => trivial).after fun _ _ h => h.2

theorem boundary_walk (point : Point) (run : Orm) :
    Walk x (Barred x) (fun _ s => Current x s) (boundary point (some x.owner) run) :=
  Walk.boundary.after fun _ _ h => h.2

theorem commitDelivery_walk (point : Point) (unchecked : point ∈ uncheckedPoints ∧ point ∉ releasePoints)
    (session : Session) (base : BackupDelivery) (assigned : Time → BackupDelivery) :
    Walk x (Current x) (fun _ s => Current x s) (commitDelivery point session base assigned) :=
  (Walk.window (Q := fun _ => True) _ unchecked fun _ _ _ _ _ => trivial).after fun _ _ h => h.2

theorem fencedDelivery_walk (point : Point) (keeps : point ∉ releasePoints) (checkCancel : Bool) (session : Session)
    (base : BackupDelivery) (assigned : Answer → Time → BackupDelivery) :
    Walk x (Barred x) (fun _ s => Current x s)
      (fencedDelivery point (some x.owner) checkCancel session base assigned) :=
  (Walk.fenced (Q := fun _ => True) keeps fun _ _ _ => trivial).after fun _ _ h => h.2

/-- An upload starts only for the latest claim; its acknowledgement may come later. -/
theorem sendFile_walk (admin : AdminId) (part : Nat) :
    Walk x (Current x) (fun _ s => Barred x s) (sendFile admin part) := by
  apply Walk.onFailure
  · refine Walk.bind (M := fun _ s => True ∧ Current x s) (Walk.window _ (by decide) fun _ _ _ _ _ => trivial) ?_
    intro _
    refine Walk.bind (M := fun _ s => Barred x s) ((Walk.idle _ fun i s => ?_).before fun _ h => h.2.barred) ?_
    · refine ⟨rfl,rfl,rfl,?_⟩
      simp [Upload.starts]
    · exact fun _ => Walk.pure fun _ barred => barred
  · exact fun _ => Walk.pure fun _ barred => barred

theorem sendParts_walk (admin : AdminId) (parts : List ArtifactPart) (session : Session) (delivery : BackupDelivery) :
    Walk x (Current x) (fun _ s => Current x s) (sendParts c (some x.owner) admin parts session delivery) := by
  induction parts generalizing session delivery with
  | nil => exact Walk.pure fun _ current => current
  | cons artifact rest ih =>
    apply Walk.bind ((fencedDelivery_walk .startPart (by decide) true session delivery _).before fun _ current => current.barred)
    rintro ⟨session,delivery⟩
    apply Walk.bind (sendFile_walk admin artifact.number)
    rintro (f | ⟨messageId,fileId⟩)
    · exact fencedDelivery_walk .recordFailure (by decide) true session delivery _
    · apply Walk.bind (fencedDelivery_walk .acknowledge (by decide) false session delivery _)
      rintro ⟨session,delivery⟩
      exact ih session delivery

theorem authorize_walk (users : List User) (admin : AdminId) :
    Walk x (Current x) (fun _ s => Current x s) (authorize users admin) := by
  unfold authorize
  split
  · exact Walk.pure fun _ current => current
  · apply Walk.ite
    · exact fun _ => Walk.pure fun _ current => current
    · exact fun _ => look_walk .authorize (by decide) _

theorem serve_walk (round : Round) (own : round.owner = some x.owner) (admin : AdminId) (session : Session) :
    Walk x (Barred x) (fun _ s => Barred x s) (serve c round admin session) := by
  obtain ⟨_,artifacts,users⟩ := round
  obtain rfl := own
  apply Walk.bind (boundary_walk .fence session.run)
  rintro ⟨run,now⟩
  have done (session : Session) : Walk x (Current x) (fun _ s => Barred x s) (Pure.pure session : Proc Session) :=
    Walk.pure fun _ current => current.barred
  dsimp only
  split
  · exact done _
  · rename_i delivery _
    apply Walk.ite (fun _ => done _)
    intro _
    apply Walk.ite (fun _ => Walk.bind (commitDelivery_walk .maxAttempts (by decide) _ _ _) fun found => done found.1)
    intro _
    apply Walk.bind (authorize_walk users admin)
    intro authorized
    apply Walk.ite (fun _ => Walk.bind (commitDelivery_walk .skipRevoked (by decide) _ _ _) fun found => done found.1)
    intro _
    apply Walk.bind (sendParts_walk admin _ _ delivery)
    rintro ⟨session,delivery⟩
    apply Walk.ite
    · exact fun _ => Walk.bind (commitDelivery_walk .succeeded (by decide) _ _ _) fun found => done found.1
    · exact fun _ => done session

theorem serveAll_walk (round : Round) (own : round.owner = some x.owner) (admins : List AdminId) (session : Session) :
    Walk x (Barred x) (fun _ s => Barred x s) (serveAll c round admins session) := by
  induction admins generalizing session with
  | nil => exact Walk.pure fun _ barred => barred
  | cons admin rest ih => exact Walk.bind (serve_walk round own admin session) fun session => ih session

theorem outcome_cases {deliveries : List BackupDelivery} {status : RunStatus} (ends : outcome deliveries = some status) :
    status = .failed ∨ status = .succeeded := by
  unfold outcome at ends
  split_ifs at ends
  · exact .inl (Option.some.inj ends).symm
  · exact .inr (Option.some.inj ends).symm

/-- The end of an attempt finds the latest claim; a success closes the run. -/
theorem settle_walk (session : Session) :
    Walk x (Barred x)
      (fun settlement s => Barred x s ∧ ∀ status, settlement = .finished status → status = .failed ∨ Finished x s)
      (settle c (some x.owner) session) := by
  intro s barred
  refine Holds.fenced (fun s' rely => ⟨fun _ => .refl s',rely.barred barred⟩) fun s' i rely _ step owned _ => ?_
  have now := (rely.barred barred).current owned
  have next := now.barred.step step
  have latest := step.claims.trans now.1
  refine ⟨fun later => absurd now.1 later,next,next,fun status finished => ?_⟩
  cases ends : outcome session.deliveries with
  | none => simp [ends] at finished
  | some found =>
    simp only [ends] at finished
    split_ifs at finished with waiting
    obtain rfl := Settlement.finished.inj finished
    refine (outcome_cases ends).imp_right fun succeeded => ⟨ends ▸ latest,.inl ?_⟩
    simp only [if_pos waiting]
    exact succeeded

theorem removeDelivered_walk (run : Orm) : Walk x (Finished x) (fun _ s => Barred x s) (removeDelivered c run) := by
  unfold removeDelivered
  split
  · exact Walk.throw _ fun _ finished => finished.barred
  · apply Walk.bind (Walk.closing .removeSpool (by decide))
    intro _
    exact Walk.bind (Walk.closing .clearPending (by decide)) fun _ => Walk.pure fun _ finished => finished.barred

theorem selectUsers_walk : Walk x (Current x) (fun _ s => Current x s) (selectUsers c) := by
  apply Walk.bind (look_walk .liveAssigned (by decide) _)
  intro _
  apply Walk.bind (look_walk .assignedAdmins (by decide) _)
  intro _
  apply Walk.bind (look_walk .superadmins (by decide) _)
  intro _
  exact Walk.pure fun _ current => current

/-- The owner that an attempt takes from the row is the owner of the execution. -/
theorem attempt_walk {run : Orm} (mine : run.Mine x) :
    Walk x (Barred x) (fun _ s => Barred x s) (attempt c run) := by
  rw [attempt.eq_def,show run.cur.leaseOwner = some x.owner from mine]
  apply Walk.bind (boundary_walk .fence run)
  rintro ⟨run,now⟩
  dsimp only
  split
  · exact Walk.throw _ fun _ current => current.barred
  · apply Walk.bind (look_walk .verifyArtifacts (by decide) _)
    intro artifacts
    apply Walk.bind selectUsers_walk
    intro users
    apply Walk.bind (look_walk .loadDeliveries (by decide) _)
    intro loaded
    apply Walk.bind ((Walk.window .createDeliveries (Q := fun _ => True) (by decide) fun _ _ _ _ _ => trivial).after
      fun _ _ h => h.2.barred)
    intro deliveries
    apply Walk.bind (boundary_walk .fence run)
    rintro ⟨run,now⟩
    apply Walk.bind ((serveAll_walk ⟨some x.owner,artifacts,users⟩ rfl _ _).before fun _ current => current.barred)
    intro session
    apply Walk.bind (settle_walk session)
    rintro (_ | status | _)
    · exact Walk.pure fun _ h => h.1
    · by_cases failed : status = .failed
      · apply Walk.bind ((Walk.idle .refreshFinished fun _ s => .refl s).before fun _ h => h.1)
        intro run
        rw [if_pos failed]
        exact Walk.pure fun _ barred => barred
      · apply Walk.bind ((Walk.closing .refreshFinished (by decide)).before fun _ h => (h.2 status rfl).resolve_left failed)
        intro run
        rw [if_neg failed]
        exact removeDelivered_walk run
    · apply Walk.bind ((boundary_walk .fence session.run).before fun _ h => h.1)
      exact fun _ => Walk.throw _ fun _ current => current.barred

end Delivery

/-! ### The ends of an execution -/

section Ends

variable {x : Execution} {c : Setup}

theorem clearCancelledPaths_walk (cleanup : CancellationCleanup) (workspaceCleaned pendingCleaned : Bool) :
    Walk x (Finished x) (fun _ s => Finished x s) (clearCancelledPaths cleanup workspaceCleaned pendingCleaned) := by
  apply Walk.bind (Walk.closing .cancelledLoad (by decide))
  rintro (_ | run)
  · exact Walk.pure fun _ finished => finished
  · exact Walk.bind (Walk.closing .cancelledCommit (by decide)) fun _ => Walk.pure fun _ finished => finished

/-- The removal of what a cancelled run has left may fail. -/
theorem removal_walk {point : Point} (effect : Answer → World → World) (result : Answer → World → Except Exc Unit)
    (keeps : point ∉ statusPoints) : Walk x (Finished x) (fun _ s => Finished x s)
      (onFailure (do op point effect result; return true) fun _ => return false) := by
  intro s finished
  refine Holds.relax (fun _ => Finished.barred) (Holds.onFailure ?_ fun _ _ here => here)
  exact Holds.andThen (Walk.closing_op keeps finished) fun _ _ here => here

/-- Only the owner that the row names ends the run; what it then cleans up is nobody else's. -/
theorem finalizeCancelRequested_walk : Walk x (Barred x) (fun _ s => Barred x s) (finalizeCancelRequested c x.owner) := by
  apply Walk.bind (M := fun found s => Barred x s ∧ (found ≠ none → Finished x s))
  · intro s barred
    refine Holds.op (fun s' i rely _ step => ?_) fun s' rely => rely.barred barred
    have now := rely.barred barred
    have next := now.step step
    unfold World.finalizeCancelRequested at next ⊢
    by_cases held : finalizable x.owner s'.run = true
    · have owned : s'.run.leaseOwner = some x.owner := by
        simp only [finalizable,Bool.and_eq_true,decide_eq_true_eq] at held
        exact held.2
      have latest := (now.current owned).1
      simp only [if_pos held] at next ⊢
      exact ⟨fun later => absurd latest later,next,fun _ _ => ⟨next,fun _ => ⟨latest,.inr rfl⟩⟩⟩
    · simp only [if_neg held] at next ⊢
      refine ⟨fun _ => .refl s',next,fun found returned => ⟨next,fun some_ => ?_⟩⟩
      obtain rfl := Except.ok.inj returned
      exact absurd rfl some_
  · rintro (_ | cleanup)
    · exact Walk.pure fun _ h => h.1
    · have clear (workspaceCleaned pendingCleaned : Bool) : Walk x (Finished x) (fun _ s => Barred x s) (do
          if workspaceCleaned || pendingCleaned then clearCancelledPaths cleanup workspaceCleaned pendingCleaned
          return true) := by
        cases workspaceCleaned || pendingCleaned with
        | true =>
          exact Walk.bind (clearCancelledPaths_walk _ _ _) fun _ => Walk.pure fun _ finished => finished.barred
        | false => exact Walk.pure fun _ finished => finished.barred
      have nothing : Walk x (Finished x) (fun _ s => Finished x s) (Pure.pure true : Proc Bool) :=
        Walk.pure fun _ finished => finished
      have pending (path : Path) : Walk x (Finished x) (fun _ s => Finished x s)
          (onFailure (do removeCancelledPending c path; return true) fun _ => return false) :=
        removal_walk _ _ (by decide)
      have workspace : Walk x (Finished x) (fun _ s => Finished x s)
          (onFailure (do removeWorkspace .cancelled; return true) fun _ => return false) :=
        removal_walk _ _ (by decide)
      obtain ⟨workspacePath,pendingDirectory⟩ := cleanup
      refine Walk.before (fun _ h => h.2 (by simp)) ?_
      cases workspacePath with
      | none =>
        cases pendingDirectory with
        | none => exact Walk.bind nothing fun _ => Walk.bind nothing fun _ => clear _ _
        | some path => exact Walk.bind nothing fun _ => Walk.bind (pending path) fun _ => clear _ _
      | some _ =>
        cases pendingDirectory with
        | none => exact Walk.bind workspace fun _ => Walk.bind nothing fun _ => clear _ _
        | some path => exact Walk.bind workspace fun _ => Walk.bind (pending path) fun _ => clear _ _

/-- From a read that names the owner on, `_fail` is in a window. -/
theorem fail_walk (code : String) : Walk x (Barred x) (fun _ s => Barred x s) (fail c x.owner code) := by
  apply Walk.bind (M := fun found s => Barred x s ∧ (found ≠ none → Current x s))
  · intro s barred
    refine Holds.look fun s' rely => ?_
    have now := rely.barred barred
    refine ⟨fun _ => .refl s',now,fun found returned => ⟨now,fun some_ => ?_⟩⟩
    obtain rfl := Except.ok.inj returned
    split_ifs at some_ with held
    · exact now.current held.2
    · exact absurd rfl some_
  · rintro (_ | row)
    · exact Walk.pure fun _ h => h.1
    · refine Walk.before (fun _ h => h.2 (by simp)) ?_
      have commits : Walk x (Current x) (fun _ s => Barred x s) (op (failPoint row code)
          (fun _ s => { s with run := ((Orm.load row).assign (·.failedWith c code s.now)).flush s.now s.run })
          (fun _ _ => .ok ())) := by
        intro s current
        have member : failPoint row code ∈ uncheckedPoints := by
          rcases failPoint_cases row code with here | here
          · rw [here]; decide
          · rw [here]; decide
        refine Holds.op (fun s' i rely _ step => ?_) fun s' rely => (current.rely rely member).barred
        have now := current.rely rely member
        exact ⟨fun later => absurd now.1 later,now.barred.step step,fun _ _ => now.barred.step step⟩
      dsimp only
      split_ifs
      · refine Walk.bind (M := fun _ s => True ∧ Current x s) ?_ fun _ => commits.before fun _ h => h.2
        exact Walk.window (.removeWorkspace .failing) (by decide) fun _ _ _ _ _ => trivial
      · exact commits

theorem handleException_walk (task : Nat) (f : Exc) :
    Walk x (Barred x) (fun _ s => Barred x s) (handleException c x.owner task f) := by
  have done : Walk x (Barred x) (fun _ s => Barred x s) (Pure.pure () : Proc Unit) := Walk.pure fun _ barred => barred
  rw [handleException.eq_def]
  apply Walk.bind (Walk.idle .leaseLost fun _ s => .refl s)
  intro lost
  apply Walk.ite (fun _ => done)
  intro _
  apply Walk.bind finalizeCancelRequested_walk
  intro cancelled
  apply Walk.ite (fun _ => done)
  intro _
  cases f with
  | cancelled => exact Walk.throw _ fun _ barred => barred
  | failure f => exact fail_walk _

theorem work_walk : Walk x (Current x) (fun _ s => Barred x s) (work c x.owner) := by
  refine Walk.bind (M := fun found s => found.1.Mine x ∧ Current x s)
    (Walk.window .load (by decide) fun i s value current returned => ?_) ?_
  · obtain rfl := Except.ok.inj returned
    exact current.2
  · rintro ⟨run,now⟩
    apply Walk.given
    intro mine
    apply Walk.ite (fun _ => Walk.throw _ fun _ current => current.barred)
    intro _
    apply Walk.ite (fun _ => (attempt_walk mine).before fun _ current => current.barred)
    intro _
    apply Walk.ite (fun _ => Walk.throw _ fun _ current => current.barred)
    intro _
    exact Walk.bind (build_walk mine now) fun run => Walk.given fun mine => attempt_walk mine

/-- An execution keeps its contract from the claim that starts it. -/
theorem execute_walk (task : Nat) : Walk x (Current x) (fun _ s => Barred x s) (execute c x.owner task) :=
  Walk.handle work_walk fun f => handleException_walk task f

end Ends

/-! ### All executions of a run -/

/-- A claim finds every other execution that is still running outside the unchecked
windows, and under another owner. -/
def ClaimsFenced (s : System) (a : Act) : Prop :=
  ∀ t owner, ((∃ capacity, a = .claim t owner capacity) ∨ a = .claimCancel t owner) →
    ∀ u e point, s.execution u = some e → s.pointOf u = some point → e.owner ≠ owner ∧ point ∉ uncheckedPoints

def fenceContracts : System.Contracts := fun _ e =>
  match e with
  | some x => fenceContract x
  | none => Contract.idle

/-- Claims are numbered, and the row names no execution whose run was claimed again. -/
structure Fenced (s : System) : Prop where
  epochs : ∀ u e, s.execution u = some e → e.epoch ≤ s.world.claims
  unique : ∀ u v e f, s.execution u = some e → s.execution v = some f → e.epoch = f.epoch → u = v
  barred : ∀ u e point, s.execution u = some e → s.pointOf u = some point → Barred e s.world
  sound : System.Sound fenceContracts s

namespace Fenced

variable {c : Setup} {s s' : System} {a : Act}

/-- What a request or a stale execution does, the latest execution does not notice. -/
theorem unnoticed {e : Option Execution} {point : Point} {s s' : World} (step : RowStep e point s s')
    (requests : e = none → point ∈ requestPoints) (stale : ∀ x, e = some x → Untouched s s') :
    s'.run.leaseOwner = s.run.leaseOwner ∧ (Closed s → s'.run.status = s.run.status) := by
  cases e with
  | some x => exact ⟨(stale x rfl).owner,fun _ => (stale x rfl).status⟩
  | none =>
    have member := requests rfl
    constructor
    · rcases step.lease with same | ⟨-,which⟩
      · exact same
      · rcases which with rfl | rfl | rfl | rfl <;> simp [requestPoints] at member
    · intro closed
      rcases step.status with same | change
      · exact same
      · cases change with
        | retried failed _ _ => rcases closed with ended | ended <;> simp [failed] at ended
        | _ => simp_all [requestPoints]

/-- A waiting execution after a step was one before it, unless it has just been started. -/
theorem waiting_before (h : System.step c s a = some s') {u : Nat} {e : Execution} {point : Point}
    (started : s.execution u = some e) (waiting : s'.pointOf u = some point) :
    ∃ before, s.pointOf u = some before := by
  refine (System.survivor h waiting).resolve_right fun unused => ?_
  rw [System.unused_iff,started] at unused
  exact absurd unused.2 (by simp)

theorem perform {allowed : System → Act → Prop} (fenced : Fenced s) (run : Reached c allowed s) {t : Nat} {i : Answer}
    (h : System.step c s (.perform t i) = some s') :
    Fenced s' ∧ ∀ e, s.execution t = some e → s.world.claims ≠ e.epoch → Untouched s.world s'.world := by
  obtain ⟨point,waits,step,requests⟩ := rowStep_of_perform run h
  have executions : s'.execution = s.execution := by
    obtain ⟨sys,-,rfl⟩ := Option.map_eq_some_iff.mp h
    rfl
  have taken : (fenceContracts t (s.execution t)).allowed point i s.world := by
    cases s.execution t <;> trivial
  have known : (fenceContracts t (s.execution t)).known point s.world s'.world := by
    cases started : s.execution t with
    | none => trivial
    | some e =>
      have own := step
      rw [started] at own
      exact own
  obtain ⟨guar,next⟩ := fenced.sound.perform h waits taken known
  have stale : ∀ e, s.execution t = some e → s.world.claims ≠ e.epoch → Untouched s.world s'.world := by
    intro e started later
    rw [started] at guar
    exact guar later
  refine ⟨⟨?_,?_,?_,next ?_⟩,stale⟩
  · intro u e started
    rw [step.claims]
    exact fenced.epochs u e (executions ▸ started)
  · exact executions ▸ fenced.unique
  · intro u e at_ started waiting
    rw [executions] at started
    obtain ⟨before,was⟩ := waiting_before h started waiting
    exact (fenced.barred u e before started was).step step
  · intro u at_ other waiting
    cases started : s.execution u with
    | none => trivial
    | some x =>
      have unnoticed (latest : s.world.claims = x.epoch) := unnoticed step requests fun y others => stale y others
        fun same => other (fenced.unique u t x y started others (latest.symm.trans same))
      exact ⟨step.claims.ge,fun later => step.claims ▸ later,fun barred => barred.step step,
        fun _ latest => step.claims.trans latest,fun _ latest => (unnoticed latest).1,
        fun latest closed => ⟨step.claims,(unnoticed latest).2 closed⟩⟩

/-- What happens beside the tasks does not concern the lease of any of them. -/
theorem rely_of_apart {x : Execution} {point : Point} {s s' : World} (apart : Apart s s') : FenceRely x point s s' where
  claims := apart.claims.ge
  later := fun later => apart.claims ▸ later
  barred := fun barred later => apart.owner ▸ barred (apart.claims ▸ later)
  window := fun _ latest => apart.claims.trans latest
  lease := fun _ _ => apart.owner
  closed := by
    intro _ closed
    refine ⟨apart.claims,?_⟩
    rcases apart.status with same | ⟨queued,-,-⟩
    · exact same
    · rcases closed with ended | ended <;> simp [queued] at ended

theorem other (fenced : Fenced s) (ok : ClaimsFenced s a) (performs : ∀ t i, a ≠ .perform t i)
    (h : System.step c s a = some s') : Fenced s' := by
  have sound (calm : ∀ u point, s.pointOf u = some point → s'.sys.shared ≠ s.sys.shared →
      (fenceContracts u (s.execution u)).rely point s.world s'.world) : System.Sound fenceContracts s' := by
    refine fenced.sound.other h performs (fun t e point _ _ => ?_) (fun t owner eq => ?_) (fun t r _ => ?_) calm
    · cases s.execution t <;> trivial
    · subst eq
      exact Holds.mono (fun _ _ _ => trivial) (execute_walk t _ ⟨rfl,rfl⟩)
    · exact Interleave.Holds.unguarded (fun _ _ _ => trivial) _ _
  rcases System.world_cases h performs with ⟨executions,change⟩ | ⟨t,owner,granted,rfl⟩
  · have rely (x : Execution) (point : Point) : FenceRely x point s.world s'.world := by
      rcases change with same | beside
      · rw [same]
        exact .refl x point _
      · exact rely_of_apart beside.apart
    have claims : s'.world.claims = s.world.claims := by
      rcases change with same | beside
      · rw [same]
      · exact beside.apart.claims
    refine ⟨?_,executions ▸ fenced.unique,?_,sound ?_⟩
    · intro u e started
      rw [claims]
      exact fenced.epochs u e (executions ▸ started)
    · intro u e at_ started waiting
      rw [executions] at started
      obtain ⟨before,was⟩ := waiting_before h started waiting
      exact (rely e at_).barred (fenced.barred u e before started was)
    · intro u point _ _
      cases s.execution u with
      | none => trivial
      | some x => exact rely x point
  · have new : s.execution t = none := (System.unused_iff.mp granted.unused).2
    have free (u : Nat) (e : Execution) (point : Point) (started : s.execution u = some e)
        (waiting : s.pointOf u = some point) : e.owner ≠ owner ∧ point ∉ uncheckedPoints := by
      refine ok t owner ?_ u e point started waiting
      rcases granted.claim with ⟨capacity,same,-⟩ | ⟨same,-⟩
      · exact .inl ⟨capacity,same⟩
      · exact .inr same
    have known (u : Nat) (e : Execution) (started : (s.start c t owner).execution u = some e) :
        u = t ∧ e = ⟨owner,s.world.claims + 1⟩ ∨ u ≠ t ∧ s.execution u = some e := by
      by_cases same : u = t
      · subst u
        exact .inl ⟨rfl,by simpa [System.start] using started.symm⟩
      · exact .inr ⟨same,by simpa [System.start,same] using started⟩
    refine ⟨?_,?_,?_,sound ?_⟩
    · intro u e started
      rcases known u e started with ⟨-,rfl⟩ | ⟨-,before⟩
      · exact le_rfl
      · exact (fenced.epochs u e before).trans (Nat.le_succ _)
    · intro u v e f startedU startedV same
      rcases known u e startedU with ⟨rfl,rfl⟩ | ⟨_,beforeU⟩
      · rcases known v f startedV with ⟨rfl,-⟩ | ⟨_,beforeV⟩
        · rfl
        · have bound := fenced.epochs v f beforeV
          rw [← same] at bound
          exact absurd bound (Nat.not_succ_le_self _)
      · rcases known v f startedV with ⟨rfl,rfl⟩ | ⟨_,beforeV⟩
        · have bound := fenced.epochs u e beforeU
          rw [same] at bound
          exact absurd bound (Nat.not_succ_le_self _)
        · exact fenced.unique u v e f beforeU beforeV same
    · intro u e at_ started waiting
      rcases known u e started with ⟨-,rfl⟩ | ⟨-,before⟩
      · exact fun later => absurd rfl later
      · obtain ⟨at_,was⟩ := waiting_before h before waiting
        intro _ owned
        exact (free u e at_ before was).1 (Option.some.inj owned).symm
    · intro u point waiting _
      cases started : s.execution u with
      | none => trivial
      | some x =>
        obtain ⟨others,outside⟩ := free u x point started waiting
        have bound := fenced.epochs u x started
        refine ⟨Nat.le_succ _,fun _ same => ?_,fun _ _ owned => others (Option.some.inj owned).symm,
          fun member => absurd member outside,fun same => ?_,fun _ closed => ?_⟩
        · rw [← same] at bound
          exact absurd bound (Nat.not_succ_le_self _)
        · exact absurd same (Nat.succ_ne_self _)
        · have active := granted.active
          rcases closed with ended | ended
          · rw [System.row,ended] at active
            exact absurd active (by decide)
          · rw [System.row,ended] at active
            exact absurd active (by decide)

end Fenced

theorem fenced_of_reached {c : Setup} {s : System} (run : Reached c ClaimsFenced s) : Fenced s := by
  induction run with
  | start initial =>
    obtain ⟨now,users,access,rfl | rfl⟩ := initial
    all_goals
      refine ⟨fun u e started => ?_,fun u v e f started => ?_,fun u e point started => ?_,fun t p point task => ?_⟩
      all_goals contradiction
  | @next s s' a run ok h fenced =>
    by_cases performs : ∃ t i, a = .perform t i
    · obtain ⟨t,i,rfl⟩ := performs
      exact (fenced.perform run h).1
    · exact fenced.other ok (fun t i same => performs ⟨t,i,same⟩) h

/-- As long as every claim finds the other executions fenced, no operation of an execution
whose run was claimed again writes to the run, its deliveries or its artifacts or starts
an upload, and its heartbeat does not renew the lease. -/
theorem lease_fences (c : Setup) (s s' : System) (a : Act) (t : Nat) (e : Execution) (run : Reached c ClaimsFenced s)
    (h : System.step c s a = some s') (acts : (∃ i, a = .perform t i) ∨ a = .renew t)
    (started : s.execution t = some e) (later : e.epoch < s.world.claims) : Untouched s.world s'.world := by
  have fenced := fenced_of_reached run
  rcases acts with ⟨i,rfl⟩ | rfl
  · exact (fenced.perform run h).2 e started later.ne'
  · simp only [System.step,System.beats,started] at h
    by_cases alive : s.heartbeat t = .renewing ∧ (s.pointOf t).isSome = true
    · obtain ⟨point,waiting⟩ := Option.isSome_iff_exists.mp alive.2
      have other : s.row.leaseOwner ≠ some e.owner := fenced.barred t e point started waiting later.ne'
      simp only [if_pos alive,if_neg other,Option.some.injEq] at h
      subst h
      exact ⟨rfl,rfl,rfl,rfl⟩
    · simp [if_neg alive] at h

def smallRun : List Act := [.claim 0 7 true,.perform 0 plainAnswer,.tick (31 * second),.claim 1 8 true]

theorem smallRun_fenced : Runs.Permitted (System.step smallSetup) ClaimsFenced smallRun smallStart := by
  refine ⟨?_,fun s first => ⟨?_,fun s' second => ⟨?_,fun s'' third => ⟨?_,fun _ _ => trivial⟩⟩⟩⟩
  · intro t owner _ u e point started
    contradiction
  · rintro t owner (⟨_,same⟩ | same) <;> contradiction
  · rintro t owner (⟨_,same⟩ | same) <;> contradiction
  · obtain rfl := Option.some.inj first
    obtain rfl := Option.some.inj second
    obtain rfl := Option.some.inj third
    intro t owner claims u e point started waiting
    obtain ⟨_,same⟩ := claims.resolve_right (by simp)
    obtain ⟨-,rfl,-⟩ := Act.claim.inj same
    by_cases zero : u = 0
    · subst u
      obtain rfl := Option.some.inj started
      have here : some Point.stageFenced = some point := waiting
      obtain rfl := Option.some.inj here
      exact ⟨by decide,by decide⟩
    · have none_ : (none : Option Execution) = some e := (Function.update_of_ne zero _ _).symm.trans started
      contradiction

theorem lease_fences_small : ∃ s s', System.step smallSetup s (.perform 0 plainAnswer) = some s' ∧
    s.world.claims = 2 ∧ Untouched s.world s'.world := by
  have followed : (System.follow smallSetup smallRun smallStart).any (fun s =>
      (System.step smallSetup s (.perform 0 plainAnswer)).isSome && s.world.claims = 2 &&
        s.execution 0 = some ⟨7,1⟩) = true := by decide +kernel
  obtain ⟨s,done,passed⟩ := (Option.any_eq_true _ _).mp followed
  simp only [Bool.and_eq_true,decide_eq_true_eq] at passed
  obtain ⟨⟨stepped,claims⟩,started⟩ := passed
  obtain ⟨s',h⟩ := Option.isSome_iff_exists.mp stepped
  have run : Reached smallSetup ClaimsFenced s := Runs.of_follow (.start smallStart_initial) smallRun_fenced done
  exact ⟨s,s',h,claims,lease_fences smallSetup s s' _ 0 ⟨7,1⟩ run h (.inl ⟨_,rfl⟩) started (by rw [claims]; decide)⟩

/-- The first execution has compared the owner and is about to commit what it acquired. -/
def claimedMeanwhile : List Act :=
  [.claim 0 7 true] ++ performs 0 7 ++ [.tick (31 * second),.claim 1 8 true]

/-- It then writes to a run that was claimed again. -/
theorem lease_unfenced : ∃ s s', Reached smallSetup (fun _ _ => True) s ∧
    System.step smallSetup s (.perform 0 plainAnswer) = some s' ∧ s.execution 0 = some ⟨7,1⟩ ∧
    s.world.claims = 2 ∧ s.row.leaseOwner = some 8 ∧ s.row.stage = .backup ∧ s'.row.stage = .verifySource := by
  obtain ⟨s,run,passed⟩ := Runs.exists_of_follow (System.step smallSetup) claimedMeanwhile
    (fun s => s.execution 0 = some ⟨7,1⟩ && s.world.claims = 2 && s.row.leaseOwner = some 8 &&
      s.row.stage = .backup &&
      (System.step smallSetup s (.perform 0 plainAnswer)).any fun s' => s'.row.stage = .verifySource)
    smallStart_initial (by decide +kernel)
  simp only [Bool.and_eq_true,decide_eq_true_eq,Option.any_eq_true] at passed
  obtain ⟨⟨⟨⟨started,claims⟩,owner⟩,stage⟩,s',step,written⟩ := passed
  exact ⟨s,s',run,step,started,claims,owner,stage,written⟩

end BackupTelebot
