import BackupTelebot.Footprints
import BackupTelebot.OperationRules

/-! Where an execution may wait outside `attempt`, and that the view of the row it hands on
names its owner: each comparison with the row puts the compared owner into the view. -/
namespace BackupTelebot

open Interleave

def attemptPoints : List Point :=
  [.fence,.verifyArtifacts,.liveAssigned,.assignedAdmins,.superadmins,.loadDeliveries,.createDeliveries,.maxAttempts,
    .authorize,.skipRevoked,.startPart,.send,.sendResult,.recordFailure,.acknowledge,.succeeded,.settle,
    .refreshFinished,.removeSpool,.clearPending]

/-- The places between the start of a build and the recorded intention to publish. -/
def preparePoints : List Point :=
  [.stageRead,.stageCommit,.stageFenced,.removeWorkspace .rebuild,.createWorkspace,.recordWorkspace,.boundary,.acquire,
    .persistCommit,.transform]

def Orm.Names (owner : Owner) (run : Orm) : Prop := run.cur.leaseOwner = some owner

namespace Within

variable {α : Type} {P : Point → Prop} {Q : α → Prop} {point : Point}

theorem op {effect : Answer → World → World} {result : Answer → World → Except Exc α} (member : P point)
    (results : ∀ i s value, result i s = .ok value → Q value) : (BackupTelebot.op point effect result).Within P Q := by
  refine ⟨member,fun i s value returned => ?_,fun e => .raise e⟩
  split at returned
  · cases returned
  · exact results i s value returned

theorem look {result : World → Except Exc α} (member : P point) (results : ∀ s value, result s = .ok value → Q value) :
    (BackupTelebot.look point result).Within P Q := op member fun _ s value => results s value

/-- An operation whose result does not matter. -/
theorem plain {effect : Answer → World → World} {result : Answer → World → Except Exc α} (member : P point) :
    (BackupTelebot.op point effect result).Within P fun _ => True := op member fun _ _ _ _ => trivial

theorem boundary {owner : Owner} {run : Orm} (member : P point) :
    (BackupTelebot.boundary point (some owner) run).Within P fun found => found.1.Names owner := by
  refine look member fun s value returned => ?_
  cases checked : checkFence (some owner) true s.run with
  | error e => simp [checked,Except.map] at returned
  | ok _ =>
    obtain rfl : (run.refreshFence s.run,s.now) = value := by simpa [checked,Except.map] using returned
    exact (checkFence_ok.mp checked).1

theorem fenced {owner : Owner} {checkCancel : Bool} {effect : Answer → World → World} {result : Answer → World → α}
    (member : P point) (results : ∀ i s, s.run.leaseOwner = some owner → Q (result i s)) :
    (BackupTelebot.fenced point (some owner) checkCancel effect result).Within P Q := by
  refine op member fun i s value returned => ?_
  cases checked : checkFence (some owner) checkCancel s.run with
  | error e => simp [checked,Except.map] at returned
  | ok _ =>
    obtain rfl : result i s = value := by simpa [checked,Except.map] using returned
    exact results i s (checkFence_ok.mp checked).1

theorem commit {run : Orm} (member : P point) : (BackupTelebot.commit point run).Within P fun after => after = run.flushed :=
  op member fun _ _ _ returned => (Except.ok.inj returned).symm

theorem onFailure {p : Proc α} {handler : Failure → Proc α} (first : p.Within P Q) (handles : ∀ f, (handler f).Within P Q) :
    (BackupTelebot.onFailure p handler).Within P Q := by
  refine first.handle fun e => ?_
  cases e with
  | cancelled => exact .raise _
  | failure f => exact handles f

end Within

section Build

variable {c : Setup} {owner : Owner}

/-- A commit of a view that keeps its owner. -/
theorem commit_names {P : Point → Prop} {point : Point} {run : Orm} (member : P point) (names : run.Names owner) :
    (commit point run).Within P fun after => after.Names owner :=
  (Within.commit member).mono (fun _ h => h) fun _ same => same ▸ names

theorem stage_within (run : Orm) (next : RunStage) :
    (stage owner run next).Within (· ∈ preparePoints) fun after => after.Names owner := by
  apply Prog.Within.ite
  · exact fun _ => Within.fenced (by decide) fun i s held => held
  · intro _
    exact (Within.boundary (by decide)).bind fun found names => commit_names (by decide) names

theorem ownershipChecks_within (n : Nat) {run : Orm} (names : run.Names owner) :
    (ownershipChecks owner n run).Within (· ∈ preparePoints) fun after => after.Names owner := by
  induction n generalizing run with
  | zero => exact .ret names
  | succ n ih => exact (Within.boundary (by decide)).bind fun found names => ih names

theorem acquire_within {run : Orm} (names : run.Names owner) :
    (acquire owner run).Within (· ∈ preparePoints) fun found => found.1.Names owner := by
  apply Prog.Within.bind (Within.plain (by decide))
  intro found _
  exact (ownershipChecks_within found.1 names).bind fun run names => .ret names

theorem persistAcquisition_within (run : Orm) (source : SourceArtifact) :
    (persistAcquisition owner run source).Within (· ∈ preparePoints) fun after => after.Names owner :=
  (Within.boundary (by decide)).bind fun found names => commit_names (by decide) names

theorem transform_within : transform.Within (· ∈ preparePoints) fun _ => True := Within.plain (by decide)

theorem prepare_within (run : Orm) :
    (prepare c owner run).Within (· ∈ preparePoints) fun found => found.1.Names owner := by
  apply (stage_within run .backup).bind
  intro run names
  apply Prog.Within.bind (Within.plain (by decide))
  intro _ _
  apply Prog.Within.bind (Within.plain (by decide))
  intro _ _
  refine (@commit_names owner _ _ _ (by decide) ?_).bind ?_
  · exact names
  intro run names
  apply (acquire_within names).bind
  intro found names
  apply (persistAcquisition_within found.1 found.2).bind
  intro run names
  apply (stage_within run .compress).bind
  intro run names
  apply transform_within.bind
  intro _ _
  apply (stage_within _ .encrypt).bind
  intro run names
  apply transform_within.bind
  intro made _
  apply (stage_within run .checksum).bind
  intro run names
  apply (stage_within run .finalize).bind
  exact fun run names => .ret names

theorem runSteps_within (path : Path) (steps : List FsStep) :
    (runSteps path steps).Within (· ∉ attemptPoints) fun _ => True := by
  induction steps with
  | nil => exact .ret trivial
  | cons step rest ih => exact Prog.Within.bind (Within.plain (by decide)) fun _ _ => ih

theorem discard_within (path : Path) : (discard path).Within (· ∉ attemptPoints) fun _ => True :=
  Within.plain (by decide)

theorem finalizeArtifact_within (p : Publication) :
    (finalizeArtifact c p).Within (· ∉ attemptPoints) fun _ => True := by
  apply Prog.Within.bind (Within.plain (by decide))
  rintro ⟨torn,sameDevice⟩ -
  apply Prog.Within.ite
  · exact fun _ => (discard_within _).bind fun _ _ => .raise _
  · intro _
    refine Prog.Within.bind (Q := fun _ => True) ?_ fun _ _ => .ret trivial
    exact (runSteps_within _ _).handle fun e => (discard_within _).bind fun _ _ => .raise e

theorem deliveryPendingCommit_within (run : Orm) (finalized : FinalizedArtifact) (manifest : List Nat) :
    (deliveryPendingCommit c owner run finalized manifest).Within (· ∉ attemptPoints)
      fun after => after.Names owner := by
  apply Prog.Within.bind (Q := fun found => found.1.Names owner)
  · exact Within.fenced (by decide) fun i s held => held
  · rintro ⟨run,clash⟩ names
    apply Prog.Within.ite
    · exact fun _ => .raise _
    · exact fun _ => .ret names

theorem publish_within {run : Orm} (names : run.Names owner) (p : Publication) :
    (publish c owner run p).Within (· ∉ attemptPoints) fun after => after.Names owner := by
  refine (@commit_names owner _ _ _ (by decide) ?_).bind ?_
  · exact names
  intro run names
  apply (finalizeArtifact_within p).bind
  intro finalized _
  apply (Within.boundary (by decide)).bind
  intro found names
  apply Prog.Within.bind (Within.plain (by decide))
  intro manifest _
  apply (deliveryPendingCommit_within _ finalized manifest).bind
  intro run names
  apply Prog.Within.bind (Within.plain (by decide))
  intro _ _
  refine commit_names (by decide) ?_
  exact names

theorem resume_within (run : Orm) (now : Time) (finalized : FinalizedArtifact) (metadata : PyJson.Json) :
    (resumeFinalized.resume c run now finalized metadata).Within (· ∉ attemptPoints)
      fun found => run.Names owner → found.2.1.Names owner := by
  apply Prog.Within.bind (Q := fun after => run.Names owner → after.Names owner)
  · refine Within.op (by decide) fun i s value returned => ?_
    split at returned
    · cases returned
    · obtain rfl := Except.ok.inj returned
      exact fun names => names
  · intro after names
    apply Prog.Within.bind (Within.plain (by decide))
    intro _ _
    apply (Within.commit (by decide)).bind
    rintro _ rfl
    exact .ret names

/-- A resumption hands on the owner that it found. -/
theorem resumeFinalized_within (run : Orm) (now : Time) :
    (resumeFinalized c run now).Within (· ∉ attemptPoints) fun found => run.Names owner → found.2.1.Names owner := by
  unfold resumeFinalized
  split
  · exact .ret fun names => names
  · apply Prog.Within.bind (Within.plain (by decide))
    rintro (_ | ⟨finalized,metadata⟩) -
    · refine Within.op (by decide) fun i s value returned => ?_
      obtain rfl := Except.ok.inj returned
      exact fun names => names
    · dsimp only
      split
      · apply Prog.Within.ite
        · exact fun _ => .raise _
        · exact fun _ => resume_within run now finalized metadata
      · exact resume_within run now finalized metadata

theorem build_within (run : Orm) (now : Time) :
    (build c owner run now).Within (· ∉ attemptPoints) fun after => run.Names owner → after.Names owner := by
  have outside : ∀ point, point ∈ preparePoints → point ∉ attemptPoints := by
    intro point member
    simp only [preparePoints,List.mem_cons,List.not_mem_nil,or_false] at member
    rcases member with rfl | rfl | rfl | rfl | rfl | rfl | rfl | rfl | rfl | rfl <;> decide
  apply (resumeFinalized_within run now).bind
  rintro ⟨resumed,after,now⟩ names
  apply Prog.Within.ite
  · exact fun _ => .ret names
  · intro _
    apply ((prepare_within _).mono outside fun _ h => h).bind
    exact fun found names => (publish_within names found.2).mono (fun _ h => h) fun _ named _ => named

end Build

section Ends

variable {c : Setup} {owner : Owner}

theorem clearCancelledPaths_within (cleanup : CancellationCleanup) (workspaceCleaned pendingCleaned : Bool) :
    (clearCancelledPaths cleanup workspaceCleaned pendingCleaned).Within (· ∉ attemptPoints) fun _ => True := by
  apply Prog.Within.bind (Within.plain (by decide))
  rintro (_ | run) -
  · exact .ret trivial
  · exact Prog.Within.bind (Within.plain (by decide)) fun _ _ => .ret trivial

theorem finalizeCancelRequested_within :
    (finalizeCancelRequested c owner).Within (· ∉ attemptPoints) fun _ => True := by
  have guarded {p : Proc Unit} (plain : p.Within (· ∉ attemptPoints) fun _ => True) :
      (onFailure (p >>= fun _ => Pure.pure true) fun _ => Pure.pure false).Within (· ∉ attemptPoints) fun _ => True :=
    Within.onFailure (plain.bind fun _ _ => .ret trivial) fun _ => .ret trivial
  have nothing : (Pure.pure true : Proc Bool).Within (· ∉ attemptPoints) fun _ => True := .ret trivial
  apply Prog.Within.bind (Within.plain (by decide))
  rintro (_ | cleanup) -
  · exact .ret trivial
  have clear (workspaceCleaned pendingCleaned : Bool) : Prog.Within (· ∉ attemptPoints) (fun _ => True)
      (do
        if workspaceCleaned || pendingCleaned then clearCancelledPaths cleanup workspaceCleaned pendingCleaned
        return true : Proc Bool) := by
    cases workspaceCleaned || pendingCleaned with
    | true => exact (clearCancelledPaths_within _ _ _).bind fun _ _ => .ret trivial
    | false => exact .ret trivial
  obtain ⟨workspacePath,pendingDirectory⟩ := cleanup
  have workspace := guarded (p := removeWorkspace .cancelled) (Within.plain (by decide))
  have pending (path : Path) := guarded (p := removeCancelledPending c path) (Within.plain (by decide))
  cases workspacePath with
  | none =>
    cases pendingDirectory with
    | none => exact nothing.bind fun _ _ => nothing.bind fun _ _ => clear _ _
    | some path => exact nothing.bind fun _ _ => (pending path).bind fun _ _ => clear _ _
  | some _ =>
    cases pendingDirectory with
    | none => exact workspace.bind fun _ _ => nothing.bind fun _ _ => clear _ _
    | some path => exact workspace.bind fun _ _ => (pending path).bind fun _ _ => clear _ _

theorem fail_within (code : String) : (fail c owner code).Within (· ∉ attemptPoints) fun _ => True := by
  apply Prog.Within.bind (Within.plain (by decide))
  rintro (_ | row) -
  · exact .ret trivial
  · have committed : (op (failPoint row code)
        (fun _ s => { s with run := ((Orm.load row).assign (·.failedWith c code s.now)).flush s.now s.run })
        (fun _ _ => .ok ())).Within (· ∉ attemptPoints) fun _ => True := by
      apply Within.plain
      unfold failPoint
      split <;> decide
    apply Prog.Within.ite
    · exact fun _ => Prog.Within.bind (Within.plain (by decide)) fun _ _ => committed
    · exact fun _ => committed

theorem handleException_within (t : Nat) (e : Exc) :
    (handleException c owner t e).Within (· ∉ attemptPoints) fun _ => True := by
  apply Prog.Within.bind (Within.plain (by decide))
  intro lost _
  apply Prog.Within.ite (fun _ => .ret trivial)
  intro _
  apply finalizeCancelRequested_within.bind
  intro cancelled _
  apply Prog.Within.ite (fun _ => .ret trivial)
  intro _
  cases e with
  | cancelled => exact .raise _
  | failure f => exact fail_within _

end Ends

end BackupTelebot
