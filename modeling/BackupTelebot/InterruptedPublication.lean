import BackupTelebot.FinalizeRules
import BackupTelebot.OperationRules

/-! A crash during the publication of an artifact. The recorded directory is then in the
state some prefix of the filesystem steps left; the next build of the run either resumes
the artifact, forgets the directory, or fails. -/
namespace BackupTelebot

open PyJson Interleave

/-- The run as the next worker claims it: the directory was recorded, and `k` of the steps
of its publication were taken before the process died. -/
structure Interrupted (c : Setup) (p : Publication) (torn k : Nat) (started : Time) (owner : Owner)
    (s : World) : Prop where
  uuid : p.runUuid = c.uuid
  status : s.run.status = .running
  pending : s.run.pendingDirectory = some (p.directory c.pendingRoot)
  filename : s.run.finalFilename = some p.filename
  original : s.run.originalSizeBytes = some p.originalSizeBytes
  startedAt : s.run.startedAt = some started
  owned : s.run.leaseOwner = some owner
  notCancelled : s.run.cancelRequested = false
  spool : s.spool (p.directory c.pendingRoot) =
    applySteps ((p.steps c.os c.maxFileBytes torn).take k) none

structure Resumed (c : Setup) (p : Publication) (s : World) : Prop where
  status : s.run.status = .deliveryPending
  pending : s.run.pendingDirectory = some (p.directory c.pendingRoot)
  filename : s.run.finalFilename = some p.filename
  size : s.run.finalSizeBytes = some (p.artifact.content.length : Int)
  sha256 : s.run.finalSha256 = some (c.os.hash.digest p.artifact.content)

structure Rebuilt (c : Setup) (p : Publication) (s : World) : Prop where
  status : s.run.status = .running
  pending : s.run.pendingDirectory = none
  gone : s.spool (p.directory c.pendingRoot) = none

/-- The first state of the execution in which the row has changed. -/
def firstCommit (c : Setup) (owner : Owner) (task : Nat) (i : Answer) (s : World) : Option World :=
  ((execute c owner task).trace i s).find? fun later => later.run ≠ s.run

/-- The next execution resumes the artifact or starts again: that is its first commit. -/
def Recovers (c : Setup) (p : Publication) (owner : Owner) (task : Nat) (i : Answer) (s : World) : Prop :=
  ∃ later, firstCommit c owner task i s = some later ∧ (Resumed c p later ∨ Rebuilt c p later)

/-- The time limit of the run, counted from its first start. -/
def InTime (c : Setup) (started now : Time) : Prop := now - started < c.maxBackupRuntimeSeconds * second

instance (c : Setup) (started now : Time) : Decidable (InTime c started now) :=
  inferInstanceAs (Decidable (_ < _))

namespace Interrupted

variable {c : Setup} {p : Publication} {torn k : Nat} {started : Time} {owner : Owner} {s : World}
  (interrupted : Interrupted c p torn k started owner s)
include interrupted

theorem deadline_iff : deadline c s.run s.now ≤ s.now ↔ ¬InTime c started s.now := by
  unfold deadline InTime
  rw [interrupted.startedAt]
  have span (now elapsed limit : Nat) : now + (limit - elapsed) ≤ now ↔ ¬elapsed < limit := by omega
  exact span _ _ _

theorem path_owned : (p.directory c.pendingRoot).dropLast.dropLast = c.pendingRoot ∧
    ownedName c.uuid.text (pathName (p.directory c.pendingRoot)) = true := by
  constructor
  · simp [Publication.directory,pendingDirectoryPath]
  · rw [← interrupted.uuid]
    simp [Publication.directory,pendingDirectoryPath,pathName,ownedName,underscore]

theorem recoverFinalized_eq {d : Dir} (here : s.spool (p.directory c.pendingRoot) = some d) :
    recoverFinalized c.os c.pendingRoot s.spool (p.directory c.pendingRoot) c.uuid.text =
      (recoverDirectory c.os (p.directory c.pendingRoot) d p.runUuid.text).map some := by
  obtain ⟨inside,owned⟩ := interrupted.path_owned
  rw [recoverFinalized,here]
  simp [inside,owned,interrupted.uuid]

/-- What the first commit of the execution is, when the build resumes from here. -/
theorem firstCommit_of_build {i : Answer} {task : Nat} {later : World} (quiet : i.fault = none)
    (inTime : InTime c started s.now)
    (first : ((resumeFinalized c (Orm.load s.run) s.now).trace i s).find? (fun later => later.run ≠ s.run) =
      some later) : firstCommit c owner task i s = some later := by
  have onTime : ¬deadline c s.run s.now ≤ s.now := fun late => interrupted.deadline_iff.mp late inTime
  have loaded : (Orm.load s.run).cur = s.run := rfl
  unfold firstCommit execute
  rw [Prog.trace_handle,work,trace_look_bind quiet]
  simp only [loaded,interrupted.notCancelled,interrupted.status,reduceCtorEq,Bool.false_eq_true,if_false,
    if_neg onTime]
  rw [List.cons_append,List.find?_cons_of_neg (by simp),Prog.trace_bind,build,Prog.trace_bind]
  rw [List.append_assoc,List.append_assoc,List.find?_append,first,Option.some_or]

omit interrupted in
theorem recover_trace {i : Answer} (quiet : i.fault = none) {found : Option (FinalizedArtifact × Json)}
    (recovered : recoverFinalized c.os c.pendingRoot s.spool (p.directory c.pendingRoot) c.uuid.text = .ok found)
    {α : Type} (body : Option (FinalizedArtifact × Json) → Proc α) :
    (recover c (p.directory c.pendingRoot) >>= body).trace i s = s :: (body found).trace i s := by
  rw [recover,trace_look_bind quiet]
  simp only [recovered]

/-- Without a directory the record of it is forgotten. -/
theorem recovers_absent {i : Answer} {task : Nat} (quiet : i.fault = none) (inTime : InTime c started s.now)
    (absent : s.spool (p.directory c.pendingRoot) = none) : Recovers c p owner task i s := by
  have pending : (Orm.load s.run).cur.pendingDirectory = some (p.directory c.pendingRoot) := interrupted.pending
  have nothing : recoverFinalized c.os c.pendingRoot s.spool (p.directory c.pendingRoot) c.uuid.text = .ok none := by
    rw [recoverFinalized,absent]
  let forgotten := (Orm.load s.run).assign fun r => { r with pendingDirectory := none, finalFilename := none }
  have cleared : (forgotten.flush s.now s.run).pendingDirectory = none := column_fresh _ _
  have running : (forgotten.flush s.now s.run).status = .running :=
    (column_clean s.run.status s.run.status).trans interrupted.status
  have changed : forgotten.flush s.now s.run ≠ s.run := by
    intro same
    rw [same,interrupted.pending] at cleared
    contradiction
  refine ⟨{ s with run := forgotten.flush s.now s.run },?_,.inr ⟨running,cleared,absent⟩⟩
  apply interrupted.firstCommit_of_build quiet inTime
  rw [resumeFinalized]
  simp only [pending]
  rw [recover_trace quiet nothing,List.find?_cons_of_neg (by simp)]
  simp only [trace_op]
  exact List.find?_cons_of_pos (by simpa using changed)

omit interrupted in
theorem finalized_name : (p.finalized c.os c.pendingRoot c.maxFileBytes).name = p.filename := by
  have visible : p.filename ≠ [] := by
    intro empty
    have member := p.underscore_mem_filename
    rw [empty] at member
    contradiction
  exact if_neg visible

/-- The row that a resumption writes. -/
theorem resumed_written (metadata : Json) (artifacts : List BackupArtifact) : Resumed c p { s with
    run := ((Orm.load s.run).assign
      (·.resumedFrom (p.finalized c.os c.pendingRoot c.maxFileBytes) metadata)).flush s.now s.run
    artifacts := artifacts } where
  status := column_fresh _ _
  pending := (column_clean _ _).trans interrupted.pending
  filename := (column_fresh _ _).trans (congrArg some finalized_name)
  size := column_fresh _ _
  sha256 := column_fresh _ _

/-- A published artifact with a manifest that can be read is resumed. -/
theorem recovers_published {i : Answer} {task : Nat} {d : Dir} (quiet : i.fault = none)
    (inTime : InTime c started s.now) (here : s.spool (p.directory c.pendingRoot) = some d)
    (published : Published p c.os c.maxFileBytes d)
    (small : (p.manifest c.os c.maxFileBytes).length ≤ maxManifestBytes) : Recovers c p owner task i s := by
  have pending : (Orm.load s.run).cur.pendingDirectory = some (p.directory c.pendingRoot) := interrupted.pending
  have found : recoverFinalized c.os c.pendingRoot s.spool (p.directory c.pendingRoot) c.uuid.text =
      .ok (some (p.finalized c.os c.pendingRoot c.maxFileBytes,p.metadata.json.sorted)) := by
    rw [interrupted.recoverFinalized_eq here,p.recoverDirectory_published c.maxFileBytes_pos c.pendingRoot published,
      if_neg (Nat.not_lt.mpr small)]
    rfl
  have manifest : manifestBytes s.spool (p.finalized c.os c.pendingRoot c.maxFileBytes).directory =
      some (p.manifest c.os c.maxFileBytes) := by
    have same : (p.finalized c.os c.pendingRoot c.maxFileBytes).directory = p.directory c.pendingRoot := rfl
    rw [manifestBytes,same,here,Option.bind_some,published.manifest]
  have resumed := interrupted.resumed_written p.metadata.json.sorted
  obtain ⟨added,rows⟩ : ∃ added, resumedRows c (p.finalized c.os c.pendingRoot c.maxFileBytes) s = some added := by
    rw [resumedRows,manifest]
    split <;> exact ⟨_,rfl⟩
  refine ⟨_,?_,.inl (resumed (s.artifacts ++ added))⟩
  apply interrupted.firstCommit_of_build quiet inTime
  rw [resumeFinalized]
  simp only [pending]
  rw [recover_trace quiet found,List.find?_cons_of_neg (by simp)]
  have original : (Orm.load s.run).cur.originalSizeBytes = some (p.originalSizeBytes : Int) := interrupted.original
  have recorded : (p.finalized c.os c.pendingRoot c.maxFileBytes).originalSizeBytes =
      some (p.originalSizeBytes : Int) := rfl
  simp only [original,recorded,ne_eq,not_true_eq_false,if_false]
  rw [resumeFinalized.resume,resumeCommit,trace_op_bind quiet]
  simp only [rows]
  apply List.find?_cons_of_pos
  apply decide_eq_true
  intro same
  have status := (resumed s.artifacts).status
  have waiting := (congrArg BackupRun.status same).symm.trans status
  simp [interrupted.status] at waiting

def UnchangedOrFailed (s later : World) : Prop := later.run = s.run ∨ later.run.status = .failed

theorem fail_trace {i : Answer} (quiet : i.fault = none) (code : String) :
    ∀ later ∈ (fail c owner code).trace i s, UnchangedOrFailed s later := by
  have held : s.run.status.Active ∧ s.run.leaseOwner = some owner := by
    rw [interrupted.status]
    exact ⟨by decide,interrupted.owned⟩
  have building : s.run.status ≠ .deliveryPending := by simp [interrupted.status]
  have failed (now : Time) (s' : World) (same : s'.run = s.run) :
      (((Orm.load s.run).assign (·.failedWith c code now)).flush now s'.run).status = .failed := by
    rw [same]
    refine (column_fresh _ _).trans ?_
    simp [Orm.assign,Orm.load,BackupRun.failedWith,BackupRun.completed,interrupted.status]
  rw [fail,trace_look_bind quiet]
  simp only [if_pos held,if_pos building]
  rw [removeWorkspace,trace_op_bind quiet]
  intro later member
  rcases List.mem_cons.mp member with rfl | member
  · exact .inl rfl
  rcases List.mem_cons.mp member with rfl | member
  · exact .inl rfl
  split at member
  · rw [trace_op] at member
    obtain rfl := List.mem_singleton.mp member
    exact .inr (failed _ _ rfl)
  · contradiction

/-- The handler of a failure writes nothing to the row but the failure. -/
theorem handler_trace {i : Answer} {task : Nat} (quiet : i.fault = none) (e : Failure) :
    ∀ later ∈ (handleException c owner task (.failure e)).trace i s, UnchangedOrFailed s later := by
  have notFinal : finalizable owner s.run = false := by simp [finalizable,interrupted.notCancelled]
  have asked : (finalizeCancelRequested c owner).alone i s = some (.ok false,s) := by
    rw [finalizeCancelRequested,alone_op_bind quiet]
    simp [World.finalizeCancelRequested,notFinal]
  have silent : (finalizeCancelRequested c owner).trace i s = [s] := by
    rw [finalizeCancelRequested,trace_op_bind quiet]
    simp [World.finalizeCancelRequested,notFinal,Prog.trace]
  rw [handleException,trace_look_bind quiet]
  intro later member
  rcases List.mem_cons.mp member with rfl | member
  · exact .inl rfl
  dsimp only at member
  split_ifs at member
  · contradiction
  · rw [Prog.trace_bind,silent,asked] at member
    rcases List.mem_append.mp member with first | member
    · obtain rfl := List.mem_singleton.mp first
      exact .inl rfl
    · exact interrupted.fail_trace quiet _ later member

omit interrupted in
theorem not_recovers_of_trace {i : Answer} {task : Nat}
    (all : ∀ later ∈ (execute c owner task).trace i s, UnchangedOrFailed s later) :
    ¬Recovers c p owner task i s := by
  rintro ⟨later,first,outcome⟩
  have changed := List.find?_some first
  rcases all later (List.mem_of_find?_eq_some first) with same | failed
  · simp [same] at changed
  · rcases outcome with resumed | rebuilt
    · simp [resumed.status] at failed
    · simp [rebuilt.status] at failed

/-- An execution whose protected part raises before it writes anything. -/
theorem not_recovers_of_raise {i : Answer} {task : Nat} {e : Failure} (quiet : i.fault = none)
    (raises : (work c owner).alone i s = some (.error (.failure e),s))
    (silent : ∀ later ∈ (work c owner).trace i s, later = s) : ¬Recovers c p owner task i s := by
  apply not_recovers_of_trace
  rw [execute,Prog.trace_handle,raises]
  intro later member
  rcases List.mem_append.mp member with first | member
  · exact .inl (congrArg World.run (silent later first))
  · exact interrupted.handler_trace quiet e later member

theorem not_recovers_late {i : Answer} {task : Nat} (quiet : i.fault = none)
    (late : ¬InTime c started s.now) : ¬Recovers c p owner task i s := by
  have past := interrupted.deadline_iff.mpr late
  have loaded : (Orm.load s.run).cur = s.run := rfl
  apply interrupted.not_recovers_of_raise quiet (e := .pipeline "BACKUP_TIMEOUT")
  · rw [work,alone_look_bind quiet]
    simp only [loaded,interrupted.notCancelled,interrupted.status,reduceCtorEq,Bool.false_eq_true,if_false,if_pos past]
    rfl
  · rw [work,trace_look_bind quiet]
    simp only [loaded,interrupted.notCancelled,interrupted.status,reduceCtorEq,Bool.false_eq_true,if_false,if_pos past]
    intro later member
    simpa [Prog.trace] using member

theorem not_recovers_refused {i : Answer} {task : Nat} {e : Failure} (quiet : i.fault = none)
    (inTime : InTime c started s.now)
    (refused : recoverFinalized c.os c.pendingRoot s.spool (p.directory c.pendingRoot) c.uuid.text = .error e) :
    ¬Recovers c p owner task i s := by
  have onTime : ¬deadline c s.run s.now ≤ s.now := fun past => interrupted.deadline_iff.mp past inTime
  have loaded : (Orm.load s.run).cur = s.run := rfl
  have pending : (Orm.load s.run).cur.pendingDirectory = some (p.directory c.pendingRoot) := interrupted.pending
  have resume : (resumeFinalized c (Orm.load s.run) s.now).alone i s = some (.error (.failure e),s) := by
    rw [resumeFinalized]
    simp only [pending]
    rw [recover,alone_look_bind quiet]
    simp only [refused]
  have silent : (resumeFinalized c (Orm.load s.run) s.now).trace i s = [s] := by
    rw [resumeFinalized]
    simp only [pending]
    rw [recover,trace_look_bind quiet]
    simp only [refused]
  apply interrupted.not_recovers_of_raise quiet
  · rw [work,alone_look_bind quiet]
    simp only [loaded,interrupted.notCancelled,interrupted.status,reduceCtorEq,Bool.false_eq_true,if_false,
      if_neg onTime]
    exact Prog.alone_raises _ (Prog.alone_raises _ resume)
  · rw [work,trace_look_bind quiet]
    simp only [loaded,interrupted.notCancelled,interrupted.status,reduceCtorEq,Bool.false_eq_true,if_false,
      if_neg onTime]
    rw [Prog.trace_bind,build,Prog.trace_bind,silent,resume,Prog.alone_raises _ resume]
    simp

end Interrupted

/-- The next execution recovers an interrupted publication exactly when the run's time
limit has not passed and the crash came before the directory was made, or after its
manifest got its name, and the manifest is small enough to be read again. -/
theorem interruptedPublication_recovers (c : Setup) (p : Publication) (torn k : Nat) (started : Time)
    (owner : Owner) (task : Nat) (i : Answer) (s : World) (quiet : i.fault = none)
    (interrupted : Interrupted c p torn k started owner s) : Recovers c p owner task i s ↔
      InTime c started s.now ∧ (k = 0 ∨
        (p.unpublishedSteps c.os c.maxFileBytes torn).length < k ∧
          (p.manifest c.os c.maxFileBytes).length ≤ maxManifestBytes) := by
  by_cases inTime : InTime c started s.now
  swap
  · exact iff_of_false (interrupted.not_recovers_late quiet inTime) fun here => inTime here.1
  simp only [inTime,true_and]
  rcases p.steps_prefix c.os c.maxFileBytes torn k with ⟨zero,absent⟩ | ⟨positive,before,d,here,noManifest⟩ |
    ⟨after,d,here,published⟩
  · exact iff_of_true (interrupted.recovers_absent quiet inTime (interrupted.spool.trans absent)) (.inl zero)
  · refine iff_of_false (interrupted.not_recovers_refused quiet inTime (e := invalidManifest) ?_) ?_
    · rw [interrupted.recoverFinalized_eq (interrupted.spool.trans here),Publication.recoverDirectory_unpublished _ noManifest]
      rfl
    · omega
  · by_cases small : (p.manifest c.os c.maxFileBytes).length ≤ maxManifestBytes
    · exact iff_of_true (interrupted.recovers_published quiet inTime (interrupted.spool.trans here) published small)
        (.inr ⟨after,small⟩)
    · refine iff_of_false (interrupted.not_recovers_refused quiet inTime (e := invalidManifest) ?_) ?_
      · rw [interrupted.recoverFinalized_eq (interrupted.spool.trans here),
          p.recoverDirectory_published c.maxFileBytes_pos c.pendingRoot published,if_pos (Nat.not_le.mp small)]
        rfl
      · rintro (zero | ⟨-,fits⟩)
        · omega
        · exact small fits

def smallPublication : Publication :=
  ⟨smallSetup.uuid,smallSetup.profileName,plainAnswer.stamp,plainAnswer.createdAt,plainAnswer.extensions,
    plainAnswer.metadata,plainAnswer.artifact,3,plainAnswer.originalFits⟩

/-- The second claim of a run whose first worker died after `k` steps of the publication. -/
def interruptedWorld (k : Nat) (now : Time) : World :=
  let path := smallPublication.directory smallSetup.pendingRoot
  let building := { BackupRun.enqueued 0 with
    status := .running, stage := .finalize, leaseOwner := some 7, leaseExpiresAt := some (now + 30 * second)
    startedAt := some 0, workspacePath := some smallSetup.workspaceRoot, pendingDirectory := some path
    finalFilename := some smallPublication.filename, originalSizeBytes := some 3 }
  { World.fresh building now [⟨1,.superadmin,true,false⟩] [] with
    claims := 2
    workspace := some emptyWorkspace
    spool := Function.update (fun _ => none) path
      (applySteps ((smallPublication.steps smallSetup.os smallSetup.maxFileBytes 0).take k) none) }

theorem interruptedWorld_interrupted (k : Nat) (now : Time) :
    Interrupted smallSetup smallPublication 0 k 0 7 (interruptedWorld k now) :=
  ⟨rfl,rfl,rfl,rfl,rfl,rfl,rfl,rfl,by simp [interruptedWorld]⟩

/-- Before the directory was made, and as soon as the manifest has got its name. -/
theorem interruptedPublication_recovers_small :
    Recovers smallSetup smallPublication 7 1 plainAnswer (interruptedWorld 0 0) ∧
    Recovers smallSetup smallPublication 7 1 plainAnswer (interruptedWorld 14 0) :=
  ⟨(interruptedPublication_recovers smallSetup smallPublication 0 0 0 7 1 plainAnswer (interruptedWorld 0 0) rfl
      (interruptedWorld_interrupted 0 0)).mpr ⟨by decide,.inl rfl⟩,
    (interruptedPublication_recovers smallSetup smallPublication 0 14 0 7 1 plainAnswer (interruptedWorld 14 0) rfl
      (interruptedWorld_interrupted 14 0)).mpr ⟨by decide,.inr ⟨by decide,by decide +kernel⟩⟩⟩

/-- A crash right after the directory was made fails the run at its next execution. -/
theorem interruptedPublication_fails :
    ¬Recovers smallSetup smallPublication 7 1 plainAnswer (interruptedWorld 1 0) ∧
    ((execute smallSetup 7 1).alone plainAnswer (interruptedWorld 1 0)).map
      (fun (_,s) => (s.run.status,s.run.errorCode)) = some (.failed,some "INVALID_MANIFEST") := by
  constructor
  · apply (interruptedWorld_interrupted 1 0).not_recovers_refused rfl (by decide) (e := invalidManifest)
    rfl
  · decide

end BackupTelebot
