import BackupTelebot.OperationRules

/-! The failure of a build, and the removal of its workspace on the way. `rsync -a` gives
the directories of a download the modes of their source, and the removal of the workspace
comes before the commit that ends the run. -/
namespace BackupTelebot

open PyJson Interleave Posix

/-- `SourceBudget`, without the checks of the disk and the deadline. -/
structure SourceBudget where
  maxBytes : Nat
  maxFiles : Nat
  maxFileBytes : Nat
  maxDepth : Nat
  bytesUsed : Nat
  filesUsed : Nat

def SourceBudget.checkDepth (budget : SourceBudget) (depth : Nat) : Except Failure Unit :=
  if budget.maxDepth < depth then .error (.pipeline "SOURCE_DEPTH_LIMIT") else .ok ()

def SourceBudget.validateAddition (budget : SourceBudget) (bytes files : Nat) : Except Failure Unit :=
  if budget.maxBytes < budget.bytesUsed + bytes then .error (.pipeline "SOURCE_BYTES_LIMIT")
  else if budget.maxFiles < budget.filesUsed + files then .error (.pipeline "SOURCE_FILE_COUNT_LIMIT")
  else .ok ()

def SourceBudget.validateFileSize (budget : SourceBudget) (size : Nat) : Except Failure Unit :=
  if budget.maxFileBytes < size then .error (.pipeline "SOURCE_FILE_SIZE_LIMIT") else .ok ()

/-- The entries of one listed directory, which takes search permission. -/
def validateEntries (budget : SourceBudget) (mode : DirMode) :
    List (Str × Tree) → Nat × Nat → Except Failure (Nat × Nat)
  | [], found => .ok found
  | (_,entry) :: rest, (bytes,files) =>
    if !mode.search then .error (.builtin "PermissionError")
    else match entry with
      | .link | .special => .error (.pipeline "UNSAFE_SOURCE")
      | .dir _ _ => validateEntries budget mode rest (bytes,files)
      | .file size => do
          budget.validateFileSize size
          validateEntries budget mode rest (bytes + size,files + 1)

mutual
/-- The part of `os.walk` below one directory. What cannot be listed is passed over. -/
def walkDownload (budget : SourceBudget) (depth : Nat) : Tree → Nat × Nat → Except Failure (Nat × Nat)
  | .dir mode entries, found =>
    if !mode.read then .ok found
    else do
      budget.checkDepth depth
      let (bytes,files) ← validateEntries budget mode entries found
      budget.validateAddition bytes files
      walkEntries budget (depth + 1) entries (bytes,files)
  | _, found => .ok found
def walkEntries (budget : SourceBudget) (depth : Nat) : List (Str × Tree) → Nat × Nat → Except Failure (Nat × Nat)
  | [], found => .ok found
  | (_,entry) :: rest, found => do
      let found ← walkDownload budget depth entry found
      walkEntries budget depth rest found
end

/-- `_validate_download` of what a transfer has left, if it has left anything. -/
def validateDownload (budget : SourceBudget) : Option Tree → Except Failure (Nat × Nat)
  | none => .ok (0,0)
  | some (.file size) => do
      budget.validateFileSize size
      budget.validateAddition size 1
      return (size,1)
  | some tree => walkDownload budget 0 tree (0,0)

def downloaded (name : Str) (tree : Tree) : Tree :=
  .dir .own [(str "raw",.dir .own [(name,tree)]),(str "staging",.dir .own []),(str "final",.dir .own []),
    (str "temp",.dir .own [])]

structure Ended (s : World) : Prop where
  status : s.run.status = .failed ∨ s.run.status = .cancelled
  released : s.run.leaseOwner = none

structure Building (owner : Owner) (s : World) : Prop where
  status : s.run.status = .queued ∨ s.run.status = .running
  owned : s.run.leaseOwner = some owner

def Clearable (workspace : Option Tree) : Prop := ∀ tree, workspace = some tree → tree.Removable

theorem clearable_iff {workspace : Option Tree} : Clearable workspace ↔ workspace.bind Tree.remove = none := by
  cases workspace with
  | none => simp [Clearable]
  | some tree => simp [Clearable,Tree.remove_eq_none]

def Cancelled (s : World) : Prop := s.run.status = .cancelled ∧ s.run.leaseOwner = none

theorem Cancelled.ended {s : World} (cancelled : Cancelled s) : Ended s := ⟨.inr cancelled.1,cancelled.2⟩

section Handler

variable {c : Setup} {owner : Owner} {task : Nat} {i : Answer} {s : World} (quiet : i.fault = none)
include quiet

/-- The cleanup of a cancelled run leaves it cancelled, whatever could be removed. -/
theorem clearCancelledPaths_keeps (cleanup : CancellationCleanup) (workspaceCleaned pendingCleaned : Bool) :
    Prog.Keeps i Cancelled (clearCancelledPaths cleanup workspaceCleaned pendingCleaned) := by
  intro s cancelled
  rw [clearCancelledPaths,alone_look_bind quiet]
  simp only [if_pos cancelled.1]
  refine ⟨_,_,Prog.alone_then _ (alone_commit quiet .cancelledCommit _ s),?_,?_⟩
  · exact (column_clean s.run.status s.run.status).trans cancelled.1
  · exact (column_clean s.run.leaseOwner s.run.leaseOwner).trans cancelled.2

omit quiet in
theorem onFailure_keeps {α : Type} {Inv : World → Prop} {p : Proc α} {handler : Failure → Proc α}
    (first : Prog.Keeps i Inv p) (handles : ∀ e, Prog.Keeps i Inv (handler e)) :
    Prog.Keeps i Inv (onFailure p handler) := by
  apply Prog.Keeps.handle first
  rintro (_ | e)
  · exact Prog.Keeps.ret _
  · exact handles e

/-- Once the cancellation is committed nothing in the handler takes it back. -/
theorem fail_keeps (code : String) : Prog.Keeps i Cancelled (fail c owner code) := by
  intro s cancelled
  have gone : ¬(s.run.status.Active ∧ s.run.leaseOwner = some owner) := by simp [cancelled.2]
  rw [fail,alone_look_bind quiet]
  simp only [if_neg gone]
  exact ⟨_,_,rfl,cancelled⟩

theorem finalize_cancels (held : finalizable owner s.run = true) :
    ∃ result s', (finalizeCancelRequested c owner).alone i s = some (result,s') ∧ Cancelled s' := by
  have committed : Cancelled (s.finalizeCancelRequested owner) := by
    rw [World.finalizeCancelRequested,if_pos held]
    exact ⟨rfl,rfl⟩
  rw [finalizeCancelRequested,alone_op_bind quiet]
  simp only [held,if_true]
  have removal : Prog.Keeps i Cancelled (onFailure (do removeWorkspace .cancelled; return true) fun _ => return false) := by
    apply onFailure_keeps
    · exact Prog.Keeps.bind (keeps_op quiet fun s cancelled => cancelled) fun _ => Prog.Keeps.ret _
    · exact fun _ => Prog.Keeps.ret _
  have pending (path : Path) : Prog.Keeps i Cancelled
      (onFailure (do removeCancelledPending c path; return true) fun _ => return false) := by
    apply onFailure_keeps
    · refine Prog.Keeps.bind (keeps_op quiet fun s cancelled => ?_) fun _ => Prog.Keeps.ret _
      split
      · exact cancelled
      · exact cancelled
    · exact fun _ => Prog.Keeps.ret _
  have clear (cleanup : CancellationCleanup) (workspaceCleaned pendingCleaned : Bool) : Prog.Keeps i Cancelled (do
      if workspaceCleaned || pendingCleaned then clearCancelledPaths cleanup workspaceCleaned pendingCleaned
      return true) := by
    cases workspaceCleaned || pendingCleaned with
    | true => exact Prog.Keeps.bind (clearCancelledPaths_keeps quiet _ _ _) fun _ => Prog.Keeps.ret _
    | false => exact Prog.Keeps.ret _
  refine (?_ : Prog.Keeps i Cancelled _) _ committed
  cases s.run.workspacePath with
  | none =>
    apply Prog.Keeps.bind (Prog.Keeps.ret _)
    intro workspaceCleaned
    cases s.run.pendingDirectory with
    | none => exact Prog.Keeps.bind (Prog.Keeps.ret _) fun _ => clear _ _ _
    | some path => exact Prog.Keeps.bind (pending path) fun _ => clear _ _ _
  | some _ =>
    apply Prog.Keeps.bind removal
    intro workspaceCleaned
    cases s.run.pendingDirectory with
    | none => exact Prog.Keeps.bind (Prog.Keeps.ret _) fun _ => clear _ _ _
    | some path => exact Prog.Keeps.bind (pending path) fun _ => clear _ _ _

/-- A requested cancellation ends the run, whatever was raised. -/
theorem handler_cancels (kept : s.leaseLost task = false) (held : finalizable owner s.run = true) (e : Exc) :
    ∃ result s', (handleException c owner task e).alone i s = some (result,s') ∧ Cancelled s' := by
  obtain ⟨result,s',ran,cancelled⟩ := finalize_cancels (c := c) quiet held
  rw [handleException.eq_def,alone_look_bind quiet]
  simp only [kept,Bool.false_eq_true,if_false]
  cases result with
  | error e => exact ⟨_,s',Prog.alone_raises _ ran,cancelled⟩
  | ok done =>
    rw [Prog.alone_then _ ran]
    cases done with
    | true => exact ⟨_,s',rfl,cancelled⟩
    | false =>
      cases e with
      | cancelled => exact ⟨_,s',rfl,cancelled⟩
      | failure e => exact fail_keeps quiet _ s' cancelled

/-- Without a cancellation the handler of an exception is `_fail`, or nothing. -/
theorem handler_alone (kept : s.leaseLost task = false) (notFinal : finalizable owner s.run = false) (e : Exc) :
    (handleException c owner task e).alone i s =
      match e with
      | .cancelled => some (.error .cancelled,s)
      | .failure e => (fail c owner (safeCode e.code)).alone i s := by
  have asked : (finalizeCancelRequested c owner).alone i s = some (.ok false,s) := by
    rw [finalizeCancelRequested,alone_op_bind quiet]
    simp [World.finalizeCancelRequested,notFinal]
  rw [handleException.eq_def,alone_look_bind quiet]
  simp only [kept,Bool.false_eq_true,if_false]
  rw [Prog.alone_then _ asked]
  cases e <;> rfl

/-- A build whose workspace goes away ends in failure. -/
theorem fail_ends (building : Building owner s) (clearable : Clearable s.workspace) (code : String) :
    ∃ result s', (fail c owner code).alone i s = some (result,s') ∧ Ended s' := by
  have held : s.run.status.Active ∧ s.run.leaseOwner = some owner := by
    rcases building.status with queued | running
    · exact ⟨by rw [queued]; decide,building.owned⟩
    · exact ⟨by rw [running]; decide,building.owned⟩
  have notDelivering : s.run.status ≠ .deliveryPending := by
    rcases building.status with queued | running
    · simp [queued]
    · simp [running]
  rw [fail,alone_look_bind quiet]
  simp only [if_pos held,if_pos notDelivering]
  rw [removeWorkspace,alone_op_bind quiet]
  simp only [clearable_iff.mp clearable]
  refine ⟨_,_,alone_op quiet _ _ _ _,?_,?_⟩
  · refine .inl ((column_fresh _ _).trans ?_)
    simp [Orm.assign,Orm.load,BackupRun.failedWith,BackupRun.completed,notDelivering]
  · exact column_fresh _ _

/-- A build whose workspace stays is left as it was, and what remains of the workspace
cannot be removed by the next execution either. -/
theorem fail_stuck (building : Building owner s) (stays : ¬Clearable s.workspace) (code : String) :
    ∃ e left, (fail c owner code).alone i s = some (.error e,{ s with workspace := some left }) ∧
      left.remove = some left := by
  have held : s.run.status.Active ∧ s.run.leaseOwner = some owner := by
    rcases building.status with queued | running
    · exact ⟨by rw [queued]; decide,building.owned⟩
    · exact ⟨by rw [running]; decide,building.owned⟩
  have notDelivering : s.run.status ≠ .deliveryPending := by
    rcases building.status with queued | running
    · simp [queued]
    · simp [running]
  obtain ⟨left,kept⟩ := Option.ne_none_iff_exists'.mp (clearable_iff.not.mp stays)
  obtain ⟨tree,here,removed⟩ := Option.bind_eq_some_iff.mp kept
  rw [fail,alone_look_bind quiet]
  simp only [if_pos held,if_pos notDelivering]
  rw [removeWorkspace,alone_op_bind quiet]
  simp only [kept]
  exact ⟨_,left,rfl,Tree.remove_idem left removed⟩

end Handler

def HandlerEnds (task : Nat) (e : Exc) (s : World) : Prop :=
  s.leaseLost task = false ∧ (s.run.cancelRequested = true ∨ e ≠ .cancelled ∧ Clearable s.workspace)

theorem handler_ends_iff {c : Setup} {owner : Owner} {task : Nat} {i : Answer} {s : World} {e : Exc}
    (quiet : i.fault = none) (building : Building owner s) :
    ∃ result s', (handleException c owner task e).alone i s = some (result,s') ∧
      (Ended s' ↔ HandlerEnds task e s) := by
  have active : s.run.status ∈ activeStatuses := by
    rcases building.status with queued | running
    · rw [queued]; decide
    · rw [running]; decide
  have notEnded (s' : World) (same : s'.run = s.run) : ¬Ended s' := by
    rintro ⟨-,released⟩
    rw [same,building.owned] at released
    contradiction
  cases kept : s.leaseLost task with
  | true =>
    refine ⟨.ok (),s,?_,iff_of_false (notEnded s rfl) ?_⟩
    · rw [handleException.eq_def,alone_look_bind quiet]
      simp [kept]
    · simp [HandlerEnds,kept]
  | false =>
    cases requested : s.run.cancelRequested with
    | true =>
      have held : finalizable owner s.run = true := by simp [finalizable,active,requested,building.owned]
      obtain ⟨result,s',ran,cancelled⟩ := handler_cancels (c := c) quiet kept held e
      exact ⟨result,s',ran,iff_of_true cancelled.ended ⟨kept,.inl requested⟩⟩
    | false =>
      have notFinal : finalizable owner s.run = false := by simp [finalizable,requested]
      rw [handler_alone quiet kept notFinal e]
      cases e with
      | cancelled => exact ⟨_,s,rfl,iff_of_false (notEnded s rfl) (by simp [HandlerEnds,requested])⟩
      | failure e =>
        by_cases clearable : Clearable s.workspace
        · obtain ⟨result,s',ran,ended⟩ := fail_ends (c := c) quiet building clearable (safeCode e.code)
          exact ⟨result,s',ran,iff_of_true ended ⟨kept,.inr ⟨by simp,clearable⟩⟩⟩
        · obtain ⟨e',left,ran,-⟩ := fail_stuck (c := c) quiet building clearable (safeCode e.code)
          exact ⟨_,_,ran,iff_of_false (notEnded _ rfl) (by simp [HandlerEnds,requested,clearable])⟩

/-- Whatever has made a held build raise, the execution ends the run and releases it
exactly when the lease was not reported lost and either a cancellation is requested or
the exception is a failure and the workspace can be removed. -/
theorem buildFailure_ends (c : Setup) (owner : Owner) (task : Nat) (i : Answer) (events : List (Answer ⊕ Exc))
    (s s' : World) (e : Exc) (quiet : i.fault = none) (building : Building owner s')
    (raised : (work c owner).drive events s = some (.ret (.error e),s')) :
    ∃ rest, (execute c owner task).drive events s = some (rest,s') ∧
      ∃ result later, rest.alone i s' = some (result,later) ∧ (Ended later ↔ HandlerEnds task e s') :=
  ⟨_,Prog.drive_handle _ raised,handler_ends_iff quiet building⟩

def readOnlyDownload : Tree := .dir ⟨true,false,true⟩ [(str "f",.file 1)]

def smallBudget : SourceBudget := ⟨100,10,100,5,0,0⟩

def claimedWorld : World := (smallStart.world).grant smallSetup 7

def failedAcquisition (tree : Tree) : List (Answer ⊕ Exc) :=
  List.replicate 5 (.inl plainAnswer) ++
    [.inl { plainAnswer with
      workspace := downloaded (str "source") tree, fault := some (.pipeline "RSYNC_TRANSFER_FAILED") }]

def afterAcquisition (tree : Tree) : World :=
  { claimedWorld with
    run := { claimedWorld.run with
      status := .running, stage := .backup, startedAt := some 0, workspacePath := some smallSetup.workspaceRoot }
    workspace := some (downloaded (str "source") tree) }

theorem buildFailure_ends_small : ∃ rest result later,
    (execute smallSetup 7 0).drive (failedAcquisition (.file 1)) claimedWorld = some (rest,afterAcquisition (.file 1)) ∧
      rest.alone plainAnswer (afterAcquisition (.file 1)) = some (result,later) ∧ Ended later := by
  obtain ⟨rest,driven,result,later,alone,ends⟩ := buildFailure_ends smallSetup 7 0 plainAnswer (failedAcquisition (.file 1))
    claimedWorld (afterAcquisition (.file 1)) (.pipeline "RSYNC_TRANSFER_FAILED") rfl ⟨.inr rfl,rfl⟩ rfl
  exact ⟨rest,result,later,driven,alone,ends.mpr ⟨rfl,.inr ⟨nofun,clearable_iff.mpr (by decide)⟩⟩⟩

/-- A download that was accepted keeps its failed run active, held and running. -/
theorem buildFailure_stays :
    validateDownload smallBudget (some readOnlyDownload) = .ok (1,1) ∧
    ((execute smallSetup 7 0).drive (failedAcquisition readOnlyDownload) claimedWorld).bind (fun (rest,s) =>
      (rest.alone plainAnswer s).map fun (_,later) => (later.run.status,later.run.leaseOwner)) =
        some (.running,some 7) := by
  constructor
  · decide
  · decide

end BackupTelebot
