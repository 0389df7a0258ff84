import BackupTelebot.PendingRules
import BackupTelebot.OperationRules

/-! What a damaged pending directory does to a run that is being delivered. Verification
refuses some directories with a code of its own and breaks down on others; only the codes
end the run, any other exception puts it back to be claimed again. -/
namespace BackupTelebot

open PyJson Interleave

def Plainly (e : Failure) : Prop := Coded e ∨ e.code = none

def RaisesPlainly {α : Type} (result : Except Failure α) : Prop := ∀ e, result = .error e → Plainly e

@[simp] theorem raisesPlainly_ok {α : Type} (a : α) : RaisesPlainly (.ok a : Except Failure α) := by
  intro e impossible
  contradiction

@[simp] theorem raisesPlainly_error {α : Type} {e : Failure} :
    RaisesPlainly (.error e : Except Failure α) ↔ Plainly e := by
  constructor
  · intro raises
    exact raises e rfl
  · rintro plainly e ⟨⟩
    exact plainly

theorem raisesPlainly_bind {α β : Type} {x : Except Failure α} {f : α → Except Failure β}
    (first : RaisesPlainly x) (next : ∀ a, RaisesPlainly (f a)) : RaisesPlainly (x >>= f) := by
  cases x with
  | error e => simpa using first
  | ok a => exact next a

@[simp] theorem plainly_builtin (name : String) (kind : DeliveryErrorKind) : Plainly (.builtin name kind) :=
  .inr rfl

theorem Plainly.of_coded {e : Failure} (coded : Coded e) : Plainly e := .inl coded

@[simp] theorem plainly_missing : Plainly missing := .of_coded coded_missing
@[simp] theorem plainly_mismatch : Plainly mismatch := .of_coded coded_mismatch
@[simp] theorem plainly_invalidManifest : Plainly invalidManifest := .of_coded coded_invalidManifest

theorem verifyPending_plainly (os : Platform) (d : Dir) (name : Str) (size : Int) (sha256 : Str) :
    RaisesPlainly (verifyPending os d name size sha256) := by
  unfold verifyPending
  split
  · simp
  · simp
  · split
    · split_ifs <;> simp
    · simp

theorem verifyParts_plainly (os : Platform) (d : Dir) (filename : Str) (width number : Nat) (raws : List Json) :
    RaisesPlainly (verifyParts os d filename width number raws) := by
  induction raws generalizing number with
  | nil => simp [verifyParts]
  | cons raw rest ih =>
    unfold verifyParts
    split
    · simp
    · apply raisesPlainly_bind (verifyPending_plainly os d _ _ _)
      intro content
      apply raisesPlainly_bind (ih _)
      rintro ⟨parts,bytes⟩
      simp

theorem verifySingle_plainly (os : Platform) (d : Dir) (filename : Str) (size : Int) (sha256 : Str) :
    RaisesPlainly (verifySingle os d filename size sha256) :=
  raisesPlainly_bind (verifyPending_plainly os d _ _ _) fun _ => by simp

theorem stat_plainly (d : Dir) (name : Str) : RaisesPlainly (d.stat name) := by
  unfold Dir.stat Entry.followed
  split
  · simp
  · simp
  · split <;> simp

theorem manifestDocument_plainly (os : Platform) (d : Dir) : RaisesPlainly (manifestDocument os d) := by
  apply raisesPlainly_bind (stat_plainly d _)
  intro entry
  split
  · rename_i content readable
    split_ifs
    · simp
    · apply raisesPlainly_bind
      · unfold readManifest
        split_ifs
        · simp
        · split
          · simp
          · split <;> simp
      · intro document
        split_ifs <;> simp
  · simp

theorem documentArtifacts_plainly (os : Platform) (d : Dir) (filename : Str) (size : Int) (sha256 : Str)
    (document : Json) : RaisesPlainly (documentArtifacts os d filename size sha256 document) := by
  unfold documentArtifacts
  split_ifs
  · simp
  · unfold verifiedParts
    split
    · apply raisesPlainly_bind (verifyParts_plainly os d _ _ _ _)
      rintro ⟨parts,bytes⟩
      simp only
      split_ifs <;> simp
    · simp
  · simp
  · exact verifySingle_plainly os d _ _ _

theorem deliveryArtifacts_plainly (os : Platform) (d : Dir) (filename : Str) (size : Int) (sha256 : Str) :
    RaisesPlainly (deliveryArtifacts os d filename size sha256) := by
  have exists_ (name : Str) : RaisesPlainly (d.exists_ name) := by
    have found := stat_plainly d name
    unfold Dir.exists_
    cases same : d.stat name with
    | error e => simpa [same,Except.map] using found
    | ok entry => simp [Except.map]
  apply raisesPlainly_bind
  · apply raisesPlainly_bind (exists_ filename)
    intro present
    split_ifs
    · exact raisesPlainly_bind (exists_ manifestName) fun _ => by simp
    · simp
  · intro fresh
    split_ifs
    · exact verifySingle_plainly os d _ _ _
    · exact raisesPlainly_bind (manifestDocument_plainly os d) fun document =>
        documentArtifacts_plainly os d _ _ _ document

theorem spoolCodes_terminal : ∀ code ∈ spoolCodes, terminalCodes.contains (safeCode (some code)) = true := by
  decide

/-- The codes of verification are among those that end a run, and nothing else it raises is. -/
theorem terminal_iff_coded {e : Failure} (plainly : Plainly e) :
    terminalCodes.contains (safeCode e.code) = true ↔ Coded e := by
  rcases plainly with coded | codeless
  · obtain ⟨code,member,same⟩ := coded
    rw [same]
    constructor
    · intro _
      exact ⟨code,member,same⟩
    · intro _
      exact spoolCodes_terminal code member
  · rw [codeless]
    constructor
    · intro terminal
      exact absurd terminal (by decide)
    · rintro ⟨code,-,same⟩
      simp [codeless] at same

/-- The run waits for delivery, its claim is in force and nobody has cancelled it. -/
structure Delivering (owner : Owner) (row : BackupRun) : Prop where
  status : row.status = .deliveryPending
  owned : row.leaseOwner = some owner
  notCancelled : row.cancelRequested = false

section Attempt

variable {c : Setup} {owner : Owner} {i : Answer} {s : World} (quiet : i.fault = none)
  (delivering : Delivering owner s.run)
include quiet delivering

/-- `_fail` of such a run is one read and one commit. -/
theorem fail_alone (code : String) : (fail c owner code).alone i s =
    some (.ok (),{ s with run := { s.run.failedWith c code s.now with updatedAt := s.now } }) := by
  have held : s.run.status.Active ∧ s.run.leaseOwner = some owner := by
    rw [delivering.status]
    exact ⟨by decide,delivering.owned⟩
  have dirty : ((Orm.load s.run).assign (·.failedWith c code s.now)).dirty = true := by
    apply decide_eq_true
    intro same
    have lease : none = s.run.leaseOwner := congrArg BackupRun.leaseOwner same
    simp [delivering.owned] at lease
  have written := Orm.flush_fresh _ s.now dirty
  rw [fail,alone_look_bind quiet]
  simp only [if_pos held]
  rw [if_neg (not_not.mpr delivering.status),alone_op quiet]
  exact congrArg (fun run => some (Except.ok (),{ s with run := run })) written

/-- Without a cancellation every exception of such a run reaches `_fail`. -/
theorem handleException_alone (task : Nat) (e : Failure) (kept : s.leaseLost task = false) :
    (handleException c owner task (.failure e)).alone i s =
      (fail c owner (safeCode e.code)).alone i s := by
  have notFinal : finalizable owner s.run = false := by simp [finalizable,delivering.notCancelled]
  have asked : (finalizeCancelRequested c owner).alone i s = some (.ok false,s) := by
    rw [finalizeCancelRequested,alone_op_bind quiet]
    simp [World.finalizeCancelRequested,notFinal]
  rw [handleException,alone_look_bind quiet]
  simp only [kept,Bool.false_eq_true,if_false]
  rw [Prog.alone_then _ asked]
  rfl

theorem work_damaged {path : Path} {filename : Str} {size : Int} {sha256 : Str} {e : Failure}
    (recorded : recordedArtifact s.run = some (path,filename,size,sha256))
    (damaged : deliveryArtifacts c.os ((s.spool path).getD Dir.empty) filename size sha256 = .error e) :
    (work c owner).alone i s = some (.error (.failure e),s) := by
  have fence : checkFence (Orm.load s.run).cur.leaseOwner true s.run = .ok () :=
    checkFence_ok.mpr ⟨rfl,fun _ => delivering.notCancelled⟩
  have refused : (verifyArtifacts c (path,filename,size,sha256)).alone i s = some (.error (.failure e),s) := by
    rw [verifyArtifacts,alone_look quiet,damaged]
  have loaded : (Orm.load s.run).cur = s.run := rfl
  have same : recordedArtifact ((Orm.load s.run).refreshFence s.run).cur = some (path,filename,size,sha256) :=
    recorded
  rw [work,alone_look_bind quiet]
  simp only [loaded,delivering.notCancelled,delivering.status,Bool.false_eq_true,if_false,if_true]
  rw [attempt,Prog.alone_then _ (alone_boundary quiet .fence _ _ fence)]
  simp only [same]
  exact Prog.alone_raises _ refused

/-- A damaged directory makes the execution commit `_fail` with the code of the refusal. -/
theorem execute_damaged {path : Path} {filename : Str} {size : Int} {sha256 : Str} {e : Failure} {task : Nat}
    (kept : s.leaseLost task = false)
    (recorded : recordedArtifact s.run = some (path,filename,size,sha256))
    (damaged : deliveryArtifacts c.os ((s.spool path).getD Dir.empty) filename size sha256 = .error e) :
    (execute c owner task).alone i s =
      some (.ok (),{ s with run := { s.run.failedWith c (safeCode e.code) s.now with updatedAt := s.now } }) := by
  rw [execute,Prog.alone_handled _ (work_damaged quiet delivering recorded damaged)]
  rw [handleException_alone quiet delivering task e kept,fail_alone quiet delivering]

end Attempt

theorem failedWith_status {c : Setup} {row : BackupRun} {code : String} {now : Time}
    (status : row.status = .deliveryPending) :
    (row.failedWith c code now).status = .failed ↔ terminalCodes.contains code = true := by
  unfold BackupRun.failedWith
  rw [if_pos status]
  split
  · rename_i terminal
    exact iff_of_true rfl terminal
  · rename_i terminal
    refine iff_of_false ?_ terminal
    simp [status]

def DeliverySettles (os : Platform) (d : Dir) (filename : Str) (size : Int) (sha256 : Str) : Prop :=
  (∃ parts, deliveryArtifacts os d filename size sha256 = .ok parts ∧ Intact os d size sha256 parts) ∨
    ∃ e, deliveryArtifacts os d filename size sha256 = .error e ∧ Coded e

/-- Recovery ends in an artifact whose parts are intact or in one of its own codes. -/
def RecoverySettles (os : Platform) (pendingRoot : Path) (d : Dir) (path : Path) (runUuid : Str) : Prop :=
  let recovered := recoverFinalized os pendingRoot (Function.update (fun _ => none) path (some d)) path runUuid
  (∃ finalized metadata parts, recovered = .ok (some (finalized,metadata)) ∧
      Intact os d finalized.size finalized.checksum parts ∧
      (finalized.parts = parts ∨ finalized.parts = [] ∧
        parts = single finalized.artifact finalized.size finalized.checksum)) ∨
    ∃ e, recovered = .error e ∧ Coded e

theorem deliverySettles_iff {os : Platform} {d : Dir} {filename : Str} {size : Int} {sha256 : Str} :
    DeliverySettles os d filename size sha256 ↔ DeliveryReads os d filename size sha256 := by
  rw [← deliveryArtifacts_settled]
  unfold DeliverySettles
  cases outcome : deliveryArtifacts os d filename size sha256 with
  | error e => simp
  | ok parts => simp [deliveryArtifacts_intact outcome]

/-- A manifest of the first schema stands for one part. -/
theorem deliveryArtifacts_single {os : Platform} {d : Dir} {filename : Str} {size : Int} {sha256 : Str}
    {document : Json} {parts : List ArtifactPart} (read : manifestDocument os d = .ok document)
    (first : hasSchema document 2 = false) (h : deliveryArtifacts os d filename size sha256 = .ok parts) :
    parts = single filename size sha256 := by
  have single_of (h : verifySingle os d filename size sha256 = .ok parts) : parts = single filename size sha256 := by
    obtain ⟨content,-,h⟩ := except_bind_ok.mp h
    exact (Except.ok.inj h).symm
  obtain ⟨fresh,-,h⟩ := except_bind_ok.mp h
  cases fresh with
  | true => exact single_of h
  | false =>
    obtain ⟨found,same,h⟩ := except_bind_ok.mp h
    obtain rfl := Except.ok.inj (read.symm.trans same)
    rw [documentArtifacts,first,if_neg Bool.false_ne_true] at h
    split_ifs at h
    · exact single_of h

theorem recoverDirectory_intact {os : Platform} {directory : Path} {d : Dir} {runUuid : Str}
    {finalized : FinalizedArtifact} {metadata : Json}
    (h : recoverDirectory os directory d runUuid = .ok (finalized,metadata)) :
    ∃ parts, Intact os d finalized.size finalized.checksum parts ∧
      (finalized.parts = parts ∨ finalized.parts = [] ∧
        parts = single finalized.artifact finalized.size finalized.checksum) := by
  obtain ⟨document,read,h⟩ := except_bind_ok.mp h
  obtain ⟨known,-,h⟩ := except_bind_ok.mp h
  by_cases refused : (!known || !hasOwner document runUuid) = true
  · rw [if_pos refused] at h
    contradiction
  · rw [if_neg refused] at h
    dsimp only at h
    split at h
    · contradiction
    · obtain ⟨parts,verified,h⟩ := except_bind_ok.mp h
      simp only [except_pure,Except.ok.injEq,Prod.mk.injEq] at h
      obtain ⟨rfl,rfl⟩ := h
      refine ⟨parts,deliveryArtifacts_intact verified,?_⟩
      by_cases several : hasSchema document 2 = true
      · exact .inl (if_pos several)
      · exact .inr ⟨if_neg several,deliveryArtifacts_single read (by simpa using several) verified⟩

theorem recoverySettles_iff {os : Platform} {pendingRoot : Path} {d : Dir} {path : Path} {runUuid : Str} :
    RecoverySettles os pendingRoot d path runUuid ↔
      path.dropLast.dropLast = pendingRoot → ownedName runUuid (pathName path) = true →
        RecoveryReads os d runUuid := by
  rw [← @recoverDirectory_settled os path]
  unfold RecoverySettles recoverFinalized
  simp only [Function.update_self]
  by_cases outside : path.dropLast.dropLast = pendingRoot ∧ ownedName runUuid (pathName path) = true
  · obtain ⟨same,owned⟩ := outside
    rw [if_neg (by simp [same,owned])]
    simp only [same,owned,forall_const]
    cases outcome : recoverDirectory os path d runUuid with
    | error e => simp [Except.map]
    | ok found =>
      obtain ⟨finalized,metadata⟩ := found
      obtain ⟨parts,intact,which⟩ := recoverDirectory_intact outcome
      simp only [Except.map,settled_ok,iff_true]
      exact .inl ⟨finalized,metadata,parts,rfl,intact,which⟩
  · have refused : path.dropLast.dropLast ≠ pendingRoot ∨ (!ownedName runUuid (pathName path)) = true := by
      by_contra both
      exact outside (by simpa using both)
    rw [if_pos refused]
    refine iff_of_true (.inr ⟨invalidPath,rfl,coded_invalidPath⟩) fun same owned => ?_
    exact absurd ⟨same,owned⟩ outside

/-- Verification and recovery settle exactly the directories that can be read as far as
they look, and a run with a damaged directory ends at its next attempt exactly then. -/
theorem corruptSpool_settles (c : Setup) :
    (∀ d filename size sha256,
      DeliverySettles c.os d filename size sha256 ↔ DeliveryReads c.os d filename size sha256) ∧
    (∀ d path, RecoverySettles c.os c.pendingRoot d path c.uuid.text ↔
      path.dropLast.dropLast = c.pendingRoot → ownedName c.uuid.text (pathName path) = true →
        RecoveryReads c.os d c.uuid.text) ∧
    ∀ owner task i s path filename size sha256 e, i.fault = none → Delivering owner s.run →
      s.leaseLost task = false → recordedArtifact s.run = some (path,filename,size,sha256) →
      deliveryArtifacts c.os ((s.spool path).getD Dir.empty) filename size sha256 = .error e →
      ∃ s', (execute c owner task).alone i s = some (.ok (),s') ∧
        (s'.run.status = .failed ↔
          DeliveryReads c.os ((s.spool path).getD Dir.empty) filename size sha256) := by
  refine ⟨fun d filename size sha256 => deliverySettles_iff,fun d path => recoverySettles_iff,?_⟩
  intro owner task i s path filename size sha256 e quiet delivering kept recorded damaged
  refine ⟨_,execute_damaged quiet delivering kept recorded damaged,?_⟩
  have plainly : Plainly e := deliveryArtifacts_plainly c.os _ _ _ _ e damaged
  have settled : Settled (deliveryArtifacts c.os ((s.spool path).getD Dir.empty) filename size sha256) ↔ Coded e := by
    rw [damaged,settled_error]
  rw [← deliveryArtifacts_settled,settled,← terminal_iff_coded plainly]
  exact failedWith_status (c := c) delivering.status

def damagedWorld (manifest : List Nat) : World :=
  let path := [str "pending",str "profile",str "stamp_uuid"]
  let waiting := { BackupRun.enqueued 0 with
    status := .deliveryPending, stage := .pendingDelivery, leaseOwner := some 7, leaseExpiresAt := some 30
    pendingDirectory := some path, finalFilename := some (str "a"), finalSizeBytes := some 1
    finalSha256 := some (List.replicate 64 48) }
  { World.fresh waiting 0 [] [] with spool := Function.update (fun _ => none) path (some (Dir.empty.put manifestName manifest)) }

/-- A list is a manifest that the attempt cannot refuse by a code, an empty dictionary is
one that it can. -/
theorem corruptSpool_settles_small :
    ∃ s', (execute smallSetup 7 0).alone plainAnswer (damagedWorld (str "{}")) = some (.ok (),s') ∧ s'.run.status = .failed := by
  obtain ⟨s',run,settles⟩ := (corruptSpool_settles smallSetup).2.2 7 0 plainAnswer (damagedWorld (str "{}"))
    [str "pending",str "profile",str "stamp_uuid"] (str "a") 1 (List.replicate 64 48) invalidManifest
    rfl ⟨rfl,rfl,rfl⟩ rfl (by decide) (by decide)
  have reads : ManifestReads smallSetup.os (Dir.empty.put manifestName (str "{}")) := fun _ => ⟨rfl,_,_,rfl,rfl,rfl⟩
  exact ⟨s',run,settles.mpr ⟨none,rfl,.inr ⟨reads,nofun⟩⟩⟩

/-- An unfinished manifest is no refusal: the run is released and can be claimed again at once. -/
theorem corruptSpool_released :
    ¬DeliverySettles smallSetup.os (Dir.empty.put manifestName (str "\x7b")) (str "a") 1 (List.replicate 64 48) ∧
    ((execute smallSetup 7 0).alone plainAnswer (damagedWorld (str "\x7b"))).map
      (fun (_,s) => (s.run.status,s.run.leaseOwner,claimable [.deliveryPending] s)) =
        some (.deliveryPending,none,true) := by
  constructor
  · have broken : deliveryArtifacts smallSetup.os (Dir.empty.put manifestName (str "\x7b")) (str "a") 1
        (List.replicate 64 48) = .error (.builtin "JSONDecodeError") := by decide
    rintro (⟨parts,same,-⟩ | ⟨e,same,coded⟩)
    · cases broken.symm.trans same
    · cases broken.symm.trans same
      exact not_coded_builtin _ _ coded
  · decide

end BackupTelebot
