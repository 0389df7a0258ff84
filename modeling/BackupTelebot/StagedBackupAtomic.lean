import BackupTelebot.StagedBackup

/-! Which failures of `_stage_verified` are cleaned up after, and that with no other failure the
staging is atomic. -/
namespace BackupTelebot.StagedBackup

open PyJson FallibleCalls NativeBackups

/-- What the caller finds afterwards. -/
def Atomic (hash : Hash) (name : Str) : Except Raised (Str × ℤ × Str) → State → Prop
  | .ok (stagedName,size,checksum), s => stagedName = name ∧ s.nativeRemoved = true ∧
      ∃ content, s.staged = some content ∧ (content.length : ℤ) = size ∧ hash.digest content = checksum
  | .error _, s => s.nativeRemoved = false ∧ s.staged = none

def Call.isCopying : Call → Bool
  | .copying _ => true
  | _ => false

def copyFailed (log : Log) : Bool := log.any fun event => event.call.isCopying && event.answer.isNone

def nativeUnlinked (log : Log) : Bool := log.any fun event => event.call = .unlinkNative && event.answer.isSome

/-- Whether a failure of the call leaves nothing behind: what comes before the staged file and
the copy always, closing the target only behind a failed copy, and the other descriptors only
while the native file is there. -/
def covered (log : Log) : Call → Bool
  | .openRoot | .openStaging | .uuid4 | .openSource | .statSource | .createTarget | .copying _ => true
  | .closeTarget => copyFailed log
  | .closeSource | .closeStaging | .closeRoot => !nativeUnlinked log
  | _ => false

def Harmless (log : Log) : Prop := ∀ event ∈ log, event.answer = none → covered log event.call = true

instance (log : Log) : Decidable (Harmless log) := by
  unfold Harmless
  infer_instance

@[simp] theorem copyFailed_append (log : Log) (call : Call) (answer : Option Answer) :
    copyFailed (log ++ [⟨call,answer⟩]) = (copyFailed log || (call.isCopying && answer.isNone)) := by
  simp [copyFailed]

@[simp] theorem nativeUnlinked_append (log : Log) (call : Call) (answer : Option Answer) :
    nativeUnlinked (log ++ [⟨call,answer⟩]) = (nativeUnlinked log || (decide (call = .unlinkNative) && answer.isSome)) := by
  simp [nativeUnlinked]

def Calm (log : Log) : Prop := ∀ event ∈ log, event.answer ≠ none

theorem Calm.append {log : Log} (calm : Calm log) (call : Call) (answer : Answer) :
    Calm (log ++ [⟨call,some answer⟩]) := by
  intro event member
  rcases List.mem_append.mp member with before | last
  · exact calm event before
  · obtain rfl := List.mem_singleton.mp last
    simp

theorem Calm.copyFailed {log : Log} (calm : Calm log) : copyFailed log = false := by
  rw [StagedBackup.copyFailed,List.any_eq_false]
  intro event member
  have answered := calm event member
  simp [answered]

theorem Calm.harmless {log : Log} (calm : Calm log) : Harmless log :=
  fun event member failed => absurd failed (calm event member)

/-- The first failure decides. -/
theorem Calm.harmless_append {log : Log} (calm : Calm log) (call : Call) :
    Harmless (log ++ [⟨call,none⟩]) ↔ covered (log ++ [⟨call,none⟩]) call = true := by
  constructor
  · exact fun harmless => harmless ⟨call,none⟩ (by simp) rfl
  · intro cover event member failed
    rcases List.mem_append.mp member with before | last
    · exact absurd failed (calm event before)
    · obtain rfl := List.mem_singleton.mp last
      exact cover

/-- Another event changes nothing if it leaves the two facts alone and is covered itself. -/
theorem harmless_append {log : Log} {call : Call} {answer : Option Answer}
    (copied : StagedBackup.copyFailed (log ++ [⟨call,answer⟩]) = StagedBackup.copyFailed log)
    (unlinked : nativeUnlinked (log ++ [⟨call,answer⟩]) = nativeUnlinked log)
    (cover : answer = none → covered log call = true) : Harmless (log ++ [⟨call,answer⟩]) ↔ Harmless log := by
  have same : covered (log ++ [⟨call,answer⟩]) = covered log := by
    funext other
    cases other <;> simp only [covered,copied,unlinked]
  unfold Harmless
  rw [same]
  constructor
  · exact fun harmless event member => harmless event (List.mem_append_left _ member)
  · intro harmless event member failed
    rcases List.mem_append.mp member with before | last
    · exact harmless event before failed
    · obtain rfl := List.mem_singleton.mp last
      exact cover failed

def Fresh (s : State) (log : Log) : Prop := s = ⟨none,false⟩ ∧ Calm log ∧ nativeUnlinked log = false

def Created (s : State) (log : Log) : Prop :=
  s.staged.isSome = true ∧ s.nativeRemoved = false ∧ Calm log ∧ nativeUnlinked log = false

def Holds (content : Bytes) (s : State) (log : Log) : Prop := s.staged = some content ∧ Created s log

def Leaving (s : State) (log : Log) : Prop :=
  s.nativeRemoved = false ∧ nativeUnlinked log = false ∧ (s.staged = none ↔ Harmless log)

def Left (s : State) (log : Log) : Prop :=
  s.staged.isSome = true ∧ s.nativeRemoved = false ∧ nativeUnlinked log = false ∧ ¬Harmless log

def Torn (s : State) (log : Log) : Prop :=
  s.staged.isSome = true ∧ s.nativeRemoved = false ∧ copyFailed log = true ∧ nativeUnlinked log = false ∧ Harmless log

def Lost (s : State) (log : Log) : Prop := s.nativeRemoved = true ∧ nativeUnlinked log = true ∧ ¬Harmless log

theorem Fresh.done {s : State} {log : Log} (fresh : Fresh s log) {call : Call} (other : call ≠ .unlinkNative)
    (answer : Answer) : Fresh s (log ++ [⟨call,some answer⟩]) := by
  obtain ⟨state,calm,kept⟩ := fresh
  exact ⟨state,calm.append call answer,by simp [kept,other]⟩

theorem Fresh.failed {s : State} {log : Log} (fresh : Fresh s log) {call : Call} (cover : ∀ log, covered log call = true) :
    Leaving s (log ++ [⟨call,none⟩]) := by
  obtain ⟨rfl,calm,kept⟩ := fresh
  exact ⟨rfl,by simp [kept],by simp [calm.harmless_append,cover]⟩

theorem Created.done {s : State} {log : Log} (created : Created s log) {call : Call} (other : call ≠ .unlinkNative)
    (answer : Answer) : Created s (log ++ [⟨call,some answer⟩]) := by
  obtain ⟨staged,native,calm,kept⟩ := created
  exact ⟨staged,native,calm.append call answer,by simp [kept,other]⟩

theorem Left.leaving {s : State} {log : Log} (left : Left s log) : Leaving s log := by
  obtain ⟨staged,native,kept,harm⟩ := left
  refine ⟨native,kept,iff_of_false ?_ harm⟩
  intro gone
  simp [gone] at staged

/-- A failure that is not covered leaves the staged file behind. -/
theorem Created.left {s : State} {log : Log} (created : Created s log) {call : Call}
    (bare : covered (log ++ [⟨call,none⟩]) call = false) : Left s (log ++ [⟨call,none⟩]) := by
  obtain ⟨staged,native,calm,kept⟩ := created
  refine ⟨staged,native,by simp [kept],?_⟩
  rw [calm.harmless_append,bare]
  exact Bool.false_ne_true

theorem Created.failed {s : State} {log : Log} (created : Created s log) {call : Call}
    (bare : covered (log ++ [⟨call,none⟩]) call = false) : Leaving s (log ++ [⟨call,none⟩]) :=
  (created.left bare).leaving

theorem Created.torn {s : State} {log : Log} (created : Created s log) (step : CopyStep) :
    Torn s (log ++ [⟨.copying step,none⟩]) := by
  obtain ⟨staged,native,calm,kept⟩ := created
  exact ⟨staged,native,by simp [Call.isCopying],by simp [kept],(calm.harmless_append _).mpr rfl⟩

theorem Torn.append {s : State} {log : Log} (torn : Torn s log) (step : CopyStep) (answer : Option Answer) :
    Torn s (log ++ [⟨.copying step,answer⟩]) := by
  obtain ⟨staged,native,failed,kept,harmless⟩ := torn
  have copied : copyFailed (log ++ [⟨.copying step,answer⟩]) = copyFailed log := by simp [failed]
  exact ⟨staged,native,copied.trans failed,by simp [kept],(harmless_append copied (by simp) fun _ => rfl).mpr harmless⟩

/-- The calls that close what was opened before the staged file. -/
def Call.isClosing : Call → Bool
  | .closeSource | .closeStaging | .closeRoot => true
  | _ => false

theorem Leaving.append {s : State} {log : Log} (leaving : Leaving s log) {call : Call} (answer : Option Answer)
    (closing : call.isClosing = true) : Leaving s (log ++ [⟨call,answer⟩]) := by
  obtain ⟨native,kept,staged⟩ := leaving
  have same : Harmless (log ++ [⟨call,answer⟩]) ↔ Harmless log := by
    apply harmless_append
    · cases call <;> simp_all [Call.isClosing,Call.isCopying]
    · cases call <;> simp_all [Call.isClosing]
    · intro _
      cases call <;> simp_all [Call.isClosing,covered]
  refine ⟨native,?_,staged.trans same.symm⟩
  cases call <;> simp_all [Call.isClosing]

theorem Lost.append {s : State} {log : Log} (lost : Lost s log) {call : Call} (answer : Option Answer)
    (closing : call.isClosing = true) : Lost s (log ++ [⟨call,answer⟩]) := by
  obtain ⟨native,gone,harm⟩ := lost
  have unlinked : nativeUnlinked (log ++ [⟨call,answer⟩]) = nativeUnlinked log := by simp [gone]
  have copied : copyFailed (log ++ [⟨call,answer⟩]) = copyFailed log := by
    cases call <;> simp_all [Call.isClosing,Call.isCopying]
  refine ⟨native,unlinked.trans gone,fun harmless => harm ?_⟩
  intro event member failed
  have cover := harmless event (List.mem_append_left _ member) failed
  have same : covered (log ++ [⟨call,answer⟩]) event.call = covered log event.call := by
    cases event.call <;> simp only [covered,copied,unlinked]
  rwa [same] at cover

section Calls

variable {α : Type} {pre : State → Log → Prop} {err : State → Log → Prop} {call : Call}

def Answered (pre : State → Log → Prop) (call : Call) (answer : Answer) (s : State) (log : Log) : Prop :=
  ∃ before, pre s before ∧ log = before ++ [⟨call,some answer⟩]

theorem ensures_answer {read : Answer → M α} {ok : α → State → Log → Prop}
    (failed : ∀ s log, pre s log → err s (log ++ [⟨call,none⟩]))
    (done : ∀ answer, Program.Ensures (Answered pre call answer) (read answer) ok err) :
    Program.Ensures pre (Program.call Raised.call call >>= read) ok err :=
  (Program.ensures_call (fun _ log _ before => ⟨log,before,rfl⟩) failed).bind done

theorem ensures_returned {ok : α → State → Log → Prop} {answer : Answer} {value : α}
    (done : ∀ s log, pre s log → ok value s (log ++ [⟨call,some answer⟩])) :
    Program.Ensures (Answered pre call answer) (pure value : M α) ok err := by
  apply (Program.ensures_pure value).weaken
  · rintro s _ ⟨log,before,rfl⟩
    exact done s log before
  · exact fun _ _ _ after => after
  · exact fun _ _ failed => failed

theorem ensures_perform {ok : Unit → State → Log → Prop}
    (failed : ∀ s log, pre s log → err s (log ++ [⟨call,none⟩]))
    (done : ∀ s log, pre s log → ok () s (log ++ [⟨call,some .done⟩])) : Program.Ensures pre (perform call) ok err := by
  apply ensures_answer failed
  intro answer
  cases answer with
  | done => exact ensures_returned done
  | status status => exact Program.ensures_stuck
  | bytes chunk => exact Program.ensures_stuck
  | taken count => exact Program.ensures_stuck

theorem ensures_statusOf {ok : Status → State → Log → Prop}
    (failed : ∀ s log, pre s log → err s (log ++ [⟨call,none⟩]))
    (done : ∀ status s log, pre s log → ok status s (log ++ [⟨call,some (.status status)⟩])) :
    Program.Ensures pre (statusOf call) ok err := by
  apply ensures_answer failed
  intro answer
  cases answer with
  | done => exact Program.ensures_stuck
  | status status => exact ensures_returned (done status)
  | bytes chunk => exact Program.ensures_stuck
  | taken count => exact Program.ensures_stuck

theorem ensures_bytesOf {ok : Bytes → State → Log → Prop}
    (failed : ∀ s log, pre s log → err s (log ++ [⟨call,none⟩]))
    (done : ∀ chunk s log, pre s log → ok chunk s (log ++ [⟨call,some (.bytes chunk)⟩])) :
    Program.Ensures pre (bytesOf call) ok err := by
  apply ensures_answer failed
  intro answer
  cases answer with
  | done => exact Program.ensures_stuck
  | status status => exact Program.ensures_stuck
  | bytes chunk => exact ensures_returned (done chunk)
  | taken count => exact Program.ensures_stuck

theorem ensures_countOf {ok : ℕ → State → Log → Prop}
    (failed : ∀ s log, pre s log → err s (log ++ [⟨call,none⟩]))
    (done : ∀ count s log, pre s log → ok count s (log ++ [⟨call,some (.taken count)⟩])) :
    Program.Ensures pre (countOf call) ok err := by
  apply ensures_answer failed
  intro answer
  cases answer with
  | done => exact Program.ensures_stuck
  | status status => exact Program.ensures_stuck
  | bytes chunk => exact Program.ensures_stuck
  | taken count => exact ensures_returned (done count)

end Calls

theorem Holds.done {content : Bytes} {s : State} {log : Log} (holds : Holds content s log) {call : Call}
    (other : call ≠ .unlinkNative) (answer : Answer) : Holds content s (log ++ [⟨call,some answer⟩]) :=
  ⟨holds.1,holds.2.done other answer⟩

/-- A step of the copy. -/
theorem ensures_copying (content : Bytes) (step : CopyStep) :
    Program.Ensures (Holds content) (perform (.copying step)) (fun _ => Holds content) Torn :=
  ensures_perform (fun _ _ holds => holds.2.torn step) fun _ _ holds => holds.done (by simp) _

/-- Closing a stream, whether or not the copy has failed. -/
theorem ensures_closeStream {α : Type} {m : M α} {pre : State → Log → Prop} {content : α → Bytes} (step : CopyStep)
    (body : Program.Ensures pre m (fun value => Holds (content value)) Torn) :
    Program.Ensures pre (m.tryFinally (perform (.copying step))) (fun value => Holds (content value)) Torn :=
  body.tryFinally (fun value => ensures_copying (content value) step)
    (ensures_perform (fun _ _ torn => torn.append step _) fun _ _ torn => torn.append step _)

theorem append_holds (digest chunk : Bytes) : Program.Ensures (Holds digest)
    (Program.modify fun s : State => { s with staged := s.staged.map (· ++ chunk) } : M Unit)
    (fun _ => Holds (digest ++ chunk)) Torn := by
  apply Program.ensures_modify
  rintro s log ⟨staged,_,native,calm,kept⟩
  exact ⟨by simp [staged],by simp [staged],native,calm,kept⟩

theorem copyTurn_holds (digest : Bytes) :
    Program.Ensures (Holds digest) (copyTurn digest) (Sum.elim Holds Holds) Torn := by
  unfold copyTurn
  apply Program.Ensures.bind
  · exact ensures_bytesOf (fun _ _ holds => holds.2.torn .read) fun _ _ _ holds => holds.done (by simp) _
  intro chunk
  split_ifs with ended
  · change Program.Ensures (Sum.elim Holds Holds (.inl digest : Bytes ⊕ Bytes)) _ _ _
    exact Program.ensures_pure _
  apply (ensures_copying digest .write).bind
  intro _
  apply (append_holds digest chunk).bind
  intro _
  change Program.Ensures (Sum.elim Holds Holds (.inr (digest ++ chunk) : Bytes ⊕ Bytes)) _ _ _
  exact Program.ensures_pure _

theorem copy_holds (turns : ℕ) : Program.Ensures (Holds []) (copy turns) Holds Torn := by
  unfold copy copyHash
  apply (ensures_copying [] .dupSource).bind
  intro _
  apply (ensures_copying [] .openSourceStream).bind
  intro _
  apply Program.Ensures.bind
  · apply ensures_closeStream .closeSourceStream
    apply (ensures_copying [] .dupTarget).bind
    intro _
    apply (ensures_copying [] .openTargetStream).bind
    intro _
    apply ensures_closeStream .closeTargetStream
    apply (Program.ensures_loop copyTurn_holds turns []).bind
    intro digest
    apply (ensures_copying digest .flush).bind
    intro _
    apply (ensures_copying digest .fsync).bind
    intro _
    exact Program.ensures_pure digest
  intro digest
  apply (ensures_copying digest .fchown).bind
  intro _
  exact Program.ensures_pure digest

theorem leaving_of_left {α : Type} {m : M α} {pre : State → Log → Prop} {ok : α → State → Log → Prop}
    (ensured : Program.Ensures pre m ok Left) : Program.Ensures pre m ok Leaving :=
  ensured.weaken (fun _ _ before => before) (fun _ _ _ after => after) fun _ _ left => left.leaving

/-- A call whose failure is not covered. -/
theorem ensures_bare (content : Bytes) {call : Call} (other : call ≠ .unlinkNative)
    (bare : ∀ log, covered log call = false) :
    Program.Ensures (Holds content) (perform call) (fun _ => Holds content) Left :=
  ensures_perform (fun _ _ holds => holds.2.left (bare _)) fun _ _ holds => holds.done other _

theorem Torn.leaving {s : State} {log : Log} (torn : Torn s log) :
    Leaving ⟨none,s.nativeRemoved⟩ (log ++ [⟨.unlinkStaged,some .done⟩]) := by
  obtain ⟨_,native,failed,kept,harmless⟩ := torn
  have same : Harmless (log ++ [⟨.unlinkStaged,some .done⟩]) ↔ Harmless log :=
    harmless_append (by simp) (by simp) nofun
  exact ⟨native,by simp [kept],iff_of_true rfl (same.mpr harmless)⟩

theorem Torn.failed {s : State} {log : Log} (torn : Torn s log) : Leaving s (log ++ [⟨.unlinkStaged,none⟩]) := by
  obtain ⟨staged,native,failed,kept,_⟩ := torn
  refine ⟨native,by simp [kept],?_⟩
  constructor
  · intro gone
    simp [gone] at staged
  · intro harmless
    have cover := harmless ⟨.unlinkStaged,none⟩ (by simp) rfl
    simp [covered] at cover

theorem unlink_torn : Program.Ensures Torn unlinkStaged (fun _ s log => Leaving s log ∧ copyFailed log = true)
    fun s log => Leaving s log ∧ copyFailed log = true := by
  have unlinked : Program.Ensures Torn (perform .unlinkStaged)
      (fun _ => Answered Torn .unlinkStaged .done) fun s log => Leaving s log ∧ copyFailed log = true :=
    ensures_perform (fun _ _ torn => ⟨torn.failed,by simp [torn.2.2.1]⟩) fun _ log torn => ⟨log,torn,rfl⟩
  apply unlinked.bind
  intro _
  apply Program.ensures_modify
  rintro s _ ⟨log,torn,rfl⟩
  exact ⟨torn.leaving,by simp [torn.2.2.1]⟩

/-- Behind a failed copy the target may be closed or not. -/
theorem close_leaving : Program.Ensures (fun s log => Leaving s log ∧ copyFailed log = true) (perform .closeTarget)
    (fun _ => Leaving) Leaving := by
  have keeps {s : State} {log : Log} (leaving : Leaving s log) (failed : copyFailed log = true) (answer : Option Answer) :
      Leaving s (log ++ [⟨.closeTarget,answer⟩]) := by
    obtain ⟨native,kept,staged⟩ := leaving
    have same : Harmless (log ++ [⟨.closeTarget,answer⟩]) ↔ Harmless log :=
      harmless_append (by simp [failed]) (by simp) fun _ => failed
    exact ⟨native,by simp [kept],staged.trans same.symm⟩
  exact ensures_perform (fun _ _ both => keeps both.1 both.2 none) fun _ _ both => keeps both.1 both.2 _

/-- A call before the staged file. -/
theorem ensures_early {call : Call} (other : call ≠ .unlinkNative) (cover : ∀ log, covered log call = true) :
    Program.Ensures Fresh (perform call) (fun _ => Fresh) Leaving :=
  ensures_perform (fun _ _ fresh => fresh.failed cover) fun _ _ fresh => fresh.done other _

theorem createTarget_holds : Program.Ensures Fresh createTarget (fun _ => Holds []) Leaving := by
  apply (ensures_early (by simp) fun _ => rfl).bind
  intro _
  apply Program.ensures_modify
  rintro s log ⟨rfl,calm,kept⟩
  exact ⟨rfl,rfl,rfl,calm,kept⟩

theorem copyVerified_holds (turns : ℕ) : Program.Ensures Fresh (copyVerified turns) Holds Leaving := by
  unfold copyVerified
  apply createTarget_holds.bind
  intro _
  apply (leaving_of_left (ensures_bare [] (by simp) fun _ => rfl)).bind
  intro _
  apply ((copy_holds turns).onError unlink_torn).tryFinally
  · intro digest
    apply ensures_perform
    · intro s log holds
      have calm := holds.2.2.2.1
      exact holds.2.failed (by simp [covered,calm.copyFailed,Call.isCopying])
    · exact fun s log holds => holds.done (by simp) .done
  · exact close_leaving

theorem unlink_calm (content : Bytes) : Program.Ensures (Holds content) unlinkStaged (fun _ => Leaving) Leaving := by
  apply (leaving_of_left (ensures_bare content (by simp) fun _ => rfl)).bind
  intro _
  apply Program.ensures_modify
  rintro s log ⟨_,_,native,calm,kept⟩
  exact ⟨native,kept,iff_of_true rfl calm.harmless⟩

theorem discard_leaving (content : Bytes) (message : String) {post : Unit → State → Log → Prop} :
    Program.Ensures (Holds content) (discard message) post Leaving := by
  apply (unlink_calm content).bind
  intro _
  exact Program.ensures_raise _

/-- A check that discards the staged file unless it is passed. -/
theorem ensures_unless (content : Bytes) (message : String) (bad : Prop) [Decidable bad] :
    Program.Ensures (Holds content) (if bad then discard message else pure ()) (fun _ s log => ¬bad ∧ Holds content s log)
      Leaving := by
  split_ifs with refused
  · exact discard_leaving content message
  · exact (Program.ensures_pure ()).weaken (fun _ _ holds => ⟨refused,holds⟩) (fun _ _ _ both => both) fun _ _ e => e

theorem checkAfter_holds (before : Status) (content : Bytes) :
    Program.Ensures (Holds content) (checkAfter before) (fun _ => Holds content) Leaving := by
  unfold checkAfter
  apply Program.Ensures.bind
  · exact ensures_statusOf (fun _ _ holds => holds.2.failed rfl) fun _ _ _ holds => holds.done (by simp) _
  intro after
  exact (ensures_unless content _ _).weaken (fun _ _ holds => holds) (fun _ _ _ both => both.2) fun _ _ e => e

theorem checkNative_holds (expected : FileState) (content : Bytes) :
    Program.Ensures (Holds content) (checkNative expected) (fun _ => Holds content) Leaving := by
  unfold checkNative
  apply Program.Ensures.bind
  · exact ensures_statusOf (fun _ _ holds => holds.2.failed rfl) fun _ _ _ holds => holds.done (by simp) _
  intro current
  exact (ensures_unless content _ _).weaken (fun _ _ holds => holds) (fun _ _ _ both => both.2) fun _ _ e => e

/-- What has been read, and what is left, make up the content. -/
def Reading (content : Bytes) (progress : Bytes × Bytes) (s : State) (log : Log) : Prop :=
  progress.1 ++ progress.2 = content ∧ Holds content s log

def ReadAll (content digest : Bytes) (s : State) (log : Log) : Prop := digest = content ∧ Holds content s log

theorem readTurn_reading (content : Bytes) (progress : Bytes × Bytes) :
    Program.Ensures (Reading content progress) (readTurn progress) (Sum.elim (ReadAll content) (Reading content)) Left := by
  have counted : Program.Ensures (Reading content progress) (countOf .readStaged) (fun _ => Reading content progress)
      Left :=
    ensures_countOf (fun _ _ reading => reading.2.2.left rfl) fun _ _ _ reading =>
      ⟨reading.1,reading.2.done (by simp) _⟩
  apply counted.bind
  intro count
  have next (size : ℕ) : Program.Ensures (Reading content progress)
      (pure (.inr (progress.1 ++ progress.2.take size,progress.2.drop size)) : M (Bytes ⊕ Bytes × Bytes))
      (Sum.elim (ReadAll content) (Reading content)) Left := by
    refine (Program.ensures_pure _).weaken ?_ (fun _ _ _ after => after) fun _ _ failed => failed
    rintro s log ⟨whole,holds⟩
    exact ⟨by rw [← whole,List.append_assoc,List.take_append_drop],holds⟩
  simp only
  split_ifs with ended
  · have beyond : progress.2 = [] := by
      rcases List.take_eq_nil_iff.mp ended with none | empty
      · omega
      · exact empty
    refine (Program.ensures_pure _).weaken ?_ (fun _ _ _ after => after) fun _ _ failed => failed
    rintro s log ⟨whole,holds⟩
    exact ⟨by simpa [beyond] using whole,holds⟩
  · exact next _

theorem close_left : Program.Ensures Left (perform .closeStaged) (fun _ => Left) Left := by
  have keeps {s : State} {log : Log} (left : Left s log) (answer : Option Answer) :
      Left s (log ++ [⟨.closeStaged,answer⟩]) := by
    obtain ⟨staged,native,kept,harm⟩ := left
    refine ⟨staged,native,by simp [kept],fun harmless => harm fun event member failed => ?_⟩
    have cover := harmless event (List.mem_append_left _ member) failed
    have same : covered (log ++ [⟨.closeStaged,answer⟩]) event.call = covered log event.call := by
      cases event.call <;> simp [covered,Call.isCopying]
    rwa [same] at cover
  exact ensures_perform (fun _ _ left => keeps left none) fun _ _ left => keeps left _

def Verified (content : Bytes) (read : ℤ × Bytes) (s : State) (log : Log) : Prop :=
  read = ((content.length : ℤ),content) ∧ Holds content s log

theorem readDescriptor_verified (turns : ℕ) (content : Bytes) :
    Program.Ensures (Holds content) (readDescriptor turns) (Verified content) Left := by
  have looked : Program.Ensures (Holds content) (Program.get : M State)
      (fun seen s log => seen.staged = some content ∧ Holds content s log) Left :=
    Program.ensures_get fun s log holds => ⟨holds.1,holds⟩
  have again : Program.Ensures (Holds content) (Program.loop readTurn turns ([],content)) (ReadAll content) Left :=
    (Program.ensures_loop (readTurn_reading content) turns _).weaken (fun _ _ holds => ⟨rfl,holds⟩)
      (fun _ _ _ after => after) fun _ _ left => left
  unfold readDescriptor
  apply (ensures_bare content (by simp) fun _ => rfl).bind
  intro _
  apply looked.bind
  intro seen
  apply Program.ensures_given
  intro staged
  simp only [staged,Option.getD_some]
  apply (ensures_bare content (by simp) fun _ => rfl).bind
  intro _
  apply again.bind
  intro digest
  apply Program.ensures_given
  rintro rfl
  exact (Program.ensures_pure _).weaken (fun _ _ holds => ⟨rfl,holds⟩) (fun _ _ _ after => after) fun _ _ left => left

theorem readStaged_verified (turns : ℕ) (content : Bytes) :
    Program.Ensures (Holds content) (readStaged turns) (Verified content) Leaving := by
  unfold readStaged
  apply leaving_of_left
  apply (ensures_bare content (by simp) fun _ => rfl).bind
  intro _
  apply (readDescriptor_verified turns content).tryFinally
  · intro read
    apply ensures_perform
    · exact fun s log both => both.2.2.left rfl
    · exact fun s log both => ⟨both.1,both.2.done (by simp) .done⟩
  · exact close_left

def Removed (content : Bytes) (s : State) (log : Log) : Prop :=
  s = ⟨some content,true⟩ ∧ Calm log ∧ nativeUnlinked log = true

def Succeeded (hash : Hash) (name : Str) (result : Str × ℤ × Str) (s : State) (log : Log) : Prop :=
  Atomic hash name (.ok result) s ∧ Calm log ∧ nativeUnlinked log = true

theorem unlinkNative_removed (content : Bytes) :
    Program.Ensures (Holds content) unlinkNative (fun _ => Removed content) Leaving := by
  have unlinked : Program.Ensures (Holds content) (perform .unlinkNative)
      (fun _ => Answered (Holds content) .unlinkNative .done) Leaving :=
    ensures_perform (fun _ _ holds => holds.2.failed rfl) fun _ log holds => ⟨log,holds,rfl⟩
  apply unlinked.bind
  intro _
  apply Program.ensures_modify
  rintro s _ ⟨log,⟨staged,_,_,calm,_⟩,rfl⟩
  exact ⟨by simp [staged],calm.append _ _,by simp⟩

theorem checkBefore_fresh (expected : FileState) :
    Program.Ensures Fresh (checkBefore expected) (fun _ => Fresh) Leaving := by
  unfold checkBefore
  have looked : Program.Ensures Fresh (statusOf .statSource) (fun _ => Fresh) Leaving :=
    ensures_statusOf (fun _ _ fresh => fresh.failed fun _ => rfl) fun _ _ _ fresh => fresh.done (by simp) _
  apply looked.bind
  intro before
  have refused : Program.Ensures Fresh
      (Program.raise (.acquisitionError "GitLab artifact changed before acquisition") : M Unit) (fun _ => Fresh) Leaving :=
    (Program.ensures_raise _).weaken (fun _ _ ⟨state,calm,kept⟩ => by
      subst state
      exact ⟨rfl,kept,iff_of_true rfl calm.harmless⟩) (fun _ _ _ after => after) fun _ _ e => e
  split_ifs with changed
  · apply refused.bind
    intro _
    exact Program.ensures_skip before
  · exact Program.ensures_skip before

theorem acquire_succeeded (hash : Hash) (name : Str) (expected : FileState) (turns : ℕ) :
    Program.Ensures Fresh (acquire hash name expected turns) (Succeeded hash name) Leaving := by
  unfold acquire
  apply (checkBefore_fresh expected).bind
  intro before
  apply (copyVerified_holds turns).bind
  intro digest
  apply (checkAfter_holds before digest).bind
  intro _
  apply (readStaged_verified turns digest).bind
  intro read
  apply Program.ensures_given
  rintro rfl
  have rest : Program.Ensures (Holds digest) (do
      checkNative expected
      unlinkNative
      return (name,(digest.length : ℤ),hash.digest digest)) (Succeeded hash name) Leaving := by
    apply (checkNative_holds expected digest).bind
    intro _
    apply (unlinkNative_removed digest).bind
    intro _
    refine (Program.ensures_pure _).weaken ?_ (fun _ _ _ after => after) fun _ _ e => e
    rintro s log ⟨rfl,calm,gone⟩
    exact ⟨⟨rfl,rfl,digest,rfl,rfl,rfl⟩,calm,gone⟩
  simp only
  split_ifs with differs
  · exact Program.Ensures.bind (discard_leaving digest _) fun _ => rest
  · exact rest

/-- After the native file is gone, the descriptors may still fail to close. -/
def Over (s : State) (log : Log) : Prop := Leaving s log ∨ Lost s log

theorem Over.append {s : State} {log : Log} (beyond : Over s log) {call : Call} (answer : Option Answer)
    (closing : call.isClosing = true) : Over s (log ++ [⟨call,answer⟩]) :=
  beyond.imp (fun leaving => leaving.append answer closing) fun lost => lost.append answer closing

variable {hash : Hash} {name : Str} {result : Str × ℤ × Str}

theorem Succeeded.done {s : State} {log : Log} (succeeded : Succeeded hash name result s log) (call : Call)
    (answer : Answer) : Succeeded hash name result s (log ++ [⟨call,some answer⟩]) := by
  obtain ⟨atomic,calm,gone⟩ := succeeded
  exact ⟨atomic,calm.append call answer,by simp [gone]⟩

theorem Succeeded.lost {s : State} {log : Log} (succeeded : Succeeded hash name result s log) {call : Call}
    (closing : call.isClosing = true) : Lost s (log ++ [⟨call,none⟩]) := by
  obtain ⟨⟨_,native,_⟩,calm,gone⟩ := succeeded
  refine ⟨native,by simp [gone],?_⟩
  rw [calm.harmless_append]
  cases call <;> simp_all [covered,Call.isClosing]

theorem close_succeeded {call : Call} (closing : call.isClosing = true) :
    Program.Ensures (Succeeded hash name result) (perform call) (fun _ => Succeeded hash name result) Over :=
  ensures_perform (fun _ _ succeeded => .inr (succeeded.lost closing)) fun _ _ succeeded => succeeded.done call .done

theorem close_over {call : Call} (closing : call.isClosing = true) :
    Program.Ensures Over (perform call) (fun _ => Over) Over :=
  ensures_perform (fun _ _ beyond => beyond.append none closing) fun _ _ beyond => beyond.append _ closing

theorem stageVerified_over (hash : Hash) (name : Str) (expected : FileState) (turns : ℕ) :
    Program.Ensures Fresh (stageVerified hash name expected turns) (Succeeded hash name) Over := by
  have early {call : Call} (other : call ≠ .unlinkNative) (cover : ∀ log, covered log call = true) :
      Program.Ensures Fresh (perform call) (fun _ => Fresh) Over :=
    (ensures_early other cover).weaken (fun _ _ fresh => fresh) (fun _ _ _ fresh => fresh) fun _ _ leaving => .inl leaving
  have acquired : Program.Ensures Fresh (acquire hash name expected turns) (Succeeded hash name) Over :=
    (acquire_succeeded hash name expected turns).weaken (fun _ _ fresh => fresh) (fun _ _ _ succeeded => succeeded)
      fun _ _ leaving => .inl leaving
  unfold stageVerified
  apply (early (by simp) fun _ => rfl).bind
  intro _
  apply (early (by simp) fun _ => rfl).bind
  intro _
  apply (early (by simp) fun _ => rfl).bind
  intro _
  have opened : Program.Ensures Fresh (do
      perform .openSource
      Program.tryFinally (acquire hash name expected turns) (perform .closeSource)) (Succeeded hash name) Over := by
    apply (early (by simp) fun _ => rfl).bind
    intro _
    exact acquired.tryFinally (fun _ => close_succeeded rfl) (close_over rfl)
  apply opened.tryFinally
  · intro result
    exact (close_succeeded rfl).bind fun _ => close_succeeded rfl
  · exact (close_over rfl).bind fun _ => close_over rfl

/-- Where nothing is staged yet, every run that ends is atomic exactly if each call that raised
in it was covered. -/
theorem stage_verified_atomic_iff (hash : Hash) (name : Str) (expected : FileState) (turns : ℕ) (script : Log)
    (outcome : Except Raised (Str × ℤ × Str)) (last : Frame Call Answer State)
    (run : stageVerified hash name expected turns ⟨⟨none,false⟩,[],script⟩ = some (outcome,last)) :
    Atomic hash name outcome last.state ↔ Harmless last.log := by
  have fresh : Fresh ⟨none,false⟩ [] := ⟨rfl,by simp [Calm],rfl⟩
  have ended := stageVerified_over hash name expected turns _ outcome last fresh run
  cases outcome with
  | ok result => exact iff_of_true ended.1 ended.2.1.harmless
  | error error =>
    rcases ended with ⟨native,_,staged⟩ | ⟨native,_,harm⟩
    · simp only [Atomic,native,true_and]
      exact staged
    · apply iff_of_false _ harm
      rintro ⟨kept,_⟩
      simp [native] at kept

def twoBytes : FileState := ⟨str "b_gitlab_backup.tar",7,2,5⟩

theorem letters_length (_bytes : List Nat) : (List.replicate 64 97).length = 64 := List.length_replicate

theorem letters_printable (_bytes : List Nat) (c : Nat) (member : c ∈ List.replicate 64 97) : 32 ≤ c ∧ c ≤ 126 := by
  rw [List.eq_of_mem_replicate member]
  omega

def letters : Hash := ⟨fun _ => List.replicate 64 97,letters_length,letters_printable⟩

def done (call : Call) : Event Call Answer := ⟨call,some .done⟩

def copied : Log := [.openRoot,.openStaging,.uuid4,.openSource].map done ++
  [⟨.statSource,some (.status ⟨true,7,2,5⟩)⟩] ++
  [.createTarget,.newDigest,.copying .dupSource,.copying .openSourceStream,.copying .dupTarget,
    .copying .openTargetStream].map done ++
  [⟨.copying .read,some (.bytes [80,75])⟩,done (.copying .write),⟨.copying .read,some (.bytes [])⟩] ++
  [.copying .flush,.copying .fsync,.copying .closeTargetStream,.copying .closeSourceStream,.copying .fchown,
    .closeTarget].map done ++
  [⟨.statSourceAgain,some (.status ⟨true,7,2,5⟩)⟩,done .openStaged,done .statStaged,done .newStagedDigest,
    ⟨.readStaged,some (.taken 9)⟩,⟨.readStaged,some (.taken 9)⟩,done .closeStaged]

def closed : Log := [done .closeSource,done .closeStaging,done .closeRoot]

theorem stage_verified_atomic_two : Atomic letters (str "0.gitlab.tar")
    (.ok (str "0.gitlab.tar",2,List.replicate 64 97)) ⟨some [80,75],true⟩ := by
  have run : stageVerified letters (str "0.gitlab.tar") twoBytes 8 ⟨⟨none,false⟩,[],copied ++
      [⟨.statNative,some (.status ⟨true,7,2,5⟩)⟩,done .unlinkNative] ++ closed⟩ =
        some (.ok (str "0.gitlab.tar",2,List.replicate 64 97),⟨⟨some [80,75],true⟩,copied ++
          [⟨.statNative,some (.status ⟨true,7,2,5⟩)⟩,done .unlinkNative] ++ closed,[]⟩) := by decide +kernel
  exact (stage_verified_atomic_iff letters _ twoBytes 8 _ _ _ run).mpr (by decide)

/-- The native file disappears while its copy is read again: the copy stays. -/
theorem stage_verified_leaves : stageVerified letters (str "0.gitlab.tar") twoBytes 8 ⟨⟨none,false⟩,[],copied ++
      [⟨.statNative,none⟩] ++ closed⟩ =
        some (.error (.call .statNative),⟨⟨some [80,75],false⟩,copied ++ [⟨.statNative,none⟩] ++ closed,[]⟩) ∧
    ¬Atomic letters (str "0.gitlab.tar") (.error (.call .statNative)) ⟨some [80,75],false⟩ :=
  ⟨by decide +kernel,by simp [Atomic]⟩

end BackupTelebot.StagedBackup
