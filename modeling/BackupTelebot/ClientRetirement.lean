import BackupTelebot.TransportRules

/-! A session has one writer: the factory builds a client only when every client before it
has finished its disconnect. A disconnect that ends with an exception is never discarded,
so recovery from a lost client takes a disconnect that ends normally. -/
namespace BackupTelebot.Telegram

open Interleave

def State.Retired (s : State) : Prop := ∀ client ∈ s.retired, client.disconnect = .finished

def State.earlier (s : State) : List Client := s.client.toList ++ s.retired

namespace Retirement

def contract : Contract Point Reply State Exc where
  rely := fun _ => Outside
  guar := fun point s s' => (s.Retired → s'.Retired) ∧ (point = .factory → s.client = none)
  allowed := fun _ _ _ => True
  raises := fun _ _ _ => True
  known := fun _ _ _ => True
  refl := fun _ => Outside.refl
  trans := Outside.trans

abbrev Free (p : Call α) : Prop := ∀ s, Holds contract (fun _ _ => True) p s

namespace Free

theorem ret (result : Except Exc α) : Free (.ret result) := fun _ => trivial

theorem bind {p : Call α} {body : α → Call β} (first : Free p) (next : ∀ value, Free (body value)) :
    Free (p >>= body) :=
  fun s => (first s).seq (fun value s _ => next value s) (fun _ _ _ => trivial)

theorem handle {p : Call α} {handler : Exc → Call α} (first : Free p) (next : ∀ e, Free (handler e)) :
    Free (p.handle handler) := by
  intro s
  apply Holds.handle
  apply (first s).mono
  intro result s' _
  cases result with
  | ok value => trivial
  | error e => exact next e s'

theorem atomic {point : Point} {guard : State → Bool} {effect : Reply → State → State}
    {result : Reply → State → Except Exc α} (elsewhere : point ≠ .factory)
    (keeps : ∀ r s, s.Retired → (effect r s).Retired) : Free (Prog.atomic point guard effect result) := by
  intro s
  apply Holds.atomic_iff.mpr
  intro s' _
  exact ⟨fun _ r _ _ => ⟨⟨keeps r s',fun there => absurd there elsewhere⟩,trivial⟩,fun _ _ => trivial⟩

theorem sync {point : Point} {effect : State → State} {result : State → Except Exc α}
    (elsewhere : point ≠ .factory) (keeps : ∀ s, (effect s).retired = s.retired) :
    Free (Telegram.sync point effect result) :=
  atomic elsewhere fun _ s finished => by rw [State.Retired,keeps]; exact finished

theorem await {point : Point} {effect : Reply → State → State} {result : Reply → Except Exc α}
    (elsewhere : point ≠ .factory) (keeps : ∀ r s, (effect r s).retired = s.retired) :
    Free (Telegram.await point effect result) :=
  atomic elsewhere fun r s finished => by rw [State.Retired,keeps]; exact finished

end Free

theorem startClosing_retired (s : State) : s.startClosing.retired = s.retired := by
  unfold State.startClosing
  split
  · split <;> rfl
  · rfl

theorem discardClient_retired {s : State} (finished : s.Retired) : s.discardClient.Retired := by
  unfold State.discardClient
  split
  · rename_i client given
    split
    · intro earlier member
      rcases List.mem_cons.mp member with same | before
      · subst same
        assumption
      · exact finished earlier before
    · exact finished
  · exact finished

theorem retire_free : Free retire := by
  apply Free.bind (.sync (by decide) startClosing_retired)
  intro present
  cases present with
  | false => exact .ret _
  | true =>
    intro s s' _
    refine ⟨fun _ r _ _ => ⟨⟨discardClient_retired,fun there => by cases there⟩,trivial⟩,fun _ _ => trivial⟩

theorem retireSuppressed_free : Free retireSuppressed := by
  apply Free.handle retire_free
  intro e
  split
  · exact .ret _
  · exact .ret _

/-- Nothing gives the transport a client between its look at the slot and the factory. -/
theorem createClient_free (o : Options) : Free (createClient o) := by
  intro s
  apply Holds.seq (M := fun result s => result = .ok false → s.client = none)
  · apply Holds.atomic_iff.mpr
    intro s' _
    refine ⟨fun _ r _ _ => ⟨⟨fun finished => finished,fun there => by cases there⟩,?_⟩,?_⟩
    · intro absent
      simpa using absent
    · intro e _ absent
      cases absent
  · intro present s absent
    cases present with
    | true => exact trivial
    | false =>
      simp only [Bool.false_eq_true,if_false]
      split
      · exact trivial
      · apply Holds.atomic_iff.mpr
        intro s' out
        refine ⟨fun _ r _ _ => ⟨⟨fun finished => finished,fun _ => ?_⟩,trivial⟩,fun _ _ => trivial⟩
        exact out.client_none.mpr (absent rfl)
  · exact fun _ _ _ => trivial

theorem bootstrap_retired (o : Options) (s : State) : (s.bootstrap o).retired = s.retired := by
  unfold State.bootstrap
  split <;> rfl

theorem establish_free (o : Options) : Free (establish o) := by
  apply Free.bind (.sync (by decide) fun _ => rfl)
  intro connected
  cases connected with
  | true => exact .ret _
  | false =>
    apply Free.bind
    · exact .atomic (by decide) fun _ s finished => by rw [State.Retired,bootstrap_retired]; exact finished
    · intro emptySession
      apply Free.bind
      · apply Free.bind
        · exact .await (by decide) fun _ _ => rfl
        · intro _
          apply Free.bind (.sync (by decide) fun _ => rfl)
          intro connected
          cases connected <;> exact .ret _
      · exact fun _ => .ret _

theorem isAuthorized_free : Free isAuthorized := .atomic (by decide) fun _ _ finished => finished

theorem acceptSession_free (o : Options) : Free (acceptSession o) := by
  apply Free.bind
  · exact .sync (by decide) fun _ => rfl
  · intro _
    split
    · apply Free.bind (.await (by decide) fun _ _ => rfl)
      exact fun _ => .await (by decide) fun _ _ => rfl
    · exact .ret _

theorem verifyClient_free (o : Options) : Free (verifyClient o) := by
  apply Free.bind (createClient_free o)
  intro _
  apply Free.bind (establish_free o)
  intro emptySession
  apply Free.bind isAuthorized_free
  intro authorized
  cases authorized with
  | true => exact acceptSession_free o
  | false =>
    simp only [Bool.false_eq_true,if_false]
    split
    · apply Free.bind (.await (by decide) fun _ _ => rfl)
      intro _
      apply Free.bind isAuthorized_free
      intro authorized
      cases authorized with
      | true => exact acceptSession_free o
      | false => exact .ret _
    · exact .ret _

theorem ensureReady_free (o : Options) : Free (ensureReady o) := by
  apply Free.bind (.sync (by decide) fun _ => rfl)
  intro closed
  cases closed with
  | true => exact .ret _
  | false =>
    apply Free.bind (.sync (by decide) fun _ => rfl)
    intro stale
    cases stale with
    | true => exact .bind retire_free fun _ => verifyClient_free o
    | false => exact verifyClient_free o

theorem sendFailed_free (o : Options) (e : Exc) : Free (sendFailed o e) := by
  apply Free.bind (.sync (by decide) fun _ => rfl)
  intro connected
  split
  · exact .bind retireSuppressed_free fun _ => .ret _
  · exact .ret _

theorem upload_free (o : Options) : Free (upload o) := by
  apply Free.bind
  · intro s s' _
    exact ⟨fun _ r _ _ => ⟨⟨fun finished => finished,fun there => by cases there⟩,trivial⟩,fun _ _ => trivial⟩
  · rintro ⟨ended,sending⟩
    cases ended with
    | none => exact .ret _
    | some e =>
      cases sending with
      | true => exact .bind (.await (by decide) fun _ _ => rfl) fun _ => sendFailed_free o e
      | false => exact sendFailed_free o e

theorem program_free (o : Options) (k : Kind) : Free (k.program o) := by
  cases k with
  | prepare => exact .handle (ensureReady_free o) fun _ => .bind retireSuppressed_free fun _ => .ret _
  | sendFile =>
    have stopWatch : Free (await .stopWatch (fun _ s => s) fun _ => .ok ()) := .await (by decide) fun _ _ => rfl
    apply Free.bind (.handle (ensureReady_free o) (sendFailed_free o))
    intro _
    apply Free.bind (.handle (upload_free o) fun _ => .bind stopWatch fun _ => .ret _)
    exact fun _ => .bind stopWatch fun _ => .ret _
  | close =>
    apply Free.bind
    · exact .sync (by decide) fun _ => rfl
    · exact fun _ => retire_free

def discipline (o : Options) : Discipline o (fun _ _ => True) where
  contract := contract
  always := State.Retired
  between := fun _ => True
  ends := fun _ _ => True
  opens := fun _ _ => ⟨fun client member => by simp [State.opened] at member,trivial⟩
  reopens := fun _ _ _ _ => ⟨fun client member => by simp [State.opened] at member,trivial⟩
  calls := fun k finished _ => ⟨finished,program_free o k _⟩
  settles := fun _ => trivial
  performs := fun _ _ => trivial
  guards := fun guar finished => guar.1 finished
  learns := fun _ => trivial
  interrupts := fun _ _ _ => trivial
  outside := fun {s s'} out => ⟨fun finished => by rw [State.Retired,out.retired]; exact finished,
    fun _ => trivial,fun _ _ => trivial,fun _ => out⟩

end Retirement

theorem sync_then (point : Point) (effect : State → State) (result : State → Except Exc α) (r : Reply)
    (body : α → Call β) (s : State) (value : α) (returns : result s = .ok value) :
    (sync point effect result >>= body).alone r s = (body value).alone r (effect s) ∧
      (sync point effect result >>= body).trace r s = effect s :: (body value).trace r (effect s) := by
  constructor
  · rw [Prog.alone_bind,sync,Prog.alone_atomic,returns]
    rfl
  · rw [Prog.trace_bind,sync,Prog.alone_atomic,returns]
    rfl

theorem retire_waits {s : State} {c : Client} (r : Reply) (given : s.client = some c) (same : s.startClosing = s) :
    retire.alone r s = awaitClosing.alone r s ∧ retire.trace r s = s :: awaitClosing.trace r s := by
  obtain ⟨ends,passes⟩ := sync_then .retire State.startClosing (fun s => .ok s.client.isSome) r
    (fun present => if present then awaitClosing else return ()) s true (by rw [given]; rfl)
  rw [same] at ends passes
  exact ⟨ends,passes⟩

/-- A disconnect that has failed is not started again. -/
theorem retire_failed {s : State} {c : Client} (r : Reply) (given : s.client = some c) (closing : s.closing = true)
    (failed : c.disconnect = .failed) :
    retire.alone r s = some (.error transportError,s) ∧ retire.trace r s = [s,s] := by
  have same : s.startClosing = s := by simp [State.startClosing,given,closing]
  have stays : s.discardClient = s := by simp [State.discardClient,given,failed]
  have done : s.disconnect = .failed := by simp [State.disconnect,given,failed]
  obtain ⟨ends,passes⟩ := retire_waits r given same
  rw [ends,passes]
  simp [awaitClosing,Prog.alone,Prog.trace,done,Disconnect.done,stays]

theorem retire_finished {s : State} {c : Client} (r : Reply) (given : s.client = some c) (closing : s.closing = true)
    (finished : c.disconnect = .finished) :
    retire.alone r s = some (.ok (),s.discardClient) ∧ retire.trace r s = [s,s.discardClient] := by
  have same : s.startClosing = s := by simp [State.startClosing,given,closing]
  have done : s.disconnect = .finished := by simp [State.disconnect,given,finished]
  obtain ⟨ends,passes⟩ := retire_waits r given same
  rw [ends,passes]
  simp [awaitClosing,Prog.alone,Prog.trace,done,Disconnect.done]

theorem sendFailed_inspects (o : Options) (e : Exc) (r : Reply) (s : State) :
    (sendFailed o e).alone r s = (if o.factory && retiring e s.isConnected then
        retireSuppressed >>= fun _ => throw e else throw e : Call Unit).alone r s ∧
      (sendFailed o e).trace r s = s :: (if o.factory && retiring e s.isConnected then
        retireSuppressed >>= fun _ => throw e else throw e : Call Unit).trace r s :=
  sync_then _ _ _ r _ _ _ rfl

structure State.Closing (s : State) (client : Client) : Prop where
  given : s.client = some client
  closing : s.closing = true
  done : client.disconnect.done = true
  opened : s.closed = false

namespace State.Closing

variable {s : State} {client : Client}

theorem stale (here : s.Closing client) (o : Options) : s.stale o = true := by
  simp [State.stale,here.given,here.closing]

/-- `_ensure_ready` starts by retiring the client. -/
theorem ensureReady_retires (here : s.Closing client) (o : Options) (r : Reply) :
    (ensureReady o).alone r s = (retire >>= fun _ => verifyClient o).alone r s ∧
      (ensureReady o).trace r s = s :: s :: (retire >>= fun _ => verifyClient o).trace r s := by
  obtain ⟨ends,passes⟩ := sync_then .check id (fun s => .ok s.closed) r
    (fun closed => if closed then throw authorizationError else do
      if ← sync .stale id (fun s => .ok (s.stale o)) then retire
      verifyClient o) s false (by rw [here.opened])
  obtain ⟨ends',passes'⟩ := sync_then .stale id (fun s => .ok (s.stale o)) r
    (fun stale => if stale then retire >>= fun _ => verifyClient o else verifyClient o) s true
    (by rw [here.stale o])
  exact ⟨ends.trans ends',passes.trans (congrArg (s :: ·) passes')⟩

theorem ensureReady_fails (here : s.Closing client) (failed : client.disconnect = .failed) (o : Options) (r : Reply) :
    (ensureReady o).alone r s = some (.error transportError,s) ∧ (ensureReady o).trace r s = [s,s,s,s] := by
  obtain ⟨ends,passes⟩ := here.ensureReady_retires o r
  obtain ⟨raised,stays⟩ := retire_failed r here.given here.closing failed
  rw [ends,passes,Prog.alone_bind,Prog.trace_bind,raised,stays]
  exact ⟨rfl,rfl⟩

/-- A disconnect that has failed fails every later send, and nothing changes. -/
theorem sendFile_stuck (here : s.Closing client) (failed : client.disconnect = .failed) (o : Options) (r : Reply) :
    (sendFile o).alone r s = some (.error transportError,s) ∧ ∀ s' ∈ (sendFile o).trace r s, s' = s := by
  obtain ⟨ends,passes⟩ := here.ensureReady_fails failed o r
  obtain ⟨raised,stays⟩ := retire_failed r here.given here.closing failed
  have suppressed : retireSuppressed.alone r s = some (.ok (),s) ∧ retireSuppressed.trace r s = [s,s] := by
    rw [retireSuppressed,Prog.alone_handle,Prog.trace_handle,raised,stays]
    exact ⟨rfl,rfl⟩
  have handled : (sendFailed o transportError).alone r s = some (.error transportError,s) ∧
      ∀ s' ∈ (sendFailed o transportError).trace r s, s' = s := by
    rw [(sendFailed_inspects o _ r s).1,(sendFailed_inspects o _ r s).2]
    cases o.factory && retiring transportError s.isConnected with
    | true =>
      simp only [if_true,Prog.alone_bind,Prog.trace_bind,suppressed.1,suppressed.2]
      simp [Prog.trace]
    | false => simp [Prog.trace]
  constructor
  · rw [sendFile,Prog.alone_bind,Prog.alone_handle,ends]
    simp [handled.1]
  · intro s' member
    rw [sendFile,Prog.trace_bind,Prog.trace_handle,Prog.alone_handle,ends,passes] at member
    simp only [Option.bind_some,handled.1,List.append_nil,List.mem_append,List.mem_cons,List.not_mem_nil,
      or_false] at member
    rcases member with (rfl | rfl | rfl | rfl) | later
    · rfl
    · rfl
    · rfl
    · rfl
    · exact handled.2 s' later

theorem discardClient_eq (here : s.Closing client) (finished : client.disconnect = .finished) :
    s.discardClient.client = none ∧ s.discardClient.retired = client :: s.retired := by
  simp [State.discardClient,here.given,finished]

theorem ensureReady_discards (here : s.Closing client) (finished : client.disconnect = .finished) (o : Options)
    (r : Reply) : (ensureReady o).alone r s = (verifyClient o).alone r s.discardClient ∧
      (ensureReady o).trace r s = s :: s :: s :: s.discardClient :: (verifyClient o).trace r s.discardClient := by
  obtain ⟨ends,passes⟩ := here.ensureReady_retires o r
  obtain ⟨returned,stays⟩ := retire_finished r here.given here.closing finished
  rw [ends,passes,Prog.alone_bind,Prog.trace_bind,returned,stays]
  exact ⟨rfl,rfl⟩

end State.Closing

theorem createClient_absent {s : State} (absent : s.client = none) (o : Options) (r : Reply) :
    (createClient o).alone r s = (if o.factory then some (.ok (),{ s with client := some .fresh })
        else some (.error transportError,s)) ∧
      (createClient o).trace r s = s :: if o.factory then [{ s with client := some .fresh }] else [] := by
  obtain ⟨ends,passes⟩ := sync_then .client id (fun s => .ok s.client.isSome) r
    (fun present => if present then return () else if !o.factory then throw transportError
      else sync .factory (fun s => { s with client := some .fresh }) (fun _ => .ok ()))
    s false (by rw [absent]; rfl)
  refine ⟨ends.trans ?_,passes.trans (congrArg (s :: ·) ?_)⟩
  · cases o.factory <;> rfl
  · cases o.factory <;> rfl

/-- The states of a send that has to build a client first. -/
theorem sendFile_rebuilds {s : State} {client : Client} (here : s.Closing client)
    (finished : client.disconnect = .finished) (o : Options) (r : Reply) :
    (∃ s' ∈ (sendFile o).trace r s, s'.client = some .fresh ∧ s'.retired = client :: s.retired) ↔
      o.factory = true := by
  obtain ⟨ends,passes⟩ := here.ensureReady_discards finished o r
  obtain ⟨absent,retired⟩ := here.discardClient_eq finished
  obtain ⟨created,looked⟩ := createClient_absent absent o r
  rw [sendFile,Prog.trace_bind,Prog.trace_handle,Prog.alone_handle,ends,passes,verifyClient]
  rw [Prog.alone_bind,Prog.trace_bind,created,looked]
  cases builds : o.factory with
  | true =>
    refine iff_of_true ⟨{ s.discardClient with client := some .fresh },?_,rfl,retired⟩ rfl
    simp
  | false =>
    apply iff_of_false _ Bool.false_ne_true
    rintro ⟨s',member,fresh,discarded⟩
    have inspected : (sendFailed o transportError).alone r s.discardClient =
        some (.error transportError,s.discardClient) ∧
        (sendFailed o transportError).trace r s.discardClient = [s.discardClient] := by
      rw [(sendFailed_inspects o _ r _).1,(sendFailed_inspects o _ r _).2,builds]
      exact ⟨rfl,rfl⟩
    simp only [Bool.false_eq_true,if_false,Option.bind_some,inspected,List.append_nil,List.mem_append,List.mem_cons,
      List.not_mem_nil,or_false] at member
    have stays : s' = s ∨ s' = s.discardClient := by grind
    rcases stays with same | same
    · subst same
      simp at discarded
    · rw [same,absent] at fresh
      cases fresh

/-- In every run the factory is called only when every earlier client has disconnected. The
next send replaces a client whose disconnect has ended exactly when it ended normally, and
the transport has a factory to replace it with. -/
theorem session_hasOneWriter (o : Options) (m : Machine) (run : Machine.Reached o (fun _ _ => True) m) :
    (∀ r m', m.pointOf 0 = some .factory → m.step o (.perform r) = some m' →
      ∀ client ∈ m.shared.earlier, client.disconnect.done = true) ∧
    ∀ client r, m.idle = true → { m.shared with refused := false }.Closing client →
      ((∃ s ∈ (sendFile o).trace r { m.shared with refused := false },
          s.client = some .fresh ∧ s.retired = client :: m.shared.retired) ↔
        client.disconnect = .finished ∧ o.factory = true) := by
  have kept := Discipline.kept_of_reached (D := Retirement.discipline o) run
  constructor
  · intro r m' waits taken client member
    have absent := ((kept.perform trivial taken).2 _ waits).2 rfl
    rw [State.earlier,absent] at member
    rw [kept.always client (by simpa using member)]
    rfl
  · intro client r _ here
    cases ended : client.disconnect with
    | finished => simpa using sendFile_rebuilds here ended o r
    | failed =>
      apply iff_of_false
      · rintro ⟨s',member,_,discarded⟩
        rw [(here.sendFile_stuck ended o r).2 s' member] at discarded
        simp at discarded
      · rintro ⟨normally,_⟩
        cases normally
    | notStarted => exact absurd here.done (by simp [ended,Disconnect.done])
    | running => exact absurd here.done (by simp [ended,Disconnect.done])

/-- `prepare` up to the connection, which times out, and the disconnect that follows. -/
def timedOut (normally : Bool) : List Act :=
  .call .prepare :: List.replicate 6 (.perform plainReply) ++
    [.raises (.failure (.builtin "TimeoutError" .transient)),.perform plainReply,.disconnected normally,
      .perform plainReply]

/-- The send after it, if the disconnect ended normally, has a new client. -/
theorem session_hasOneWriter_small : ∃ m, Machine.Reached workerOptions (fun _ _ => True) m ∧ ∃ client,
    { m.shared with refused := false }.Closing client ∧
      ∃ s ∈ (sendFile workerOptions).trace plainReply { m.shared with refused := false },
        s.client = some .fresh ∧ s.retired = client :: m.shared.retired := by
  obtain ⟨m,run,passed⟩ := Runs.exists_of_follow (Machine.step workerOptions)
    ((timedOut true).dropLast ++ [.raises .cancelled])
    (fun m => m.idle && m.shared = { newSession with
      client := some ⟨false,false,.finished⟩, closing := true, marker := true })
    newTransport_initial (by decide +kernel)
  simp only [Bool.and_eq_true,decide_eq_true_eq] at passed
  obtain ⟨idle,left⟩ := passed
  have here : { m.shared with refused := false }.Closing ⟨false,false,.finished⟩ := by
    rw [left]
    exact ⟨rfl,rfl,rfl,rfl⟩
  exact ⟨m,run,_,here,((session_hasOneWriter workerOptions m run).2 _ plainReply idle here).mpr ⟨rfl,rfl⟩⟩

/-- If it ended with an exception, the send fails, and leaves the transport as it was. -/
theorem session_staysBlocked : ∃ m, Machine.Reached workerOptions (fun _ _ => True) m ∧ m.idle = true ∧
    ∃ client, m.shared.Closing client ∧ client.disconnect = .failed ∧
      (sendFile workerOptions).alone plainReply m.shared = some (.error transportError,m.shared) ∧
      ∀ s ∈ (sendFile workerOptions).trace plainReply m.shared, s.client = some client := by
  obtain ⟨m,run,passed⟩ := Runs.exists_of_follow (Machine.step workerOptions) (timedOut false)
    (fun m => m.idle && m.shared = { newSession with
      client := some ⟨false,false,.failed⟩, closing := true, marker := true })
    newTransport_initial (by decide +kernel)
  simp only [Bool.and_eq_true,decide_eq_true_eq] at passed
  obtain ⟨idle,left⟩ := passed
  have here : m.shared.Closing ⟨false,false,.failed⟩ := by
    rw [left]
    exact ⟨rfl,rfl,rfl,rfl⟩
  obtain ⟨fails,stays⟩ := here.sendFile_stuck rfl workerOptions plainReply
  refine ⟨m,run,idle,_,here,rfl,fails,?_⟩
  intro s member
  rw [stays s member]
  exact here.given

end BackupTelebot.Telegram
