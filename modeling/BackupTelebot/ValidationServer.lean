import BackupTelebot.ValidationMessages

/-! The worker's server for local-source checks and its callers, taking turns in any order.
Every connection has a number; its call, handler and filesystem check share it. -/
namespace BackupTelebot.LocalSourceValidation

open PyJson Config

/-- A connection's handler. A refused connection is closed at once. -/
inductive Handler where
  | absent
  | refused
  | reading
  | checking
  | answering (response : Response)
  | closing
  | done

def Handler.Alive : Handler → Prop
  | .absent | .refused | .done => False
  | _ => True

/-- A check in a thread of its own. No one can stop it. -/
inductive Job where
  | absent
  | running (path : Str)
  | ended (path : Str) (outcome : Preflight)

def Job.path : Job → Option Str
  | .absent => none
  | .running path => some path
  | .ended path _ => some path

structure State where
  /-- The path that a call of `validate_local_source` sent; none for connections of others. -/
  asked : Nat → Option Str
  verdict : Nat → Option Verdict
  handler : Nat → Handler
  job : Nat → Job
  /-- What the handler wrote. -/
  replied : Nat → Option Response
  connections : List Nat
  jobs : List Nat
  closed : Bool

def State.start : State :=
  ⟨fun _ => none,fun _ => none,fun _ => .absent,fun _ => .absent,fun _ => none,[],[],false⟩

section Updates

variable (s : State) (n : Nat)

def State.setHandler (h : Handler) : State := { s with handler := Function.update s.handler n h }

def State.setVerdict (v : Verdict) : State := { s with verdict := Function.update s.verdict n (some v) }

def State.startJob (path : Str) : State :=
  { s with
    handler := Function.update s.handler n .checking
    job := Function.update s.job n (.running path)
    jobs := n :: s.jobs }

/-- `_accept`: excess callers fail closed. -/
def State.accept : State :=
  if s.connections.length < maxConcurrentRequests then
    { s with handler := Function.update s.handler n .reading, connections := n :: s.connections }
  else s.setHandler n .refused

/-- The rest of `_handle` once the request is read. -/
def State.handle (request : Except RequestError Str) : State :=
  match request with
  | .error e => s.setHandler n (.answering e.response)
  | .ok path =>
      if s.jobs.length < maxConcurrentRequests then s.startJob n path
      else s.setHandler n (.answering serviceUnavailable)

end Updates

/-- One turn. A stream may break off at any place: what is read is then only the beginning
of what the other end wrote. -/
inductive Step (m : LocalSourcePathMapper) (depth : Nat) (s : State) : State → Prop where
  | call (n : Nat) (raw path : Str) (normal : askedPath m raw = .ok path) (codes : ∀ c ∈ raw, c < 0x110000)
      (fresh : s.asked n = none) (unused : s.handler n = .absent) :
      Step m depth s { s with asked := Function.update s.asked n (some path) }
  | accept (n : Nat) (opened : s.closed = false) (unused : s.handler n = .absent) : Step m depth s (s.accept n)
  -- a request of the bot is read as it was written, one of somebody else as anything
  | read (n : Nat) (result : Except RequestError Str) (reading : s.handler n = .reading)
      (received : ∀ path, s.asked n = some path → ∃ got, got <+: request path ∧ requestPath m depth got = result) :
      Step m depth s (s.handle n result)
  | finish (n : Nat) (path : Str) (outcome : Preflight) (running : s.job n = .running path) :
      Step m depth s { s with job := Function.update s.job n (.ended path outcome) }
  -- `_job_done`
  | release (n : Nat) (path : Str) (outcome : Preflight) (ended : s.job n = .ended path outcome) :
      Step m depth s { s with jobs := s.jobs.filter (· ≠ n) }
  | resume (n : Nat) (path : Str) (outcome : Preflight) (checking : s.handler n = .checking)
      (ended : s.job n = .ended path outcome) : Step m depth s (s.setHandler n (.answering (validated path outcome)))
  -- the check keeps its slot
  | timeout (n : Nat) (waiting : s.handler n = .reading ∨ s.handler n = .checking) :
      Step m depth s (s.setHandler n (.answering serviceUnavailable))
  | reply (n : Nat) (response : Response) (answering : s.handler n = .answering response) :
      Step m depth s { s.setHandler n .closing with replied := Function.update s.replied n (some response) }
  -- `close` cancels the handlers; one that already answers goes on to its end
  | cancel (n : Nat) (closing : s.closed = true) (waiting : s.handler n = .reading ∨ s.handler n = .checking) :
      Step m depth s (s.setHandler n .done)
  | finally_ (n : Nat) (closing : s.handler n = .closing) : Step m depth s (s.setHandler n .done)
  | discard (n : Nat) (done : s.handler n = .done) :
      Step m depth s { s with connections := s.connections.filter (· ≠ n) }
  | receive (n : Nat) (path got : Str) (response : Response) (asked : s.asked n = some path)
      (waiting : s.verdict n = none) (replied : s.replied n = some response) (begun : got <+: response.line) :
      Step m depth s (s.setVerdict n (readReply depth path got))
  -- time out, refused connection, broken stream
  | giveUp (n : Nat) (path : Str) (asked : s.asked n = some path) (waiting : s.verdict n = none) :
      Step m depth s (s.setVerdict n .unavailable)
  | close : Step m depth s { s with closed := true }

inductive Reached (m : LocalSourcePathMapper) (depth : Nat) : State → Prop where
  | start : Reached m depth .start
  | step {s s' : State} (before : Reached m depth s) (next : Step m depth s s') : Reached m depth s'

def State.Responds (s : State) (n : Nat) (response : Response) : Prop :=
  s.handler n = .answering response ∨ s.replied n = some response

section Invariant

variable {m : LocalSourcePathMapper} {depth : Nat} {s s' : State}

def Askable (m : LocalSourcePathMapper) (path : Str) : Prop :=
  (∃ raw, askedPath m raw = .ok path) ∧ ∀ c ∈ path, c < 0x110000

structure Invariant (m : LocalSourcePathMapper) (depth : Nat) (s : State) : Prop where
  connections : s.connections.length ≤ maxConcurrentRequests
  jobs : s.jobs.length ≤ maxConcurrentRequests
  alive : ∀ n, (s.handler n).Alive → n ∈ s.connections
  running : ∀ n path, s.job n = .running path → n ∈ s.jobs
  asked : ∀ n path, s.asked n = some path → Askable m path
  fresh : ∀ n, s.handler n = .absent ∨ s.handler n = .reading → s.job n = .absent ∧ s.replied n = none
  named : ∀ n path q, s.asked n = some path → (s.job n).path = some q → requestPath m depth (request path) = .ok q
  responds : ∀ n path response, s.asked n = some path → s.Responds n response →
    response.Known ∧ ∀ q kind, response = .accepted q kind → s.job n = .ended q (.found kind)
  returned : ∀ n path, s.verdict n = some (.valid path) →
    s.asked n = some path ∧ ∃ kind, s.job n = .ended path (.found kind)

theorem invariant_start : Invariant m depth .start where
  connections := by simp [State.start,maxConcurrentRequests]
  jobs := by simp [State.start,maxConcurrentRequests]
  alive n alive := by simp [State.start,Handler.Alive] at alive
  running n path running := by simp [State.start] at running
  asked n path asked := by simp [State.start] at asked
  fresh n _ := by simp [State.start]
  named n path q asked := by simp [State.start] at asked
  responds n path response asked := by simp [State.start] at asked
  returned n path returned := by simp [State.start] at returned

/-- A handler that goes on without a check of its own. -/
theorem Invariant.setHandler (i : Invariant m depth s) {n : Nat} {h : Handler} (late : h ≠ .absent ∧ h ≠ .reading)
    (alive : h.Alive → (s.handler n).Alive)
    (told : ∀ path response, s.asked n = some path → h = .answering response →
      response.Known ∧ ∀ q kind, response = .accepted q kind → s.job n = .ended q (.found kind)) :
    Invariant m depth (s.setHandler n h) where
  connections := i.connections
  jobs := i.jobs
  alive k aliveNow := by
    by_cases same : k = n
    · subst same
      simp only [State.setHandler,Function.update_self] at aliveNow
      exact i.alive k (alive aliveNow)
    · simp only [State.setHandler,Function.update_of_ne same] at aliveNow
      exact i.alive k aliveNow
  running := i.running
  asked := i.asked
  fresh k early := by
    by_cases same : k = n
    · subst same
      simp only [State.setHandler,Function.update_self] at early
      exact absurd early (not_or.mpr late)
    · simp only [State.setHandler,Function.update_of_ne same] at early
      exact i.fresh k early
  named := i.named
  responds k path response asked responds := by
    by_cases same : k = n
    · subst same
      simp only [State.Responds,State.setHandler,Function.update_self] at responds
      rcases responds with now | before
      · exact told path response asked now
      · exact i.responds k path response asked (.inr before)
    · simp only [State.Responds,State.setHandler,Function.update_of_ne same] at responds
      exact i.responds k path response asked responds
  returned := i.returned

/-- Without a verdict that is a path, a call says nothing about the checks. -/
theorem Invariant.setVerdict (i : Invariant m depth s) {n : Nat} {v : Verdict}
    (backed : ∀ path, v = .valid path → s.asked n = some path ∧ ∃ kind, s.job n = .ended path (.found kind)) :
    Invariant m depth (s.setVerdict n v) where
  connections := i.connections
  jobs := i.jobs
  alive := i.alive
  running := i.running
  asked := i.asked
  fresh := i.fresh
  named := i.named
  responds := i.responds
  returned k path returned := by
    by_cases same : k = n
    · subst same
      simp only [State.setVerdict,Function.update_self,Option.some.injEq] at returned
      exact backed path returned
    · simp only [State.setVerdict,Function.update_of_ne same] at returned
      exact i.returned k path returned

theorem Invariant.accept (i : Invariant m depth s) {n : Nat} (unused : s.handler n = .absent) :
    Invariant m depth (s.accept n) := by
  by_cases room : s.connections.length < maxConcurrentRequests
  · rw [State.accept,if_pos room]
    constructor
    · simpa using room
    · exact i.jobs
    · intro k alive
      by_cases same : k = n
      · simp [same]
      · simp only [Function.update_of_ne same] at alive
        exact List.mem_cons_of_mem n (i.alive k alive)
    · exact i.running
    · exact i.asked
    · intro k early
      by_cases same : k = n
      · exact i.fresh k (.inl (same ▸ unused))
      · simp only [Function.update_of_ne same] at early
        exact i.fresh k early
    · exact i.named
    · intro k path response asked responds
      by_cases same : k = n
      · subst same
        simp only [State.Responds,Function.update_self] at responds
        rcases responds with now | before
        · simp at now
        · exact i.responds k path response asked (.inr before)
      · simp only [State.Responds,Function.update_of_ne same] at responds
        exact i.responds k path response asked responds
    · exact i.returned
  · rw [State.accept,if_neg room]
    exact i.setHandler (by simp) (by simp [Handler.Alive]) (by simp)

theorem Invariant.startJob (i : Invariant m depth s) {n : Nat} {q : Str} (reading : s.handler n = .reading)
    (room : s.jobs.length < maxConcurrentRequests)
    (read : ∀ path, s.asked n = some path → requestPath m depth (request path) = .ok q) :
    Invariant m depth (s.startJob n q) := by
  obtain ⟨noJob,noReply⟩ := i.fresh n (.inr reading)
  -- without a job or a reply of its own the connection is behind nothing that was said before
  have other {k : Nat} {path : Str} {kind : Kind} (ended : s.job k = .ended path (.found kind)) : k ≠ n := by
    intro same
    simp [same,noJob] at ended
  constructor
  · exact i.connections
  · simpa [State.startJob] using room
  · intro k alive
    by_cases same : k = n
    · exact i.alive k (by simp [same,reading,Handler.Alive])
    · simp only [State.startJob,Function.update_of_ne same] at alive
      exact i.alive k alive
  · intro k path running
    by_cases same : k = n
    · simp [State.startJob,same]
    · simp only [State.startJob,Function.update_of_ne same] at running
      exact List.mem_cons_of_mem n (i.running k path running)
  · exact i.asked
  · intro k early
    by_cases same : k = n
    · simp [State.startJob,same] at early
    · simp only [State.startJob,Function.update_of_ne same] at early ⊢
      exact i.fresh k early
  · intro k path q' asked named
    by_cases same : k = n
    · subst same
      simp only [State.startJob,Function.update_self,Job.path,Option.some.injEq] at named
      exact named ▸ read path asked
    · simp only [State.startJob,Function.update_of_ne same] at named
      exact i.named k path q' asked named
  · intro k path response asked responds
    by_cases same : k = n
    · simp [State.Responds,State.startJob,same,noReply] at responds
    · simp only [State.Responds,State.startJob,Function.update_of_ne same] at responds ⊢
      exact i.responds k path response asked responds
  · intro k path returned
    obtain ⟨asked,kind,ended⟩ := i.returned k path returned
    exact ⟨asked,kind,by simp [State.startJob,Function.update_of_ne (other ended),ended]⟩

theorem Invariant.finish (i : Invariant m depth s) {n : Nat} {q : Str} {outcome : Preflight}
    (running : s.job n = .running q) :
    Invariant m depth { s with job := Function.update s.job n (.ended q outcome) } := by
  have other {k : Nat} {path : Str} {kind : Kind} (ended : s.job k = .ended path (.found kind)) : k ≠ n := by
    intro same
    simp [same,running] at ended
  constructor
  · exact i.connections
  · exact i.jobs
  · exact i.alive
  · intro k path still
    by_cases same : k = n
    · simp [same] at still
    · simp only [Function.update_of_ne same] at still
      exact i.running k path still
  · exact i.asked
  · intro k early
    by_cases same : k = n
    · have nothing := (i.fresh k early).1
      simp [same,running] at nothing
    · simp only [Function.update_of_ne same]
      exact i.fresh k early
  · intro k path q' asked named
    by_cases same : k = n
    · subst same
      simp only [Function.update_self] at named
      exact i.named k path q' asked (by simpa [running,Job.path] using named)
    · simp only [Function.update_of_ne same] at named
      exact i.named k path q' asked named
  · intro k path response asked responds
    obtain ⟨known,backed⟩ := i.responds k path response asked responds
    refine ⟨known,fun q' kind same => ?_⟩
    have ended := backed q' kind same
    simp [Function.update_of_ne (other ended),ended]
  · intro k path returned
    obtain ⟨asked,kind,ended⟩ := i.returned k path returned
    exact ⟨asked,kind,by simp [Function.update_of_ne (other ended),ended]⟩

theorem Invariant.release (i : Invariant m depth s) {n : Nat} {q : Str} {outcome : Preflight}
    (ended : s.job n = .ended q outcome) : Invariant m depth { s with jobs := s.jobs.filter (· ≠ n) } where
  connections := i.connections
  jobs := (List.length_filter_le _ _).trans i.jobs
  alive := i.alive
  running k path running := by
    have other : k ≠ n := by
      intro same
      simp [same,ended] at running
    exact List.mem_filter.mpr ⟨i.running k path running,by simpa using other⟩
  asked := i.asked
  fresh := i.fresh
  named := i.named
  responds := i.responds
  returned := i.returned

theorem Invariant.discard (i : Invariant m depth s) {n : Nat} (done : s.handler n = .done) :
    Invariant m depth { s with connections := s.connections.filter (· ≠ n) } where
  connections := (List.length_filter_le _ _).trans i.connections
  jobs := i.jobs
  alive k alive := by
    have other : k ≠ n := by
      intro same
      simp [same,done,Handler.Alive] at alive
    exact List.mem_filter.mpr ⟨i.alive k alive,by simpa using other⟩
  running := i.running
  asked := i.asked
  fresh := i.fresh
  named := i.named
  responds := i.responds
  returned := i.returned

theorem Invariant.reply (i : Invariant m depth s) {n : Nat} {response : Response}
    (answering : s.handler n = .answering response) :
    Invariant m depth { s.setHandler n .closing with replied := Function.update s.replied n (some response) } := by
  have gone := i.setHandler (n := n) (h := .closing) (by simp) (by simp [answering,Handler.Alive]) (by simp)
  constructor
  · exact gone.connections
  · exact gone.jobs
  · exact gone.alive
  · exact gone.running
  · exact gone.asked
  · intro k early
    by_cases same : k = n
    · simp [State.setHandler,same] at early
    · simp only [Function.update_of_ne same]
      exact gone.fresh k early
  · exact gone.named
  · intro k path response' asked responds
    by_cases same : k = n
    · subst same
      have said : response = response' := by simpa [State.Responds,State.setHandler] using responds
      exact said ▸ i.responds k path response asked (.inl answering)
    · simp only [State.Responds,Function.update_of_ne same] at responds
      exact gone.responds k path response' asked responds
  · exact gone.returned

theorem Invariant.call (i : Invariant m depth s) {n : Nat} {path : Str} (askable : Askable m path)
    (new : s.asked n = none) (unused : s.handler n = .absent) :
    Invariant m depth { s with asked := Function.update s.asked n (some path) } := by
  obtain ⟨noJob,noReply⟩ := i.fresh n (.inl unused)
  constructor
  · exact i.connections
  · exact i.jobs
  · exact i.alive
  · exact i.running
  · intro k path' asked
    by_cases same : k = n
    · subst same
      simp only [Function.update_self,Option.some.injEq] at asked
      exact asked ▸ askable
    · simp only [Function.update_of_ne same] at asked
      exact i.asked k path' asked
  · exact i.fresh
  · intro k path' q asked named
    by_cases same : k = n
    · simp [same,noJob,Job.path] at named
    · simp only [Function.update_of_ne same] at asked
      exact i.named k path' q asked named
  · intro k path' response asked responds
    by_cases same : k = n
    · simp [State.Responds,same,unused,noReply] at responds
    · simp only [Function.update_of_ne same] at asked
      exact i.responds k path' response asked responds
  · intro k path' returned
    obtain ⟨asked,backed⟩ := i.returned k path' returned
    have other : k ≠ n := by
      intro same
      simp [same,new] at asked
    exact ⟨by simpa [Function.update_of_ne other] using asked,backed⟩

theorem askedPath_askable {raw path : Str} (codes : ∀ c ∈ raw, c < 0x110000) (asked : askedPath m raw = .ok path) :
    Askable m path := by
  have kept := (normalizeWorkerPath_sublist (askedPath_ok.mp asked).1).trans (PyText.strip_sublist raw)
  exact ⟨⟨raw,asked⟩,fun c member => codes c (kept.mem member)⟩

/-- The path that a check was started for is no longer than the one asked about. -/
theorem Invariant.named_sublist (i : Invariant m (depth + 1) s) {n : Nat} {path q : Str} (asked : s.asked n = some path)
    (named : (s.job n).path = some q) : q.Sublist (joinPairs path) ∧ ∀ c ∈ q, c < 0x110000 := by
  obtain ⟨⟨raw,normal⟩,codes⟩ := i.asked n path asked
  have kept := requestPath_sublist codes (askedPath_ok.mp normal).2 (i.named n path q asked named)
  exact ⟨kept,fun c member => (strOk_joinPairs codes).1 c (kept.mem member)⟩

theorem Invariant.receive (i : Invariant m (depth + 1) s) {n : Nat} {path got : Str} {response : Response}
    (asked : s.asked n = some path) (replied : s.replied n = some response) (begun : got <+: response.line) :
    Invariant m (depth + 1) (s.setVerdict n (readReply (depth + 1) path got)) := by
  apply i.setVerdict
  intro path' valid
  obtain ⟨known,backed⟩ := i.responds n path response asked (.inr replied)
  have named (q : Str) (kind : Kind) (same : response = .accepted q kind) :=
    i.named_sublist asked (q := q) (by rw [backed q kind same]; rfl)
  obtain ⟨rfl,q,kind,same,joined⟩ := readReply_valid known (fun q kind same => (named q kind same).2) begun valid
  -- the path was joined twice and shortened once, so neither changed it
  have shorter := (named q kind same).1.length_le
  have second := length_joinPairs_le path'
  obtain rfl : q = path' := by
    rw [← joined]
    exact (joinPairs_eq_of_length (by rw [joined]; omega)).symm
  exact ⟨asked,kind,backed q kind same⟩

theorem Invariant.handle (i : Invariant m depth s) {n : Nat} {result : Except RequestError Str}
    (reading : s.handler n = .reading)
    (received : ∀ path, s.asked n = some path → ∃ got, got <+: request path ∧ requestPath m depth got = result) :
    Invariant m depth (s.handle n result) := by
  cases result with
  | error e =>
    apply i.setHandler (by simp) (by simp [reading,Handler.Alive])
    intro path response asked said
    obtain ⟨got,_,refused⟩ := received path asked
    obtain rfl : e.response = response := by simpa using said
    refine ⟨requestPath_known refused,fun q kind same => ?_⟩
    cases e <;> simp [RequestError.response,serviceUnavailable] at same
  | ok q =>
    by_cases room : s.jobs.length < maxConcurrentRequests
    · rw [State.handle]
      simp only [if_pos room]
      apply i.startJob reading room
      intro path asked
      obtain ⟨got,begun,read⟩ := received path asked
      rwa [requestPath_whole begun read] at read
    · rw [State.handle]
      simp only [if_neg room]
      apply i.setHandler (by simp) (by simp [reading,Handler.Alive])
      intro path response _ said
      obtain rfl : serviceUnavailable = response := by simpa using said
      exact ⟨by simp [serviceUnavailable,Response.Known],by simp [serviceUnavailable]⟩

theorem Invariant.step (i : Invariant m (depth + 1) s) (next : Step m (depth + 1) s s') : Invariant m (depth + 1) s' := by
  cases next with
  | call n raw path normal codes new unused => exact i.call (askedPath_askable codes normal) new unused
  | accept n _ unused => exact i.accept unused
  | read n result reading received => exact i.handle reading received
  | finish n path outcome running => exact i.finish running
  | release n path outcome ended => exact i.release ended
  | resume n path outcome checking ended =>
    apply i.setHandler (by simp) (by simp [checking,Handler.Alive])
    intro path' response _ said
    obtain rfl : validated path outcome = response := by simpa using said
    refine ⟨validated_known path outcome,fun q kind same => ?_⟩
    cases outcome <;> simp [validated,serviceUnavailable] at same
    simp [ended,same.1,same.2]
  | timeout n waiting =>
    apply i.setHandler (by simp) (by rcases waiting with reading | checking <;> simp [*,Handler.Alive])
    intro path response _ said
    obtain rfl : serviceUnavailable = response := by simpa using said
    exact ⟨by simp [serviceUnavailable,Response.Known],by simp [serviceUnavailable]⟩
  | reply n response answering => exact i.reply answering
  | cancel n => exact i.setHandler (by simp) (by simp [Handler.Alive]) (by simp)
  | finally_ n closing => exact i.setHandler (by simp) (by simp [Handler.Alive]) (by simp)
  | discard n done => exact i.discard done
  | receive n path got response asked _ replied begun => exact i.receive asked replied begun
  | giveUp n path asked _ => exact i.setVerdict (by simp)
  | close => exact ⟨i.connections,i.jobs,i.alive,i.running,i.asked,i.fresh,i.named,i.responds,i.returned⟩

theorem Reached.invariant (reached : Reached m (depth + 1) s) : Invariant m (depth + 1) s := by
  induction reached with
  | start => exact invariant_start
  | step _ next ih => exact ih.step next

end Invariant

section Protocol

variable {m : LocalSourcePathMapper} {depth : Nat} {s : State}

/-- A call returns only the path for which a check of its own succeeded; four handlers and
four checks are the most that exist. -/
structure State.Safe (s : State) : Prop where
  returned : ∀ n path, s.verdict n = some (.valid path) →
    s.asked n = some path ∧ ∃ kind, s.job n = .ended path (.found kind)
  handlers : ∀ ids : List Nat, ids.Nodup → (∀ n ∈ ids, (s.handler n).Alive) → ids.length ≤ maxConcurrentRequests
  checks : ∀ ids : List Nat, ids.Nodup → (∀ n ∈ ids, ∃ path, s.job n = .running path) →
    ids.length ≤ maxConcurrentRequests

/-- The worker reads the request as the path it asks about, and whatever a handler answers to
it fits the limit and is taken for the verdict that it is. -/
structure Agrees (m : LocalSourcePathMapper) (depth : Nat) (path : Str) : Prop where
  parsed : requestPath m depth (request path) = .ok path
  understood : ∀ s, Reached m depth s → ∀ n response, s.asked n = some path → s.Responds n response →
    response.line.length ≤ maxMessageBytes ∧ readReply depth path response.line = response.verdict

theorem Invariant.safe (i : Invariant m depth s) : s.Safe where
  returned := i.returned
  handlers ids distinct alive := by
    have inside := distinct.subperm fun n member => i.alive n (alive n member)
    exact inside.length_le.trans i.connections
  checks ids distinct running := by
    have inside := distinct.subperm fun n member => (running n member).elim (i.running n)
    exact inside.length_le.trans i.jobs

theorem Plain.agrees {raw path : Str} (plain : Plain path) (codes : ∀ c ∈ path, c < 0x110000)
    (asked : askedPath m raw = .ok path) : Agrees m (depth + 1) path where
  parsed := (requestPath_request_iff depth codes asked).mpr plain
  understood s reached n response asked' responds := by
    have i := reached.invariant
    obtain ⟨known,backed⟩ := i.responds n path response asked' responds
    cases response with
    | rejected reason => exact rejected_understood known depth path
    | accepted q kind =>
      have read := i.named n path q asked' (by rw [backed q kind rfl]; rfl)
      rw [(requestPath_request_iff depth codes asked).mpr plain] at read
      obtain rfl := Except.ok.inj read
      have ok := strOk_joinPairs codes
      rw [plain.unpaired] at ok
      exact accepted_understood ok (askedPath_ok.mp asked).2 kind depth

/-- In every run a returned path was checked and the limits are kept. The two ends agree on a
path exactly when its normalized text has no white space at its end and no pair of surrogates:
the worker normalizes once more, and the first step of that is to strip. -/
theorem agrees_iff_plain (m : LocalSourcePathMapper) (depth : Nat) :
    (∀ s, Reached m (depth + 1) s → s.Safe) ∧
      ∀ raw path, (∀ c ∈ raw, c < 0x110000) → askedPath m raw = .ok path →
        (Agrees m (depth + 1) path ↔ Plain (PurePosix.parse (PyText.strip raw)).text) := by
  constructor
  · intro s reached
    exact reached.invariant.safe
  · intro raw path codes asked
    have askable := askedPath_askable codes asked
    obtain ⟨_,same,_⟩ := normalizeWorkerPath_iff.mp (askedPath_ok.mp asked).1
    rw [← same]
    constructor
    · intro agrees
      exact (requestPath_request_iff depth askable.2 asked).mp agrees.parsed
    · intro plain
      exact plain.agrees askable.2 asked

def servedRoot : LocalSourcePathMapper := ⟨[str "/srv"],[],[]⟩

/-- The trailing slash is gone after the first reading, so the second one strips the blank. -/
theorem blank_lost : askedPath servedRoot (str "/srv/x /") = .ok (str "/srv/x ") ∧
    requestPath servedRoot 1 (request (str "/srv/x ")) = .ok (str "/srv/x") ∧
      readReply 1 (str "/srv/x ") (validated (str "/srv/x") (.found .directory)).line = .unavailable := by
  decide +kernel

theorem agrees_srv : Agrees servedRoot 1 (str "/srv/x") :=
  ((agrees_iff_plain servedRoot 0).2 (str "/srv//x/") (str "/srv/x") (by decide) (by decide +kernel)).mpr (by decide +kernel)

end Protocol

end BackupTelebot.LocalSourceValidation
