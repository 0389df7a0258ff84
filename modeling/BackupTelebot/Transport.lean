import BackupTelebot.Errors
import BackupTelebot.InterleavingRules

/-! The worker's Telegram session, `TelegramUploadTransport`: its calls, which its lock
serializes, the clients it builds and retires, and the session file with the marker beside
it, which outlive the process. The worker-lock file lets one transport at a time use them. -/
namespace BackupTelebot.Telegram

open Interleave

inductive Disconnect where
  | notStarted
  | running
  | finished
  | failed
  deriving DecidableEq, Repr

def Disconnect.done : Disconnect → Bool
  | .finished | .failed => true
  | _ => false

structure Client where
  connected : Bool
  /-- `_updates_error` holds an exception. -/
  backgroundError : Bool
  disconnect : Disconnect
  deriving DecidableEq, Repr

/-- What the factory builds. -/
def Client.fresh : Client := ⟨false,false,.notStarted⟩

structure Options where
  factory : Bool
  token : Bool
  sessionPath : Bool

structure State where
  client : Option Client
  /-- `_closing` is not None; it is then the future of this client's disconnect. -/
  closing : Bool
  retired : List Client
  closed : Bool
  authorized : Bool
  bootstrapPending : Bool
  /-- The session holds a non-empty auth key. -/
  authKey : Bool
  /-- The marker file exists. -/
  marker : Bool
  /-- `is_user_authorized` has returned true for this session. No code reads it. -/
  verified : Bool
  /-- In this call it was false although it had been true before. No code reads it. -/
  refused : Bool
  deriving DecidableEq, Repr

inductive Point where
  | check
  | stale
  | retire
  | closing
  | client
  | factory
  | connected
  | bootstrap
  | connect
  | isAuthorized
  | signIn
  | accept
  | secure
  | unlink
  | upload
  | cancelSend
  | inspect
  | stopWatch
  | close
  deriving DecidableEq, Repr

structure Reply where
  /-- Raised after the operation has taken effect. -/
  fault : Option Exc
  connected : Bool
  /-- A key was agreed on, whether or not the connection came about. -/
  exchanged : Bool
  authorized : Bool
  /-- How the upload or its watcher ends, and whether the upload is then still running. -/
  ended : Option Exc
  sending : Bool

abbrev Call (α : Type) := Prog Point Reply State Exc α

def transportError : Exc := .failure (.builtin "TelegramTransportError" .transient)
def authorizationError : Exc := .failure (.builtin "TelegramAuthorizationError")

def sync (point : Point) (effect : State → State) (result : State → Except Exc α) : Call α :=
  Prog.atomic point (fun _ => true) (fun _ s => effect s) (fun _ s => result s)

/-- An await, or a call that can raise after its effect. -/
def await (point : Point) (effect : Reply → State → State) (result : Reply → Except Exc α) : Call α :=
  Prog.atomic point (fun _ => true) effect fun r _ =>
    match r.fault with
    | some e => .error e
    | none => result r

/-- `ensure_future(client.disconnect())`, unless it was started before. -/
def State.startClosing (s : State) : State :=
  match s.client with
  | some client => if s.closing then s else
      { s with closing := true, client := some { client with disconnect := .running } }
  | none => s

def State.disconnect (s : State) : Disconnect := (s.client.map Client.disconnect).getD .notStarted

def State.discardClient (s : State) : State :=
  match s.client with
  | some client =>
      if client.disconnect = .finished then
        { s with client := none, closing := false, authorized := false, retired := client :: s.retired }
      else s
  | none => s

/-- The wait for the disconnect. Its timeout and its own exceptions are deferred. -/
def awaitClosing : Call Unit :=
  .act .closing (fun s => s.disconnect.done) (fun _ s => s.discardClient)
    (fun _ s => .ret (if s.disconnect = .finished then .ok () else .error transportError))
    (fun e => .ret (.error (if e = .cancelled then .cancelled else transportError)))

def retire : Call Unit := do
  if ← sync .retire State.startClosing (fun s => .ok s.client.isSome) then awaitClosing else return ()

/-- `with suppress(TelegramTransportError): await self._retire()`. -/
def retireSuppressed : Call Unit :=
  retire.handle fun e => if e = transportError then return () else throw e

def Client.damaged (client : Client) : Bool := !client.connected || client.backgroundError

def State.stale (s : State) (o : Options) : Bool :=
  match s.client with
  | none => false
  | some client => s.closing || (o.factory && client.damaged)

def createClient (o : Options) : Call Unit := do
  if ← sync .client id (fun s => .ok s.client.isSome) then return ()
  else if !o.factory then throw transportError
  else sync .factory (fun s => { s with client := some .fresh }) (fun _ => .ok ())

def State.connected (s : State) : Bool := s.client.any Client.connected

/-- `_may_bootstrap`: what it leaves, and what it returns. -/
def State.bootstrap (s : State) (o : Options) : State :=
  if o.sessionPath then { s with marker := s.marker || !s.authKey }
  else { s with bootstrapPending := s.bootstrapPending || !s.authKey }

def mayBootstrap (o : Options) : Call Bool :=
  Prog.atomic .bootstrap (fun _ => true) (fun _ s => s.bootstrap o) fun r s =>
    match r.fault with
    | some e => .error e
    | none => .ok (if o.sessionPath then (s.bootstrap o).marker else (s.bootstrap o).bootstrapPending)

/-- A client that is connected has exchanged a key. -/
def connect : Call Unit := do
  await .connect (fun r s => { s with
      client := s.client.map fun client => { client with connected := r.connected }
      authKey := s.authKey || r.connected || r.exchanged }) (fun _ => .ok ())
  if ← sync .connected id (fun s => .ok s.connected) then return () else throw transportError

/-- `is_user_authorized`; only a session with a key is. -/
def isAuthorized : Call Bool :=
  Prog.atomic .isAuthorized (fun _ => true)
    (fun r s => { s with
      verified := s.verified || (r.authorized && s.authKey)
      refused := s.refused || (s.verified && !(r.authorized && s.authKey)) })
    (fun r s => .ok (r.authorized && s.authKey))

def acceptSession (o : Options) : Call Unit := do
  sync .accept (fun s => { s with authorized := true, bootstrapPending := false }) (fun _ => .ok ())
  if o.sessionPath then do
    await .secure (fun _ s => s) (fun _ => .ok ())
    await .unlink (fun _ s => { s with marker := false }) (fun _ => .ok ())
  else return ()

def establish (o : Options) : Call Bool := do
  if ← sync .connected id (fun s => .ok s.connected) then return false
  else do
    let emptySession ← mayBootstrap o
    connect
    return emptySession

/-- `_ensure_ready` once a client to be replaced has gone. -/
def verifyClient (o : Options) : Call Unit := do
  createClient o
  let emptySession ← establish o
  if ← isAuthorized then acceptSession o
  else if emptySession && o.token then do
    await .signIn (fun _ s => s) (fun _ => .ok ())
    if ← isAuthorized then acceptSession o else throw authorizationError
  else throw authorizationError

def ensureReady (o : Options) : Call Unit := do
  if ← sync .check id (fun s => .ok s.closed) then throw authorizationError
  else do
    if ← sync .stale id (fun s => .ok (s.stale o)) then retire
    verifyClient o

/-- `try: ... finally: ...`. -/
def finally_ (p : Call α) (last : Call Unit) : Call α := do
  let value ← p.handle fun e => do
    last
    throw e
  last
  return value

def prepare (o : Options) : Call Unit :=
  (ensureReady o).handle fun e => do
    retireSuppressed
    throw e

def State.isConnected (s : State) : Bool :=
  s.authorized && !s.closing && s.client.any fun client => client.connected && !client.backgroundError

/-- `isinstance(exc, Exception)` with the kind that `classify_delivery_error` gives it. -/
def retiring (e : Exc) (connected : Bool) : Bool :=
  match e with
  | .cancelled => true
  | .failure f => f.kind = .transient || !connected

def sendFailed (o : Options) (e : Exc) : Call Unit := do
  let connected ← sync .inspect id (fun s => .ok s.isConnected)
  if o.factory && retiring e connected then retireSuppressed
  throw e

/-- The wait for the upload and its watcher: how it ends, and whether the upload is then
still running. -/
def awaitUpload : Call (Option Exc × Bool) :=
  .act .upload (fun _ => true) (fun _ s => s) (fun r _ => .ret (.ok (r.ended,r.sending)))
    (fun e => .ret (.ok (some e,true)))

def upload (o : Options) : Call Unit := do
  let (ended,sending) ← awaitUpload
  match ended with
  | none => return ()
  | some e => do
      if sending then await .cancelSend (fun _ s => s) (fun _ => .ok ())
      sendFailed o e

def sendFile (o : Options) : Call Unit := do
  (ensureReady o).handle (sendFailed o)
  finally_ (upload o) (await .stopWatch (fun _ s => s) (fun _ => .ok ()))

def close : Call Unit := do
  sync .close (fun s => { s with closed := true }) (fun _ => .ok ())
  retire

inductive Kind where
  | prepare
  | sendFile
  | close
  deriving DecidableEq, Repr

def Kind.program (o : Options) : Kind → Call Unit
  | .prepare => Telegram.prepare o
  | .sendFile => Telegram.sendFile o
  | .close => Telegram.close

/-- Task 0 is the call that holds the lock. -/
abbrev Machine := Sys Point Reply State Exc Unit

/-- Where an exception can arrive: a cancellation only at an await. -/
def Point.accepts (point : Point) (e : Exc) : Bool :=
  match point with
  | .closing | .connect | .isAuthorized | .signIn | .unlink | .upload => true
  | .cancelSend | .stopWatch => e = .cancelled
  | .factory | .bootstrap | .secure => e ≠ .cancelled
  | _ => false

/-- A transport as its constructor leaves it, over what the session file holds. -/
def State.opened (s : State) (given : Option Client) : State :=
  { s with
    client := given, closing := false, retired := [], closed := false, authorized := false
    bootstrapPending := false, refused := false }

/-- The constructor asks for a client or a factory; a given client is in use by nobody. -/
def Options.accepts (o : Options) (s : State) (given : Option Client) : Bool :=
  (given.isSome || o.factory) &&
    given.all fun client => client.disconnect = .notStarted && (!client.connected || s.authKey)

inductive Act where
  | call (k : Kind)
  | perform (r : Reply)
  | raises (e : Exc)
  /-- The connection of the client drops. -/
  | drops
  | backgroundError
  | disconnected (normally : Bool)
  /-- The process ends at any point, and another transport is made over the session. -/
  | restart (given : Option Client)

namespace Machine

def idle (m : Machine) : Bool := (m.pointOf 0).isNone

def onClient (m : Machine) (f : Client → Client) : Machine :=
  { m with shared := { m.shared with client := m.shared.client.map f } }

def step (o : Options) (m : Machine) : Act → Option Machine
  | .call k =>
      if m.idle then
        some ({ m with shared := { m.shared with refused := false } }.spawn 0 (k.program o))
      else none
  | .perform r => m.advance 0 r
  | .raises e => if (m.pointOf 0).any (·.accepts e) then m.interrupt 0 e else none
  | .drops => some (m.onClient fun client => { client with connected := false })
  | .backgroundError => some (m.onClient fun client => { client with backgroundError := true })
  | .disconnected normally =>
      if m.shared.disconnect = .running then
        some (m.onClient fun client => { client with disconnect := if normally then .finished else .failed })
      else none
  | .restart given =>
      if o.accepts m.shared given then some ⟨m.shared.opened given,fun _ => none⟩ else none

end Machine

def Machine.Initial (o : Options) (m : Machine) : Prop :=
  ∃ s given, s.verified = false ∧ o.accepts s given = true ∧ m = ⟨s.opened given,fun _ => none⟩

abbrev Machine.Reached (o : Options) (allowed : Machine → Act → Prop) : Machine → Prop :=
  Runs (Machine.Initial o) (Machine.step o) allowed

def workerOptions : Options := ⟨true,true,true⟩

def newSession : State := ⟨none,false,[],false,false,false,false,false,false,false⟩

def newTransport : Machine := ⟨newSession.opened none,fun _ => none⟩

theorem newTransport_initial : Machine.Initial workerOptions newTransport := ⟨newSession,none,rfl,rfl,rfl⟩

def plainReply : Reply := ⟨none,true,true,true,none,false⟩

end BackupTelebot.Telegram
