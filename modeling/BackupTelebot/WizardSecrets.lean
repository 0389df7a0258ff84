import BackupTelebot.StoreCalls
import BackupTelebot.ProfileConfig

/-! The handlers of messages, as far as they have to do with secrets. What else a handler does is a script
of calls and waits; only here a secret is put. Between two waits a handler has the event loop to itself. -/
namespace BackupTelebot.Wizards

open PyJson PyText EventLoop Conversations
open BackupTelebot.Config (EncryptionMode)

inductive Raised where
  /-- `ValueError` or `KeyError`. -/
  | value
  | rpc
  | localValidationUnavailable
  /-- Among them the cancellation of the task. -/
  | other
  deriving DecidableEq

/-- `State`. Those that no function here names are known by their values. -/
inductive State where
  | addServerPrivateKey
  | addServerPassphrase
  | confirmServerFingerprint
  | addBackupDatabasePassword
  | addBackupDatabaseTls
  | addBackupEncryptionSecret
  | addBackupAdmins
  | other (value : Str)
  deriving DecidableEq

/-- `Conversation.data`, with its options. -/
structure Data (ρ : Type) where
  pending : Bool
  editing : Bool
  preservableDatabase : Bool
  canPreserveDatabasePassword : Bool
  preserveDatabasePassword : Bool
  encryptionMode : Option EncryptionMode
  originalEncryptionMode : Option EncryptionMode
  canPreserveAgePassphrase : Bool
  preserveAgePassphrase : Bool
  rest : ρ

section Handlers

-- `ρ` is what else the data hold, and `ο` is what the transport, the database and the network answer
variable {ρ ο : Type}

abbrev Item (ρ : Type) : Type := Conversation State (Data ρ)

abbrev Task (ρ ο α : Type) : Type := Code State (Data ρ) (Except Raised ο) α

abbrev Handler (ρ ο α : Type) : Type := ExceptT Raised (Coroutine (Conversations.World State (Data ρ)) (Input (Except Raised ο)) Lock) α

def outside : Handler ρ ο ο := ExceptT.mk (.wait fun i => .ret i.outcome)

/-- The data of a conversation are changed in place, without a lock. A conversation that is not in the
store any more is changed for its holder alone. -/
def changeData (item : Item ρ) (change : Data ρ → Data ρ) : Task ρ ο Unit :=
  let changed (stored : Item ρ) : Item ρ :=
    if stored.identity = item.identity then { stored with data := change stored.data } else stored
  untimed fun s => ({ s with conversations := s.conversations.update fun _ stored => some (changed stored) },())

def callCode (cfg : Config) : Call State (Data ρ) → Task ρ ο (Conversations.Answer State (Data ρ))
  | .put userId name plaintext conversation => do
      let stored ← SecretStore.put cfg userId name plaintext conversation
      return if stored then .done else .refused
  | .take userId name => do return answerSecret (← SecretStore.take userId name)
  | .readSecret userId name => do return answerSecret (← SecretStore.read userId name)
  | .touch userId => do
      SecretStore.touch cfg userId
      return .done
  | .clearSecrets userId => do
      SecretStore.clear userId
      return .done
  | .pruneSecrets => do
      SecretStore.prune
      return .done
  | .contains userId name => do return .flag (← SecretStore.contains userId name)
  | .get userId => do return .conversation (← FSMStore.get userId)
  | .set userId state data => do return .conversation (some (← FSMStore.set cfg userId state data))
  | .transition userId expected new => do
      match ← FSMStore.transition cfg userId expected new with
      | none => return .refused
      | some item => return .conversation (some item)
  | .back userId => do return .conversation (← FSMStore.back cfg userId)
  | .invalid userId => do return .flag (← FSMStore.invalid cfg userId)
  | .clear userId => do
      FSMStore.clear userId
      return .done
  | .prune => do
      FSMStore.prune
      return .done

inductive Script (ρ ο : Type) : Type where
  | done (result : Except Raised Unit)
  | call (c : Call State (Data ρ)) (putsNothing : ∀ userId name plaintext conversation, c ≠ .put userId name plaintext conversation)
      (next : Conversations.Answer State (Data ρ) → Script ρ ο)
  | changeData (item : Item ρ) (change : Data ρ → Data ρ) (next : Script ρ ο)
  | wait (next : Except Raised ο → Script ρ ο)

def Script.code (cfg : Config) : Script ρ ο → Task ρ ο (Except Raised Unit)
  | .done result => .ret result
  | .call c _ next => (callCode cfg c).bind fun answer => (next answer).code cfg
  | .changeData item change next => (Wizards.changeData item change).bind fun _ => next.code cfg
  | .wait next => .wait fun i => (next i.outcome).code cfg

structure Bot (ρ ο : Type) where
  cfg : Config
  /-- There is a key for the secrets of the database. -/
  cipher : Bool
  actionForText : Str → Option Str
  validRecipients : Data ρ → Str → Bool
  withPending : ο → Data ρ → Data ρ
  withAdmins : ο → Data ρ → Data ρ
  withSelected : ο → Data ρ → Data ρ
  /-- The steps of a wizard that have nothing to do with secrets. -/
  steps : Item ρ → Option Str → Str → Script ρ ο
  paginate : Item ρ → Str → Script ρ ο
  menu : Option Str → Str → Script ρ ο
  renderWizardStep : Item ρ → Script ρ ο
  showReturned : Option (Item ρ) → Script ρ ο

variable (bot : Bot ρ ο) (userId : ℤ)

def Script.run (script : Script ρ ο) : Handler ρ ο Unit := ExceptT.mk (script.code bot.cfg)

def send : Handler ρ ο Unit := do let _ ← outside

def mutate (item : Item ρ) (change : Data ρ → Data ρ) : Handler ρ ο Unit := (changeData item change : Task ρ ο Unit)

def demand (condition : Bool) : Handler ρ ο Unit := if condition then return () else throw .value

/-- What is put is a secret of the conversation whose input the message is. -/
def put (item : Item ρ) (name plaintext : Str) : Handler ρ ο Unit := do
  let stored ← (SecretStore.put bot.cfg userId name plaintext (some item.identity) : Task ρ ο Bool)
  demand stored

def take (name : Str) : Handler ρ ο Str := do
  match ← (SecretStore.take userId name : Task ρ ο (Option Str)) with
  | none => throw .value
  | some plaintext => return plaintext

def transition (expected new : State) : Handler ρ ο Unit := do
  let item ← (FSMStore.transition bot.cfg userId expected new : Task ρ ο (Option (Item ρ)))
  demand item.isSome

/-- `finally`. -/
def finallyDo {α : Type} (body : Handler ρ ο α) (last : Task ρ ο Unit) : Handler ρ ο α :=
  ExceptT.mk (body.run >>= fun result => last >>= fun _ => pure result)

def sshIdentity : Str := str "ssh-identity"
def sshUnlock : Str := str "ssh-unlock"
def databaseCredential : Str := str "db-auth"
def ageUnlock : Str := str "age-unlock"

namespace Flow

variable (item : Item ρ) (text : Str)

def addServerPrivateKey : Handler ρ ο Unit := do
  put bot userId item sshIdentity text
  transition bot userId item.state .addServerPassphrase
  send

/-- `RemoteServerService.probe` is a wait. -/
def probe : Handler ρ ο ο := finallyDo (do
    let _ ← take userId sshIdentity
    if text = str "-" then outside
    else do
      let _ ← take userId sshUnlock
      outside)
  (SecretStore.clear userId)

def unlock : Handler ρ ο Unit := if text = str "-" then return () else put bot userId item sshUnlock text

def addServerPassphrase : Handler ρ ο Unit := do
  demand bot.cipher
  let held ← (SecretStore.contains userId (some sshIdentity) : Task ρ ο Bool)
  if text = str "-" ∧ item.data.pending = true ∧ held = false then do
    transition bot userId item.state .confirmServerFingerprint
    send
  else do
    unlock bot userId item text
    let pending ← probe userId text
    mutate item (bot.withPending pending)
    transition bot userId item.state .confirmServerFingerprint
    send

def databasePassword : Handler ρ ο Unit :=
  if text = str "-" ∧ item.data.preservableDatabase = true then do
    demand item.data.canPreserveDatabasePassword
    mutate item fun data => { data with preserveDatabasePassword := true }
  else do
    put bot userId item databaseCredential text
    mutate item fun data => { data with preserveDatabasePassword := false }

def addBackupDatabasePassword : Handler ρ ο Unit := do
  demand (decide (text ≠ []))
  databasePassword bot userId item text
  transition bot userId item.state .addBackupDatabaseTls
  send

def selectAdmins : Handler ρ ο Unit :=
  if item.data.editing = true then do
    let existing ← outside
    mutate item (bot.withSelected existing)
  else return ()

def prepareNewBackupAdmins : Handler ρ ο Unit := do
  let admins ← outside
  mutate item (bot.withAdmins admins)
  selectAdmins bot item
  transition bot userId item.state .addBackupAdmins
  send

def agePassphrase : Handler ρ ο Unit := do
  demand (decide (text ≠ []))
  if text = str "-" ∧ item.data.originalEncryptionMode = some .agePassphrase ∧ item.data.canPreserveAgePassphrase = true then
    mutate item fun data => { data with preserveAgePassphrase := true }
  else do
    put bot userId item ageUnlock text
    mutate item fun data => { data with preserveAgePassphrase := false }

def encryption : Handler ρ ο Unit :=
  match item.data.encryptionMode with
  | none => throw .value
  | some .agePublicKey => demand (bot.validRecipients item.data text)
  | some _ => agePassphrase bot userId item text

def addBackupEncryptionSecret : Handler ρ ο Unit := do
  encryption bot userId item text
  prepareNewBackupAdmins bot userId item

def body (action : Option Str) : Handler ρ ο Unit :=
  if action = some (str "previous_page") ∨ action = some (str "next_page") then (bot.paginate item text).run bot
  else match item.state with
    | .addServerPrivateKey => addServerPrivateKey bot userId item text
    | .addServerPassphrase => addServerPassphrase bot userId item text
    | .addBackupDatabasePassword => addBackupDatabasePassword bot userId item text
    | .addBackupEncryptionSecret => addBackupEncryptionSecret bot userId item text
    | _ => (bot.steps item action text).run bot

def caught : Raised → Handler ρ ο Unit
  | .localValidationUnavailable => send
  | .value => do
      -- the home screen, or the notice of an invalid input
      let _ ← (FSMStore.invalid bot.cfg userId : Task ρ ο Bool)
      send
  | raised => throw raised

end Flow

def flow (item : Item ρ) (action : Option Str) (text : Str) : Handler ρ ο Unit :=
  tryCatch (Flow.body bot userId item text action) (Flow.caught bot userId)

def back : Handler ρ ο Unit := do
  let current ← (FSMStore.get userId : Task ρ ο (Option (Item ρ)))
  match ← (FSMStore.back bot.cfg userId : Task ρ ο (Option (Item ρ))) with
  | none =>
    (FSMStore.clear userId : Task ρ ο Unit)
    (bot.showReturned current).run bot
  | some item => (bot.renderWizardStep item).run bot

def dispatch (text : Str) : Handler ρ ο Unit := do
  let action := bot.actionForText text
  if text = str "/cancel" ∨ action = some (str "cancel") then
    (FSMStore.clear userId : Task ρ ο Unit)
    send
  else if text = str "/start" ∨ action = some (str "home") then
    (FSMStore.clear userId : Task ρ ο Unit)
    send
  else
    match ← (FSMStore.get userId : Task ρ ο (Option (Item ρ))) with
    | some item => if action = some (str "back") then back bot userId else flow bot userId item action text
    | none => (bot.menu action text).run bot

def containsSecret (item : Item ρ) : Bool :=
  item.state = .addServerPrivateKey || item.state = .addServerPassphrase || item.state = .addBackupDatabasePassword ||
    (item.state = .addBackupEncryptionSecret && item.data.encryptionMode = some .agePassphrase)

/-- The message with a secret is deleted from the chat; the result says whether it could be. -/
def deleteMessage : Handler ρ ο Bool :=
  tryCatch (do
    let _ ← outside
    return true) fun raised => if raised = .rpc then return false else throw raised

/-- `_handle_event`, for a message. The waits before the conversation is looked up are one, and the commit is the last. -/
def handleEvent (rawText : Str) : Handler ρ ο Unit := do
  let _ ← outside
  match ← (FSMStore.get userId : Task ρ ο (Option (Item ρ))) with
  | none =>
    dispatch bot userId (strip rawText)
    send
  | some item =>
    if containsSecret item = false then
      dispatch bot userId (strip rawText)
      send
    else if ← deleteMessage then
      dispatch bot userId (strip rawText)
      send
    else
      (FSMStore.clear userId : Task ρ ο Unit)
      send

/-- What runs on the loop: messages, callback queries and the cleanup, which put no secret, and the end of the bot. -/
inductive Handles (bot : Bot ρ ο) : Task ρ ο (Except Raised Unit) → Prop
  | message (userId : ℤ) (rawText : Str) : Handles bot (handleEvent bot userId rawText)
  | script (script : Script ρ ο) : Handles bot (script.code bot.cfg)
  | shutdown : Handles bot (FSMStore.clearAll >>= fun _ => pure (.ok ()))

end Handlers

end BackupTelebot.Wizards
