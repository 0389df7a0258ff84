import BackupTelebot.SecretOwners
import BackupTelebot.WizardSecrets

/-! No secret outlives its conversation, however the handlers of a bot are interleaved. -/
namespace BackupTelebot.Wizards

open PyJson PyText PyDict EventLoop Conversations
open BackupTelebot.Config (EncryptionMode)

section Rules

variable {ρ ο α β : Type} {w : Conversations.World State (Data ρ)} {h : Handler ρ ο α} {m : Task ρ ο α}

/-- From `w` on, the handler keeps every secret with its conversation, whether it raises or not. -/
def Fine (h : Handler ρ ο α) (w : Conversations.World State (Data ρ)) : Prop :=
  Coroutine.Keeps Custody Follows h.run w fun _ w' => Custody w'

theorem fine_pure {value : α} (custody : Custody w) : Fine (pure value : Handler ρ ο α) w := Coroutine.Keeps.pure custody

theorem fine_throw {raised : Raised} (custody : Custody w) : Fine (throw raised : Handler ρ ο α) w := Coroutine.Keeps.pure custody

theorem fine_bind {k : α → Handler ρ ο β} (first : Fine h w) (second : ∀ value w', Custody w' → Fine (k value) w') : Fine (h >>= k) w := by
  refine Coroutine.Keeps.bind (Coroutine.Keeps.mono ?_ first)
  intro result w' custody
  cases result with
  | ok value => exact second value w' custody
  | error raised => exact Coroutine.Keeps.pure custody

/-- A call of a store, and what follows. -/
theorem fine_after {k : α → Handler ρ ο β} (first : m.Keeps Custody Follows w fun value w' => Fine (k value) w') :
    Fine ((liftM m : Handler ρ ο α) >>= k) w := by
  refine Coroutine.Keeps.bind (Coroutine.Keeps.bind (Coroutine.Keeps.mono ?_ first))
  intro value w' rest
  exact Coroutine.Keeps.pure rest

theorem fine_lift (keeps : m.Keeps Custody Follows w fun _ w' => Custody w') : Fine (liftM m : Handler ρ ο α) w :=
  Coroutine.Keeps.bind (Coroutine.Keeps.mono (fun _ _ custody => Coroutine.Keeps.pure custody) keeps)

theorem fine_tryCatch {k : Raised → Handler ρ ο α} (first : Fine h w) (caught : ∀ raised w', Custody w' → Fine (k raised) w') :
    Fine (tryCatch h k) w := by
  refine Coroutine.Keeps.bind (Coroutine.Keeps.mono ?_ first)
  intro result w' custody
  cases result with
  | ok value => exact Coroutine.Keeps.pure custody
  | error raised => exact caught raised w' custody

theorem fine_outside : Fine (outside : Handler ρ ο ο) w := Coroutine.Keeps.wait fun _ _ custody _ => Coroutine.Keeps.pure custody

theorem fine_send : Fine (send : Handler ρ ο Unit) w := fine_bind fine_outside fun _ _ custody => fine_pure custody

theorem fine_demand {condition : Bool} (custody : Custody w) : Fine (demand condition : Handler ρ ο Unit) w := by
  cases condition with
  | true => exact fine_pure custody
  | false => exact fine_throw custody

theorem fine_finallyDo {last : Task ρ ο Unit} (first : Fine h w)
    (second : ∀ w', Custody w' → last.Keeps Custody Follows w' fun _ w' => Custody w') : Fine (finallyDo h last) w := by
  refine Coroutine.Keeps.bind (Coroutine.Keeps.mono ?_ first)
  intro result w' custody
  exact Coroutine.Keeps.bind (Coroutine.Keeps.mono (fun _ _ custody => Coroutine.Keeps.pure custody) (second w' custody))

end Rules

section Custody

variable {ρ ο : Type} {w : Conversations.World State (Data ρ)} {bot : Bot ρ ο} {userId : ℤ} {item : Item ρ} {name text : Str}

theorem keeps_changeData {change : Data ρ → Data ρ} (custody : Custody w) :
    (changeData item change : Task ρ ο Unit).Keeps Custody Follows w fun _ w' => Custody w' := by
  let changed (stored : Item ρ) : Item ρ :=
    if stored.identity = item.identity then { stored with data := change stored.data } else stored
  have identity (stored : Item ρ) : (changed stored).identity = stored.identity := by
    unfold changed
    split_ifs <;> rfl
  have found (v : ℤ) : (w.stores.conversations.update fun _ stored => some (changed stored)).get v =
      (w.stores.conversations.get v).map changed := by
    rw [Dict.get_update]
    cases w.stores.conversations.get v <;> rfl
  have origin {v : ℤ} {new : Item ρ} (stored : (w.stores.conversations.update fun _ stored => some (changed stored)).get v = some new) :
      ∃ old, w.stores.conversations.get v = some old ∧ new.identity = old.identity := by
    rw [found] at stored
    obtain ⟨old,before,rfl⟩ := Option.map_eq_some_iff.mp stored
    exact ⟨old,before,identity old⟩
  have kept : Custody (⟨{ w.stores with conversations := w.stores.conversations.update fun _ stored => some (changed stored) },w.now⟩ :
      Conversations.World State (Data ρ)) := by
    refine ⟨fun v name secret stored => ?_,fun v new stored => ?_,fun u v new new' stored stored' same => ?_⟩
    · obtain ⟨old,before,tag⟩ := custody.owned v name secret stored
      refine ⟨changed old,?_,?_⟩
      · change (w.stores.conversations.update _).get v = _
        rw [found,before]
        rfl
      · rw [tag,identity]
    · obtain ⟨old,before,same⟩ := origin stored
      rw [same]
      exact custody.fresh v old before
    · obtain ⟨old,before,here⟩ := origin stored
      obtain ⟨old',before',there⟩ := origin stored'
      exact custody.distinct u v old old' before before' (here.symm.trans (same.trans there))
  exact Coroutine.Keeps.perform fun i => ⟨kept,⟨le_rfl,fun v new stored _ => origin stored⟩,kept⟩

theorem fine_mutate {change : Data ρ → Data ρ} (custody : Custody w) : Fine (mutate item change : Handler ρ ο Unit) w :=
  fine_lift (keeps_changeData custody)

theorem keeps_callCode {c : Call State (Data ρ)} {Q : Conversations.Answer State (Data ρ) → Conversations.World State (Data ρ) → Prop}
    (custody : Custody w) (other : ∀ v name plaintext tag, c ≠ .put v name plaintext tag) (rest : ∀ answer w', Custody w' → Q answer w') :
    (callCode bot.cfg c : Task ρ ο (Conversations.Answer State (Data ρ))).Keeps Custody Follows w Q := by
  have last {α : Type} (wrap : α → Conversations.Answer State (Data ρ)) (value : α) (w' : Conversations.World State (Data ρ)) (custody : Custody w') :
      (pure (wrap value) : Task ρ ο (Conversations.Answer State (Data ρ))).Keeps Custody Follows w' Q := Coroutine.Keeps.pure (rest _ w' custody)
  cases c with
  | put v name plaintext tag => exact absurd rfl (other v name plaintext tag)
  | take v name => exact Coroutine.Keeps.bind (SecretStore.keeps_take custody (last answerSecret))
  | readSecret v name => exact Coroutine.Keeps.bind (SecretStore.keeps_read custody (last answerSecret))
  | touch v => exact Coroutine.Keeps.bind (SecretStore.keeps_touch custody (last fun _ => .done))
  | clearSecrets v => exact Coroutine.Keeps.bind (SecretStore.keeps_clear custody (last fun _ => .done))
  | pruneSecrets => exact Coroutine.Keeps.bind (SecretStore.keeps_prune custody (last fun _ => .done))
  | contains v name => exact Coroutine.Keeps.bind (SecretStore.keeps_contains custody fun value w' custody _ => last .flag value w' custody)
  | get v => exact Coroutine.Keeps.bind (FSMStore.keeps_get custody fun value w' custody _ => last .conversation value w' custody)
  | set v state data => exact Coroutine.Keeps.bind (FSMStore.keeps_set custody (last fun item => .conversation (some item)))
  | transition v expected new =>
    refine Coroutine.Keeps.bind (FSMStore.keeps_transition custody fun result w' custody => ?_)
    cases result with
    | none => exact Coroutine.Keeps.pure (rest _ w' custody)
    | some item => exact Coroutine.Keeps.pure (rest _ w' custody)
  | back v => exact Coroutine.Keeps.bind (FSMStore.keeps_back custody (last .conversation))
  | invalid v => exact Coroutine.Keeps.bind (FSMStore.keeps_invalid custody (last .flag))
  | clear v => exact Coroutine.Keeps.bind (FSMStore.keeps_clear custody (last fun _ => .done))
  | prune => exact Coroutine.Keeps.bind (FSMStore.keeps_prune custody (last fun _ => .done))

/-- Whatever a script does, as it puts no secret. -/
theorem keeps_script (script : Script ρ ο) (custody : Custody w) :
    (script.code bot.cfg).Keeps Custody Follows w fun _ w' => Custody w' := by
  induction script generalizing w with
  | done result => exact Coroutine.Keeps.pure custody
  | call c other next ih => exact Coroutine.Keeps.bind (keeps_callCode custody other fun answer w' custody => ih answer custody)
  | changeData item change next ih => exact Coroutine.Keeps.bind (Coroutine.Keeps.mono (fun _ _ custody => ih custody) (keeps_changeData custody))
  | wait next ih => exact Coroutine.Keeps.wait fun i w' custody _ => ih i.outcome custody

theorem fine_script (script : Script ρ ο) (custody : Custody w) : Fine (script.run bot) w := keeps_script script custody

/-- A secret is put while its conversation is stored. -/
theorem fine_put (custody : Custody w) (stored : w.stores.conversations.get userId = some item) :
    Fine (put bot userId item name text) w :=
  fine_after (SecretStore.keeps_put custody stored fun _ _ custody => fine_demand custody)

theorem fine_take (custody : Custody w) : Fine (take userId name : Handler ρ ο Str) w := by
  refine fine_after (SecretStore.keeps_take custody fun found w' custody => ?_)
  cases found with
  | none => exact fine_throw custody
  | some plaintext => exact fine_pure custody

theorem fine_transition {expected new : State} (custody : Custody w) : Fine (transition bot userId expected new) w :=
  fine_after (FSMStore.keeps_transition custody fun _ _ custody => fine_demand custody)

theorem fine_next {expected new : State} (custody : Custody w) :
    Fine (do transition bot userId expected new; send : Handler ρ ο Unit) w :=
  fine_bind (fine_transition custody) fun _ _ _ => fine_send

namespace Flow

theorem fine_addServerPrivateKey (custody : Custody w) (stored : w.stores.conversations.get userId = some item) :
    Fine (addServerPrivateKey bot userId item text) w :=
  fine_bind (fine_put custody stored) fun _ _ custody => fine_next custody

theorem fine_probe (custody : Custody w) : Fine (probe userId text : Handler ρ ο ο) w := by
  refine fine_finallyDo (fine_bind (fine_take custody) fun _ w' custody => ?_) fun w' custody =>
    SecretStore.keeps_clear custody fun _ _ custody => custody
  by_cases bare : text = str "-"
  · rw [if_pos bare]
    exact fine_outside
  · rw [if_neg bare]
    exact fine_bind (fine_take custody) fun _ _ _ => fine_outside

theorem fine_addServerPassphrase (custody : Custody w) (stored : w.stores.conversations.get userId = some item) :
    Fine (addServerPassphrase bot userId item text) w := by
  unfold addServerPassphrase
  cases bot.cipher with
  | false => exact fine_throw custody
  | true =>
    refine fine_after (SecretStore.keeps_contains custody fun held w' custody same => ?_)
    rw [← same] at stored
    split_ifs
    · exact fine_next custody
    · refine fine_bind ?_ fun _ _ custody => fine_bind (fine_probe custody) fun _ _ custody =>
        fine_bind (fine_mutate custody) fun _ _ custody => fine_next custody
      unfold unlock
      by_cases bare : text = str "-"
      · rw [if_pos bare]
        exact fine_pure custody
      · rw [if_neg bare]
        exact fine_put custody stored

theorem fine_databasePassword (custody : Custody w) (stored : w.stores.conversations.get userId = some item) :
    Fine (databasePassword bot userId item text) w := by
  unfold databasePassword
  split_ifs
  · exact fine_bind (fine_demand custody) fun _ _ custody => fine_mutate custody
  · exact fine_bind (fine_put custody stored) fun _ _ custody => fine_mutate custody

theorem fine_addBackupDatabasePassword (custody : Custody w) (stored : w.stores.conversations.get userId = some item) :
    Fine (addBackupDatabasePassword bot userId item text) w := by
  unfold addBackupDatabasePassword
  cases decide (text ≠ []) with
  | false => exact fine_throw custody
  | true =>
    change Fine (databasePassword bot userId item text >>= fun _ => _) w
    exact fine_bind (fine_databasePassword custody stored) fun _ _ custody => fine_next custody

theorem fine_prepareNewBackupAdmins : Fine (prepareNewBackupAdmins bot userId item) w := by
  refine fine_bind fine_outside fun _ _ custody => fine_bind (fine_mutate custody) fun _ _ custody =>
    fine_bind ?_ fun _ _ custody => fine_next custody
  unfold selectAdmins
  split_ifs
  · exact fine_bind fine_outside fun _ _ custody => fine_mutate custody
  · exact fine_pure custody

theorem fine_agePassphrase (custody : Custody w) (stored : w.stores.conversations.get userId = some item) :
    Fine (agePassphrase bot userId item text) w := by
  unfold agePassphrase
  cases decide (text ≠ []) with
  | false => exact fine_throw custody
  | true =>
    change Fine (if _ then _ else _) w
    split_ifs
    · exact fine_mutate custody
    · exact fine_bind (fine_put custody stored) fun _ _ custody => fine_mutate custody

theorem fine_encryption (custody : Custody w) (stored : w.stores.conversations.get userId = some item) :
    Fine (encryption bot userId item text) w := by
  unfold encryption
  split
  · exact fine_throw custody
  · exact fine_demand custody
  · exact fine_agePassphrase custody stored

theorem fine_body {action : Option Str} (custody : Custody w) (stored : w.stores.conversations.get userId = some item) :
    Fine (body bot userId item text action) w := by
  unfold body
  by_cases page : action = some (str "previous_page") ∨ action = some (str "next_page")
  · rw [if_pos page]
    exact fine_script _ custody
  · rw [if_neg page]
    split
    · exact fine_addServerPrivateKey custody stored
    · exact fine_addServerPassphrase custody stored
    · exact fine_addBackupDatabasePassword custody stored
    · exact fine_bind (fine_encryption custody stored) fun _ _ _ => fine_prepareNewBackupAdmins
    · exact fine_script _ custody

theorem fine_caught {raised : Raised} (custody : Custody w) : Fine (caught bot userId raised) w := by
  cases raised with
  | value => exact fine_after (FSMStore.keeps_invalid custody fun _ _ _ => fine_send)
  | localValidationUnavailable => exact fine_send
  | rpc => exact fine_throw custody
  | other => exact fine_throw custody

end Flow

theorem fine_flow {action : Option Str} (custody : Custody w) (stored : w.stores.conversations.get userId = some item) :
    Fine (flow bot userId item action text) w :=
  fine_tryCatch (Flow.fine_body custody stored) fun _ _ custody => Flow.fine_caught custody

theorem fine_back (custody : Custody w) : Fine (back bot userId) w := by
  refine fine_after (FSMStore.keeps_get custody fun current w' custody _ => ?_)
  refine fine_after (FSMStore.keeps_back custody fun found w' custody => ?_)
  cases found with
  | none => exact fine_after (FSMStore.keeps_clear custody fun _ _ custody => fine_script _ custody)
  | some item => exact fine_script _ custody

theorem fine_leave (custody : Custody w) : Fine (do (FSMStore.clear userId : Task ρ ο Unit); send : Handler ρ ο Unit) w :=
  fine_after (FSMStore.keeps_clear custody fun _ _ _ => fine_send)

theorem fine_dispatch (custody : Custody w) : Fine (dispatch bot userId text) w := by
  unfold dispatch
  by_cases cancels : text = str "/cancel" ∨ bot.actionForText text = some (str "cancel")
  · simp only [if_pos cancels]
    exact fine_leave custody
  · simp only [if_neg cancels]
    by_cases homes : text = str "/start" ∨ bot.actionForText text = some (str "home")
    · rw [if_pos homes]
      exact fine_leave custody
    · rw [if_neg homes]
      refine fine_after (FSMStore.keeps_get custody fun found w' custody stored => ?_)
      cases found with
      | none => exact fine_script _ custody
      | some item =>
        change Fine (if _ then _ else _) w'
        split_ifs
        · exact fine_back custody
        · exact fine_flow custody (stored item rfl)

theorem fine_deleteMessage : Fine (deleteMessage : Handler ρ ο Bool) w := by
  refine fine_tryCatch (fine_bind fine_outside fun _ _ custody => fine_pure custody) fun raised w' custody => ?_
  split_ifs
  · exact fine_pure custody
  · exact fine_throw custody

theorem fine_handleEvent : Fine (handleEvent bot userId text) w := by
  have dispatched {w : Conversations.World State (Data ρ)} (custody : Custody w) :
      Fine (do dispatch bot userId (strip text); send : Handler ρ ο Unit) w :=
    fine_bind (fine_dispatch custody) fun _ _ _ => fine_send
  refine fine_bind fine_outside fun _ w custody => fine_after (FSMStore.keeps_get custody fun found w' custody _ => ?_)
  cases found with
  | none => exact dispatched custody
  | some item =>
    change Fine (if _ then _ else _) w'
    split_ifs
    · exact dispatched custody
    · refine fine_bind fine_deleteMessage fun deleted w' custody => ?_
      cases deleted with
      | true => exact dispatched custody
      | false => exact fine_leave custody

theorem keeps_handles {c : Task ρ ο (Except Raised Unit)} (handles : Handles bot c) (custody : Custody w) :
    c.Keeps Custody Follows w fun _ _ => True := by
  cases handles with
  | message userId rawText => exact Coroutine.Keeps.mono (fun _ _ _ => trivial) fine_handleEvent
  | script script => exact Coroutine.Keeps.mono (fun _ _ _ => trivial) (keeps_script script custody)
  | shutdown => exact Coroutine.Keeps.bind (FSMStore.keeps_clearAll fun _ _ _ => Coroutine.Keeps.pure trivial)

end Custody

section Runs

variable {ρ ο : Type}

/-- What is stored, and what can be read, is a secret of the conversation that its user has. -/
structure Confined (s : Stores State (Data ρ)) : Prop where
  stored : ∀ v name secret, s.secrets.get (v,name) = some secret →
    ∃ item, s.conversations.get v = some item ∧ secret.conversation = some item.identity
  taken : ∀ t v name plaintext, (Conversations.take s t v name).2 = some plaintext → ∃ secret item,
    s.secrets.get (v,name) = some secret ∧ secret.plaintext = plaintext ∧
      s.conversations.get v = some item ∧ secret.conversation = some item.identity
  read : ∀ t v name plaintext, (readSecret s t v name).2 = some plaintext → ∃ secret item,
    s.secrets.get (v,name) = some secret ∧ secret.plaintext = plaintext ∧
      s.conversations.get v = some item ∧ secret.conversation = some item.identity

theorem confined {s : Stores State (Data ρ)} (owned : Owned s) : Confined s where
  stored := owned.owned
  taken t v name plaintext found := by
    unfold Conversations.take at found
    split at found
    · cases found
    · rename_i secret stored
      obtain ⟨item,conversation,tag⟩ := owned.owned v name secret stored
      split_ifs at found
      exact ⟨secret,item,stored,Option.some.inj found,conversation,tag⟩
  read t v name plaintext found := by
    unfold readSecret at found
    split at found
    · cases found
    · rename_i secret stored
      obtain ⟨item,conversation,tag⟩ := owned.owned v name secret stored
      split_ifs at found
      exact ⟨secret,item,stored,Option.some.inj found,conversation,tag⟩

def Erased (s : Stores State (Data ρ)) (identity : ℕ) : Prop :=
  ∀ v name secret, s.secrets.get (v,name) = some secret → secret.conversation ≠ some identity

abbrev BotLoop (ρ ο : Type) : Type := Loop (Conversations.World State (Data ρ)) (Input (Except Raised ο)) Lock (Except Raised Unit)

/-- In every run of the handlers, whenever no call of a store is in progress, every secret is one of the
stored conversation of its user. Once a user has not the conversation any more that he had, none of its
secrets is stored, then and ever after. -/
theorem secrets_confined (bot : Bot ρ ο) (now : ℚ) (l : BotLoop ρ ο) (run : Loop.Run (Handles bot) (Loop.start ⟨initial,now⟩) l)
    (free : l.Free) :
    Confined l.shared.stores ∧
      ∀ v item, l.shared.stores.conversations.get v = some item → ∀ l', Loop.Run (Handles bot) l l' → l'.Free →
        (∀ item', l'.shared.stores.conversations.get v = some item' → item'.identity ≠ item.identity) →
          ∀ l'', Loop.Run (Handles bot) l' l'' → l''.Free →
            Gone l''.shared.stores item.identity ∧ Erased l''.shared.stores item.identity := by
  have refl (w : Conversations.World State (Data ρ)) : Follows w w := Grows.refl w.stores
  have trans {a b c : Conversations.World State (Data ρ)} (first : Follows a b) (second : Follows b c) : Follows a c := Grows.trans first second
  have keeps (c : Task ρ ο (Except Raised Unit)) (handles : Handles bot c) (w : Conversations.World State (Data ρ)) (custody : Custody w) :
      c.Keeps Custody Follows w fun _ _ => True := keeps_handles handles custody
  have start : Custody (⟨initial,now⟩ : Conversations.World State (Data ρ)) := initial_owned
  have custody : Custody l.shared := Loop.run_holds refl trans keeps start run free
  refine ⟨confined custody,fun v item stored l' run' free' left l'' run'' free'' => ?_⟩
  have first : Follows l.shared l'.shared := Loop.run_follows refl trans keeps start run free run' free'
  have second : Follows l'.shared l''.shared := Loop.run_follows refl trans keeps start (run.trans run') free' run'' free''
  have gone := second.gone ((custody.fresh v item stored).trans_le first.created) (gone_of_left custody first stored left)
  refine ⟨gone,fun u name secret found tag => ?_⟩
  have last : Custody l''.shared := Loop.run_holds refl trans keeps start ((run.trans run').trans run'') free''
  obtain ⟨item',conversation,tag'⟩ := last.owned u name secret found
  exact gone u item' conversation (Option.some.inj (tag'.symm.trans tag))

end Runs

def smallScript : Script Unit Unit := .done (.ok ())

def smallBot : Bot Unit Unit where
  cfg := ⟨60,3⟩
  cipher := true
  actionForText _ := none
  validRecipients _ _ := true
  withPending _ data := data
  withAdmins _ data := data
  withSelected _ data := data
  steps _ _ _ := smallScript
  paginate _ _ := smallScript
  menu _ _ := smallScript
  renderWizardStep _ := smallScript
  showReturned _ := smallScript

def begin_ : Script Unit Unit :=
  .call (.set 7 .addServerPrivateKey ⟨false,false,false,false,false,none,none,false,false,()⟩) (by simp) fun _ => smallScript

def answered : Input (Except Raised Unit) := ⟨0,.ok ()⟩

def alone (l : BotLoop Unit Unit) (id : ℕ) (c : Task Unit Unit (Except Raised Unit)) : BotLoop Unit Unit := (l.put id c).drive answered id 28

def begun : BotLoop Unit Unit := alone (Loop.start ⟨initial,0⟩) 0 (begin_.code smallBot.cfg)
def keyed : BotLoop Unit Unit := alone begun 1 (handleEvent smallBot 7 (str "key"))
def cancelled : BotLoop Unit Unit := alone keyed 2 (handleEvent smallBot 7 (str "/cancel"))

theorem alone_run {l : BotLoop Unit Unit} {id : ℕ} {c : Task Unit Unit (Except Raised Unit)} (fresh : (l.tasks id).isNone = true)
    (handles : Handles smallBot c) : Loop.Run (Handles smallBot) l (alone l id c) :=
  .head (.spawn (Option.isNone_iff_eq_none.mp fresh) handles) (Loop.drive_run _ _ _ _ _)

theorem secrets_confined_small :
    (keyed.shared.stores.secrets.get (7,sshIdentity)).map Secret.conversation = some (some 0) ∧
    Confined keyed.shared.stores ∧ Gone cancelled.shared.stores 0 ∧ Erased cancelled.shared.stores 0 := by
  have run : Loop.Run (Handles smallBot) (Loop.start ⟨initial,0⟩) keyed :=
    (alone_run (by decide +kernel) (.script begin_)).trans (alone_run (by decide +kernel) (.message 7 (str "key")))
  have free : keyed.Free := by
    intro lock
    cases lock <;> decide +kernel
  have free' : cancelled.Free := by
    intro lock
    cases lock <;> decide +kernel
  have found : (keyed.shared.stores.conversations.get 7).map Conversation.identity = some 0 := by decide +kernel
  have left : cancelled.shared.stores.conversations.get 7 = none := by decide +kernel
  obtain ⟨item,stored,identity⟩ := Option.map_eq_some_iff.mp found
  obtain ⟨confined,erased⟩ := secrets_confined smallBot 0 keyed run free
  have after := erased 7 item stored cancelled (alone_run (by decide +kernel) (.message 7 (str "/cancel"))) free' (by simp [left]) cancelled
    .refl free'
  rw [identity] at after
  exact ⟨by decide +kernel,confined,after⟩

end BackupTelebot.Wizards
