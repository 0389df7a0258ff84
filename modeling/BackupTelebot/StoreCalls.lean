import BackupTelebot.ConversationExpiry
import BackupTelebot.EventLoopRules
import Mathlib.Data.NNRat.Defs

/-! The methods of the two stores as coroutines, with their locks. Nothing under a lock waits, so a call is
one operation of the stores. -/
namespace BackupTelebot.Conversations

open PyJson PyDict EventLoop

inductive Lock where
  | conversations
  | secrets
  deriving DecidableEq

structure World (σ δ : Type) where
  stores : Stores σ δ
  /-- The last reading of the clock. -/
  now : ℚ

/-- What the outside world gives: the time since the last reading, and the outcome of what is waited for. -/
structure Input (ω : Type) where
  elapsed : ℚ≥0
  outcome : ω

abbrev Code (σ δ ω α : Type) : Type := Coroutine (World σ δ) (Input ω) Lock α

section Methods

variable {σ δ ω α : Type}

def untimed (f : Stores σ δ → Stores σ δ × α) : Code σ δ ω α :=
  .perform fun _ w => ((f w.stores).2,{ w with stores := (f w.stores).1 })

def timed (f : ℚ → Stores σ δ → Stores σ δ × α) : Code σ δ ω α :=
  .perform fun i w => ((f (w.now + i.elapsed) w.stores).2,⟨(f (w.now + i.elapsed) w.stores).1,w.now + i.elapsed⟩)

def monotonic : Code σ δ ω ℚ := timed fun now s => (s,now)

section Secrets

variable (cfg : Config) (userId : ℤ) (name : Str)

namespace SecretStore

def put (plaintext : Str) (conversation : Option ℕ) : Code σ δ ω Bool :=
  if plaintext = [] ∨ encodes plaintext = false then return false
  else .withLock .secrets (timed fun now s =>
    ({ s with secrets := (s.secrets.pop (userId,name)).set (userId,name) ⟨plaintext,now + cfg.timeout,conversation⟩ },true))

def take : Code σ δ ω (Option Str) := .withLock .secrets (timed fun now s => Conversations.take s (.at now) userId name)

def read : Code σ δ ω (Option Str) := .withLock .secrets (timed fun now s => readSecret s (.at now) userId name)

def touch : Code σ δ ω Unit := .withLock .secrets (timed fun now s => (Conversations.touch cfg s now userId,()))

def clear : Code σ δ ω Unit := .withLock .secrets (untimed fun s => (clearSecrets s userId,()))

def prune : Code σ δ ω Unit := .withLock .secrets (timed fun now s => (pruneSecrets s now,()))

def contains (name : Option Str) : Code σ δ ω Bool :=
  .withLock .secrets (timed fun now s => (s,Conversations.contains s (.at now) userId name))

end SecretStore

end Secrets

namespace FSMStore

variable (cfg : Config) (userId : ℤ)

def lookup : Code σ δ ω (Option (Conversation σ δ)) := untimed fun s => (s,s.conversations.get userId)

/-- `self._states.pop(user_id, None)`, and then `self.secrets.clear(user_id)`. -/
def remove : Code σ δ ω Unit := do
  untimed fun s => ({ s with conversations := s.conversations.pop userId },())
  SecretStore.clear userId

def get : Code σ δ ω (Option (Conversation σ δ)) := .withLock .conversations do
  match ← lookup userId with
  | none => return none
  | some item =>
    if item.expiresAt ≤ (← monotonic) then
      remove userId
      return none
    else return some item

def set (state : σ) (data : δ) : Code σ δ ω (Conversation σ δ) := .withLock .conversations do
  SecretStore.clear userId
  timed fun now s =>
    let item : Conversation σ δ := ⟨s.created,state,now + cfg.timeout,data,0,[]⟩
    ({ s with conversations := s.conversations.set userId item, created := s.created + 1 },item)

def renew (f : ℚ → Conversation σ δ) : Code σ δ ω (Conversation σ δ) :=
  timed fun now s => (store s userId (f (now + cfg.timeout)),f (now + cfg.timeout))

def transition [DecidableEq σ] (expected new : σ) : Code σ δ ω (Option (Conversation σ δ)) := .withLock .conversations do
  match ← lookup userId with
  | none => return none
  | some item =>
    if item.state ≠ expected ∨ item.expiresAt ≤ (← monotonic) then
      if item.expiresAt ≤ (← monotonic) then remove userId
      return none
    else
      let item ← renew cfg userId fun expiresAt =>
        { item with state := new, expiresAt := expiresAt, invalidInputs := 0, history := item.history ++ [expected] }
      SecretStore.touch cfg userId
      return some item

def back : Code σ δ ω (Option (Conversation σ δ)) := .withLock .conversations do
  match ← lookup userId with
  | none => return none
  | some item =>
    if item.expiresAt ≤ (← monotonic) then
      remove userId
      return none
    else match item.history.getLast? with
      | none => return none
      | some state =>
        let item ← renew cfg userId fun expiresAt =>
          { item with state := state, expiresAt := expiresAt, invalidInputs := 0, history := item.history.dropLast }
        SecretStore.touch cfg userId
        return some item

def invalid : Code σ δ ω Bool := .withLock .conversations do
  match ← lookup userId with
  | none => return false
  | some item =>
    let item ← renew cfg userId fun expiresAt => { item with invalidInputs := item.invalidInputs + 1, expiresAt := expiresAt }
    if cfg.invalidLimit ≤ item.invalidInputs then
      remove userId
      return true
    else
      SecretStore.touch cfg userId
      return false

def clear : Code σ δ ω Unit := .withLock .conversations (remove userId)

def removeAll : List ℤ → Code σ δ ω Unit
  | [] => return ()
  | userId :: rest => do
      remove userId
      removeAll rest

def prune : Code σ δ ω Unit := do
  .withLock .conversations do
    let now ← monotonic
    let userIds ← untimed fun s => (s,(s.conversations.entries.filter fun entry => decide (entry.2.expiresAt ≤ now)).map (·.1))
    removeAll userIds
  SecretStore.prune

def clearAll : Code σ δ ω Unit := .withLock .conversations do
  untimed fun s => ({ s with conversations := .empty },())
  .withLock .secrets (untimed fun s => ({ s with secrets := .empty },()))

end FSMStore

end Methods

section Turns

variable {σ δ ω α : Type} {w w' : World σ δ} {value : α} {cfg : Config} {userId : ℤ} {name : Str}

theorem turn_untimed {f : Stores σ δ → Stores σ δ × α} (turn : (untimed f : Code σ δ ω α).Turn w value w') :
    value = (f w.stores).2 ∧ w' = { w with stores := (f w.stores).1 } := by
  obtain ⟨i,same⟩ := Coroutine.turn_perform.mp turn
  obtain ⟨rfl,rfl⟩ := Prod.mk.inj same
  exact ⟨rfl,rfl⟩

theorem turn_timed {f : ℚ → Stores σ δ → Stores σ δ × α} (turn : (timed f : Code σ δ ω α).Turn w value w') :
    ∃ now, w.now ≤ now ∧ value = (f now w.stores).2 ∧ w' = ⟨(f now w.stores).1,now⟩ := by
  obtain ⟨i,same⟩ := Coroutine.turn_perform.mp turn
  obtain ⟨rfl,rfl⟩ := Prod.mk.inj same
  exact ⟨w.now + i.elapsed,le_add_of_nonneg_right i.elapsed.coe_nonneg,rfl,rfl⟩

theorem turn_monotonic {now : ℚ} (turn : (monotonic : Code σ δ ω ℚ).Turn w now w') : w.now ≤ now ∧ w' = { w with now := now } := by
  obtain ⟨_,later,rfl,rfl⟩ := turn_timed turn
  exact ⟨later,rfl⟩

namespace SecretStore

theorem turn_touch {value : Unit} (turn : (touch cfg userId : Code σ δ ω Unit).Turn w value w') :
    ∃ now, w.now ≤ now ∧ w' = ⟨Conversations.touch cfg w.stores now userId,now⟩ := by
  obtain ⟨now,later,-,same⟩ := turn_timed (Coroutine.turn_withLock.mp turn)
  exact ⟨now,later,same⟩

theorem turn_clear {value : Unit} (turn : (clear userId : Code σ δ ω Unit).Turn w value w') :
    w' = { w with stores := clearSecrets w.stores userId } :=
  (turn_untimed (Coroutine.turn_withLock.mp turn)).2

end SecretStore

namespace FSMStore

open Coroutine

theorem turn_lookup {found : Option (Conversation σ δ)} (turn : (lookup userId : Code σ δ ω _).Turn w found w') :
    found = w.stores.conversations.get userId ∧ w' = w :=
  turn_untimed turn

theorem turn_remove {value : Unit} (turn : (remove userId : Code σ δ ω Unit).Turn w value w') :
    w' = { w with stores := Conversations.clear w.stores userId } := by
  obtain ⟨_,middle,first,second⟩ := turn_bind.mp turn
  obtain ⟨-,rfl⟩ := turn_untimed first
  exact SecretStore.turn_clear second

theorem turn_renew {f : ℚ → Conversation σ δ} {item : Conversation σ δ} (turn : (renew cfg userId f : Code σ δ ω _).Turn w item w') :
    ∃ now, w.now ≤ now ∧ item = f (now + cfg.timeout) ∧ w' = ⟨store w.stores userId (f (now + cfg.timeout)),now⟩ :=
  turn_timed turn

/-- A call that starts with the conversation of the user. -/
theorem turn_found {body : Option (Conversation σ δ) → Code σ δ ω α} (turn : (lookup userId >>= body).Turn w value w') :
    (body (w.stores.conversations.get userId)).Turn w value w' := by
  obtain ⟨found,middle,first,rest⟩ := turn_bind.mp turn
  obtain ⟨rfl,rfl⟩ := turn_lookup first
  exact rest

theorem turn_get {result : Option (Conversation σ δ)} (turn : (get userId : Code σ δ ω _).Turn w result w') :
    ∃ t, Conversations.get w.stores t userId = (w'.stores,result) := by
  have inside := turn_found (turn_withLock.mp turn)
  unfold Conversations.get
  cases found : w.stores.conversations.get userId with
  | none =>
    rw [found] at inside
    obtain ⟨rfl,rfl⟩ := turn_pure.mp inside
    exact ⟨.at 0,rfl⟩
  | some item =>
    rw [found] at inside
    obtain ⟨now,middle,read,rest⟩ := turn_bind.mp inside
    obtain ⟨-,rfl⟩ := turn_monotonic read
    refine ⟨.at now,?_⟩
    by_cases expired : item.expiresAt ≤ now
    · rw [if_pos expired] at rest
      obtain ⟨_,after,removed,last⟩ := turn_bind.mp rest
      obtain rfl := turn_remove removed
      obtain ⟨rfl,rfl⟩ := turn_pure.mp last
      exact if_pos expired
    · rw [if_neg expired] at rest
      obtain ⟨rfl,rfl⟩ := turn_pure.mp rest
      exact if_neg expired

theorem turn_set {state : σ} {data : δ} {item : Conversation σ δ} (turn : (set cfg userId state data : Code σ δ ω _).Turn w item w') :
    ∃ t, Conversations.set cfg w.stores t userId state data = (w'.stores,item) := by
  obtain ⟨_,middle,cleared,rest⟩ := turn_bind.mp (turn_withLock.mp turn)
  obtain rfl := SecretStore.turn_clear cleared
  obtain ⟨now,-,rfl,rfl⟩ := turn_timed rest
  exact ⟨.at now,rfl⟩

theorem turn_transition [DecidableEq σ] {expected new : σ} {result : Option (Conversation σ δ)}
    (turn : (transition cfg userId expected new : Code σ δ ω _).Turn w result w') :
    ∃ t, Conversations.transition cfg w.stores t userId expected new = (w'.stores,result) := by
  have inside := turn_found (turn_withLock.mp turn)
  unfold Conversations.transition
  cases found : w.stores.conversations.get userId with
  | none =>
    rw [found] at inside
    obtain ⟨rfl,rfl⟩ := turn_pure.mp inside
    exact ⟨.at 0,rfl⟩
  | some item =>
    rw [found] at inside
    obtain ⟨first,middle,read,rest⟩ := turn_bind.mp inside
    obtain ⟨-,rfl⟩ := turn_monotonic read
    by_cases refused : item.state ≠ expected ∨ item.expiresAt ≤ first
    · rw [if_pos refused] at rest
      obtain ⟨second,middle,read,rest⟩ := turn_bind.mp rest
      obtain ⟨later,rfl⟩ := turn_monotonic read
      refine ⟨⟨first,second,second,later,le_rfl⟩,?_⟩
      simp only [if_pos refused]
      by_cases expired : item.expiresAt ≤ second
      · rw [if_pos expired] at rest ⊢
        obtain ⟨_,after,removed,last⟩ := turn_bind.mp rest
        obtain rfl := turn_remove removed
        obtain ⟨rfl,rfl⟩ := turn_pure.mp last
        rfl
      · rw [if_neg expired] at rest ⊢
        obtain ⟨rfl,rfl⟩ := turn_pure.mp rest
        rfl
    · rw [if_neg refused] at rest
      obtain ⟨_,middle,renewed,rest⟩ := turn_bind.mp rest
      obtain ⟨second,later,rfl,rfl⟩ := turn_renew renewed
      obtain ⟨_,after,touched,last⟩ := turn_bind.mp rest
      obtain ⟨third,latest,rfl⟩ := SecretStore.turn_touch touched
      obtain ⟨rfl,rfl⟩ := turn_pure.mp last
      refine ⟨⟨first,second,third,later,latest⟩,?_⟩
      simp only [if_neg refused]

theorem turn_back {result : Option (Conversation σ δ)} (turn : (back cfg userId : Code σ δ ω _).Turn w result w') :
    ∃ t, Conversations.back cfg w.stores t userId = (w'.stores,result) := by
  have inside := turn_found (turn_withLock.mp turn)
  unfold Conversations.back
  cases found : w.stores.conversations.get userId with
  | none =>
    rw [found] at inside
    obtain ⟨rfl,rfl⟩ := turn_pure.mp inside
    exact ⟨.at 0,rfl⟩
  | some item =>
    rw [found] at inside
    obtain ⟨first,middle,read,rest⟩ := turn_bind.mp inside
    obtain ⟨-,rfl⟩ := turn_monotonic read
    by_cases expired : item.expiresAt ≤ first
    · rw [if_pos expired] at rest
      obtain ⟨_,after,removed,last⟩ := turn_bind.mp rest
      obtain rfl := turn_remove removed
      obtain ⟨rfl,rfl⟩ := turn_pure.mp last
      exact ⟨.at first,if_pos expired⟩
    · rw [if_neg expired] at rest
      cases past : item.history.getLast? with
      | none =>
        rw [past] at rest
        obtain ⟨rfl,rfl⟩ := turn_pure.mp rest
        refine ⟨.at first,?_⟩
        simp only [past]
        exact if_neg expired
      | some state =>
        rw [past] at rest
        obtain ⟨_,middle,renewed,rest⟩ := turn_bind.mp rest
        obtain ⟨second,later,rfl,rfl⟩ := turn_renew renewed
        obtain ⟨_,after,touched,last⟩ := turn_bind.mp rest
        obtain ⟨third,latest,rfl⟩ := SecretStore.turn_touch touched
        obtain ⟨rfl,rfl⟩ := turn_pure.mp last
        refine ⟨⟨first,second,third,later,latest⟩,?_⟩
        simp only [past,if_neg expired]

theorem clear_store (s : Stores σ δ) (item : Conversation σ δ) : Conversations.clear (store s userId item) userId = Conversations.clear s userId := by
  simp only [Conversations.clear,store,Dict.pop_set]

theorem turn_invalid {result : Bool} (turn : (invalid cfg userId : Code σ δ ω _).Turn w result w') :
    ∃ t, Conversations.invalid cfg w.stores t userId = (w'.stores,result) := by
  have inside := turn_found (turn_withLock.mp turn)
  unfold Conversations.invalid
  cases found : w.stores.conversations.get userId with
  | none =>
    rw [found] at inside
    obtain ⟨rfl,rfl⟩ := turn_pure.mp inside
    exact ⟨.at 0,rfl⟩
  | some item =>
    rw [found] at inside
    obtain ⟨_,middle,renewed,rest⟩ := turn_bind.mp inside
    obtain ⟨first,-,rfl,rfl⟩ := turn_renew renewed
    by_cases many : cfg.invalidLimit ≤ item.invalidInputs + 1
    · rw [if_pos many] at rest
      obtain ⟨_,after,removed,last⟩ := turn_bind.mp rest
      obtain rfl := turn_remove removed
      obtain ⟨rfl,rfl⟩ := turn_pure.mp last
      refine ⟨.at first,?_⟩
      simp only [if_pos many,clear_store]
    · rw [if_neg many] at rest
      obtain ⟨_,after,touched,last⟩ := turn_bind.mp rest
      obtain ⟨second,later,rfl⟩ := SecretStore.turn_touch touched
      obtain ⟨rfl,rfl⟩ := turn_pure.mp last
      refine ⟨⟨first,second,second,later,le_rfl⟩,?_⟩
      simp only [if_neg many]

theorem turn_clear {value : Unit} (turn : (clear userId : Code σ δ ω Unit).Turn w value w') :
    w'.stores = Conversations.clear w.stores userId := by
  obtain rfl := turn_remove (turn_withLock.mp turn)
  rfl

theorem turn_removeAll {userIds : List ℤ} {value : Unit} (turn : (removeAll userIds : Code σ δ ω Unit).Turn w value w') :
    w' = { w with stores := userIds.foldl Conversations.clear w.stores } := by
  induction userIds generalizing w with
  | nil => exact (turn_pure.mp turn).2.symm
  | cons userId rest ih =>
    obtain ⟨_,middle,removed,later⟩ := turn_bind.mp turn
    obtain rfl := turn_remove removed
    exact ih later

end FSMStore

end Turns

end BackupTelebot.Conversations
