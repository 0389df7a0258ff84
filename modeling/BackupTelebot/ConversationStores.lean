import BackupTelebot.JsonValue
import BackupTelebot.PythonDict
import Mathlib.Algebra.Order.Ring.Rat

/-! The store of the conversations and the store of their secrets. An operation is one step: both
locks are held over nothing but the operations of the other store. The readings of the clock inside
an operation are its arguments, and a secret is held by what decrypting it gives. -/
namespace BackupTelebot.Conversations

open PyJson PyDict

/-- The readings of one operation, in the order in which they are taken. -/
structure Clock where
  first : ℚ
  second : ℚ
  third : ℚ
  later : first ≤ second
  last : second ≤ third

/-- A conversation, with what tells two of them apart. -/
structure Conversation (σ δ : Type) where
  identity : ℕ
  state : σ
  expiresAt : ℚ
  data : δ
  invalidInputs : ℕ
  history : List σ
  deriving DecidableEq

/-- A secret. The ghost field names the conversation in which it was put. -/
structure Secret where
  plaintext : Str
  expiresAt : ℚ
  conversation : Option ℕ
  deriving DecidableEq

structure Stores (σ δ : Type) where
  conversations : Dict ℤ (Conversation σ δ)
  secrets : Dict (ℤ × Str) Secret
  /-- The conversations so far. -/
  created : ℕ

structure Config where
  timeout : ℚ
  invalidLimit : ℕ

def initial {σ δ : Type} : Stores σ δ := ⟨.empty,.empty,0⟩

section Operations

variable {σ δ : Type} (cfg : Config) (s : Stores σ δ) (t : Clock)

/-- UTF-8 has no surrogates. -/
def encodes (plaintext : Str) : Bool := plaintext.all fun c => !decide (0xD800 ≤ c ∧ c ≤ 0xDFFF)

/-- `None` stands for the `ValueError`. -/
def put (userId : ℤ) (name plaintext : Str) (conversation : Option ℕ) : Option (Stores σ δ) :=
  if plaintext = [] ∨ encodes plaintext = false then none
  else some { s with
    secrets := (s.secrets.pop (userId,name)).set (userId,name) ⟨plaintext,t.first + cfg.timeout,conversation⟩ }

def dropSecret (userId : ℤ) (name : Str) : Stores σ δ := { s with secrets := s.secrets.pop (userId,name) }

def take (userId : ℤ) (name : Str) : Stores σ δ × Option Str :=
  match s.secrets.get (userId,name) with
  | none => (s,none)
  | some item => (dropSecret s userId name,if item.expiresAt ≤ t.first then none else some item.plaintext)

/-- `EphemeralSecretStore.get`. -/
def readSecret (userId : ℤ) (name : Str) : Stores σ δ × Option Str :=
  match s.secrets.get (userId,name) with
  | none => (s,none)
  | some item => if item.expiresAt ≤ t.first then (dropSecret s userId name,none) else (s,some item.plaintext)

def touched (cfg : Config) (now : ℚ) (userId : ℤ) (key : ℤ × Str) (item : Secret) : Secret :=
  if key.1 = userId then { item with expiresAt := now + cfg.timeout } else item

def touch (now : ℚ) (userId : ℤ) : Stores σ δ :=
  { s with secrets := s.secrets.update fun key item => some (touched cfg now userId key item) }

/-- `EphemeralSecretStore.clear`. -/
def clearSecrets (userId : ℤ) : Stores σ δ := { s with secrets := s.secrets.filter fun key _ => decide (key.1 ≠ userId) }

/-- `EphemeralSecretStore.prune_expired`. -/
def pruneSecrets (now : ℚ) : Stores σ δ := { s with secrets := s.secrets.filter fun _ item => decide (now < item.expiresAt) }

def contains (userId : ℤ) (name : Option Str) : Bool :=
  s.secrets.entries.any fun entry =>
    entry.1.1 = userId && name.all (· = entry.1.2) && decide (t.first < entry.2.expiresAt)

/-- The conversation goes, and its secrets with it. -/
def clear (userId : ℤ) : Stores σ δ := clearSecrets { s with conversations := s.conversations.pop userId } userId

def get (userId : ℤ) : Stores σ δ × Option (Conversation σ δ) :=
  match s.conversations.get userId with
  | none => (s,none)
  | some item => if item.expiresAt ≤ t.first then (clear s userId,none) else (s,some item)

def set (userId : ℤ) (state : σ) (data : δ) : Stores σ δ × Conversation σ δ :=
  let item : Conversation σ δ := ⟨s.created,state,t.first + cfg.timeout,data,0,[]⟩
  ({ clearSecrets s userId with conversations := s.conversations.set userId item, created := s.created + 1 },item)

def store (userId : ℤ) (item : Conversation σ δ) : Stores σ δ := { s with conversations := s.conversations.set userId item }

/-- `None` stands for the `ValueError`. -/
def transition [DecidableEq σ] (userId : ℤ) (expected new : σ) : Stores σ δ × Option (Conversation σ δ) :=
  match s.conversations.get userId with
  | none => (s,none)
  | some item =>
    if item.state ≠ expected ∨ item.expiresAt ≤ t.first then
      (if item.expiresAt ≤ t.second then clear s userId else s,none)
    else
      let item := { item with
        state := new, expiresAt := t.second + cfg.timeout, invalidInputs := 0, history := item.history ++ [expected] }
      (touch cfg (store s userId item) t.third userId,some item)

def back (userId : ℤ) : Stores σ δ × Option (Conversation σ δ) :=
  match s.conversations.get userId with
  | none => (s,none)
  | some item =>
    if item.expiresAt ≤ t.first then (clear s userId,none)
    else match item.history.getLast? with
      | none => (s,none)
      | some state =>
        let item := { item with
          state := state, expiresAt := t.second + cfg.timeout, invalidInputs := 0, history := item.history.dropLast }
        (touch cfg (store s userId item) t.third userId,some item)

/-- The result says whether there were too many. -/
def invalid (userId : ℤ) : Stores σ δ × Bool :=
  match s.conversations.get userId with
  | none => (s,false)
  | some item =>
    if cfg.invalidLimit ≤ item.invalidInputs + 1 then (clear s userId,true)
    else (touch cfg (store s userId { item with
      invalidInputs := item.invalidInputs + 1, expiresAt := t.first + cfg.timeout }) t.second userId,false)

/-- `FSMStore.prune_expired`. -/
def prune : Stores σ δ × ℕ :=
  let userIds := (s.conversations.entries.filter fun entry => decide (entry.2.expiresAt ≤ t.first)).map (·.1)
  (pruneSecrets (userIds.foldl clear s) t.second,userIds.length)

end Operations

inductive Call (σ δ : Type) where
  | put (userId : ℤ) (name plaintext : Str) (conversation : Option ℕ)
  | take (userId : ℤ) (name : Str)
  | readSecret (userId : ℤ) (name : Str)
  | touch (userId : ℤ)
  | clearSecrets (userId : ℤ)
  | pruneSecrets
  | contains (userId : ℤ) (name : Option Str)
  | get (userId : ℤ)
  | set (userId : ℤ) (state : σ) (data : δ)
  | transition (userId : ℤ) (expected new : σ)
  | back (userId : ℤ)
  | invalid (userId : ℤ)
  | clear (userId : ℤ)
  | prune

inductive Answer (σ δ : Type) where
  | done
  | refused
  | flag (value : Bool)
  | secret (plaintext : Str)
  | conversation (item : Option (Conversation σ δ))
  deriving DecidableEq

section Perform

variable {σ δ : Type} [DecidableEq σ]

def answerSecret : Option Str → Answer σ δ
  | none => .refused
  | some plaintext => .secret plaintext

def perform (cfg : Config) (s : Stores σ δ) (t : Clock) : Call σ δ → Stores σ δ × Answer σ δ
  | .put userId name plaintext conversation =>
      match put cfg s t userId name plaintext conversation with
      | none => (s,.refused)
      | some s => (s,.done)
  | .take userId name => ((take s t userId name).1,answerSecret (take s t userId name).2)
  | .readSecret userId name => ((readSecret s t userId name).1,answerSecret (readSecret s t userId name).2)
  | .touch userId => (touch cfg s t.first userId,.done)
  | .clearSecrets userId => (clearSecrets s userId,.done)
  | .pruneSecrets => (pruneSecrets s t.first,.done)
  | .contains userId name => (s,.flag (contains s t userId name))
  | .get userId => ((get s t userId).1,.conversation (get s t userId).2)
  | .set userId state data => ((set cfg s t userId state data).1,.conversation (some (set cfg s t userId state data).2))
  | .transition userId expected new =>
      ((transition cfg s t userId expected new).1,
        match (transition cfg s t userId expected new).2 with
        | none => .refused
        | some item => .conversation (some item))
  | .back userId => ((back cfg s t userId).1,.conversation (back cfg s t userId).2)
  | .invalid userId => ((invalid cfg s t userId).1,.flag (invalid cfg s t userId).2)
  | .clear userId => (clear s userId,.done)
  | .prune => ((prune s t).1,.done)

def exec (cfg : Config) : Stores σ δ → List (Clock × Call σ δ) → Stores σ δ
  | s, [] => s
  | s, (t,call) :: rest => exec cfg (perform cfg s t call).1 rest

end Perform

section Rules

variable {σ δ : Type} {cfg : Config} {s : Stores σ δ} {t : Clock} {userId v : ℤ} {name : Str}

@[simp] theorem clearSecrets_conversations : (clearSecrets s userId).conversations = s.conversations := rfl
@[simp] theorem dropSecret_conversations : (dropSecret s userId name).conversations = s.conversations := rfl
@[simp] theorem touch_conversations (now : ℚ) : (touch cfg s now userId).conversations = s.conversations := rfl
@[simp] theorem store_secrets (item : Conversation σ δ) : (store s userId item).secrets = s.secrets := rfl

theorem clearSecrets_get (key : ℤ × Str) :
    (clearSecrets s userId).secrets.get key = if key.1 = userId then none else s.secrets.get key := by
  rw [clearSecrets,Dict.get_filter]
  by_cases same : key.1 = userId
  · simp [same]
  · cases s.secrets.get key <;> simp [same]

theorem dropSecret_get (key : ℤ × Str) :
    (dropSecret s userId name).secrets.get key = if key = (userId,name) then none else s.secrets.get key := Dict.get_pop ..

theorem touch_get (now : ℚ) (key : ℤ × Str) :
    (touch cfg s now userId).secrets.get key = (s.secrets.get key).map (touched cfg now userId key) := by
  rw [touch,Dict.get_update]
  cases s.secrets.get key <;> rfl

theorem clear_conversation : (clear s userId).conversations.get v = if v = userId then none else s.conversations.get v :=
  Dict.get_pop ..

theorem clear_secret (key : ℤ × Str) : (clear s userId).secrets.get key = if key.1 = userId then none else s.secrets.get key :=
  clearSecrets_get key

theorem store_conversation (item : Conversation σ δ) :
    (store s userId item).conversations.get v = if v = userId then some item else s.conversations.get v := Dict.get_set ..

theorem clearAll_conversation (userIds : List ℤ) :
    (userIds.foldl clear s).conversations.get v = if v ∈ userIds then none else s.conversations.get v := by
  induction userIds generalizing s with
  | nil => rfl
  | cons first rest ih =>
    rw [List.foldl_cons,ih,clear_conversation]
    by_cases same : v = first <;> simp [same]

theorem clearAll_secret (userIds : List ℤ) (key : ℤ × Str) :
    (userIds.foldl clear s).secrets.get key = if key.1 ∈ userIds then none else s.secrets.get key := by
  induction userIds generalizing s with
  | nil => rfl
  | cons first rest ih =>
    rw [List.foldl_cons,ih,clear_secret]
    by_cases same : key.1 = first <;> simp [same]

inductive Change (cfg : Config) (t : Clock) (call : Call σ δ) (v : ℤ) (s s' : Stores σ δ) : Prop
  | keep (conversation : s'.conversations.get v = s.conversations.get v)
      (secrets : ∀ name, s'.secrets.get (v,name) = s.secrets.get (v,name) ∨ s'.secrets.get (v,name) = none)
  | gone (conversation : s'.conversations.get v = none) (secrets : ∀ name, s'.secrets.get (v,name) = none)
  | fresh (state : σ) (data : δ) (called : call = .set v state data)
      (conversation : s'.conversations.get v = some ⟨s.created,state,t.first + cfg.timeout,data,0,[]⟩)
      (secrets : ∀ name, s'.secrets.get (v,name) = none)
  | put (name plaintext : Str) (tag : Option ℕ) (called : call = .put v name plaintext tag)
      (conversation : s'.conversations.get v = s.conversations.get v)
      (secret : s'.secrets.get (v,name) = some ⟨plaintext,t.first + cfg.timeout,tag⟩)
      (others : ∀ other, other ≠ name → s'.secrets.get (v,other) = s.secrets.get (v,other))
  | extended (old item : Conversation σ δ) (now : ℚ) (before : s.conversations.get v = some old)
      (after : s'.conversations.get v = some item) (same : item.identity = old.identity)
      (live : t.first < old.expiresAt ∨ call = .invalid v) (within : item.expiresAt ≤ now + cfg.timeout) (read : now ≤ t.third)
      (secrets : ∀ name, s'.secrets.get (v,name) = (s.secrets.get (v,name)).map (touched cfg now v (v,name)))
  | touched (called : call = .touch v) (conversation : s'.conversations.get v = s.conversations.get v)
      (secrets : ∀ name, s'.secrets.get (v,name) = (s.secrets.get (v,name)).map (touched cfg t.first v (v,name)))

namespace Change

variable {call : Call σ δ}

theorem unchanged : Change cfg t call v s s := .keep rfl fun _ => .inl rfl

theorem clearSecrets : Change cfg t call v s (clearSecrets s userId) := by
  refine .keep rfl fun name => ?_
  rw [clearSecrets_get]
  split_ifs
  · exact .inr rfl
  · exact .inl rfl

theorem dropSecret : Change cfg t call v s (dropSecret s userId name) := by
  refine .keep rfl fun name => ?_
  rw [dropSecret_get]
  split_ifs
  · exact .inr rfl
  · exact .inl rfl

theorem pruneSecrets (now : ℚ) : Change cfg t call v s (pruneSecrets s now) := by
  refine .keep rfl fun name => ?_
  rw [Conversations.pruneSecrets,Dict.get_filter]
  cases s.secrets.get (v,name) with
  | none => exact .inl rfl
  | some item =>
    rw [Option.filter_some]
    split_ifs
    · exact .inl rfl
    · exact .inr rfl

theorem clear : Change cfg t call v s (clear s userId) := by
  by_cases same : v = userId
  · refine .gone ?_ fun name => ?_
    · rw [clear_conversation,if_pos same]
    · rw [clear_secret,if_pos same]
  · refine .keep ?_ fun name => .inl ?_
    · rw [clear_conversation,if_neg same]
    · rw [clear_secret,if_neg same]

/-- Other users are not touched when a conversation is extended. -/
theorem extend {old item : Conversation σ δ} {now : ℚ} (before : s.conversations.get userId = some old)
    (same : item.identity = old.identity) (live : t.first < old.expiresAt ∨ call = .invalid userId)
    (within : item.expiresAt ≤ now + cfg.timeout) (read : now ≤ t.third) :
    Change cfg t call v s (Conversations.touch cfg (store s userId item) now userId) := by
  by_cases here : v = userId
  · subst here
    refine .extended old item now before ?_ same live within read fun name => ?_
    · rw [touch_conversations,store_conversation,if_pos rfl]
    · rw [touch_get,store_secrets]
  · refine .keep ?_ fun name => .inl ?_
    · rw [touch_conversations,store_conversation,if_neg here]
    · rw [touch_get,store_secrets]
      cases s.secrets.get (v,name) with
      | none => rfl
      | some item => simp [Conversations.touched,here]

theorem get : Change cfg t call v s (get s t userId).1 := by
  unfold Conversations.get
  split
  · exact unchanged
  · split_ifs
    · exact clear
    · exact unchanged

theorem transition [DecidableEq σ] (expected new : σ) : Change cfg t call v s (transition cfg s t userId expected new).1 := by
  unfold Conversations.transition
  split
  · exact unchanged
  · rename_i old found
    split_ifs with refused
    · exact clear
    · exact unchanged
    · rw [not_or,not_le] at refused
      exact extend found rfl (.inl refused.2) (add_le_add_left t.last _) le_rfl

theorem back : Change cfg t call v s (back cfg s t userId).1 := by
  unfold Conversations.back
  split
  · exact unchanged
  · rename_i old found
    split_ifs with expired
    · exact clear
    · split
      · exact unchanged
      · exact extend found rfl (.inl (not_le.mp expired)) (add_le_add_left t.last _) le_rfl

theorem invalid (called : call = .invalid userId) : Change cfg t call v s (invalid cfg s t userId).1 := by
  unfold Conversations.invalid
  split
  · exact unchanged
  · rename_i old found
    split_ifs
    · exact clear
    · exact extend found rfl (.inr called) (add_le_add_left t.later _) t.last

theorem set (state : σ) (data : δ) (called : call = .set userId state data) :
    Change cfg t call v s (set cfg s t userId state data).1 := by
  by_cases here : v = userId
  · subst here
    refine .fresh state data called ?_ fun name => ?_
    · exact Dict.get_set_self ..
    · exact (clearSecrets_get _).trans (if_pos rfl)
  · refine .keep ?_ fun name => .inl ?_
    · exact Dict.get_set_ne _ _ here
    · exact (clearSecrets_get _).trans (if_neg here)

theorem prune : Change cfg t call v s (prune s t).1 := by
  by_cases here : v ∈ (s.conversations.entries.filter fun entry => decide (entry.2.expiresAt ≤ t.first)).map (·.1)
  · refine .gone ?_ fun name => ?_
    · exact (clearAll_conversation _).trans (if_pos here)
    · rw [Conversations.prune,Conversations.pruneSecrets,Dict.get_filter,clearAll_secret,if_pos here]
      rfl
  · refine .keep ?_ fun name => ?_
    · exact (clearAll_conversation _).trans (if_neg here)
    · rw [Conversations.prune,Conversations.pruneSecrets,Dict.get_filter,clearAll_secret,if_neg here]
      cases s.secrets.get (v,name) with
      | none => exact .inl rfl
      | some item =>
        rw [Option.filter_some]
        split_ifs
        · exact .inl rfl
        · exact .inr rfl

end Change

/-- Every operation, to every user. -/
theorem perform_change [DecidableEq σ] (cfg : Config) (s : Stores σ δ) (t : Clock) (call : Call σ δ) (v : ℤ) :
    Change cfg t call v s (perform cfg s t call).1 := by
  cases call with
  | put userId name plaintext tag =>
    rw [perform,put]
    split
    · exact .unchanged
    · rename_i s' stored
      split_ifs at stored
      obtain rfl := Option.some.inj stored
      by_cases here : v = userId
      · subst here
        refine .put name plaintext tag rfl rfl (Dict.get_set_self ..) fun other apart => ?_
        have differ : (v,other) ≠ (v,name) := fun same => apart (Prod.mk.inj same).2
        rw [Dict.get_set_ne _ _ differ,Dict.get_pop,if_neg differ]
      · have differ (other : Str) : (v,other) ≠ (userId,name) := fun same => here (Prod.mk.inj same).1
        refine .keep rfl fun other => .inl ?_
        rw [Dict.get_set_ne _ _ (differ other),Dict.get_pop,if_neg (differ other)]
  | take userId name =>
    rw [perform,take]
    split
    · exact .unchanged
    · exact .dropSecret
  | readSecret userId name =>
    rw [perform,readSecret]
    split
    · exact .unchanged
    · split_ifs
      · exact .dropSecret
      · exact .unchanged
  | touch userId =>
    by_cases here : v = userId
    · subst here
      exact .touched rfl rfl fun name => touch_get ..
    · refine .keep rfl fun name => .inl ?_
      rw [perform,touch_get]
      cases s.secrets.get (v,name) with
      | none => rfl
      | some item => simp [touched,here]
  | clearSecrets userId => exact .clearSecrets
  | pruneSecrets => exact .pruneSecrets _
  | contains userId name => exact .unchanged
  | get userId => exact .get
  | set userId state data => exact .set state data rfl
  | transition userId expected new => exact .transition expected new
  | back userId => exact .back
  | invalid userId => exact .invalid rfl
  | clear userId => exact .clear
  | prune => exact .prune

end Rules

end BackupTelebot.Conversations
