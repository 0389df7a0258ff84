import BackupTelebot.StoreCalls

/-! Every stored secret has its conversation, and a conversation that has gone does not come back. -/
namespace BackupTelebot.Conversations

open PyJson PyDict EventLoop

section Owners

variable {σ δ : Type} {cfg : Config} {s s' s'' : Stores σ δ} {t : Clock} {call : Call σ δ} {userId v : ℤ}

structure Owned (s : Stores σ δ) : Prop where
  owned : ∀ v name secret, s.secrets.get (v,name) = some secret →
    ∃ item, s.conversations.get v = some item ∧ secret.conversation = some item.identity
  fresh : ∀ v item, s.conversations.get v = some item → item.identity < s.created
  distinct : ∀ u v item item', s.conversations.get u = some item → s.conversations.get v = some item' →
    item.identity = item'.identity → u = v

/-- A conversation of old stays with its user, or goes. -/
structure Grows (s s' : Stores σ δ) : Prop where
  created : s.created ≤ s'.created
  origin : ∀ v item, s'.conversations.get v = some item → item.identity < s.created →
    ∃ old, s.conversations.get v = some old ∧ item.identity = old.identity

theorem Grows.refl (s : Stores σ δ) : Grows s s := ⟨le_rfl,fun _ item stored _ => ⟨item,stored,rfl⟩⟩

theorem Grows.trans (first : Grows s s') (second : Grows s' s'') : Grows s s'' := by
  refine ⟨first.created.trans second.created,fun v item stored early => ?_⟩
  obtain ⟨middle,stored',same⟩ := second.origin v item stored (early.trans_le first.created)
  obtain ⟨old,stored'',same'⟩ := first.origin v middle stored' (same ▸ early)
  exact ⟨old,stored'',same.trans same'⟩

def Gone (s : Stores σ δ) (identity : ℕ) : Prop := ∀ v item, s.conversations.get v = some item → item.identity ≠ identity

theorem Grows.gone (grows : Grows s s') {identity : ℕ} (early : identity < s.created) (gone : Gone s identity) : Gone s' identity := by
  rintro v item stored rfl
  obtain ⟨old,stored',same⟩ := grows.origin v item stored early
  exact gone v old stored' same.symm

def Tagged (s : Stores σ δ) (call : Call σ δ) : Prop := ∀ v name plaintext tag, call = .put v name plaintext tag →
  ∃ item, s.conversations.get v = some item ∧ tag = some item.identity

theorem initial_owned : Owned (initial : Stores σ δ) where
  owned v name secret stored := by simp [initial] at stored
  fresh v item stored := by simp [initial] at stored
  distinct u v item item' stored := by simp [initial] at stored

/-- Nothing but a new conversation changes the count. -/
theorem perform_created [DecidableEq σ] (cfg : Config) (s : Stores σ δ) (t : Clock) (call : Call σ δ) :
    (∃ v state data, call = .set v state data) ∧ (perform cfg s t call).1.created = s.created + 1 ∨
      (∀ v state data, call ≠ .set v state data) ∧ (perform cfg s t call).1.created = s.created := by
  have all (userIds : List ℤ) (s : Stores σ δ) : (userIds.foldl clear s).created = s.created := by
    induction userIds generalizing s with
    | nil => rfl
    | cons first rest ih => exact ih _
  cases call with
  | set v state data => exact .inl ⟨⟨v,state,data,rfl⟩,rfl⟩
  | put v name plaintext tag =>
    refine .inr ⟨by simp,?_⟩
    rw [perform,put]
    by_cases refused : plaintext = [] ∨ encodes plaintext = false
    · rw [if_pos refused]
    · rw [if_neg refused]
  | take v name =>
    refine .inr ⟨by simp,?_⟩
    rw [perform,take]
    cases s.secrets.get (v,name) <;> rfl
  | readSecret v name =>
    refine .inr ⟨by simp,?_⟩
    rw [perform,readSecret]
    split
    · rfl
    · split_ifs <;> rfl
  | get v =>
    refine .inr ⟨by simp,?_⟩
    rw [perform,get]
    split
    · rfl
    · split_ifs <;> rfl
  | transition v expected new =>
    refine .inr ⟨by simp,?_⟩
    rw [perform,transition]
    split
    · rfl
    · split_ifs <;> rfl
  | back v =>
    refine .inr ⟨by simp,?_⟩
    rw [perform,back]
    split
    · rfl
    · split_ifs
      · rfl
      · split <;> rfl
  | invalid v =>
    refine .inr ⟨by simp,?_⟩
    rw [perform,invalid]
    split
    · rfl
    · split_ifs <;> rfl
  | prune => exact .inr ⟨by simp,all _ s⟩
  | touch v => exact .inr ⟨by simp,rfl⟩
  | clearSecrets v => exact .inr ⟨by simp,rfl⟩
  | pruneSecrets => exact .inr ⟨by simp,rfl⟩
  | contains v name => exact .inr ⟨by simp,rfl⟩
  | clear v => exact .inr ⟨by simp,rfl⟩

/-- A conversation that is stored after an operation was stored before, or is the new one. -/
theorem Change.origin (change : Change cfg t call v s s') {item : Conversation σ δ} (stored : s'.conversations.get v = some item) :
    (∃ old, s.conversations.get v = some old ∧ item.identity = old.identity) ∨
      (item.identity = s.created ∧ ∃ state data, call = .set v state data) := by
  cases change with
  | keep conversation => exact .inl ⟨item,conversation ▸ stored,rfl⟩
  | gone conversation => simp [conversation] at stored
  | fresh state data called conversation =>
    obtain rfl := Option.some.inj (conversation.symm.trans stored)
    exact .inr ⟨rfl,state,data,called⟩
  | put _ _ _ _ conversation => exact .inl ⟨item,conversation ▸ stored,rfl⟩
  | extended old item' _ before after same =>
    obtain rfl := Option.some.inj (after.symm.trans stored)
    exact .inl ⟨old,before,same⟩
  | touched _ conversation => exact .inl ⟨item,conversation ▸ stored,rfl⟩

/-- A secret that is stored after an operation has its conversation. -/
theorem Change.owner (change : Change cfg t call v s s') (owned : Owned s) (tagged : Tagged s call) {name : Str} {secret : Secret}
    (stored : s'.secrets.get (v,name) = some secret) :
    ∃ item, s'.conversations.get v = some item ∧ secret.conversation = some item.identity := by
  cases change with
  | keep conversation secrets =>
    rcases secrets name with same | none_
    · rw [conversation]
      exact owned.owned v name secret (same ▸ stored)
    · simp [none_] at stored
  | gone _ secrets => simp [secrets] at stored
  | fresh _ _ _ _ secrets => simp [secrets] at stored
  | put other plaintext tag called conversation new others =>
    rw [conversation]
    by_cases same : name = other
    · subst same
      obtain rfl := Option.some.inj (new.symm.trans stored)
      exact tagged v name plaintext tag called
    · exact owned.owned v name secret (others name same ▸ stored)
  | extended old item now before after same _ _ _ secrets =>
    obtain ⟨secret',stored',rfl⟩ := Option.map_eq_some_iff.mp ((secrets name).symm.trans stored)
    obtain ⟨item',found,tag⟩ := owned.owned v name secret' stored'
    obtain rfl := Option.some.inj (before.symm.trans found)
    refine ⟨item,after,?_⟩
    simpa [Conversations.touched,same] using tag
  | touched _ conversation secrets =>
    obtain ⟨secret',stored',rfl⟩ := Option.map_eq_some_iff.mp ((secrets name).symm.trans stored)
    rw [conversation]
    simpa [Conversations.touched] using owned.owned v name secret' stored'

theorem Owned.perform [DecidableEq σ] (owned : Owned s) (cfg : Config) (t : Clock) (call : Call σ δ) (tagged : Tagged s call) :
    Owned (perform cfg s t call).1 ∧ Grows s (perform cfg s t call).1 := by
  have change (v : ℤ) := perform_change cfg s t call v
  have created := perform_created cfg s t call
  refine ⟨⟨fun v name secret stored => (change v).owner owned tagged stored,?_,?_⟩,?_,?_⟩
  · intro v item stored
    rcases (change v).origin stored with ⟨old,before,same⟩ | ⟨new,state,data,called⟩
    · have := owned.fresh v old before
      omega
    · rcases created with ⟨_,grown⟩ | ⟨never,_⟩
      · omega
      · exact absurd called (never v state data)
  · intro u v item item' stored stored' same
    rcases (change u).origin stored with ⟨old,before,identity⟩ | ⟨new,state,data,called⟩ <;>
      rcases (change v).origin stored' with ⟨old',before',identity'⟩ | ⟨new',state',data',called'⟩
    · exact owned.distinct u v old old' before before' (by omega)
    · have := owned.fresh u old before
      omega
    · have := owned.fresh v old' before'
      omega
    · rw [called] at called'
      cases called'
      rfl
  · rcases created with ⟨_,grown⟩ | ⟨_,kept⟩ <;> omega
  · intro v item stored early
    rcases (change v).origin stored with old | ⟨new,-⟩
    · exact old
    · omega

/-- A conversation that its user has no longer is gone. -/
theorem gone_of_left {item : Conversation σ δ} (owned : Owned s) (grows : Grows s s') (stored : s.conversations.get v = some item)
    (left : ∀ item', s'.conversations.get v = some item' → item'.identity ≠ item.identity) : Gone s' item.identity := by
  intro u item' stored' same
  obtain ⟨old,before,same'⟩ := grows.origin u item' stored' (same ▸ owned.fresh v item stored)
  obtain rfl := owned.distinct u v old item before stored (same'.symm.trans same)
  exact left item' stored' same

theorem tagged_of_not_put (other : ∀ v name plaintext tag, call ≠ .put v name plaintext tag) : Tagged s call :=
  fun v name plaintext tag called => absurd called (other v name plaintext tag)

/-- One user after the other. -/
theorem Owned.clearAll (owned : Owned s) (userIds : List ℤ) : Owned (userIds.foldl clear s) ∧ Grows s (userIds.foldl clear s) := by
  classical
  induction userIds generalizing s with
  | nil => exact ⟨owned,Grows.refl s⟩
  | cons userId rest ih =>
    obtain ⟨first,grows⟩ := owned.perform ⟨0,0⟩ (.at 0) (.clear userId) (tagged_of_not_put (by simp))
    obtain ⟨last,grows'⟩ := ih first
    exact ⟨last,grows.trans grows'⟩

end Owners

/-! Others run between two calls, not within one. -/

section Calls

variable {σ δ ω α : Type} {w w' : World σ δ} {cfg : Config} {userId : ℤ} {name : Str} {outer : List Lock}

def Custody (w : World σ δ) : Prop := Owned w.stores

def Follows (w w' : World σ δ) : Prop := Grows w.stores w'.stores

theorem inner_untimed {f : Stores σ δ → Stores σ δ × α} : (untimed f : Code σ δ ω α).Inner outer [] := Coroutine.inner_perform
theorem inner_timed {f : ℚ → Stores σ δ → Stores σ δ × α} : (timed f : Code σ δ ω α).Inner outer [] := Coroutine.inner_perform

open Coroutine

section

variable [DecidableEq σ] {Q : α → World σ δ → Prop}

/-- A call that is one operation of the stores. -/
theorem keeps_call (cfg : Config) {lock : Lock} {body : Code σ δ ω α} (custody : Custody w) (call : Call σ δ) (tagged : Tagged w.stores call)
    (inner : body.Inner [lock] []) (turns : ∀ value w', body.Turn w value w' → ∃ t, (perform cfg w.stores t call).1 = w'.stores)
    (rest : ∀ value w', Custody w' → body.Turn w value w' → Q value w') : (withLock lock body).Keeps Custody Follows w Q := by
  refine Keeps.withLock inner fun value w' turn => ?_
  obtain ⟨t,same⟩ := turns value w' turn
  obtain ⟨kept,grows⟩ := Owned.perform custody cfg t call tagged
  rw [same] at kept grows
  exact ⟨kept,grows,rest value w' kept turn⟩

end

namespace SecretStore

variable [DecidableEq σ]

theorem keeps_put {plaintext : Str} {item : Conversation σ δ} {Q : Bool → World σ δ → Prop} (custody : Custody w)
    (stored : w.stores.conversations.get userId = some item) (rest : ∀ value w', Custody w' → Q value w') :
    (put cfg userId name plaintext (some item.identity) : Code σ δ ω Bool).Keeps Custody Follows w Q := by
  unfold put
  by_cases refused : plaintext = [] ∨ encodes plaintext = false
  · rw [if_pos refused]
    exact .pure (rest false w custody)
  · rw [if_neg refused]
    refine keeps_call cfg custody (.put userId name plaintext (some item.identity)) ?_ inner_timed ?_ fun value w' kept _ =>
      rest value w' kept
    · intro v name plaintext tag called
      cases called
      exact ⟨item,stored,rfl⟩
    · intro value w' turn
      obtain ⟨now,-,-,rfl⟩ := turn_timed turn
      refine ⟨.at now,?_⟩
      rw [perform,Conversations.put,if_neg refused]
      rfl

theorem keeps_take {Q : Option Str → World σ δ → Prop} (custody : Custody w) (rest : ∀ value w', Custody w' → Q value w') :
    (take userId name : Code σ δ ω _).Keeps Custody Follows w Q := by
  refine keeps_call ⟨0,0⟩ custody (.take userId name) (tagged_of_not_put (by simp)) inner_timed ?_ fun value w' kept _ =>
    rest value w' kept
  intro value w' turn
  obtain ⟨now,-,-,rfl⟩ := turn_timed turn
  exact ⟨.at now,rfl⟩

theorem keeps_read {Q : Option Str → World σ δ → Prop} (custody : Custody w) (rest : ∀ value w', Custody w' → Q value w') :
    (read userId name : Code σ δ ω _).Keeps Custody Follows w Q := by
  refine keeps_call ⟨0,0⟩ custody (.readSecret userId name) (tagged_of_not_put (by simp)) inner_timed ?_ fun value w' kept _ =>
    rest value w' kept
  intro value w' turn
  obtain ⟨now,-,-,rfl⟩ := turn_timed turn
  exact ⟨.at now,rfl⟩

theorem keeps_touch {Q : Unit → World σ δ → Prop} (custody : Custody w) (rest : ∀ value w', Custody w' → Q value w') :
    (touch cfg userId : Code σ δ ω _).Keeps Custody Follows w Q := by
  refine keeps_call cfg custody (.touch userId) (tagged_of_not_put (by simp)) inner_timed ?_ fun value w' kept _ =>
    rest value w' kept
  intro value w' turn
  obtain ⟨now,-,-,rfl⟩ := turn_timed turn
  exact ⟨.at now,rfl⟩

theorem keeps_clear {Q : Unit → World σ δ → Prop} (custody : Custody w) (rest : ∀ value w', Custody w' → Q value w') :
    (clear userId : Code σ δ ω _).Keeps Custody Follows w Q := by
  refine keeps_call ⟨0,0⟩ custody (.clearSecrets userId) (tagged_of_not_put (by simp)) inner_untimed ?_ fun value w' kept _ =>
    rest value w' kept
  intro value w' turn
  obtain ⟨-,rfl⟩ := turn_untimed turn
  exact ⟨.at 0,rfl⟩

theorem keeps_prune {Q : Unit → World σ δ → Prop} (custody : Custody w) (rest : ∀ value w', Custody w' → Q value w') :
    (prune : Code σ δ ω _).Keeps Custody Follows w Q := by
  refine keeps_call ⟨0,0⟩ custody .pruneSecrets (tagged_of_not_put (by simp)) inner_timed ?_ fun value w' kept _ =>
    rest value w' kept
  intro value w' turn
  obtain ⟨now,-,-,rfl⟩ := turn_timed turn
  exact ⟨.at now,rfl⟩

theorem keeps_contains {name : Option Str} {Q : Bool → World σ δ → Prop} (custody : Custody w)
    (rest : ∀ value w', Custody w' → w'.stores = w.stores → Q value w') :
    (contains userId name : Code σ δ ω _).Keeps Custody Follows w Q := by
  refine keeps_call ⟨0,0⟩ custody (.contains userId name) (tagged_of_not_put (by simp)) inner_timed ?_ ?_
  · intro value w' turn
    obtain ⟨now,-,-,rfl⟩ := turn_timed turn
    exact ⟨.at now,rfl⟩
  · intro value w' kept turn
    obtain ⟨now,-,-,rfl⟩ := turn_timed turn
    exact rest value _ kept rfl

end SecretStore

namespace FSMStore

theorem inner_clearSecrets : (SecretStore.clear userId : Code σ δ ω Unit).Inner [.conversations] [] :=
  inner_withLock (by decide) inner_untimed

theorem inner_touchSecrets : (SecretStore.touch cfg userId : Code σ δ ω Unit).Inner [.conversations] [] :=
  inner_withLock (by decide) inner_timed

theorem inner_remove : (remove userId : Code σ δ ω Unit).Inner [.conversations] [] :=
  inner_bind inner_untimed fun _ => inner_clearSecrets

theorem inner_removeAll (userIds : List ℤ) : (removeAll userIds : Code σ δ ω Unit).Inner [.conversations] [] := by
  induction userIds with
  | nil => exact inner_pure
  | cons userId rest ih => exact inner_bind inner_remove fun _ => ih

variable [DecidableEq σ]

theorem keeps_get {Q : Option (Conversation σ δ) → World σ δ → Prop} (custody : Custody w)
    (rest : ∀ result w', Custody w' → (∀ item, result = some item → w'.stores.conversations.get userId = some item) → Q result w') :
    (get userId : Code σ δ ω _).Keeps Custody Follows w Q := by
  refine keeps_call ⟨0,0⟩ custody (.get userId) (tagged_of_not_put (by simp)) ?_ ?_ ?_
  · refine inner_bind inner_untimed fun found => ?_
    cases found with
    | none => exact inner_pure
    | some item =>
      refine inner_bind inner_timed fun now => ?_
      by_cases expired : item.expiresAt ≤ now
      · rw [if_pos expired]
        exact inner_bind inner_remove fun _ => inner_pure
      · rw [if_neg expired]
        exact inner_pure
  · intro result w' turn
    obtain ⟨t,same⟩ := turn_get (turn_withLock.mpr turn)
    exact ⟨t,congrArg Prod.fst same⟩
  · intro result w' kept turn
    obtain ⟨t,same⟩ := turn_get (turn_withLock.mpr turn)
    refine rest result w' kept ?_
    rintro item rfl
    unfold Conversations.get at same
    split at same
    · simp at same
    · rename_i found stored
      split_ifs at same
      · simp at same
      · obtain ⟨left,right⟩ := Prod.mk.inj same
        rw [← left,stored,right]

theorem keeps_set {state : σ} {data : δ} {Q : Conversation σ δ → World σ δ → Prop} (custody : Custody w)
    (rest : ∀ item w', Custody w' → Q item w') : (set cfg userId state data : Code σ δ ω _).Keeps Custody Follows w Q := by
  refine keeps_call cfg custody (.set userId state data) (tagged_of_not_put (by simp))
    (inner_bind inner_clearSecrets fun _ => inner_timed) ?_ fun value w' kept _ => rest value w' kept
  intro item w' turn
  obtain ⟨t,same⟩ := turn_set (turn_withLock.mpr turn)
  exact ⟨t,congrArg Prod.fst same⟩

theorem keeps_transition {expected new : σ} {Q : Option (Conversation σ δ) → World σ δ → Prop} (custody : Custody w)
    (rest : ∀ result w', Custody w' → Q result w') :
    (transition cfg userId expected new : Code σ δ ω _).Keeps Custody Follows w Q := by
  refine keeps_call cfg custody (.transition userId expected new) (tagged_of_not_put (by simp)) ?_ ?_ fun value w' kept _ =>
    rest value w' kept
  · refine inner_bind inner_untimed fun found => ?_
    cases found with
    | none => exact inner_pure
    | some item =>
      refine inner_bind inner_timed fun now => ?_
      by_cases refused : item.state ≠ expected ∨ item.expiresAt ≤ now
      · rw [if_pos refused]
        refine inner_bind inner_timed fun now => ?_
        by_cases expired : item.expiresAt ≤ now
        · rw [if_pos expired]
          exact inner_bind inner_remove fun _ => inner_pure
        · rw [if_neg expired]
          exact inner_pure
      · rw [if_neg refused]
        exact inner_bind inner_timed fun _ => inner_bind inner_touchSecrets fun _ => inner_pure
  · intro result w' turn
    obtain ⟨t,same⟩ := turn_transition (turn_withLock.mpr turn)
    exact ⟨t,congrArg Prod.fst same⟩

theorem keeps_back {Q : Option (Conversation σ δ) → World σ δ → Prop} (custody : Custody w)
    (rest : ∀ result w', Custody w' → Q result w') : (back cfg userId : Code σ δ ω _).Keeps Custody Follows w Q := by
  refine keeps_call cfg custody (.back userId) (tagged_of_not_put (by simp)) ?_ ?_ fun value w' kept _ => rest value w' kept
  · refine inner_bind inner_untimed fun found => ?_
    cases found with
    | none => exact inner_pure
    | some item =>
      refine inner_bind inner_timed fun now => ?_
      by_cases expired : item.expiresAt ≤ now
      · rw [if_pos expired]
        exact inner_bind inner_remove fun _ => inner_pure
      · rw [if_neg expired]
        cases item.history.getLast? with
        | none => exact inner_pure
        | some state => exact inner_bind inner_timed fun _ => inner_bind inner_touchSecrets fun _ => inner_pure
  · intro result w' turn
    obtain ⟨t,same⟩ := turn_back (turn_withLock.mpr turn)
    exact ⟨t,congrArg Prod.fst same⟩

theorem keeps_invalid {Q : Bool → World σ δ → Prop} (custody : Custody w) (rest : ∀ result w', Custody w' → Q result w') :
    (invalid cfg userId : Code σ δ ω _).Keeps Custody Follows w Q := by
  refine keeps_call cfg custody (.invalid userId) (tagged_of_not_put (by simp)) ?_ ?_ fun value w' kept _ =>
    rest value w' kept
  · refine inner_bind inner_untimed fun found => ?_
    cases found with
    | none => exact inner_pure
    | some item =>
      refine inner_bind inner_timed fun item => ?_
      by_cases many : cfg.invalidLimit ≤ item.invalidInputs
      · rw [if_pos many]
        exact inner_bind inner_remove fun _ => inner_pure
      · rw [if_neg many]
        exact inner_bind inner_touchSecrets fun _ => inner_pure
  · intro result w' turn
    obtain ⟨t,same⟩ := turn_invalid (turn_withLock.mpr turn)
    exact ⟨t,congrArg Prod.fst same⟩

theorem keeps_clear {Q : Unit → World σ δ → Prop} (custody : Custody w) (rest : ∀ value w', Custody w' → Q value w') :
    (clear userId : Code σ δ ω _).Keeps Custody Follows w Q := by
  refine keeps_call ⟨0,0⟩ custody (.clear userId) (tagged_of_not_put (by simp)) inner_remove ?_ fun value w' kept _ =>
    rest value w' kept
  intro value w' turn
  exact ⟨.at 0,(turn_clear (turn_withLock.mpr turn)).symm⟩

/-- The conversations first, then what is left of the secrets. -/
theorem keeps_prune {Q : Unit → World σ δ → Prop} (custody : Custody w) (rest : ∀ value w', Custody w' → Q value w') :
    (prune : Code σ δ ω _).Keeps Custody Follows w Q := by
  refine Keeps.bind (Keeps.withLock ?_ ?_)
  · exact inner_bind inner_timed fun _ => inner_bind inner_untimed fun userIds => inner_removeAll userIds
  · intro value w' turn
    obtain ⟨now,middle,read,later⟩ := turn_bind.mp turn
    obtain ⟨-,rfl⟩ := turn_monotonic read
    obtain ⟨userIds,after,listed,removed⟩ := turn_bind.mp later
    obtain ⟨-,rfl⟩ := turn_untimed listed
    obtain rfl := turn_removeAll removed
    obtain ⟨kept,grows⟩ := Owned.clearAll custody userIds
    exact ⟨kept,grows,SecretStore.keeps_prune kept rest⟩

omit [DecidableEq σ] in
theorem keeps_clearAll {Q : Unit → World σ δ → Prop} (rest : ∀ value w', Custody w' → Q value w') :
    (clearAll : Code σ δ ω _).Keeps Custody Follows w Q := by
  refine Keeps.withLock (inner_bind inner_untimed fun _ => inner_withLock (by decide) inner_untimed) fun value w' turn => ?_
  obtain ⟨_,middle,emptied,later⟩ := turn_bind.mp turn
  obtain ⟨-,rfl⟩ := turn_untimed emptied
  obtain ⟨-,rfl⟩ := turn_untimed (turn_withLock.mp later)
  have kept : Custody (⟨{ w.stores with conversations := .empty, secrets := .empty },w.now⟩ : World σ δ) := by
    constructor <;> intro v <;> simp
  refine ⟨kept,⟨le_rfl,fun v item stored _ => ?_⟩,rest value _ kept⟩
  simp at stored

end FSMStore

end Calls

end BackupTelebot.Conversations
