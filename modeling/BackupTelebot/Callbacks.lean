import BackupTelebot.JsonValue
import BackupTelebot.PythonDict
import Mathlib.Algebra.Order.Ring.Rat

/-! Callback capabilities: what the buttons of a message carry back. Nothing is assumed of the
bytes that come in, nor of the clock. -/
namespace BackupTelebot.Callbacks

open PyJson PyDict

structure CallbackAction where
  actorId : ℤ
  action : Str
  targetId : ℤ
  expiresAt : ℚ
  deriving DecidableEq

inductive Result where
  | accepted
  | expired
  | invalid
  deriving DecidableEq

abbrev Items := Dict Str CallbackAction

/-- The bytes of a token, which is ASCII text. -/
def capability (token : Str) : List ℕ := str "v1:" ++ token

/-- `data.decode("ascii").split(":", 1)`, if it has two parts. -/
def splitPrefix (data : List ℕ) : Option (Str × Str) :=
  if data.all (· < 128) then
    match data.dropWhile (· ≠ 58) with
    | [] => none
    | _ :: token => some (data.takeWhile (· ≠ 58),token)
  else none

def parse (data : List ℕ) : Option Str :=
  match splitPrefix data with
  | some (start,token) => if start = str "v1" then some token else none
  | none => none

section Store

variable (items : Items)

/-- The token is the one that was generated. -/
def issue (timeoutSeconds : ℚ) (now : ℚ) (actorId : ℤ) (action : Str) (targetId : ℤ) (token : Str) : Items × CallbackAction :=
  let item : CallbackAction := ⟨actorId,action,targetId,now + timeoutSeconds⟩
  ((items.filter fun _ item => decide (now < item.expiresAt)).set token item,item)

def resolveDetailed (now : ℚ) (actorId : ℤ) (data : List ℕ) : Items × Option CallbackAction × Result :=
  match parse data with
  | none => (items,none,.invalid)
  | some token =>
    match items.get token with
    | none => (items,none,.invalid)
    | some item =>
      if item.actorId ≠ actorId then (items,none,.invalid)
      else if item.expiresAt ≤ now then (items.pop token,some item,.expired)
      else (items.pop token,some item,.accepted)

def pruneExpired (now : ℚ) : Items × ℕ :=
  let kept := items.filter fun _ item => decide (now < item.expiresAt)
  (kept,items.size - kept.size)

end Store

inductive Call where
  | issue (actorId : ℤ) (action : Str) (targetId : ℤ) (token : Str)
  | resolveDetailed (actorId : ℤ) (data : List ℕ)
  | pruneExpired
  | clearAll

inductive Outcome where
  | issued (token : Str) (item : CallbackAction)
  | resolved (now : ℚ) (actorId : ℤ) (data : List ℕ) (item : Option CallbackAction) (result : Result)
  | pruned (count : ℕ)
  | cleared
  deriving DecidableEq

def perform (timeoutSeconds : ℚ) (items : Items) (now : ℚ) : Call → Items × Outcome
  | .issue actorId action targetId token =>
      let (items,item) := issue items timeoutSeconds now actorId action targetId token
      (items,.issued token item)
  | .resolveDetailed actorId data =>
      let (items,item,result) := resolveDetailed items now actorId data
      (items,.resolved now actorId data item result)
  | .pruneExpired =>
      let (items,count) := pruneExpired items now
      (items,.pruned count)
  | .clearAll => (.empty,.cleared)

/-- The outcomes of a sequence of calls of any users, each with its reading of the clock. -/
def outcomes (timeoutSeconds : ℚ) : Items → List (ℚ × Call) → List Outcome
  | _, [] => []
  | items, (now,call) :: rest =>
      (perform timeoutSeconds items now call).2 :: outcomes timeoutSeconds (perform timeoutSeconds items now call).1 rest

def Call.token : Call → Option Str
  | .issue _ _ _ token => some token
  | _ => none

def tokens (calls : List (ℚ × Call)) : List Str := calls.filterMap fun call => call.2.token

theorem tokens_cons (now : ℚ) (call : Call) (rest : List (ℚ × Call)) :
    tokens ((now,call) :: rest) = call.token.toList ++ tokens rest := by
  cases call <;> rfl

def Accepts (token : Str) (actorId : ℤ) (item : CallbackAction) (now : ℚ) (outcome : Outcome) : Prop :=
  ∃ data, parse data = some token ∧ outcome = .resolved now actorId data (some item) .accepted

/-- A token is accepted at most once, for its actor, in its time, and with what it was issued for. -/
structure Safe (log : List Outcome) : Prop where
  once : log.Pairwise fun first second => ∀ token actorId actorId' item item' now now',
    Accepts token actorId item now first → ¬Accepts token actorId' item' now' second
  issued : ∀ before outcome after token actorId item now, log = before ++ outcome :: after →
    Accepts token actorId item now outcome → .issued token item ∈ before ∧ item.actorId = actorId ∧ now < item.expiresAt

/-- Whatever is stored was issued and has not been accepted, and only issued tokens were. -/
structure Known (items : Items) (log : List Outcome) : Prop where
  stored : ∀ token item, items.get token = some item → .issued token item ∈ log
  unused : ∀ token item, items.get token = some item → ∀ outcome ∈ log, ∀ actorId item' now, ¬Accepts token actorId item' now outcome
  origin : ∀ token actorId item now, ∀ outcome ∈ log, Accepts token actorId item now outcome → .issued token item ∈ log
  safe : Safe log

namespace Known

variable {timeoutSeconds : ℚ} {items items' : Items} {log : List Outcome}

theorem initial : Known .empty [] where
  stored token item found := by simp at found
  unused token item found := by simp at found
  origin token actorId item now outcome member := by simp at member
  safe := ⟨.nil,fun before outcome after token actorId item now split_ => by simp at split_⟩

/-- An outcome may follow if an acceptance in it is the first one of an issued token. -/
theorem safe_push (k : Known items log) {outcome : Outcome}
    (accepts : ∀ token actorId item now, Accepts token actorId item now outcome →
      items.get token = some item ∧ item.actorId = actorId ∧ now < item.expiresAt) : Safe (log ++ [outcome]) where
  once := by
    rw [List.pairwise_append]
    refine ⟨k.safe.once,by simp,?_⟩
    intro earlier member last same token actorId actorId' item item' now now' first second
    rw [List.mem_singleton.mp same] at second
    exact k.unused token item' (accepts _ _ _ _ second).1 earlier member _ _ _ first
  issued before here after token actorId item now split_ accepted := by
    rcases List.eq_nil_or_concat after with rfl | ⟨front,last,rfl⟩
    · obtain ⟨rfl,same⟩ := List.append_inj' split_ rfl
      obtain rfl := List.singleton_inj.mp same
      obtain ⟨found,actor,time⟩ := accepts _ _ _ _ accepted
      exact ⟨k.stored token item found,actor,time⟩
    · have front_ : log ++ [outcome] = (before ++ here :: front) ++ [last] := by
        rw [split_]
        simp
      exact k.safe.issued before here front token actorId item now (List.append_inj' front_ rfl).1 accepted

/-- A call that accepts nothing and adds nothing to the store. -/
theorem quiet (k : Known items log) {outcome : Outcome} (kept : ∀ token item, items'.get token = some item → items.get token = some item)
    (silent : ∀ token actorId item now, ¬Accepts token actorId item now outcome) : Known items' (log ++ [outcome]) where
  stored token item found := List.mem_append_left _ (k.stored token item (kept token item found))
  unused token item found other member := by
    rcases List.mem_append.mp member with earlier | last
    · exact k.unused token item (kept token item found) other earlier
    · rw [List.mem_singleton.mp last]
      exact fun actorId item' now => silent token actorId item' now
  origin token actorId item now other member accepted := by
    rcases List.mem_append.mp member with earlier | last
    · exact List.mem_append_left _ (k.origin token actorId item now other earlier accepted)
    · exact absurd (List.mem_singleton.mp last ▸ accepted) (silent token actorId item now)
  safe := k.safe_push fun token actorId item now accepted => absurd accepted (silent token actorId item now)

theorem issue (k : Known items log) {token : Str} (fresh : ∀ item, .issued token item ∉ log) (now : ℚ) (actorId : ℤ)
    (action : Str) (targetId : ℤ) :
    Known (Callbacks.issue items timeoutSeconds now actorId action targetId token).1
      (log ++ [.issued token (Callbacks.issue items timeoutSeconds now actorId action targetId token).2]) := by
  have silent (token' : Str) (actorId' : ℤ) (item' item : CallbackAction) (now' : ℚ) :
      ¬Accepts token' actorId' item' now' (.issued token item) := by
    rintro ⟨data,_,same⟩
    simp at same
  have cases_ {other : Str} {item : CallbackAction}
      (found : (Callbacks.issue items timeoutSeconds now actorId action targetId token).1.get other = some item) :
      other = token ∧ item = (Callbacks.issue items timeoutSeconds now actorId action targetId token).2 ∨
        items.get other = some item := by
    rw [Callbacks.issue,Dict.get_set] at found
    split_ifs at found with same
    · exact .inl ⟨same,(Option.some.inj found).symm⟩
    · rw [Dict.get_filter] at found
      exact .inr (Option.filter_eq_some_iff.mp found).1
  constructor
  · intro other item found
    rcases cases_ found with ⟨rfl,rfl⟩ | old
    · simp
    · exact List.mem_append_left _ (k.stored other item old)
  · intro other item found outcome member actorId' item' now' accepted
    rcases List.mem_append.mp member with earlier | last
    · rcases cases_ found with ⟨rfl,-⟩ | old
      · exact fresh item' (k.origin _ _ _ _ outcome earlier accepted)
      · exact k.unused other item old outcome earlier _ _ _ accepted
    · exact silent _ _ _ _ _ (List.mem_singleton.mp last ▸ accepted)
  · intro other actorId' item now' outcome member accepted
    rcases List.mem_append.mp member with earlier | last
    · exact List.mem_append_left _ (k.origin _ _ _ _ outcome earlier accepted)
    · exact absurd (List.mem_singleton.mp last ▸ accepted) (silent _ _ _ _ _)
  · exact k.safe_push fun other actorId' item now' accepted => absurd accepted (silent _ _ _ _ _)

theorem accept (k : Known items log) {token : Str} {item : CallbackAction} {now : ℚ} {actorId : ℤ} {data : List ℕ}
    (named : parse data = some token) (found : items.get token = some item) (actor : item.actorId = actorId)
    (time : now < item.expiresAt) :
    Known (items.pop token) (log ++ [.resolved now actorId data (some item) .accepted]) := by
  have kept {other : Str} {item' : CallbackAction} (found : (items.pop token).get other = some item') :
      other ≠ token ∧ items.get other = some item' := by
    rw [Dict.get_pop] at found
    split_ifs at found with same
    exact ⟨same,found⟩
  have only {other : Str} {actorId' : ℤ} {item' : CallbackAction} {now' : ℚ}
      (accepted : Accepts other actorId' item' now' (.resolved now actorId data (some item) .accepted)) :
      other = token ∧ actorId' = actorId ∧ item' = item ∧ now' = now := by
    obtain ⟨data',named',same⟩ := accepted
    simp only [Outcome.resolved.injEq,Option.some.injEq,and_true] at same
    obtain ⟨rfl,rfl,rfl,rfl⟩ := same
    exact ⟨Option.some.inj (named'.symm.trans named),rfl,rfl,rfl⟩
  constructor
  · intro other item' found'
    exact List.mem_append_left _ (k.stored other item' (kept found').2)
  · intro other item' found' outcome member actorId' item'' now' accepted
    rcases List.mem_append.mp member with earlier | last
    · exact k.unused other item' (kept found').2 outcome earlier _ _ _ accepted
    · exact (kept found').1 (only (List.mem_singleton.mp last ▸ accepted)).1
  · intro other actorId' item' now' outcome member accepted
    rcases List.mem_append.mp member with earlier | last
    · exact List.mem_append_left _ (k.origin _ _ _ _ outcome earlier accepted)
    · obtain ⟨rfl,-,rfl,-⟩ := only (List.mem_singleton.mp last ▸ accepted)
      exact List.mem_append_left _ (k.stored _ _ found)
  · apply k.safe_push
    intro other actorId' item' now' accepted
    obtain ⟨rfl,rfl,rfl,rfl⟩ := only accepted
    exact ⟨found,actor,time⟩

/-- A resolved button: the store loses the token that it names, or stays as it is. -/
theorem resolveDetailed (k : Known items log) (now : ℚ) (actorId : ℤ) (data : List ℕ) :
    Known (Callbacks.resolveDetailed items now actorId data).1
      (log ++ [.resolved now actorId data (Callbacks.resolveDetailed items now actorId data).2.1
        (Callbacks.resolveDetailed items now actorId data).2.2]) := by
  have refused {item : Option CallbackAction} {result : Result} (not : result ≠ .accepted) (token : Str) (actorId' : ℤ)
      (item' : CallbackAction) (now' : ℚ) : ¬Accepts token actorId' item' now' (.resolved now actorId data item result) := by
    rintro ⟨data',_,same⟩
    simp only [Outcome.resolved.injEq] at same
    exact not same.2.2.2.2
  unfold Callbacks.resolveDetailed
  cases named : parse data with
  | none => exact k.quiet (fun _ _ found => found) (refused (by simp))
  | some token =>
    cases found : items.get token with
    | none =>
      simp only [found]
      exact k.quiet (fun _ _ found => found) (refused (by simp))
    | some item =>
      simp only [found]
      split_ifs with other late
      · exact k.quiet (fun _ _ found => found) (refused (by simp))
      · apply k.quiet _ (refused (by simp))
        intro token' item' found'
        rw [Dict.get_pop] at found'
        split_ifs at found'
        exact found'
      · exact k.accept named found (not_not.mp other) (not_le.mp late)

theorem perform (k : Known items log) (now : ℚ) (call : Call) (fresh : ∀ token ∈ call.token, ∀ item, .issued token item ∉ log) :
    Known (Callbacks.perform timeoutSeconds items now call).1 (log ++ [(Callbacks.perform timeoutSeconds items now call).2]) := by
  cases call with
  | issue actorId action targetId token => exact k.issue (fresh token rfl) now actorId action targetId
  | resolveDetailed actorId data => exact k.resolveDetailed now actorId data
  | pruneExpired =>
    apply k.quiet
    · intro token item found
      rw [Callbacks.perform,Callbacks.pruneExpired,Dict.get_filter] at found
      exact (Option.filter_eq_some_iff.mp found).1
    · rintro token actorId item now' ⟨data,_,same⟩
      simp [Callbacks.perform] at same
  | clearAll =>
    apply k.quiet
    · intro token item found
      simp [Callbacks.perform] at found
    · rintro token actorId item now' ⟨data,_,same⟩
      simp [Callbacks.perform] at same

/-- Tokens that are distinct are all new when they are issued. -/
theorem outcomes (k : Known items log) {calls : List (ℚ × Call)} (distinct : (tokens calls).Nodup)
    (fresh : ∀ token ∈ tokens calls, ∀ item, .issued token item ∉ log) :
    Safe (log ++ Callbacks.outcomes timeoutSeconds items calls) := by
  induction calls generalizing items log with
  | nil => simpa [Callbacks.outcomes] using k.safe
  | cons call rest ih =>
    obtain ⟨now,call⟩ := call
    rw [tokens_cons] at distinct fresh
    have parts := List.nodup_append.mp distinct
    have next : Known (Callbacks.perform timeoutSeconds items now call).1
        (log ++ [(Callbacks.perform timeoutSeconds items now call).2]) :=
      k.perform now call fun token issued => fresh token (List.mem_append_left _ (Option.mem_toList.mpr issued))
    have whole := ih next parts.2.1 (by
      intro token member item listed
      rcases List.mem_append.mp listed with earlier | last
      · exact fresh token (List.mem_append_right _ member) item earlier
      · cases call with
        | issue actorId action targetId token' =>
          have same := List.mem_singleton.mp last
          simp only [Callbacks.perform,Outcome.issued.injEq] at same
          exact parts.2.2 token' (by simp [Call.token]) token member same.1.symm
        | resolveDetailed actorId data => simp [Callbacks.perform] at last
        | pruneExpired => simp [Callbacks.perform] at last
        | clearAll => simp [Callbacks.perform] at last)
    rwa [List.append_assoc] at whole

end Known

/-- What is said to be issued is what a call asked for. -/
theorem issued_call {timeoutSeconds : ℚ} {items : Items} {calls : List (ℚ × Call)} {token : Str} {item : CallbackAction}
    (issued : .issued token item ∈ outcomes timeoutSeconds items calls) :
    ∃ now actorId action targetId, (now,.issue actorId action targetId token) ∈ calls ∧
      item = ⟨actorId,action,targetId,now + timeoutSeconds⟩ := by
  induction calls generalizing items with
  | nil => simp [outcomes] at issued
  | cons call rest ih =>
    obtain ⟨now,call⟩ := call
    rcases List.mem_cons.mp issued with here | later
    · cases call with
      | issue actorId action targetId token' =>
        simp only [perform,Outcome.issued.injEq] at here
        obtain ⟨rfl,rfl⟩ := here
        exact ⟨now,actorId,action,targetId,List.mem_cons_self,rfl⟩
      | resolveDetailed actorId data => simp [perform] at here
      | pruneExpired => simp [perform] at here
      | clearAll => simp [perform] at here
    · obtain ⟨at_,actorId,action,targetId,member,same⟩ := ih later
      exact ⟨at_,actorId,action,targetId,List.mem_cons_of_mem _ member,same⟩

/-- Over every sequence of calls a token is accepted at most once, for the actor, the action and
the target it was issued with, and in its time. Other actors and malformed bytes change nothing. -/
theorem outcomes_safe (timeoutSeconds : ℚ) (calls : List (ℚ × Call)) (distinct : (tokens calls).Nodup) :
    Safe (outcomes timeoutSeconds .empty calls) ∧
      (∀ token item, .issued token item ∈ outcomes timeoutSeconds .empty calls →
        ∃ now actorId action targetId, (now,.issue actorId action targetId token) ∈ calls ∧
          item = ⟨actorId,action,targetId,now + timeoutSeconds⟩) ∧
      ∀ items now actorId data, (∀ token item, parse data = some token → items.get token = some item → item.actorId ≠ actorId) →
        (resolveDetailed items now actorId data).1 = items := by
  refine ⟨Known.initial.outcomes distinct (by simp),fun token item issued => issued_call issued,?_⟩
  intro items now actorId data other
  unfold resolveDetailed
  cases named : parse data with
  | none => rfl
  | some token =>
    cases found : items.get token with
    | none => simp only [found]
    | some item =>
      simp only [found]
      rw [if_pos (other token item named found)]

def smallCalls : List (ℚ × Call) :=
  [(0,.issue 1 (str "run_purge") 9 (str "t")),(1,.resolveDetailed 2 (capability (str "t"))),
    (2,.resolveDetailed 1 (capability (str "t"))),(3,.resolveDetailed 1 (capability (str "t")))]

/-- Another actor leaves the token, and its own uses it up. -/
theorem smallCalls_safe : Safe (outcomes 60 .empty smallCalls) ∧
    (outcomes 60 .empty smallCalls)[2]? =
      some (.resolved 2 1 (capability (str "t")) (some ⟨1,str "run_purge",9,60⟩) .accepted) ∧
    (outcomes 60 .empty smallCalls)[3]? = some (.resolved 3 1 (capability (str "t")) none .invalid) :=
  ⟨(outcomes_safe 60 smallCalls (by decide)).1,by decide +kernel,by decide +kernel⟩

end BackupTelebot.Callbacks
