import BackupTelebot.ConversationStores
import Mathlib.Tactic.Linarith

/-! What becomes of a conversation, and of a secret, whose time has passed. -/
namespace BackupTelebot.Conversations

open PyJson PyDict

section Expiry

variable {σ δ : Type} {cfg : Config} {s s' : Stores σ δ} {t : Clock} {call : Call σ δ} {now time : ℚ} {v : ℤ} {name : Str}

def Chronological : ℚ → List (Clock × Call σ δ) → Prop
  | _, [] => True
  | now, (t,_) :: rest => now ≤ t.first ∧ Chronological t.third rest

def Lapsed (s : Stores σ δ) (time : ℚ) (v : ℤ) : Prop := ∀ item, s.conversations.get v = some item → item.expiresAt ≤ time

def SecretLapsed (s : Stores σ δ) (time : ℚ) (v : ℤ) (name : Str) : Prop :=
  ∀ item, s.secrets.get (v,name) = some item → item.expiresAt ≤ time

/-- No invalid input is counted for an expired conversation, and no expired secret is touched. -/
def Sparing (s : Stores σ δ) (t : Clock) : Call σ δ → Prop
  | .invalid v => ∀ item, s.conversations.get v = some item → t.first < item.expiresAt
  | .touch v => ∀ name item, s.secrets.get (v,name) = some item → t.first < item.expiresAt
  | _ => True

def Call.Sets (call : Call σ δ) (v : ℤ) : Prop := ∃ state data, call = .set v state data

def Call.Puts (call : Call σ δ) (v : ℤ) (name : Str) : Prop := ∃ plaintext tag, call = .put v name plaintext tag

def Offers (call : Call σ δ) (answer : Answer σ δ) (v : ℤ) : Prop :=
  (call = .get v ∨ (∃ expected new, call = .transition v expected new) ∨ call = .back v) ∧ ∃ item, answer = .conversation (some item)

def OffersSecret (call : Call σ δ) (answer : Answer σ δ) (v : ℤ) (name : Str) : Prop :=
  (call = .take v name ∨ call = .readSecret v name) ∧ (∃ plaintext, answer = .secret plaintext) ∨
    call = .contains v (some name) ∧ answer = .flag true

/-- Expiry times are not too late, and a secret lives as long as its conversation. -/
structure Kept (cfg : Config) (now : ℚ) (s : Stores σ δ) : Prop where
  within : ∀ v item, s.conversations.get v = some item → item.expiresAt ≤ now + cfg.timeout
  covers : ∀ v name item secret, s.conversations.get v = some item → s.secrets.get (v,name) = some secret →
    item.expiresAt ≤ secret.expiresAt

theorem Kept.initial (cfg : Config) (now : ℚ) : Kept cfg now (initial : Stores σ δ) where
  within v item found := by simp [Conversations.initial] at found
  covers v name item secret found := by simp [Conversations.initial] at found

theorem touched_expiresAt (now : ℚ) (secret : Secret) : (touched cfg now v (v,name) secret).expiresAt = now + cfg.timeout := by
  simp [touched]

theorem Kept.step (k : Kept cfg now s) (order : now ≤ t.first) (change : ∀ v, Change cfg t call v s s') : Kept cfg t.third s' where
  within v item found := by
    have later := t.later
    have last := t.last
    have old (item : Conversation σ δ) (before : s.conversations.get v = some item) : item.expiresAt ≤ t.third + cfg.timeout := by
      linarith [k.within v item before]
    cases change v with
    | keep conversation => exact old item (conversation ▸ found)
    | gone conversation => simp [conversation] at found
    | fresh state data _ conversation =>
      obtain rfl := Option.some.inj (conversation.symm.trans found)
      linarith
    | put _ _ _ _ conversation => exact old item (conversation ▸ found)
    | extended before item' at_ _ after _ _ within read =>
      obtain rfl := Option.some.inj (after.symm.trans found)
      linarith
    | touched _ conversation => exact old item (conversation ▸ found)
  covers v name item secret found stored := by
    cases change v with
    | keep conversation secrets =>
      rcases secrets name with same | none_
      · exact k.covers v name item secret (conversation ▸ found) (same ▸ stored)
      · simp [none_] at stored
    | gone conversation => simp [conversation] at found
    | fresh _ _ _ _ secrets => simp [secrets] at stored
    | put other plaintext tag _ conversation new others =>
      by_cases same : name = other
      · subst same
        obtain rfl := Option.some.inj (new.symm.trans stored)
        have := k.within v item (conversation ▸ found)
        simp only
        linarith
      · exact k.covers v name item secret (conversation ▸ found) (others name same ▸ stored)
    | extended old item' at_ _ after _ _ within _ secrets =>
      obtain rfl := Option.some.inj (after.symm.trans found)
      obtain ⟨before,_,rfl⟩ := Option.map_eq_some_iff.mp ((secrets name).symm.trans stored)
      rwa [touched_expiresAt]
    | touched _ conversation secrets =>
      obtain ⟨before,_,rfl⟩ := Option.map_eq_some_iff.mp ((secrets name).symm.trans stored)
      rw [touched_expiresAt]
      linarith [k.within v item (conversation ▸ found)]

/-- A conversation whose time has passed is removed, or stays as it is, but for a new one. -/
theorem conversation_step (lapsed : Lapsed s time v) (passed : time ≤ t.first) (sparing : Sparing s t call) (kept : ¬call.Sets v)
    (change : Change cfg t call v s s') : s'.conversations.get v = s.conversations.get v ∨ s'.conversations.get v = none := by
  cases change with
  | keep conversation => exact .inl conversation
  | gone conversation => exact .inr conversation
  | fresh state data called => exact absurd ⟨state,data,called⟩ kept
  | put _ _ _ _ conversation => exact .inl conversation
  | extended old item at_ before _ _ live =>
    have late := (lapsed old before).trans passed
    rcases live with live | rfl
    · exact absurd live (not_lt.mpr late)
    · exact absurd (sparing old before) (not_lt.mpr late)
  | touched _ conversation => exact .inl conversation

theorem secret_step (k : Kept cfg now s) (lapsed : SecretLapsed s time v name) (passed : time ≤ t.first)
    (sparing : Sparing s t call) (kept : ¬call.Puts v name) (change : Change cfg t call v s s') :
    s'.secrets.get (v,name) = s.secrets.get (v,name) ∨ s'.secrets.get (v,name) = none := by
  cases change with
  | keep _ secrets => exact secrets name
  | gone _ secrets => exact .inr (secrets name)
  | fresh _ _ _ _ secrets => exact .inr (secrets name)
  | put other plaintext tag called _ _ others =>
    by_cases same : name = other
    · subst same
      exact absurd ⟨plaintext,tag,called⟩ kept
    · exact .inl (others name same)
  | extended old item at_ before _ _ live _ _ secrets =>
    cases stored : s.secrets.get (v,name) with
    | none => exact .inl (by rw [secrets,stored]; rfl)
    | some secret =>
      have late := (k.covers v name old secret before stored).trans ((lapsed secret stored).trans passed)
      rcases live with live | rfl
      · exact absurd live (not_lt.mpr late)
      · exact absurd (sparing old before) (not_lt.mpr late)
  | touched called _ secrets =>
    subst called
    cases stored : s.secrets.get (v,name) with
    | none => exact .inl (by rw [secrets,stored]; rfl)
    | some secret => exact absurd (sparing name secret stored) (not_lt.mpr ((lapsed secret stored).trans passed))

end Expiry

section Answers

variable {σ δ : Type} [DecidableEq σ] {cfg : Config} {s : Stores σ δ} {t : Clock} {call : Call σ δ} {time : ℚ} {v : ℤ} {name : Str}

theorem not_offers (lapsed : Lapsed s time v) (passed : time ≤ t.first) : ¬Offers call (perform cfg s t call).2 v := by
  have late (item : Conversation σ δ) (found : s.conversations.get v = some item) : item.expiresAt ≤ t.first :=
    (lapsed item found).trans passed
  rintro ⟨rfl | ⟨expected,new,rfl⟩ | rfl,item,shown⟩
  · cases found : s.conversations.get v with
    | none => simp [perform,get,found] at shown
    | some old => simp [perform,get,found,late old found] at shown
  · cases found : s.conversations.get v with
    | none => simp [perform,transition,found] at shown
    | some old => simp [perform,transition,found,late old found] at shown
  · cases found : s.conversations.get v with
    | none => simp [perform,back,found] at shown
    | some old => simp [perform,back,found,late old found] at shown

theorem not_offersSecret (lapsed : SecretLapsed s time v name) (passed : time ≤ t.first) :
    ¬OffersSecret call (perform cfg s t call).2 v name := by
  have late (item : Secret) (found : s.secrets.get (v,name) = some item) : item.expiresAt ≤ t.first :=
    (lapsed item found).trans passed
  rintro (⟨rfl | rfl,plaintext,shown⟩ | ⟨rfl,shown⟩)
  · cases found : s.secrets.get (v,name) with
    | none => simp [perform,take,found,answerSecret] at shown
    | some old => simp [perform,take,found,late old found,answerSecret] at shown
  · cases found : s.secrets.get (v,name) with
    | none => simp [perform,readSecret,found,answerSecret] at shown
    | some old => simp [perform,readSecret,found,late old found,answerSecret] at shown
  · simp only [perform,Answer.flag.injEq,contains,List.any_eq_true,Bool.and_eq_true,decide_eq_true_eq] at shown
    obtain ⟨⟨⟨owner,other⟩,secret⟩,member,⟨rfl,named⟩,live⟩ := shown
    obtain rfl : name = other := by simpa using named
    exact absurd live (not_lt.mpr (late secret (Dict.mem_entries.mp member)))

end Answers

section Runs

variable {σ δ : Type} [DecidableEq σ] {cfg : Config} {s : Stores σ δ} {now time : ℚ} {v : ℤ} {name : Str}

def Spares (cfg : Config) : Stores σ δ → List (Clock × Call σ δ) → Prop
  | _, [] => True
  | s, (t,call) :: rest => Sparing s t call ∧ Spares cfg (perform cfg s t call).1 rest

theorem exec_append (before after : List (Clock × Call σ δ)) :
    exec cfg s (before ++ after) = exec cfg (exec cfg s before) after := by
  induction before generalizing s with
  | nil => rfl
  | cons entry rest ih => exact ih

theorem Spares.append {before after : List (Clock × Call σ δ)} (spares : Spares cfg s (before ++ after)) :
    Spares cfg (exec cfg s before) after := by
  induction before generalizing s with
  | nil => exact spares
  | cons entry rest ih => exact ih spares.2

/-- The invariant before what is still to come. -/
theorem Kept.exec (k : Kept cfg now s) {before after : List (Clock × Call σ δ)} (chronological : Chronological now (before ++ after)) :
    ∃ now', Kept cfg now' (Conversations.exec cfg s before) ∧ Chronological now' after := by
  induction before generalizing s now with
  | nil => exact ⟨now,k,chronological⟩
  | cons entry rest ih => exact ih (k.step chronological.1 (perform_change cfg s entry.1 entry.2)) chronological.2

/-- Through a run the conversation stays as it is, until it is removed. -/
theorem conversation_run {calls : List (Clock × Call σ δ)} (lapsed : Lapsed s time v) (spares : Spares cfg s calls)
    (passed : ∀ entry ∈ calls, time ≤ entry.1.first) (kept : ∀ entry ∈ calls, ¬entry.2.Sets v) :
    (exec cfg s calls).conversations.get v = s.conversations.get v ∨ (exec cfg s calls).conversations.get v = none := by
  induction calls generalizing s with
  | nil => exact .inl rfl
  | cons entry rest ih =>
    have step := conversation_step lapsed (passed entry List.mem_cons_self) spares.1 (kept entry List.mem_cons_self)
      (perform_change cfg s entry.1 entry.2 v)
    have still : Lapsed (perform cfg s entry.1 entry.2).1 time v := by
      intro item found
      rcases step with same | none_
      · exact lapsed item (same ▸ found)
      · simp [none_] at found
    have later := ih still spares.2 (fun other member => passed other (List.mem_cons_of_mem _ member))
      fun other member => kept other (List.mem_cons_of_mem _ member)
    rw [exec]
    rcases later with same | none_
    · rcases step with same' | none_
      · exact .inl (same.trans same')
      · exact .inr (same.trans none_)
    · exact .inr none_

theorem secret_run {calls : List (Clock × Call σ δ)} (k : Kept cfg now s) (chronological : Chronological now calls)
    (lapsed : SecretLapsed s time v name) (spares : Spares cfg s calls) (passed : ∀ entry ∈ calls, time ≤ entry.1.first)
    (kept : ∀ entry ∈ calls, ¬entry.2.Puts v name) :
    (exec cfg s calls).secrets.get (v,name) = s.secrets.get (v,name) ∨ (exec cfg s calls).secrets.get (v,name) = none := by
  induction calls generalizing s now with
  | nil => exact .inl rfl
  | cons entry rest ih =>
    have step := secret_step k lapsed (passed entry List.mem_cons_self) spares.1 (kept entry List.mem_cons_self)
      (perform_change cfg s entry.1 entry.2 v)
    have still : SecretLapsed (perform cfg s entry.1 entry.2).1 time v name := by
      intro item found
      rcases step with same | none_
      · exact lapsed item (same ▸ found)
      · simp [none_] at found
    have k' := k.step chronological.1 (perform_change cfg s entry.1 entry.2)
    have later := ih k' chronological.2 still spares.2 (fun other member => passed other (List.mem_cons_of_mem _ member))
      fun other member => kept other (List.mem_cons_of_mem _ member)
    rw [exec]
    rcases later with same | none_
    · rcases step with same' | none_
      · exact .inl (same.trans same')
      · exact .inr (same.trans none_)
    · exact .inr none_

/-- In every run that counts no invalid input for an expired conversation and touches no expired
secret: once the time of a conversation or a secret has passed, it is not shown again and its time
is not extended until there is a new one. -/
theorem never_revived (cfg : Config) (before after : List (Clock × Call σ δ)) (t : Clock) (call : Call σ δ) (now time : ℚ)
    (chronological : Chronological now (before ++ (after ++ [(t,call)])))
    (spares : Spares cfg initial (before ++ (after ++ [(t,call)])))
    (passed : ∀ entry ∈ after ++ [(t,call)], time ≤ entry.1.first) :
    (∀ v, Lapsed (exec cfg initial before) time v → (∀ entry ∈ after ++ [(t,call)], ¬entry.2.Sets v) →
      ¬Offers call (perform cfg (exec cfg initial (before ++ after)) t call).2 v ∧
        ((exec cfg initial (before ++ (after ++ [(t,call)]))).conversations.get v = (exec cfg initial before).conversations.get v ∨
          (exec cfg initial (before ++ (after ++ [(t,call)]))).conversations.get v = none)) ∧
      ∀ v name, SecretLapsed (exec cfg initial before) time v name → (∀ entry ∈ after ++ [(t,call)], ¬entry.2.Puts v name) →
        ¬OffersSecret call (perform cfg (exec cfg initial (before ++ after)) t call).2 v name ∧
          ((exec cfg initial (before ++ (after ++ [(t,call)]))).secrets.get (v,name) = (exec cfg initial before).secrets.get (v,name) ∨
            (exec cfg initial (before ++ (after ++ [(t,call)]))).secrets.get (v,name) = none) := by
  obtain ⟨now',k,rest⟩ := (Kept.initial cfg now).exec chronological
  have sparing := spares.append
  have last : time ≤ t.first := passed (t,call) (by simp)
  have earlier : ∀ entry ∈ after, time ≤ entry.1.first := fun entry member => passed entry (List.mem_append_left _ member)
  have chronology : ∀ {start : ℚ} {first second : List (Clock × Call σ δ)}, Chronological start (first ++ second) → Chronological start first := by
    intro start first second
    induction first generalizing start with
    | nil => exact fun _ => trivial
    | cons entry others ih => exact fun whole => ⟨whole.1,ih whole.2⟩
  have sparse : ∀ {s : Stores σ δ} {first second : List (Clock × Call σ δ)}, Spares cfg s (first ++ second) → Spares cfg s first := by
    intro s first second
    induction first generalizing s with
    | nil => exact fun _ => trivial
    | cons entry others ih => exact fun whole => ⟨whole.1,ih whole.2⟩
  constructor
  · intro v lapsed kept
    constructor
    · apply not_offers _ last
      intro item found
      rw [exec_append] at found
      rcases conversation_run lapsed (sparse sparing) earlier fun entry member => kept entry (List.mem_append_left _ member) with same | none_
      · exact lapsed item (same ▸ found)
      · simp [none_] at found
    · rw [exec_append]
      exact conversation_run lapsed sparing passed kept
  · intro v name lapsed kept
    constructor
    · apply not_offersSecret _ last
      intro item found
      rw [exec_append] at found
      rcases secret_run k (chronology rest) lapsed (sparse sparing) earlier fun entry member => kept entry (List.mem_append_left _ member) with
        same | none_
      · exact lapsed item (same ▸ found)
      · simp [none_] at found
    · rw [exec_append]
      exact secret_run k rest lapsed sparing passed kept

end Runs

def Clock.at (now : ℚ) : Clock := ⟨now,now,now,le_rfl,le_rfl⟩

def minute : Config := ⟨60,3⟩

/-- An invalid input at the sixtieth second gives the conversation another minute. -/
theorem invalid_revives :
    Lapsed (exec minute (initial : Stores ℕ ℕ) [(.at 0,.set 7 1 0)]) 60 7 ∧
      (perform minute (exec minute (initial : Stores ℕ ℕ) [(.at 0,.set 7 1 0),(.at 60,.invalid 7)]) (.at 61) (.get 7)).2 =
        .conversation (some ⟨0,1,120,0,1,[]⟩) := by
  constructor
  · rintro item found
    obtain rfl : (⟨0,1,60,0,0,[]⟩ : Conversation ℕ ℕ) = item := Option.some.inj (.trans (by decide +kernel) found)
    decide +kernel
  · decide +kernel

/-- A secret that is put at the start is not read a minute later. -/
theorem never_revived_small :
    ¬OffersSecret (.take 7 [112]) (perform minute (exec minute (initial : Stores ℕ ℕ) [(.at 0,.set 7 1 0),(.at 0,.put 7 [112] [120] (some 0))])
      (.at 60) (.take 7 [112])).2 7 [112] := by
  have expired : SecretLapsed (exec minute (initial : Stores ℕ ℕ) [(.at 0,.set 7 1 0),(.at 0,.put 7 [112] [120] (some 0))]) 60 7 [112] := by
    intro item found
    obtain rfl : (⟨[120],60,some 0⟩ : Secret) = item := Option.some.inj (.trans (by decide +kernel) found)
    decide +kernel
  have unput : ∀ entry ∈ ([] : List (Clock × Call ℕ ℕ)) ++ [(.at 60,.take 7 [112])], ¬entry.2.Puts 7 [112] := by
    intro entry member
    obtain rfl := List.mem_singleton.mp member
    simp [Call.Puts]
  have latest : ∀ entry ∈ ([] : List (Clock × Call ℕ ℕ)) ++ [(.at 60,.take 7 [112])], (60 : ℚ) ≤ entry.1.first := by
    intro entry member
    obtain rfl := List.mem_singleton.mp member
    exact le_rfl
  have ordered : Chronological 0
      ([(Clock.at 0,Call.set 7 1 0),(.at 0,.put 7 [112] [120] (some 0))] ++ (([] : List (Clock × Call ℕ ℕ)) ++ [(.at 60,.take 7 [112])])) := by
    simp [Chronological,Clock.at]
  have spared : Spares minute initial
      ([(Clock.at 0,Call.set 7 1 0),(.at 0,.put 7 [112] [120] (some 0))] ++ (([] : List (Clock × Call ℕ ℕ)) ++ [(.at 60,.take 7 [112])])) := by
    simp [Spares,Sparing]
  exact ((never_revived minute _ [] (.at 60) (.take 7 [112]) 0 60 ordered spared latest).2 7 [112] expired unput).1

end BackupTelebot.Conversations
