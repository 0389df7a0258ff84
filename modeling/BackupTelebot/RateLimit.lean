import BackupTelebot.PythonDict
import BackupTelebot.SlidingWindow
import Mathlib.Algebra.Order.Ring.Rat
import Mathlib.Tactic.Linarith
import Mathlib.Tactic.NormNum

/-! The limits on how many messages of a user, and of all users, are worked on in a minute. A
reading of the clock is the exact value of its float; taking a minute from it is exact. -/
namespace BackupTelebot.RateLimit

open PyDict SlidingWindow

structure Limits where
  perUser : ℕ
  globalLimit : ℕ

structure RateLimiter where
  users : Dict ℤ (List ℚ)
  globalEvents : List ℚ

def initial : RateLimiter := ⟨.empty,[]⟩

section Limiter

variable (l : Limits) (r : RateLimiter)

/-- `self._users[user_id]`, where an unknown user gets an empty queue. -/
def RateLimiter.events (userId : ℤ) : List ℚ := (r.users.get userId).getD []

def RateLimiter.allow (now : ℚ) (userId : ℤ) : RateLimiter × Bool :=
  let userEvents := trim (now - 60) (r.events userId)
  let globalEvents := trim (now - 60) r.globalEvents
  if l.perUser ≤ userEvents.length ∨ l.globalLimit ≤ globalEvents.length then
    (⟨r.users.set userId userEvents,globalEvents⟩,false)
  else (⟨r.users.set userId (userEvents ++ [now]),globalEvents ++ [now]⟩,true)

/-- A user whose queue is empty is forgotten. The result is the number of these. -/
def RateLimiter.pruneExpired (now : ℚ) : RateLimiter × ℕ :=
  let users := r.users.update fun _ events => if trim (now - 60) events = [] then none else some (trim (now - 60) events)
  (⟨users,trim (now - 60) r.globalEvents⟩,r.users.size - users.size)

end Limiter

inductive Call where
  | allow (userId : ℤ)
  | pruneExpired
  deriving DecidableEq

def Call.isAllow : Call → Bool
  | .allow _ => true
  | .pruneExpired => false

/-- What a call of `allow` said, and when. -/
structure Decision where
  now : ℚ
  userId : ℤ
  allowed : Bool
  deriving DecidableEq

/-- The decisions of a sequence of calls, each with the reading of the clock that it takes. -/
def decisions (l : Limits) : RateLimiter → List (ℚ × Call) → List Decision
  | _, [] => []
  | r, (now,.allow userId) :: rest => ⟨now,userId,(r.allow l now userId).2⟩ :: decisions l (r.allow l now userId).1 rest
  | r, (now,.pruneExpired) :: rest => decisions l (r.pruneExpired now).1 rest

def ofUser (userId : ℤ) (log : List Decision) : List ℚ :=
  (log.filter fun decision => decision.allowed && decision.userId = userId).map Decision.now

def ofAll (log : List Decision) : List ℚ := (log.filter Decision.allowed).map Decision.now

def Monotone (calls : List (ℚ × Call)) : Prop := (calls.map (·.1)).SortedLE

theorem Monotone.tail {call : ℚ × Call} {rest : List (ℚ × Call)} (monotone : Monotone (call :: rest)) : Monotone rest :=
  (List.pairwise_cons.mp monotone.pairwise).2.sortedLE

theorem Monotone.first {call : ℚ × Call} {rest : List (ℚ × Call)} (monotone : Monotone (call :: rest)) :
    ∀ other ∈ call :: rest, call.1 ≤ other.1 := by
  intro other member
  rcases List.mem_cons.mp member with rfl | later
  · exact le_rfl
  · exact (List.pairwise_cons.mp monotone.pairwise).1 other.1 (List.mem_map_of_mem later)

def admits (l : Limits) (log : List Decision) (now : ℚ) (userId : ℤ) : Bool :=
  decide ((since (now - 60) (ofUser userId log)).length < l.perUser ∧
    (since (now - 60) (ofAll log)).length < l.globalLimit)

/-- The limiter as it is meant: it remembers every decision and never prunes. -/
def intended (l : Limits) : List Decision → List (ℚ × Call) → List Decision
  | _, [] => []
  | log, (now,.allow userId) :: rest =>
      ⟨now,userId,admits l log now userId⟩ :: intended l (log ++ [⟨now,userId,admits l log now userId⟩]) rest
  | log, (_,.pruneExpired) :: rest => intended l log rest

section Log

variable {l : Limits} {log : List Decision} {now : ℚ} {userId : ℤ}

@[simp] theorem ofUser_nil (userId : ℤ) : ofUser userId [] = [] := rfl
@[simp] theorem ofAll_nil : ofAll [] = [] := rfl

theorem ofUser_allowed : ofUser userId (log ++ [⟨now,userId,true⟩]) = ofUser userId log ++ [now] := by
  simp [ofUser]

theorem ofUser_other {decision : Decision} (other : decision.allowed = false ∨ decision.userId ≠ userId) :
    ofUser userId (log ++ [decision]) = ofUser userId log := by
  rcases other with refused | apart
  · simp [ofUser,refused]
  · simp [ofUser,apart]

theorem ofAll_allowed : ofAll (log ++ [⟨now,userId,true⟩]) = ofAll log ++ [now] := by
  simp [ofAll]

theorem ofAll_refused : ofAll (log ++ [⟨now,userId,false⟩]) = ofAll log := by
  simp [ofAll]

theorem ofUser_sorted (sorted : (log.map Decision.now).SortedLE) (userId : ℤ) : (ofUser userId log).SortedLE :=
  (sorted.pairwise.sublist (List.filter_sublist.map _)).sortedLE

theorem ofAll_sorted (sorted : (log.map Decision.now).SortedLE) : (ofAll log).SortedLE :=
  (sorted.pairwise.sublist (List.filter_sublist.map _)).sortedLE

/-- A log may be extended by a later decision. -/
theorem sorted_append {decision : Decision} (sorted : (log.map Decision.now).SortedLE)
    (later : ∀ earlier ∈ log, earlier.now ≤ decision.now) : ((log ++ [decision]).map Decision.now).SortedLE := by
  rw [List.map_append]
  refine (List.pairwise_append.mpr ⟨sorted.pairwise,by simp,?_⟩).sortedLE
  intro first member last same
  obtain ⟨earlier,listed,rfl⟩ := List.mem_map.mp member
  rw [List.map_singleton,List.mem_singleton] at same
  exact same ▸ later earlier listed

end Log

structure Tracks (r : RateLimiter) (log : List Decision) (now : ℚ) : Prop where
  users : ∀ userId, Lags (now - 60) (r.events userId) (ofUser userId log)
  all : Lags (now - 60) r.globalEvents (ofAll log)
  past : ∀ decision ∈ log, decision.now ≤ now
  sorted : (log.map Decision.now).SortedLE

namespace Tracks

variable {l : Limits} {r : RateLimiter} {log : List Decision} {now : ℚ} {userId : ℤ}

theorem initial (now : ℚ) : Tracks initial [] now :=
  ⟨fun _ => .nil _,.nil _,by simp,List.Pairwise.nil.sortedLE⟩

theorem later {next : ℚ} (t : Tracks r log now) (order : now ≤ next) : Tracks r log next where
  users userId := (t.users userId).later (sub_le_sub_right order 60)
  all := t.all.later (sub_le_sub_right order 60)
  past decision member := (t.past decision member).trans order
  sorted := t.sorted

theorem userEvents (t : Tracks r log now) (userId : ℤ) :
    trim (now - 60) (r.events userId) = since (now - 60) (ofUser userId log) := by
  rw [(t.users userId).trimmed,trim_eq_since (ofUser_sorted t.sorted userId)]

theorem allEvents (t : Tracks r log now) : trim (now - 60) r.globalEvents = since (now - 60) (ofAll log) := by
  rw [t.all.trimmed,trim_eq_since (ofAll_sorted t.sorted)]

theorem decided (t : Tracks r log now) (userId : ℤ) : (r.allow l now userId).2 = admits l log now userId := by
  rw [RateLimiter.allow,t.userEvents,t.allEvents,admits]
  split_ifs with full
  · exact (decide_eq_false (by omega)).symm
  · exact (decide_eq_true (by omega)).symm

theorem allow (t : Tracks r log now) (userId : ℤ) :
    Tracks (r.allow l now userId).1 (log ++ [⟨now,userId,admits l log now userId⟩]) now := by
  have past : ∀ decision ∈ log ++ [⟨now,userId,admits l log now userId⟩], decision.now ≤ now := by
    intro decision member
    rcases List.mem_append.mp member with earlier | last
    · exact t.past decision earlier
    · rw [List.mem_singleton.mp last]
  have sorted : ((log ++ [(⟨now,userId,admits l log now userId⟩ : Decision)]).map Decision.now).SortedLE :=
    sorted_append t.sorted t.past
  have minute : now - 60 < now := by linarith
  have here := t.decided (l := l) userId
  rw [RateLimiter.allow] at here ⊢
  split_ifs at here ⊢ with full
  · rw [← here] at past sorted ⊢
    refine ⟨fun other => ?_,?_,past,sorted⟩
    · rw [ofUser_other (.inl rfl),RateLimiter.events,Dict.get_set]
      split_ifs with same
      · subst same
        exact (t.users _).trim
      · exact t.users other
    · rw [ofAll_refused]
      exact t.all.trim
  · rw [← here] at past sorted ⊢
    refine ⟨fun other => ?_,?_,past,sorted⟩
    · rw [RateLimiter.events,Dict.get_set]
      split_ifs with same
      · subst same
        rw [ofUser_allowed]
        exact (t.users _).trim.push minute
      · rw [ofUser_other (.inr (Ne.symm same))]
        exact t.users other
    · rw [ofAll_allowed]
      exact t.all.trim.push minute

theorem pruneExpired (t : Tracks r log now) : Tracks (r.pruneExpired now).1 log now := by
  refine ⟨fun userId => ?_,t.all.trim,t.past,t.sorted⟩
  have trimmed := (t.users userId).trim
  rw [RateLimiter.events] at trimmed ⊢
  rw [RateLimiter.pruneExpired,Dict.get_update]
  cases known : r.users.get userId with
  | none => simpa [known] using trimmed
  | some events =>
    rw [known,Option.getD_some] at trimmed
    rw [Option.bind_some]
    split_ifs with empty
    · rwa [empty] at trimmed
    · exact trimmed

/-- The limiter decides as it is meant to. -/
theorem decisions_eq (t : Tracks r log now) {calls : List (ℚ × Call)} (monotone : Monotone calls)
    (after : ∀ call ∈ calls, now ≤ call.1) : decisions l r calls = intended l log calls := by
  induction calls generalizing r log now with
  | nil => rfl
  | cons call rest ih =>
    obtain ⟨next,call⟩ := call
    have order : ∀ other ∈ rest, next ≤ other.1 := fun other member => monotone.first other (List.mem_cons_of_mem _ member)
    have here := t.later (after (next,call) List.mem_cons_self)
    cases call with
    | allow userId =>
      rw [decisions,intended,here.decided userId]
      exact congrArg _ (ih (here.allow userId) monotone.tail order)
    | pruneExpired =>
      rw [decisions,intended]
      exact ih here.pruneExpired monotone.tail order

end Tracks

/-- The log of a limiter that keeps the limits and refuses only for them. -/
structure Exact (l : Limits) (log : List Decision) : Prop where
  perUser : ∀ userId start, ((ofUser userId log).filter fun event => decide (start ≤ event ∧ event < start + 60)).length ≤ l.perUser ∧
    ((ofUser userId log).filter fun event => decide (start < event ∧ event ≤ start + 60)).length ≤ l.perUser
  all : ∀ start, ((ofAll log).filter fun event => decide (start ≤ event ∧ event < start + 60)).length ≤ l.globalLimit ∧
    ((ofAll log).filter fun event => decide (start < event ∧ event ≤ start + 60)).length ≤ l.globalLimit
  refused : ∀ before decision after, log = before ++ decision :: after → decision.allowed = false →
    l.perUser ≤ (since (decision.now - 60) (ofUser decision.userId before)).length ∨
      l.globalLimit ≤ (since (decision.now - 60) (ofAll before)).length

structure Consistent (l : Limits) (log : List Decision) : Prop where
  sorted : (log.map Decision.now).SortedLE
  admitted : ∀ before decision after, log = before ++ decision :: after →
    decision.allowed = admits l before decision.now decision.userId
  users : ∀ userId, Limited 60 l.perUser (ofUser userId log)
  all : Limited 60 l.globalLimit (ofAll log)

section Windows

variable {l : Limits} {log : List Decision} {now : ℚ} {calls : List (ℚ × Call)}

theorem Consistent.nil (l : Limits) : Consistent l [] where
  sorted := List.Pairwise.nil.sortedLE
  admitted before decision after split_ := by simp at split_
  users _ := .nil
  all := .nil

theorem Consistent.push (c : Consistent l log) (past : ∀ decision ∈ log, decision.now ≤ now) (userId : ℤ) :
    Consistent l (log ++ [⟨now,userId,admits l log now userId⟩]) where
  sorted := sorted_append c.sorted past
  admitted before decision after split_ := by
    rcases List.eq_nil_or_concat after with rfl | ⟨front,last,rfl⟩
    · obtain ⟨rfl,same⟩ := List.append_inj' split_ rfl
      obtain rfl := List.singleton_inj.mp same
      rfl
    · have front_ : log ++ [⟨now,userId,admits l log now userId⟩] = (before ++ decision :: front) ++ [last] := by
        rw [split_]
        simp
      exact c.admitted before decision front (List.append_inj' front_ rfl).1
  users other := by
    cases admitted : admits l log now userId with
    | false =>
      rw [ofUser_other (.inl rfl)]
      exact c.users other
    | true =>
      by_cases same : userId = other
      · subst same
        rw [ofUser_allowed]
        exact (c.users userId).push (of_decide_eq_true admitted).1
      · rw [ofUser_other (.inr same)]
        exact c.users other
  all := by
    cases admitted : admits l log now userId with
    | false =>
      rw [ofAll_refused]
      exact c.all
    | true =>
      rw [ofAll_allowed]
      exact c.all.push (of_decide_eq_true admitted).2

theorem Consistent.intended (c : Consistent l log) (past : ∀ decision ∈ log, decision.now ≤ now) (monotone : Monotone calls)
    (after : ∀ call ∈ calls, now ≤ call.1) : Consistent l (log ++ intended l log calls) := by
  induction calls generalizing log now with
  | nil => simpa [RateLimit.intended] using c
  | cons call rest ih =>
    obtain ⟨next,call⟩ := call
    have order : ∀ other ∈ rest, next ≤ other.1 := fun other member => monotone.first other (List.mem_cons_of_mem _ member)
    have here : ∀ decision ∈ log, decision.now ≤ next := fun decision member =>
      (past decision member).trans (after (next,call) List.mem_cons_self)
    cases call with
    | allow userId =>
      have pushed := c.push here userId
      have past' : ∀ decision ∈ log ++ [⟨next,userId,admits l log next userId⟩], decision.now ≤ next := by
        intro decision member
        rcases List.mem_append.mp member with earlier | last
        · exact here decision earlier
        · rw [List.mem_singleton.mp last]
      have whole := ih pushed past' monotone.tail order
      rwa [List.append_assoc] at whole
    | pruneExpired => exact ih c here monotone.tail order

theorem Consistent.exact (c : Consistent l log) : Exact l log where
  perUser userId start := by
    have sorted := ofUser_sorted c.sorted userId
    constructor <;> refine (c.users userId).count_le sorted _ fun first last inside inside' _ => ?_
    all_goals
      rw [decide_eq_true_eq] at inside inside'
      linarith [inside.1,inside'.2]
  all start := by
    have sorted := ofAll_sorted c.sorted
    constructor <;> refine c.all.count_le sorted _ fun first last inside inside' _ => ?_
    all_goals
      rw [decide_eq_true_eq] at inside inside'
      linarith [inside.1,inside'.2]
  refused before decision after split_ refused := by
    rw [c.admitted before decision after split_,admits,decide_eq_false_iff_not] at refused
    omega

end Windows

theorem intended_filter (l : Limits) (log : List Decision) (calls : List (ℚ × Call)) :
    intended l log (calls.filter fun call => call.2.isAllow) = intended l log calls := by
  induction calls generalizing log with
  | nil => rfl
  | cons call rest ih =>
    obtain ⟨now,call⟩ := call
    cases call with
    | allow userId => exact congrArg (List.cons _) (ih _)
    | pruneExpired => exact ih log

/-- The limits are kept in every window of a minute, nothing is refused without need, and pruning
changes no decision. -/
theorem decisions_exact (l : Limits) (calls : List (ℚ × Call)) (monotone : Monotone calls) :
    Exact l (decisions l initial calls) ∧
      decisions l initial (calls.filter fun call => call.2.isAllow) = decisions l initial calls := by
  have filtered : Monotone (calls.filter fun call => call.2.isAllow) :=
    (monotone.pairwise.sublist (List.filter_sublist.map _)).sortedLE
  have run {calls : List (ℚ × Call)} (monotone : Monotone calls) : decisions l initial calls = intended l [] calls := by
    cases calls with
    | nil => rfl
    | cons call rest => exact (Tracks.initial call.1).decisions_eq monotone monotone.first
  constructor
  · rw [run monotone]
    cases calls with
    | nil => exact (Consistent.nil l).exact
    | cons call rest => exact ((Consistent.nil l).intended (by simp) monotone monotone.first).exact
  · rw [run filtered,run monotone,intended_filter]

def threeCalls : List (ℚ × Call) := [(0,.allow 7),(30,.pruneExpired),(59,.allow 7),(60,.allow 7)]

theorem threeCalls_exact : (decisions ⟨1,9⟩ initial threeCalls).map Decision.allowed = [true,false,true] ∧
    Exact ⟨1,9⟩ (decisions ⟨1,9⟩ initial threeCalls) := by
  have exact_ := decisions_exact ⟨1,9⟩ threeCalls (by norm_num [Monotone,threeCalls,List.sortedLE_iff_pairwise])
  exact ⟨by decide +kernel,exact_.1⟩

end BackupTelebot.RateLimit
