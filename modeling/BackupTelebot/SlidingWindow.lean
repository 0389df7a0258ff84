import Mathlib.Algebra.Group.Defs
import Mathlib.Data.List.Induction
import Mathlib.Data.List.Sort

/-! Queues of events in the order of time, trimmed from the front, and the number of events in
a window of fixed width. -/
namespace SlidingWindow

section Trim

variable {T : Type*} [LinearOrder T]

def trim (cutoff : T) (events : List T) : List T := events.dropWhile fun event => decide (event ≤ cutoff)

def since (cutoff : T) (events : List T) : List T := events.filter fun event => decide (cutoff < event)

@[simp] theorem trim_nil (cutoff : T) : trim cutoff [] = [] := rfl

theorem trim_cons_old {cutoff event : T} {rest : List T} (old : event ≤ cutoff) :
    trim cutoff (event :: rest) = trim cutoff rest := by simp [trim,old]

theorem trim_cons_new {cutoff event : T} {rest : List T} (new : cutoff < event) :
    trim cutoff (event :: rest) = event :: rest := by simp [trim,new]

/-- An earlier trimming does not show. -/
theorem trim_trim {first second : T} (order : first ≤ second) (events : List T) :
    trim second (trim first events) = trim second events := by
  induction events with
  | nil => rfl
  | cons event rest ih =>
    by_cases old : event ≤ first
    · rw [trim_cons_old old,ih,trim_cons_old (old.trans order)]
    · rw [trim_cons_new (not_le.mp old)]

theorem trim_eq_since {cutoff : T} {events : List T} (sorted : events.SortedLE) : trim cutoff events = since cutoff events := by
  induction events with
  | nil => rfl
  | cons event rest ih =>
    have pairs := List.pairwise_cons.mp sorted.pairwise
    by_cases old : event ≤ cutoff
    · rw [trim_cons_old old,ih pairs.2.sortedLE]
      simp [since,old]
    · have new := not_le.mp old
      have all : ∀ other ∈ rest, cutoff < other := fun other member => new.trans_le (pairs.1 other member)
      have kept : since cutoff rest = rest := List.filter_eq_self.mpr fun other member => by simpa using all other member
      calc trim cutoff (event :: rest) = event :: rest := trim_cons_new new
        _ = event :: since cutoff rest := by rw [kept]
        _ = since cutoff (event :: rest) := by simp [since,new]

theorem trim_append_new {cutoff event : T} (events : List T) (new : cutoff < event) :
    trim cutoff (events ++ [event]) = trim cutoff events ++ [event] := by
  induction events with
  | nil => exact trim_cons_new new
  | cons first rest ih =>
    by_cases old : first ≤ cutoff
    · rw [List.cons_append,trim_cons_old old,trim_cons_old old,ih]
    · rw [List.cons_append,trim_cons_new (not_le.mp old),trim_cons_new (not_le.mp old),List.cons_append]

def Lags (cutoff : T) (queue events : List T) : Prop := ∃ earlier ≤ cutoff, queue = trim earlier events

namespace Lags

variable {cutoff : T} {queue events : List T}

theorem nil (cutoff : T) : Lags cutoff [] [] := ⟨cutoff,le_rfl,rfl⟩

theorem later {next : T} (lags : Lags cutoff queue events) (order : cutoff ≤ next) : Lags next queue events := by
  obtain ⟨earlier,before,rfl⟩ := lags
  exact ⟨earlier,before.trans order,rfl⟩

theorem trimmed (lags : Lags cutoff queue events) : trim cutoff queue = trim cutoff events := by
  obtain ⟨earlier,before,rfl⟩ := lags
  exact trim_trim before events

theorem trim (lags : Lags cutoff queue events) : Lags cutoff (trim cutoff queue) events := ⟨cutoff,le_rfl,lags.trimmed⟩

theorem push {event : T} (lags : Lags cutoff queue events) (new : cutoff < event) :
    Lags cutoff (queue ++ [event]) (events ++ [event]) := by
  obtain ⟨earlier,before,rfl⟩ := lags
  exact ⟨earlier,before,(trim_append_new events (before.trans_lt new)).symm⟩

end Lags

end Trim

section Windows

variable {T : Type*} [AddGroup T] [LinearOrder T] {width : T} {limit : ℕ} {events : List T}

/-- Every event came when fewer than the limit had come in the width before it. -/
def Limited (width : T) (limit : ℕ) (events : List T) : Prop :=
  ∀ before event after, events = before ++ event :: after → (since (event - width) before).length < limit

theorem Limited.nil : Limited width limit [] := by
  intro before event after split_
  simp at split_

theorem Limited.push {event : T} (limited : Limited width limit events) (room : (since (event - width) events).length < limit) :
    Limited width limit (events ++ [event]) := by
  intro before other after split_
  rcases List.append_eq_append_iff.mp split_ with ⟨more,same,rest⟩ | ⟨more,same,rest⟩
  · cases more with
    | nil =>
      simp only [List.append_nil] at same
      simp only [List.nil_append,List.cons.injEq] at rest
      rw [same,← rest.1]
      exact room
    | cons _ _ => simp at rest
  · cases more with
    | nil =>
      simp only [List.append_nil] at same
      simp only [List.nil_append,List.cons.injEq] at rest
      rw [← same,rest.1]
      exact room
    | cons head tail =>
      simp only [List.cons_append,List.cons.injEq] at rest
      exact limited before other tail (by rw [same,rest.1])

/-- No window holds more events than the limit, if all that come before one of its events are
within the width of it. -/
theorem Limited.count_le (limited : Limited width limit events) (sorted : events.SortedLE) (inside : T → Bool)
    (narrow : ∀ first last, inside first = true → inside last = true → first ≤ last → last - width < first) :
    (events.filter inside).length ≤ limit := by
  induction events using List.reverseRecOn with
  | nil => simp
  | append_singleton before event ih =>
    have earlier : Limited width limit before := fun first other after split_ => limited first other (after ++ [event]) (by
      rw [split_]
      simp)
    have pairs := List.pairwise_append.mp sorted.pairwise
    rw [List.filter_append,List.length_append]
    by_cases here : inside event = true
    · have fewer : (before.filter inside).length ≤ (since (event - width) before).length := by
        rw [since,← List.countP_eq_length_filter,← List.countP_eq_length_filter]
        apply List.countP_mono_left
        intro first member chosen
        rw [decide_eq_true_eq]
        exact narrow first event chosen here (pairs.2.2 first member event (by simp))
      have room := limited before event [] rfl
      simp only [List.filter_cons,here,if_true,List.filter_nil,List.length_cons,List.length_nil]
      omega
    · simpa [here] using ih earlier pairs.1.sortedLE

end Windows

end SlidingWindow
