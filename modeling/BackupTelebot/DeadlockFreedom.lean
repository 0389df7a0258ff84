import BackupTelebot.ConfigurationLocks
import Mathlib.Data.Prod.Lex

/-! Sessions that change or read the configuration do not wait for each other in a circle,
as long as statements that lock several profiles at the same time agree on an order. The
scheduler and an assignment that disagree do. -/
namespace BackupTelebot.Queue.ConfigurationLocks

open PyJson Interleave Transactions

variable {κ : Type}

section System

variable {known : Str → Bool} {calendar : Calendar κ} {s s' : System κ}

theorem orderly_of_reached {allowed : System κ → Act κ → Prop} (reached : Reached known calendar allowed s) :
    locking.Orderly manners s := by
  induction reached with
  | start initial =>
    obtain ⟨contents,rfl⟩ := initial
    exact .of_fresh fun _ => rfl
  | next _ _ h ih =>
    apply Locking.Orderly.step (fun t => program_climbs known) _ ih h
    exact fun t u shared other => (own_release (s := shared) rfl).2 u other

def Ranked (s : System κ) : Prop := ∃ rank, ∀ u, s.sys.pointOf u ≠ none → Ascending rank (s.notes u)

/-- A session that has not begun such a statement in this step keeps its order or forgets it. -/
theorem note_ascending {rank : ProfileId → Nat} {point : Point} (other : point ≠ .select) (i : Reply)
    {order : List ProfileId} (ascending : Ascending rank order) : Ascending rank (manners.note point i order) := by
  cases point with
  | select => exact absurd rfl other
  | scan p => exact ascending
  | reserve p => exact ascending
  | _ => exact List.Pairwise.nil

theorem ranked_step {a : Act κ} (ranked : Ranked s) (agreed : Agreed s a) (h : step known calendar s a = some s') :
    Ranked s' := by
  obtain ⟨state,stepped,rfl⟩ := Option.map_eq_some_iff.mp h
  cases a with
  | perform t i =>
    obtain ⟨sys,advanced,rfl⟩ := Option.map_eq_some_iff.mp stepped
    obtain ⟨point,_,_,_,_,task,_,rfl⟩ := Sys.advance_cases advanced
    have waits : s.sys.pointOf t = some point := by simp [Sound.pointOf_eq task,Prog.point]
    obtain ⟨rank,mine,others⟩ : ∃ rank, Ascending rank (manners.note point i (s.notes t)) ∧
        ∀ u, u ≠ t → s.sys.pointOf u ≠ none → Ascending rank (s.notes u) := by
      by_cases selects : point = .select
      · subst selects
        exact agreed t i rfl waits
      · obtain ⟨rank,ascending⟩ := ranked
        exact ⟨rank,note_ascending selects i (ascending t (by simp [waits])),fun u _ => ascending u⟩
    refine ⟨rank,fun u running => ?_⟩
    by_cases same : u = t
    · subst same
      simpa only [Locking.Noted.noted,Function.update_self,waits,Option.map_some,Option.getD_some] using mine
    · simp only [Sys.pointOf,Function.update_of_ne same] at running
      simp only [Locking.Noted.noted,Function.update_of_ne same]
      exact others u same running
  | fails t e =>
    obtain ⟨sys,interrupted,rfl⟩ := Option.map_eq_some_iff.mp stepped
    obtain ⟨point,_,_,_,_,task,rfl⟩ := Sys.interrupt_cases interrupted
    obtain ⟨rank,ascending⟩ := ranked
    refine ⟨rank,fun u running => ascending u ?_⟩
    by_cases same : u = t
    · subst same
      simp [Sound.pointOf_eq task,Prog.point]
    · simp only [Sys.pointOf,Function.update_of_ne same] at running
      exact running
  | crash t =>
    obtain rfl := Option.some.inj stepped
    obtain ⟨rank,ascending⟩ := ranked
    refine ⟨rank,fun u running => ascending u ?_⟩
    by_cases same : u = t
    · subst same
      simp [Sys.pointOf,Sys.kill] at running
    · simp only [Sys.pointOf,Sys.kill,Function.update_of_ne same] at running
      exact running
  | lost t =>
    simp only [Sessions.step] at stepped
    split_ifs at stepped
    obtain rfl := Option.some.inj stepped
    exact ranked
  | start t job =>
    simp only [Sessions.step] at stepped
    split_ifs at stepped
    obtain rfl := Option.some.inj stepped
    obtain ⟨rank,ascending⟩ := ranked
    refine ⟨rank,fun u running => ?_⟩
    by_cases same : u = t
    · subst same
      simp only [Locking.Noted.noted,Function.update_self]
      exact List.Pairwise.nil
    · simp only [Sys.pointOf,Sys.spawn,Function.update_of_ne same] at running
      simp only [Locking.Noted.noted,Function.update_of_ne same]
      exact ascending u running

theorem ranked_of_reached (reached : Reached known calendar Agreed s) : Ranked s := by
  induction reached with
  | start initial =>
    obtain ⟨contents,rfl⟩ := initial
    exact ⟨id,fun u running => absurd rfl running⟩
  | next _ agreed h ih => exact ranked_step ih agreed h

/-- The settings come first, then the profiles by their rank, then the servers: first those
of the session that has the settings, which alone waits for one server with another in hand. -/
def level (rank : ProfileId → Nat) (s : Control κ) : Key → ℕ ×ₗ ℕ
  | .settings => toLex (0,0)
  | .profile p => toLex (1,rank p)
  | .server id =>
      if s.db.holder .settings ≠ none ∧ s.db.holder (.server id) = s.db.holder .settings then toLex (2,0) else toLex (3,0)

/-- Whoever holds a row and waits for another waits for one of a higher level. -/
theorem level_ascends {rank : ProfileId → Nat} (orderly : locking.Orderly manners s)
    (ascending : ∀ u, s.sys.pointOf u ≠ none → Ascending rank (s.notes u)) {t : Nat} {k k' : Key}
    (holds : s.control.db.holder k = some t) (wants : locking.Wants s.sys t k') :
    level rank s.control k < level rank s.control k' := by
  have fine := orderly.fine wants
  have running : s.sys.pointOf t ≠ none := by
    obtain ⟨point,_,_,_,_,task,-⟩ := wants
    simp [Sound.pointOf_eq task,Prog.point]
  have own : k ∈ locking.own t s.sys.shared := holds
  cases k' with
  | settings =>
    have nothing : locking.own t s.sys.shared = ∅ := fine
    rw [nothing] at own
    cases own
  | profile p =>
    cases k with
    | settings => simp [level,Prod.Lex.toLex_lt_toLex]
    | profile q =>
      have before : rank q < rank p := by
        have pair := (ascending t running).sublist (fine.2 q own)
        simpa using pair
      simp [level,Prod.Lex.toLex_lt_toLex,before]
    | server id => exact absurd own (fine.1 id)
  | server id =>
    cases k with
    | settings =>
      simp only [level]
      split
      · simp [Prod.Lex.toLex_lt_toLex]
      · simp [Prod.Lex.toLex_lt_toLex]
    | profile q =>
      simp only [level]
      split
      · simp [Prod.Lex.toLex_lt_toLex]
      · simp [Prod.Lex.toLex_lt_toLex]
    | server id' =>
      have settings : s.control.db.holder .settings = some t := fine.2 id' own
      have elsewhere : s.control.db.holder (.server id) ≠ some t := fine.1
      simp [level,settings,holds,elsewhere,Prod.Lex.toLex_lt_toLex]

/-- Where statements that lock several profiles at the same time agree on their order, no
sessions wait for each other's rows in a circle. -/
theorem configuration_deadlockFree (s : System κ) (reached : Reached known calendar Agreed s) (t : Nat) :
    ¬Relation.TransGen (locking.WaitsFor s.sys) t t := by
  obtain ⟨rank,ascending⟩ := ranked_of_reached reached
  apply locking.no_cycle (level rank s.control)
  exact fun t k k' holds wants => level_ascends (orderly_of_reached reached) ascending holds wants

def Sorted (rank : ProfileId → Nat) (s : System κ) (a : Act κ) : Prop :=
  ∀ t i, a = .perform t i → s.sys.pointOf t = some .select → Ascending rank i.scan

theorem sorted_notes {rank : ProfileId → Nat} (reached : Reached known calendar (Sorted rank) s) (u : Nat) :
    Ascending rank (s.notes u) := by
  induction reached generalizing u with
  | start initial =>
    obtain ⟨contents,rfl⟩ := initial
    exact List.Pairwise.nil
  | @next s s' a _ sorted h ih =>
    obtain ⟨state,-,rfl⟩ := Option.map_eq_some_iff.mp h
    cases a with
    | perform t i =>
      by_cases same : u = t
      · subst same
        simp only [Locking.Noted.noted,Function.update_self]
        cases waits : s.sys.pointOf u with
        | none => exact ih u
        | some point =>
          by_cases selects : point = .select
          · subst selects
            exact sorted u i rfl waits
          · exact note_ascending selects i (ih u)
      · simp only [Locking.Noted.noted,Function.update_of_ne same]
        exact ih u
    | start t job =>
      by_cases same : u = t
      · subst same
        simp only [Locking.Noted.noted,Function.update_self]
        exact List.Pairwise.nil
      · simp only [Locking.Noted.noted,Function.update_of_ne same]
        exact ih u
    | _ => exact ih u

/-- One order for all statements is enough. -/
theorem agreed_of_sorted {rank : ProfileId → Nat} (reached : Reached known calendar (Sorted rank) s) :
    Reached known calendar Agreed s := by
  induction reached with
  | start initial => exact .start initial
  | next run sorted h ih =>
    refine .next ih (fun t i same waits => ⟨rank,sorted t i same waits,fun u _ _ => ?_⟩) h
    exact sorted_notes run u

end System

def twoProfiles : Contents Nat :=
  { smallContents with profile := fun p => if p < 2 then some ⟨true,none,.everyNMinutes,some 5,0⟩ else none }

def upwards : Reply := ⟨none,[0,1],by decide,0⟩

def downwards : Reply := ⟨none,[1,0],by decide,0⟩

/-- A tick that has locked the first profile, and an assignment that has found its profiles. -/
def tickAndAssign (found : Reply) : List (Act Nat) :=
  .start 0 (.tick 10 []) :: List.replicate 3 (.perform 0 upwards) ++
    .start 1 (.assign 7 [0,1]) :: List.replicate 2 (.perform 1 found)

def waitsNow (s : System Nat) (t u : Nat) (k : Key) : Bool :=
  (match s.sys.task t with
    | some (.act _ guard _ _ _) => !guard s.control && guard (locking.release k s.control)
    | _ => false) && s.control.db.holder k = some u

theorem waitsFor_of_now {s : System Nat} {t u : Nat} {k : Key} (now : waitsNow s t u k = true) :
    locking.WaitsFor s.sys t u := by
  simp only [waitsNow,Bool.and_eq_true,decide_eq_true_eq] at now
  obtain ⟨wants,holds⟩ := now
  split at wants
  · rename_i point guard effect next raised task
    simp only [Bool.and_eq_true,Bool.not_eq_true'] at wants
    exact ⟨k,⟨point,guard,effect,next,raised,task,wants⟩,holds⟩
  · cases wants

abbrev SmallReached (allowed : System Nat → Act Nat → Prop) : System Nat → Prop :=
  Reached (fun _ => true) smallCalendar allowed

/-- A statement on several rows meets them in rising order. -/
def inOrder (s : System Nat) : Act Nat → Bool
  | .perform t i => s.sys.pointOf t ≠ some .select || decide (i.scan.Pairwise fun p q => p < q)
  | _ => true

theorem sorted_of_inOrder {s : System Nat} {a : Act Nat} (checked : inOrder s a = true) : Sorted id s a := by
  rintro t i rfl waits
  simpa [inOrder,waits,Ascending] using checked

/-- Both meet the profiles in the same order: the assignment waits, and nobody waits for it. -/
theorem configuration_deadlockFree_small : ∃ s, SmallReached Agreed s ∧ locking.WaitsFor s.sys 1 0 ∧
    ¬Relation.TransGen (locking.WaitsFor s.sys) 1 1 := by
  obtain ⟨s,reached,passed⟩ : ∃ s, SmallReached (Sorted id) s ∧ waitsNow s 1 0 (.profile 0) = true :=
    Runs.exists_of_checked (step (fun _ => true) smallCalendar) (tickAndAssign upwards)
      (fun s => waitsNow s 1 0 (.profile 0)) (fun _ _ => sorted_of_inOrder) ⟨twoProfiles,rfl⟩ (by decide +kernel)
  have agreed : SmallReached Agreed s := agreed_of_sorted reached
  exact ⟨s,agreed,waitsFor_of_now passed,configuration_deadlockFree s agreed 1⟩

/-- The assignment meets them the other way round: it has the second profile and waits for the
first, which the tick has, and the tick waits for the second. -/
theorem configuration_deadlocks : ∃ s, SmallReached (fun _ _ => True) s ∧
    Relation.TransGen (locking.WaitsFor s.sys) 0 0 := by
  obtain ⟨s,reached,passed⟩ : ∃ s, SmallReached (fun _ _ => True) s ∧
      (waitsNow s 0 1 (.profile 1) && waitsNow s 1 0 (.profile 0)) = true :=
    Runs.exists_of_follow (step (fun _ => true) smallCalendar)
      (tickAndAssign downwards ++ [.perform 1 downwards])
      (fun s => waitsNow s 0 1 (.profile 1) && waitsNow s 1 0 (.profile 0)) ⟨twoProfiles,rfl⟩ (by decide +kernel)
  simp only [Bool.and_eq_true] at passed
  exact ⟨s,reached,.tail (.single (waitsFor_of_now passed.1)) (waitsFor_of_now passed.2)⟩

end BackupTelebot.Queue.ConfigurationLocks
