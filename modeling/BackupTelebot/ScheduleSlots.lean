import BackupTelebot.SessionRules

/-! Schedule slots: whatever the sessions do at once, a slot has one run and a profile one
active run, and a tick that leaves a due slot behind leaves a run of it. -/
namespace BackupTelebot.Queue

open PyJson Interleave Transactions

variable {κ : Type}

/-- Rows that clash pairwise are at most one. -/
theorem length_le_one {rows : List (Run κ)} (unlike : rows.Pairwise fun a b => ¬Clash a b)
    (clash : ∀ a ∈ rows, ∀ b ∈ rows, Clash a b) : rows.length ≤ 1 := by
  cases rows with
  | nil => exact Nat.zero_le 1
  | cons first rest =>
    cases rest with
    | nil => exact le_rfl
    | cons second rest =>
      have apart := (List.pairwise_cons.mp unlike).1 second List.mem_cons_self
      exact absurd (clash first List.mem_cons_self second (List.mem_cons_of_mem _ List.mem_cons_self)) apart

theorem clash_of_fills {a b : Run κ} {p : ProfileId} {slot : Time} (first : a.fills p slot = true)
    (second : b.fills p slot = true) : Clash a b := by
  obtain ⟨profile,trigger,at_⟩ := Run.fills_iff.mp first
  obtain ⟨profile',trigger',at'⟩ := Run.fills_iff.mp second
  refine ⟨profile.trans profile'.symm,.inr ⟨trigger.trans trigger'.symm,at_.trans at'.symm,?_⟩⟩
  rw [at_]
  rfl

section Unique

variable {db : Db (Contents κ) Key (Run κ)} (unique : db.Unique Clash)
include unique

theorem rows_unlike : db.rows.Pairwise fun a b => ¬Clash a b :=
  List.Pairwise.sublist (List.sublist_append_left _ _) unique

theorem slot_le_one (p : ProfileId) (slot : Time) : (db.rows.filter (·.fills p slot)).length ≤ 1 := by
  refine length_le_one ((rows_unlike unique).filter _) fun a first b second => ?_
  exact clash_of_fills (List.mem_filter.mp first).2 (List.mem_filter.mp second).2

theorem active_le_one (p : ProfileId) :
    (db.rows.filter fun run => run.profileId = p && decide run.status.Active).length ≤ 1 := by
  refine length_le_one ((rows_unlike unique).filter _) fun a first b second => ?_
  have first := (List.mem_filter.mp first).2
  have second := (List.mem_filter.mp second).2
  simp only [Bool.and_eq_true,decide_eq_true_eq] at first second
  exact ⟨first.1.trans second.1.symm,.inl ⟨first.2,second.2⟩⟩

/-- A run of a slot is the only one. -/
theorem only_run {p : ProfileId} {slot : Time} {run : Run κ} (member : run ∈ db.rows) (fills : run.fills p slot = true) :
    db.rows.filter (·.fills p slot) = [run] := by
  have there : run ∈ db.rows.filter (·.fills p slot) := List.mem_filter.mpr ⟨member,fills⟩
  have bound := slot_le_one unique p slot
  obtain ⟨only,is⟩ := List.length_eq_one_iff.mp (le_antisymm bound (List.length_pos_of_mem there))
  rw [is] at there ⊢
  rw [List.mem_singleton.mp there]

end Unique

/-- In every reachable state a slot has at most one run and a profile at most one active
run. A tick that moves a cursor away from a slot does so only when the slot is due, and its
commit leaves exactly one run of the slot, which was committed before or which it has
inserted itself, queued, or skipped after it has seen an active run of the profile. -/
theorem slots_runOnce (calendar : Calendar κ) (s : System κ) (run : Reached calendar (fun _ _ => True) s) :
    (∀ p slot, (s.db.rows.filter (·.fills p slot)).length ≤ 1) ∧
    (∀ p, (s.db.rows.filter fun run => run.profileId = p && decide run.status.Active).length ≤ 1) ∧
    ∀ t i s', System.step calendar s (.perform t i) = some s' →
      (∀ p ∈ s'.control.sawActive t, p ∈ s.control.sawActive t ∨
        ∃ other ∈ s.db.table t, other.profileId = p ∧ other.status.Active) ∧
      ∀ now timezone, s.job t = some (.tick now timezone) → ∀ p before after due,
        s.db.contents.profile p = some before → before.nextScheduledAt = some due →
        s'.db.contents.profile p = some after → after.nextScheduledAt ≠ some due →
          due ≤ now ∧ ∃ own, s'.db.rows.filter (·.fills p due) = [own] ∧
            (own ∈ s.db.rows ∨ own ∉ s.db.rows ∧ (t,own) ∈ s.db.inserted ∧
              (own.status = .queued ∨ own.status = .skipped ∧ p ∈ s.control.sawActive t)) := by
  have coherent : Coherent False s := coherent_of_reached False.elim run
  refine ⟨slot_le_one coherent.sane.valid.unique,active_le_one coherent.sane.valid.unique,fun t i s' h => ?_⟩
  obtain ⟨coherent',job,started,guar⟩ := coherent.perform False.elim h
  refine ⟨guar.seen,fun now timezone ticks p before after due was cursor is moved => ?_⟩
  obtain ⟨reached,own,member,fills,whose⟩ :=
    guar.moved now timezone (Option.some.inj (started.symm.trans ticks)) p before after due was cursor is moved
  refine ⟨reached,own,only_run coherent'.sane.valid.unique member fills,?_⟩
  by_cases old : own ∈ s.db.rows
  · exact .inl old
  · exact .inr ⟨old,whose.resolve_left old⟩

def smallContents : Contents Nat where
  backupTimezone := none
  profile := fun p => if p = 0 then some ⟨true,none,.everyNMinutes,some 5,0⟩ else none
  source := fun p => if p = 0 then some ⟨.database,0,none⟩ else none
  paths := fun _ => []
  server := fun _ => 0
  access := []

def smallCalendar : Calendar Nat := fun _ now _ => .ok (some (now + 100))

def plainReply : Reply := ⟨none,[0],by decide,0⟩

theorem small_initial : System.Initial (System.fresh smallContents) := ⟨_,rfl⟩

def smallTick : List (Act Nat) := .start 0 (.tick 10 []) :: List.replicate 9 (.perform 0 plainReply)

def Job.isTick (now : Time) : Job κ → Bool
  | .tick now' [] => now' = now
  | _ => false

theorem slots_runOnce_small : ∃ s s', Reached smallCalendar (fun _ _ => True) s ∧
    System.step smallCalendar s (.perform 0 plainReply) = some s' ∧
    (s'.db.contents.profile 0).map BackupProfile.nextScheduledAt = some (some 110) ∧
    ∃ own, s'.db.rows.filter (·.fills 0 5) = [own] := by
  obtain ⟨s,reached,passed⟩ := Runs.exists_of_follow (System.step smallCalendar) smallTick
    (fun s => (s.db.contents.profile 0 = some ⟨true,none,.everyNMinutes,some 5,0⟩) &&
      (s.job 0).any (Job.isTick 10) && (System.step smallCalendar s (.perform 0 plainReply)).any fun s' =>
        s'.db.contents.profile 0 = some ⟨true,none,.everyNMinutes,some 110,0⟩)
    small_initial (by decide +kernel)
  simp only [Bool.and_eq_true,decide_eq_true_eq,Option.any_eq_true] at passed
  obtain ⟨⟨was,job,started,ticks⟩,s',h,is⟩ := passed
  obtain rfl : job = .tick 10 [] := by
    unfold Job.isTick at ticks
    split at ticks
    · rw [decide_eq_true_eq.mp ticks]
    · cases ticks
  have law := ((slots_runOnce smallCalendar s reached).2.2 0 plainReply s' h).2 10 [] started 0 _ _ 5 was rfl is (by simp)
  obtain ⟨-,own,only,-⟩ := law
  exact ⟨s,s',reached,h,by rw [is]; rfl,own,only⟩

end BackupTelebot.Queue
