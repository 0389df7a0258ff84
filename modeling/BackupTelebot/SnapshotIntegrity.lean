import BackupTelebot.ScheduleSlots

/-! Snapshots of configurations: a queued run records what one commit left, unless a retry
takes the profile from an object that it loaded before it waited for the row. -/
namespace BackupTelebot.Queue

open PyJson Interleave Transactions

variable {κ : Type}

/-- In every run in which each retry that locks its profile holds the row as it is, each
stored snapshot is the complete configuration of some committed state, in which the
profile was enabled and not archived. -/
theorem snapshots_untorn (calendar : Calendar κ) (s : System κ) (run : Reached calendar RetriesUptodate s) :
    ∀ queued ∈ s.db.rows, ∀ config, queued.configurationSnapshot = some config →
      ∃ c ∈ s.db.history, c.configuration queued.profileId = some config ∧
        ∃ profile, c.profile queued.profileId = some profile ∧ profile.enabled = true ∧ profile.archivedAt = none := by
  have coherent : Coherent True s := coherent_of_reached (fun _ _ _ allowed => allowed) run
  intro queued member config snapshot
  exact coherent.snapshots trivial queued (List.mem_append_left _ member) config snapshot

/-- What `RetriesUptodate` asks of one step, evaluated. -/
def uptodate (s : System Nat) : Act Nat → Bool
  | .perform t _ =>
    match s.job t, s.sys.pointOf t with
    | some (.retry _), some (.lockProfile p) => s.control.held t p = s.db.contents.profile p
    | _, _ => true
  | _ => true

theorem retriesUptodate_of_uptodate (s : System Nat) (a : Act Nat) (h : uptodate s a = true) : RetriesUptodate s a := by
  rintro t i id p rfl job waits
  simpa [uptodate,job,waits] using h

def performs (t n : Nat) : List (Act Nat) := List.replicate n (.perform t plainReply)

/-- A manual run that fails, and a retry of it that has loaded the run and its profile. -/
def loadedRetry : List (Act Nat) :=
  [.start 0 (.manual 0)] ++ performs 0 7 ++ [.progress 0 .failed,.start 1 (.retry 0)] ++ performs 1 2

def secondConfiguration : ConfigurationUpdate Nat := ⟨true,.manual,fun _ => 1,fun _ => ⟨.database,1,none⟩,[],[]⟩

def tornSnapshot : RunConfig Nat := ⟨true,.everyNMinutes,some 5,0,some ⟨.database,1,none⟩,[],none,[]⟩

theorem snapshots_untorn_small : ∃ s, Reached smallCalendar RetriesUptodate s ∧
    ∃ queued ∈ s.db.rows, queued.id = 1 ∧ ∃ config, queued.configurationSnapshot = some config ∧
      ∃ c ∈ s.db.history, c.configuration queued.profileId = some config := by
  obtain ⟨s,reached,passed⟩ := Runs.exists_of_checked (System.step smallCalendar) (loadedRetry ++ performs 1 7)
    (fun s => s.db.rows.any fun queued => queued.id = 1 && queued.configurationSnapshot.isSome)
    retriesUptodate_of_uptodate small_initial (by decide +kernel)
  simp only [List.any_eq_true,Bool.and_eq_true,decide_eq_true_eq] at passed
  obtain ⟨queued,member,second,stored⟩ := passed
  obtain ⟨config,snapshot⟩ := Option.isSome_iff_exists.mp stored
  obtain ⟨c,old,same,-⟩ := snapshots_untorn smallCalendar s reached queued member config snapshot
  exact ⟨s,reached,queued,member,second,config,snapshot,c,old,same⟩

/-- The retry stores the old columns with the new source: no commit left this. -/
theorem snapshot_torn : ∃ s, Reached smallCalendar (fun _ _ => True) s ∧
    ∃ queued ∈ s.db.rows, queued.configurationSnapshot = some tornSnapshot ∧
      ∀ c ∈ s.db.history, c.configuration queued.profileId ≠ some tornSnapshot := by
  obtain ⟨s,reached,passed⟩ := Runs.exists_of_follow (System.step smallCalendar)
    (loadedRetry ++ [.start 2 (.updateConfiguration 0 secondConfiguration)] ++ performs 2 6 ++ performs 1 7)
    (fun s => s.db.rows.any fun queued => queued.configurationSnapshot = some tornSnapshot &&
      s.db.history.all fun c => c.configuration queued.profileId ≠ some tornSnapshot)
    small_initial (by decide +kernel)
  simp only [List.any_eq_true,List.all_eq_true,Bool.and_eq_true,decide_eq_true_eq] at passed
  obtain ⟨queued,member,snapshot,torn⟩ := passed
  exact ⟨s,reached,queued,member,snapshot,torn⟩

end BackupTelebot.Queue
