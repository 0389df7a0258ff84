import BackupTelebot.JsonValue
import BackupTelebot.PythonDict

/-! Which native backup a GitLab command has left in its directory, and when it is no longer
being written. The local helper and the remote acquisition take the same decisions; they
differ in how they list the directory and in what they raise. -/
namespace BackupTelebot.NativeBackups

open PyJson PyDict

structure FileState where
  name : Str
  inode : ℕ
  size : ℤ
  mtimeNs : ℤ
  deriving DecidableEq

structure Snapshot where
  states : Dict Str FileState
  named : ∀ name state, states.get name = some state → state.name = name

namespace Snapshot

def empty : Snapshot := ⟨Dict.empty,by simp⟩

def get (s : Snapshot) (name : Str) : Option FileState := s.states.get name

def items (s : Snapshot) : List (Str × FileState) := s.states.entries

def add (s : Snapshot) (state : FileState) : Snapshot where
  states := s.states.set state.name state
  named := by
    intro name found here
    rw [Dict.get_set] at here
    split_ifs at here with same
    · obtain rfl := Option.some.inj here
      exact same.symm
    · exact s.named name found here

end Snapshot

inductive EntryKind where
  | regular
  | symlink
  | other
  deriving DecidableEq

/-- What `scandir` and `lstat` tell about one name. -/
structure Entry where
  kind : EntryKind
  state : FileState
  deriving DecidableEq

structure Listing where
  entries : List Entry
  distinct : (entries.map (·.state.name)).Nodup

structure AcquisitionError where
  message : String
  deriving DecidableEq

structure PipelineError where
  code : String
  message : String
  deriving DecidableEq

def suffix_ : Str := str "_gitlab_backup.tar"

def isBackup (entry : Entry) : Bool := suffix_.isSuffixOf entry.state.name && entry.kind = .regular

def Listing.backups (listing : Listing) : List FileState := (listing.entries.filter isBackup).map (·.state)

def snapshotEntry (result : Snapshot) (entry : Entry) : Except AcquisitionError Snapshot :=
  if entry.kind = .symlink then .error ⟨"symlinks are forbidden in the GitLab backup root"⟩
  else .ok (if isBackup entry then result.add entry.state else result)

/-- `_snapshot` of the helper. -/
def snapshot (listing : Listing) : Except AcquisitionError Snapshot := listing.entries.foldlM snapshotEntry Snapshot.empty

/-- `_remote_snapshot` over the listing that the remote script prints. -/
def remoteSnapshot (listing : Listing) : Except PipelineError Snapshot :=
  let states := listing.backups.foldl Snapshot.add Snapshot.empty
  if states.items.length ≠ listing.backups.length then
    .error ⟨"GITLAB_ARTIFACT_AMBIGUOUS","duplicate GitLab artifact names"⟩
  else .ok states

/-- A snapshot has exactly the backups of a listing, each under its name. -/
def Snapshot.Of (s : Snapshot) (listing : Listing) : Prop :=
  ∀ name state, s.get name = some state ↔ state ∈ listing.backups ∧ state.name = name

theorem Snapshot.get_add (s : Snapshot) (state : FileState) (name : Str) :
    (s.add state).get name = if name = state.name then some state else s.get name := Dict.get_set _ _ _ _

theorem Snapshot.get_foldl {states : List FileState} (distinct : (states.map (·.name)).Nodup) (s : Snapshot) (name : Str)
    (state : FileState) : (states.foldl Snapshot.add s).get name = some state ↔
      (state ∈ states ∧ state.name = name) ∨ (name ∉ states.map (·.name) ∧ s.get name = some state) := by
  induction states generalizing s with
  | nil => simp
  | cons first rest ih =>
    rw [List.map_cons,List.nodup_cons] at distinct
    rw [List.foldl_cons,ih distinct.2,Snapshot.get_add,List.mem_cons,List.map_cons,List.mem_cons,not_or]
    by_cases same : name = first.name
    · subst same
      simp only [distinct.1,not_false_eq_true,true_and,if_true,Option.some.injEq,not_true_eq_false,false_and,or_false]
      constructor
      · rintro (⟨later,named⟩ | rfl)
        · exact ⟨.inr later,named⟩
        · exact ⟨.inl rfl,rfl⟩
      · rintro ⟨rfl | later,named⟩
        · exact .inr rfl
        · exact .inl ⟨later,named⟩
    · simp only [same,if_false,not_false_eq_true,true_and]
      have other : state.name = name → state ≠ first := fun named eq => same (by rw [← named,eq])
      tauto

theorem Listing.backups_distinct (listing : Listing) : (listing.backups.map (·.name)).Nodup := by
  rw [Listing.backups,List.map_map]
  exact listing.distinct.sublist ((List.filter_sublist).map _)

theorem of_foldl (listing : Listing) : (listing.backups.foldl Snapshot.add Snapshot.empty).Of listing := by
  intro name state
  rw [Snapshot.get_foldl listing.backups_distinct]
  simp [Snapshot.get,Snapshot.empty]

theorem snapshot_of {listing : Listing} {s : Snapshot} (taken : snapshot listing = .ok s) : s.Of listing := by
  have scan : ∀ (entries : List Entry) (result : Snapshot), entries.foldlM snapshotEntry result = .ok s →
      s = ((entries.filter isBackup).map (·.state)).foldl Snapshot.add result := by
    intro entries
    induction entries with
    | nil =>
      intro result ended
      exact (Except.ok.inj ended).symm
    | cons entry rest ih =>
      intro result ended
      rw [List.foldlM_cons] at ended
      by_cases link : entry.kind = .symlink
      · rw [snapshotEntry,if_pos link] at ended
        cases ended
      · rw [snapshotEntry,if_neg link] at ended
        rw [ih _ ended]
        by_cases backup : isBackup entry = true <;> simp [backup]
  rw [scan listing.entries Snapshot.empty taken]
  exact of_foldl listing

theorem remoteSnapshot_of {listing : Listing} {s : Snapshot} (taken : remoteSnapshot listing = .ok s) : s.Of listing := by
  simp only [remoteSnapshot] at taken
  split_ifs at taken
  obtain rfl := Except.ok.inj taken
  exact of_foldl listing

def isNew (before : Snapshot) (item : Str × FileState) : Bool :=
  match before.get item.1 with
  | none => true
  | some old => old.inode ≠ item.2.inode

def isCandidate (before : Snapshot) (startedNs : ℤ) (item : Str × FileState) : Bool :=
  isNew before item && decide (startedNs - 1000000000 ≤ item.2.mtimeNs) && decide (0 < item.2.size)

def detect {ε : Type} (ambiguous : ℕ → ε) (before after : Snapshot) (startedNs : ℤ) : Except ε FileState :=
  match after.items.filter (isCandidate before startedNs) with
  | [item] => .ok item.2
  | candidates => .error (ambiguous candidates.length)

def expectedOne (found : ℕ) : String := s!"expected exactly one new GitLab backup, found {found}"

/-- `_detect_new_backup` of the helper. -/
def detectNewBackupLocal : Snapshot → Snapshot → ℤ → Except AcquisitionError FileState :=
  detect fun found => ⟨expectedOne found⟩

/-- `detect_new_backup` of the pipeline. -/
def detectNewBackup : Snapshot → Snapshot → ℤ → Except PipelineError FileState :=
  detect fun found => ⟨"GITLAB_ARTIFACT_AMBIGUOUS",expectedOne found⟩

section Stability

variable {ε : Type}

/-- The loop of both stability checks over the snapshots that it takes, each of which can
fail. What it ends with comes with the snapshots not taken; without an end it goes on. -/
def watch (gone : ε) (name : Str) (checks : ℕ) (previous : Option FileState) (stable : ℕ) :
    List (Except ε Snapshot) → Option (Except ε (Option FileState) × List (Except ε Snapshot))
  | [] => if checks ≤ stable then some (.ok previous,[]) else none
  | looked :: rest =>
      if checks ≤ stable then some (.ok previous,looked :: rest)
      else match looked with
        | .error e => some (.error e,rest)
        | .ok s => match s.get name with
          | none => some (.error gone,rest)
          | some current =>
              if current.size ≤ 0 then some (.error gone,rest)
              else watch gone name checks (some current) (if some current = previous then stable + 1 else 1) rest

def found (unavailable : ε) : Except ε (Option FileState) → Except ε FileState
  | .error e => .error e
  | .ok none => .error unavailable
  | .ok (some state) => .ok state

/-- A stability check by the two errors that it raises itself. -/
def stableFrom (gone unavailable : ε) (expected : FileState) (checks : ℕ) (snapshots : List (Except ε Snapshot)) :
    Option (Except ε FileState × List (Except ε Snapshot)) :=
  (watch gone expected.name checks none 0 snapshots).map fun ended => (found unavailable ended.1,ended.2)

end Stability

def disappeared : AcquisitionError := ⟨"GitLab artifact disappeared or is empty"⟩

/-- `_stable_file` of the helper. -/
def stableFile : FileState → ℕ → List (Except AcquisitionError Snapshot) →
    Option (Except AcquisitionError FileState × List (Except AcquisitionError Snapshot)) :=
  stableFrom disappeared ⟨"GitLab artifact stability check failed"⟩

def remoteDisappeared : PipelineError := ⟨"GITLAB_ARTIFACT_INVALID","GitLab artifact disappeared"⟩

def remoteStableFile : FileState → ℕ → List (Except PipelineError Snapshot) →
    Option (Except PipelineError FileState × List (Except PipelineError Snapshot)) :=
  stableFrom remoteDisappeared ⟨"GITLAB_ARTIFACT_INVALID","GitLab artifact is unavailable"⟩

section Stability

variable {ε : Type} {gone unavailable : ε} {name : Str}

def Shows (name : Str) (state : FileState) (looked : Except ε Snapshot) : Prop :=
  ∃ s, looked = .ok s ∧ s.get name = some state ∧ 0 < state.size

def Present (name : Str) (looked : Except ε Snapshot) : Prop := ∃ state, Shows name state looked

/-- The counter is the number of the last snapshots that showed the previous state. -/
def Counted (name : Str) (previous : Option FileState) (recent : List (Except ε Snapshot)) : Prop :=
  ∀ looked ∈ recent, ∃ state, previous = some state ∧ Shows name state looked

theorem Counted.next {previous : Option FileState} {recent : List (Except ε Snapshot)} {looked : Except ε Snapshot}
    {current : FileState} (counted : Counted name previous recent) (shown : Shows name current looked) :
    ∃ earlier recent', recent ++ [looked] = earlier ++ recent' ∧ Counted name (some current) recent' ∧
      recent'.length = if some current = previous then recent.length + 1 else 1 := by
  by_cases same : some current = previous
  · refine ⟨[],recent ++ [looked],rfl,?_,by simp [same]⟩
    intro other member
    rcases List.mem_append.mp member with before | here
    · obtain ⟨state,kept,shows⟩ := counted other before
      exact ⟨state,same.trans kept,shows⟩
    · obtain rfl := List.mem_singleton.mp here
      exact ⟨current,rfl,shown⟩
  · refine ⟨recent,[looked],rfl,?_,by simp [same]⟩
    intro other here
    obtain rfl := List.mem_singleton.mp here
    exact ⟨current,rfl,shown⟩

/-- One more snapshot of a file that is there, and the loop goes on. -/
theorem watch_present {checks stable : ℕ} {previous : Option FileState} {looked : Except ε Snapshot}
    {rest : List (Except ε Snapshot)} {current : FileState} (more : stable < checks) (shown : Shows name current looked) :
    watch gone name checks previous stable (looked :: rest) =
      watch gone name checks (some current) (if some current = previous then stable + 1 else 1) rest := by
  obtain ⟨s,rfl,here,positive⟩ := shown
  rw [watch,if_neg (Nat.not_le.mpr more)]
  simp only [here]
  rw [if_neg (not_le.mpr positive)]

/-- Without the file, or with an empty one, the loop ends there. -/
theorem watch_absent (gone : ε) {checks stable : ℕ} (previous : Option FileState) {looked : Except ε Snapshot}
    (rest : List (Except ε Snapshot)) (more : stable < checks) (absent : ¬Present name looked) :
    ∃ e, watch gone name checks previous stable (looked :: rest) = some (.error e,rest) := by
  have goesOn : ¬checks ≤ stable := Nat.not_le.mpr more
  cases looked with
  | error e => exact ⟨e,by rw [watch,if_neg goesOn]⟩
  | ok s =>
    refine ⟨gone,?_⟩
    rw [watch,if_neg goesOn]
    cases here : s.get name with
    | none => rfl
    | some current =>
      have empty : current.size ≤ 0 := not_lt.mp fun positive => absent ⟨current,s,rfl,here,positive⟩
      exact if_pos empty

theorem watch_done {checks stable : ℕ} {previous : Option FileState} {snapshots : List (Except ε Snapshot)}
    (done : checks ≤ stable) : watch gone name checks previous stable snapshots = some (.ok previous,snapshots) := by
  cases snapshots with
  | nil => rw [watch,if_pos done]
  | cons looked rest =>
    cases looked with
    | error e => rw [watch,if_pos done]
    | ok s => rw [watch,if_pos done]

/-- A result is backed by as many equal snapshots as were asked for, the last ones taken. -/
theorem watch_stable {checks stable : ℕ} {previous result : Option FileState}
    {snapshots rest recent : List (Except ε Snapshot)} (within : stable ≤ checks) (counted : Counted name previous recent)
    (length : recent.length = stable) (ended : watch gone name checks previous stable snapshots = some (.ok result,rest)) :
    ∃ earlier last, recent ++ snapshots = earlier ++ last ++ rest ∧ last.length = checks ∧ Counted name result last := by
  induction snapshots generalizing previous stable recent with
  | nil =>
    by_cases done : checks ≤ stable
    · rw [watch_done done] at ended
      simp only [Option.some.injEq,Prod.mk.injEq,Except.ok.injEq] at ended
      obtain ⟨rfl,rfl⟩ := ended
      exact ⟨[],recent,by simp,by omega,counted⟩
    · rw [watch,if_neg done] at ended
      cases ended
  | cons looked more ih =>
    by_cases done : checks ≤ stable
    · rw [watch_done done] at ended
      simp only [Option.some.injEq,Prod.mk.injEq,Except.ok.injEq] at ended
      obtain ⟨rfl,rfl⟩ := ended
      exact ⟨[],recent,by simp,by omega,counted⟩
    · by_cases there : Present name looked
      · obtain ⟨current,shown⟩ := there
        rw [watch_present (Nat.not_le.mp done) shown] at ended
        obtain ⟨before,recent',split,counted',length'⟩ := counted.next shown
        have bounded : (if some current = previous then stable + 1 else 1) ≤ checks := by split_ifs <;> omega
        obtain ⟨earlier,last,parts,enough,same⟩ := ih bounded counted' (by rw [length',length]) ended
        refine ⟨before ++ earlier,last,?_,enough,same⟩
        calc recent ++ looked :: more
            = (recent ++ [looked]) ++ more := by simp
          _ = before ++ (recent' ++ more) := by rw [split,List.append_assoc]
          _ = before ++ earlier ++ last ++ rest := by rw [parts]; simp
      · obtain ⟨e,raised⟩ := watch_absent gone previous more (Nat.not_le.mp done) there
        rw [raised] at ended
        simp at ended

/-- A snapshot without the file is never passed: the loop has ended before, or it raises there. -/
theorem watch_stops (gone : ε) (checks stable : ℕ) (previous : Option FileState) (used more : List (Except ε Snapshot))
    {looked : Except ε Snapshot} (absent : ¬Present name looked) :
    ∃ ended rest, watch gone name checks previous stable (used ++ looked :: more) = some (ended,rest) ∧
      (looked :: more <:+ rest ∨ ∃ e, ended = .error e ∧ rest = more) := by
  induction used generalizing previous stable with
  | nil =>
    by_cases done : checks ≤ stable
    · exact ⟨_,_,watch_done done,.inl (List.suffix_refl _)⟩
    · obtain ⟨e,raised⟩ := watch_absent gone previous more (Nat.not_le.mp done) absent
      exact ⟨_,_,raised,.inr ⟨e,rfl,rfl⟩⟩
  | cons first others ih =>
    by_cases done : checks ≤ stable
    · exact ⟨_,_,watch_done done,.inl (List.suffix_append _ _)⟩
    · by_cases there : Present name first
      · obtain ⟨current,shown⟩ := there
        rw [List.cons_append,watch_present (Nat.not_le.mp done) shown]
        exact ih _ _
      · obtain ⟨e,raised⟩ := watch_absent gone previous (others ++ looked :: more) (Nat.not_le.mp done) there
        exact ⟨_,_,raised,.inl (List.suffix_append _ _)⟩

/-- What a stability check has to guarantee: the state that it returns was shown by each of
the last snapshots that it took, and a snapshot without the file is the last that it takes. -/
structure Reliable (check : FileState → ℕ → List (Except ε Snapshot) → Option (Except ε FileState × List (Except ε Snapshot)))
    (expected : FileState) (checks : ℕ) (snapshots : List (Except ε Snapshot)) : Prop where
  stable : ∀ state rest, check expected checks snapshots = some (.ok state,rest) →
    state.name = expected.name ∧ ∃ earlier last, snapshots = earlier ++ last ++ rest ∧ last.length = checks ∧
      ∀ looked ∈ last, Shows expected.name state looked
  stops : ∀ used looked more, snapshots = used ++ looked :: more → ¬Present expected.name looked →
    ∃ ended rest, check expected checks snapshots = some (ended,rest) ∧
      (looked :: more <:+ rest ∨ ∃ e, ended = .error e ∧ rest = more)

theorem Shows.state_name {state : FileState} {looked : Except ε Snapshot} (shown : Shows name state looked) :
    state.name = name := by
  obtain ⟨s,_,here,_⟩ := shown
  exact s.named name state here

theorem stableFrom_reliable (gone unavailable : ε) (expected : FileState) {checks : ℕ} (some_ : 1 ≤ checks)
    (snapshots : List (Except ε Snapshot)) : Reliable (stableFrom gone unavailable) expected checks snapshots where
  stable := by
    intro state rest ended
    obtain ⟨⟨outcome,rest'⟩,run,same⟩ := Option.map_eq_some_iff.mp ended
    obtain ⟨accepted,rfl⟩ := Prod.mk.inj same
    cases outcome with
    | error e => simp [found] at accepted
    | ok result =>
      cases result with
      | none => simp [found] at accepted
      | some state' =>
        obtain rfl : state' = state := by simpa [found] using accepted
        obtain ⟨earlier,last,parts,length,counted⟩ := watch_stable (Nat.zero_le checks) (by simp [Counted]) List.length_nil run
        have shown : ∀ looked ∈ last, Shows expected.name state' looked := by
          intro looked member
          obtain ⟨other,same,shown⟩ := counted looked member
          obtain rfl := Option.some.inj same
          exact shown
        have one : last ≠ [] := by
          rintro rfl
          rw [List.length_nil] at length
          omega
        obtain ⟨looked,member⟩ := List.exists_mem_of_ne_nil last one
        exact ⟨(shown looked member).state_name,earlier,last,parts,length,shown⟩
  stops := by
    intro used looked more split absent
    obtain ⟨ended,rest,run,stopped⟩ := watch_stops gone checks 0 none used more absent
    refine ⟨found unavailable ended,rest,by rw [split,stableFrom,run]; rfl,?_⟩
    rcases stopped with before | ⟨e,rfl,rfl⟩
    · exact .inl before
    · exact .inr ⟨e,rfl,rfl⟩

end Stability

/-- An entry that is new by its name or its inode and not empty, with a condition on when it
was modified. -/
structure Eligible (since : ℤ → Prop) (before after : Snapshot) (item : FileState) : Prop where
  listed : (item.name,item) ∈ after.items
  new : isNew before (item.name,item) = true
  positive : 0 < item.size
  recent : since item.mtimeNs

/-- The item selected is the only eligible one. -/
def Selects {ε : Type} (detection : Snapshot → Snapshot → Except ε FileState) (since : ℤ → Prop) : Prop :=
  ∀ before after item, detection before after = .ok item →
    Eligible since before after item ∧ ∀ other, Eligible since before after other → other = item

theorem Snapshot.name_of_mem {s : Snapshot} {item : Str × FileState} (member : item ∈ s.items) : item.2.name = item.1 :=
  s.named item.1 item.2 (Dict.mem_entries.mp member)

theorem candidate_iff {before after : Snapshot} {startedNs : ℤ} {item : FileState} :
    (item.name,item) ∈ after.items.filter (isCandidate before startedNs) ↔
      Eligible (startedNs - 1000000000 ≤ ·) before after item := by
  simp only [List.mem_filter,isCandidate,Bool.and_eq_true,decide_eq_true_eq]
  constructor
  · rintro ⟨listed,⟨new,recent⟩,positive⟩
    exact ⟨listed,new,positive,recent⟩
  · intro eligible
    exact ⟨eligible.listed,⟨eligible.new,eligible.recent⟩,eligible.positive⟩

theorem detect_selects {ε : Type} (ambiguous : ℕ → ε) (startedNs : ℤ) :
    Selects (detect ambiguous · · startedNs) (startedNs - 1000000000 ≤ ·) := by
  intro before after item detected
  simp only [detect] at detected
  cases candidates : after.items.filter (isCandidate before startedNs) with
  | nil => simp [candidates] at detected
  | cons first others =>
    cases others with
    | cons second rest => simp [candidates] at detected
    | nil =>
      obtain rfl : first.2 = item := by simpa [candidates] using detected
      have member : first ∈ after.items.filter (isCandidate before startedNs) := by simp [candidates]
      have key : first = (first.2.name,first.2) := by
        rw [Snapshot.name_of_mem (List.mem_of_mem_filter member)]
      refine ⟨candidate_iff.mp (key ▸ member),?_⟩
      intro other eligible
      have single := candidate_iff.mpr eligible
      rw [candidates,List.mem_singleton] at single
      rw [← single]

/-- The detection of `_acquire_remote_gitlab`, which gives no start time. -/
def detectRemote (before after : Snapshot) : Except PipelineError FileState := detectNewBackup before after 0

theorem detectRemote_selects : Selects detectRemote (-1000000000 ≤ ·) := by
  rw [← zero_sub (1000000000 : ℤ)]
  have selects : Selects (detectNewBackup · · 0) (0 - 1000000000 ≤ ·) := detect_selects _ 0
  exact selects

/-- A native backup is taken only as the single new entry that is not empty and was modified since
a second before the start time of the detection, and only after it has shown one state throughout. -/
theorem native_backup_settled :
    (∀ expected checks snapshots, 2 ≤ checks → Reliable stableFile expected checks snapshots) ∧
    (∀ expected checks snapshots, 2 ≤ checks → Reliable remoteStableFile expected checks snapshots) ∧
    (∀ startedNs, Selects (detectNewBackupLocal · · startedNs) (startedNs - 1000000000 ≤ ·)) ∧
    (∀ startedNs, Selects (detectNewBackup · · startedNs) (startedNs - 1000000000 ≤ ·)) ∧
    Selects detectRemote (-1000000000 ≤ ·) :=
  ⟨fun expected _ snapshots two => stableFrom_reliable _ _ expected (by omega) snapshots,
    fun expected _ snapshots two => stableFrom_reliable _ _ expected (by omega) snapshots,
    detect_selects _,detect_selects _,detectRemote_selects⟩

def grown : FileState := ⟨str "9_gitlab_backup.tar",4,7,2000000000⟩

theorem native_backup_settled_twice :
    Reliable stableFile grown 2 [.ok (Snapshot.empty.add { grown with size := 3 }),.ok (Snapshot.empty.add grown),
      .ok (Snapshot.empty.add grown)] ∧
    Eligible (2000000000 - 1000000000 ≤ ·) Snapshot.empty (Snapshot.empty.add grown) grown ∧
    Eligible (-1000000000 ≤ ·) Snapshot.empty (Snapshot.empty.add grown) grown :=
  ⟨native_backup_settled.1 grown 2 _ (by decide),
    (native_backup_settled.2.2.1 2000000000 Snapshot.empty (Snapshot.empty.add grown) grown (by decide)).1,
    (native_backup_settled.2.2.2.2 Snapshot.empty (Snapshot.empty.add grown) grown (by decide)).1⟩

/-- A second new file, moved there with an older time, is left out of account by the helper. -/
theorem selection_ignores_older : ¬Selects (detectNewBackupLocal · · 1790000000000000000) (fun _ => True) := by
  intro selects
  let made : FileState := ⟨str "2_gitlab_backup.tar",12,5,1790000060000000000⟩
  let moved : FileState := ⟨str "1_gitlab_backup.tar",11,5,1789990000000000000⟩
  let after := (Snapshot.empty.add moved).add made
  have detected : detectNewBackupLocal Snapshot.empty after 1790000000000000000 = .ok made := by decide
  have both : moved = made := (selects Snapshot.empty after made detected).2 moved ⟨by decide,by decide,by decide,trivial⟩
  exact absurd both (by decide)

section Acquisition

variable {ε : Type}

/-- The detection over two listings, and the stability check over those that follow. The command in
between and its exit status are left out. -/
def takeBackup (take : Listing → Except ε Snapshot) (detection : Snapshot → Snapshot → Except ε FileState)
    (check : FileState → ℕ → List (Except ε Snapshot) → Option (Except ε FileState × List (Except ε Snapshot)))
    (before after : Listing) (checks : ℕ) (looks : List Listing) :
    Option (Except ε FileState × List (Except ε Snapshot)) :=
  match (do detection (← take before) (← take after)) with
  | .error e => some (.error e,looks.map take)
  | .ok detected => check detected checks (looks.map take)

structure Made (since : ℤ → Prop) (before after : Listing) (item : FileState) : Prop where
  listed : item ∈ after.backups
  new : ∀ old ∈ before.backups, old.name = item.name → old.inode ≠ item.inode
  positive : 0 < item.size
  recent : since item.mtimeNs

theorem eligible_iff {since : ℤ → Prop} {before after : Listing} {earlier later : Snapshot} (first : earlier.Of before)
    (second : later.Of after) {item : FileState} : Eligible since earlier later item ↔ Made since before after item := by
  have listed : (item.name,item) ∈ later.items ↔ item ∈ after.backups := by
    rw [Snapshot.items,Dict.mem_entries]
    exact (second item.name item).trans (and_iff_left rfl)
  have new : isNew earlier (item.name,item) = true ↔ ∀ old ∈ before.backups, old.name = item.name → old.inode ≠ item.inode := by
    unfold isNew
    cases found : earlier.get item.name with
    | none =>
      refine iff_of_true rfl fun old member named => ?_
      rw [(first item.name old).mpr ⟨member,named⟩] at found
      cases found
    | some old =>
      have known := first item.name
      simp only [found,Option.some.injEq] at known
      simp only [decide_eq_true_eq]
      constructor
      · intro other old' member named
        rwa [← (known old').mpr ⟨member,named⟩]
      · intro each
        exact each old ((known old).mp rfl).1 ((known old).mp rfl).2
  constructor
  · rintro ⟨there,fresh,positive,recent⟩
    exact ⟨listed.mp there,new.mp fresh,positive,recent⟩
  · rintro ⟨there,fresh,positive,recent⟩
    exact ⟨listed.mpr there,new.mpr fresh,positive,recent⟩

/-- The file taken has the name of the only backup made, and the last listings agree on it. -/
structure Taken (since : ℤ → Prop) (before after : Listing) (checks : ℕ) (looks : List Listing) (state : FileState) : Prop where
  made : ∃ item, Made since before after item ∧ item.name = state.name ∧ ∀ other, Made since before after other → other = item
  settled : ∃ earlier last rest, looks = earlier ++ last ++ rest ∧ last.length = checks ∧
    ∀ look ∈ last, state ∈ look.backups ∧ 0 < state.size

theorem takeBackup_taken {take : Listing → Except ε Snapshot} {detection : Snapshot → Snapshot → Except ε FileState}
    {check : FileState → ℕ → List (Except ε Snapshot) → Option (Except ε FileState × List (Except ε Snapshot))}
    {since : ℤ → Prop} {before after : Listing} {checks : ℕ} {looks : List Listing} {state : FileState}
    {rest : List (Except ε Snapshot)} (holds : ∀ listing s, take listing = .ok s → s.Of listing)
    (selects : Selects detection since) (reliable : ∀ expected snapshots, Reliable check expected checks snapshots)
    (done : takeBackup take detection check before after checks looks = some (.ok state,rest)) :
    Taken since before after checks looks state := by
  unfold takeBackup at done
  cases first : take before with
  | error e => simp [first,bind,Except.bind] at done
  | ok earlier =>
    cases second : take after with
    | error e => simp [first,second,bind,Except.bind] at done
    | ok later =>
      cases found : detection earlier later with
      | error e => simp [first,second,found,bind,Except.bind] at done
      | ok item =>
        simp only [first,second,found,bind,Except.bind] at done
        have made {other : FileState} := @eligible_iff since before after earlier later (holds _ _ first) (holds _ _ second) other
        obtain ⟨eligible,only⟩ := selects earlier later item found
        obtain ⟨named,before',last,parts,enough,shown⟩ := (reliable item (looks.map take)).stable state rest done
        refine ⟨⟨item,made.mp eligible,named.symm,fun other here => only other (made.mpr here)⟩,?_⟩
        obtain ⟨front,back,rfl,left,_⟩ := List.map_eq_append_iff.mp parts
        obtain ⟨front',looks',rfl,_,rfl⟩ := List.map_eq_append_iff.mp left
        refine ⟨front',looks',back,rfl,by simpa using enough,?_⟩
        intro look member
        obtain ⟨s,taken,here,positive⟩ := shown (take look) (List.mem_map_of_mem member)
        exact ⟨((holds look s taken item.name state).mp here).1,positive⟩

end Acquisition

/-- `_acquire` until the file is staged. -/
def acquire (startedNs : ℤ) : Listing → Listing → ℕ → List Listing →
    Option (Except AcquisitionError FileState × List (Except AcquisitionError Snapshot)) :=
  takeBackup snapshot (detectNewBackupLocal · · startedNs) stableFile

/-- `_acquire_remote_gitlab` until the file is hashed. -/
def acquireRemoteGitlab : Listing → Listing → ℕ → List Listing →
    Option (Except PipelineError FileState × List (Except PipelineError Snapshot)) :=
  takeBackup remoteSnapshot detectRemote remoteStableFile

theorem acquire_taken {startedNs : ℤ} {before after : Listing} {checks : ℕ} {looks : List Listing} {state : FileState}
    {rest : List (Except AcquisitionError Snapshot)} (some_ : 1 ≤ checks)
    (done : acquire startedNs before after checks looks = some (.ok state,rest)) :
    Taken (startedNs - 1000000000 ≤ ·) before after checks looks state :=
  takeBackup_taken (fun _ _ => snapshot_of) (detect_selects _ startedNs)
    (fun expected => stableFrom_reliable _ _ expected some_) done

theorem acquireRemoteGitlab_taken {before after : Listing} {checks : ℕ} {looks : List Listing} {state : FileState}
    {rest : List (Except PipelineError Snapshot)} (some_ : 1 ≤ checks)
    (done : acquireRemoteGitlab before after checks looks = some (.ok state,rest)) :
    Taken (-1000000000 ≤ ·) before after checks looks state :=
  takeBackup_taken (fun _ _ => remoteSnapshot_of) detectRemote_selects
    (fun expected => stableFrom_reliable _ _ expected some_) done

end BackupTelebot.NativeBackups
