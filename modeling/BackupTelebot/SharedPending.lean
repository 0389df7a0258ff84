import BackupTelebot.Finalize
import BackupTelebot.PythonDict

/-! The publication of one run beside the removals of other runs, one system call at a time. All of
them work in one pending root, where a profile's directory is created by the first publication and
goes with the last removal. Nobody else changes the root. -/
namespace BackupTelebot.SharedPending

open PyJson PyDict

inductive Item where
  | dir (content : Dir)
  | other

/-- An entry of the pending root. What is no directory may be a link to one. -/
inductive Profile where
  | dir (runs : Dict Str Item)
  | other (isDir : Bool)

abbrev Root := Dict Str Profile

@[ext] structure Place where
  slug : Str
  name : Str
  deriving DecidableEq

namespace Root

def item (root : Root) (place : Place) : Option Item :=
  match root.get place.slug with
  | some (.dir runs) => runs.get place.name
  | _ => none

def setItem (root : Root) (place : Place) (value : Item) : Root :=
  match root.get place.slug with
  | some (.dir runs) => root.set place.slug (.dir (runs.set place.name value))
  | _ => root

def popItem (root : Root) (place : Place) : Root :=
  match root.get place.slug with
  | some (.dir runs) => root.set place.slug (.dir (runs.pop place.name))
  | _ => root

/-- `os.rmdir` of a profile's directory, where an error is suppressed. -/
def rmdir (root : Root) (slug : Str) : Root :=
  match root.get slug with
  | some (.dir runs) => if runs.entries.isEmpty then root.pop slug else root
  | _ => root

end Root

/-- The calls that the system may refuse. A call in the run's own directory is named by the number
of calls after it. -/
inductive Call where
  | lstat
  | resolve
  | mkdir
  | stat
  | inside (after : ℕ)

structure Finalizer where
  publication : Publication
  os : Platform
  limit : ℕ
  torn : ℕ
  /-- The work root and the pending root are on one device. -/
  sameDevice : Bool
  refuses : Call → Bool

namespace Finalizer

variable (f : Finalizer)

/-- `pending_directory_path`, below the root. -/
def place : Place :=
  ⟨safeSlug f.publication.profileName,f.publication.stamp.text ++ underscore :: f.publication.runUuid.text.take 8⟩

def steps : List FsStep := (f.publication.steps f.os f.limit f.torn).tail

end Finalizer

inductive Phase where
  | mkdirProfile
  | isDir
  | lstat
  | resolve
  | mkdirDirectory
  | stat
  | inside (left : List FsStep)
  | published
  | failed

def change (root : Root) (place : Place) (step : FsStep) : Root :=
  match root.item place with
  | some (.dir content) => root.setItem place (.dir ((step.apply (some content)).getD content))
  | _ => root

/-- `Path.mkdir` with `exist_ok` asks what is there when there is something. -/
def finalizeStep (f : Finalizer) (root : Root) : Phase → Root × Phase
  | .mkdirProfile =>
      match root.get f.place.slug with
      | none => (root.set f.place.slug (.dir .empty),.lstat)
      | some _ => (root,.isDir)
  | .isDir =>
      match root.get f.place.slug with
      | some (.dir _) | some (.other true) => (root,.lstat)
      | _ => (root,.failed)
  | .lstat =>
      match root.get f.place.slug with
      | some (.dir _) => (root,if f.refuses .lstat then .failed else .resolve)
      | _ => (root,.failed)
  | .resolve => (root,if f.refuses .resolve then .failed else .mkdirDirectory)
  | .mkdirDirectory =>
      match root.get f.place.slug with
      | some (.dir runs) =>
          if f.refuses .mkdir || (runs.get f.place.name).isSome then (root,.failed)
          else (root.setItem f.place (.dir Dir.empty),.stat)
      | _ => (root,.failed)
  | .stat =>
      if f.refuses .stat then (root,.failed)
      else if f.sameDevice then (root,.inside f.steps) else (root.popItem f.place,.failed)
  | .inside [] => (root,.published)
  | .inside (step :: left) =>
      if f.refuses (.inside left.length) then (root.popItem f.place,.failed)
      else (change root f.place step,.inside left)
  | .published => (root,.published)
  | .failed => (root,.failed)

inductive RemovalPhase where
  | validate
  | remove
  | parent
  | ended
  | failed
  deriving DecidableEq

inductive Progress where
  | left (content : Dir)
  | gone
  | raised

def rmtree (place : Place) (root : Root) (progress : Progress) : Root × RemovalPhase :=
  match root.item place with
  | some (.dir _) =>
      match progress with
      | .left content => (root.setItem place (.dir content),.remove)
      | .gone => (root.popItem place,.parent)
      | .raised => (root,.failed)
  | _ => (root,.failed)

def removalStep (place : Place) (root : Root) (progress : Progress) : RemovalPhase → Root × RemovalPhase
  | .validate =>
      match root.item place with
      | some .other => (root,.failed)
      | _ => (root,.remove)
  | .remove => rmtree place root progress
  | .parent => (root.rmdir place.slug,.ended)
  | .ended => (root,.ended)
  | .failed => (root,.failed)

structure State (ι : Type) where
  root : Root
  phase : Phase
  removals : ι → RemovalPhase

inductive Event (ι : Type) where
  | finalize
  | remove (i : ι) (progress : Progress)

section Runs

variable {ι : Type} [DecidableEq ι] (f : Finalizer) (places : ι → Place)

def perform (s : State ι) : Event ι → State ι
  | .finalize => ⟨(finalizeStep f s.root s.phase).1,(finalizeStep f s.root s.phase).2,s.removals⟩
  | .remove i progress =>
      let result := removalStep (places i) s.root progress (s.removals i)
      ⟨result.1,s.phase,Function.update s.removals i result.2⟩

def exec : State ι → List (Event ι) → State ι
  | s, [] => s
  | s, event :: rest => exec (perform f places s event) rest

def begun (root : Root) (removals : ι → RemovalPhase) : State ι := ⟨root,.mkdirProfile,removals⟩

/-- The profile's directory has been found or created, and the run's own one is not there yet. -/
def Phase.between : Phase → Bool
  | .isDir | .lstat | .resolve | .mkdirDirectory => true
  | _ => false

/-- No removal takes away the profile's directory, empty as it is, between the two creations. -/
def Sparing (s : State ι) : Event ι → Prop
  | .finalize => True
  | .remove i _ => s.removals i = .parent → (places i).slug = f.place.slug → s.phase.between = true →
      ∀ runs, s.root.get f.place.slug = some (.dir runs) → runs.entries.isEmpty = false

def Spares : State ι → List (Event ι) → Prop
  | _, [] => True
  | s, event :: rest => Sparing f places s event ∧ Spares (perform f places s event) rest

def finalizeSteps : List (Event ι) → ℕ
  | [] => 0
  | .finalize :: rest => finalizeSteps rest + 1
  | .remove _ _ :: rest => finalizeSteps rest

end Runs

def Publishes (f : Finalizer) (root : Root) (phase : Phase) : Prop :=
  ∃ n, ((fun s : Root × Phase => finalizeStep f s.1 s.2)^[n] (root,phase)).2 = .published

/-- Only the place itself changes, and its profile's directory may go when it is empty. -/
def Deletes (place : Place) (root root' : Root) : Prop :=
  ∀ slug, root'.get slug = root.get slug ∨ slug = place.slug ∧ ∃ runs, root.get slug = some (.dir runs) ∧
    (runs.entries.isEmpty = true ∧ root'.get slug = none ∨
      ∃ runs', root'.get slug = some (.dir runs') ∧ ∀ name, name ≠ place.name → runs'.get name = runs.get name)

section Items

variable {root : Root} {place other : Place} {value : Item} {runs : Dict Str Item} {slug : Str}

theorem item_of_get (found : root.get place.slug = some (.dir runs)) : root.item place = runs.get place.name := by
  rw [Root.item,found]

theorem get_of_item (found : root.item place = some value) :
    ∃ runs, root.get place.slug = some (.dir runs) ∧ runs.get place.name = some value := by
  rw [Root.item] at found
  cases entry : root.get place.slug with
  | none => simp [entry] at found
  | some profile =>
    cases profile with
    | dir runs => exact ⟨runs,rfl,by simpa [entry] using found⟩
    | other isDir => simp [entry] at found

theorem setItem_get (found : root.get place.slug = some (.dir runs)) :
    (root.setItem place value).get slug = if slug = place.slug then some (.dir (runs.set place.name value)) else root.get slug := by
  rw [Root.setItem,found]
  exact Dict.get_set ..

theorem popItem_get (found : root.get place.slug = some (.dir runs)) :
    (root.popItem place).get slug = if slug = place.slug then some (.dir (runs.pop place.name)) else root.get slug := by
  rw [Root.popItem,found]
  exact Dict.get_set ..

theorem item_setItem (found : root.get place.slug = some (.dir runs)) : (root.setItem place value).item place = some value := by
  have here : (root.setItem place value).get place.slug = some (.dir (runs.set place.name value)) := by
    rw [setItem_get found,if_pos rfl]
  rw [item_of_get here,Dict.get_set_self]

theorem deletes_refl : Deletes place root root := fun _ => .inl rfl

theorem deletes_setItem (found : root.get place.slug = some (.dir runs)) : Deletes place root (root.setItem place value) := by
  intro slug
  by_cases here : slug = place.slug
  · subst here
    refine .inr ⟨rfl,runs,found,.inr ⟨runs.set place.name value,?_,fun name apart => Dict.get_set_ne _ _ apart⟩⟩
    rw [setItem_get found,if_pos rfl]
  · exact .inl (by rw [setItem_get found,if_neg here])

theorem deletes_popItem (found : root.get place.slug = some (.dir runs)) : Deletes place root (root.popItem place) := by
  intro slug
  by_cases here : slug = place.slug
  · subst here
    refine .inr ⟨rfl,runs,found,.inr ⟨runs.pop place.name,?_,fun name apart => ?_⟩⟩
    · rw [popItem_get found,if_pos rfl]
    · rw [Dict.get_pop,if_neg apart]
  · exact .inl (by rw [popItem_get found,if_neg here])

/-- The profile's directory goes if it is empty, and else nothing does. -/
theorem rmdir_cases (root : Root) (slug : Str) :
    root.rmdir slug = root ∨ ∃ runs, root.get slug = some (.dir runs) ∧ runs.entries.isEmpty = true ∧ root.rmdir slug = root.pop slug := by
  unfold Root.rmdir
  cases found : root.get slug with
  | none => exact .inl rfl
  | some profile =>
    cases profile with
    | other isDir => exact .inl rfl
    | dir runs =>
      by_cases empty : runs.entries.isEmpty = true
      · exact .inr ⟨runs,rfl,empty,if_pos empty⟩
      · exact .inl (if_neg empty)

theorem removalStep_deletes (place : Place) (root : Root) (progress : Progress) (phase : RemovalPhase) :
    Deletes place root (removalStep place root progress phase).1 := by
  cases phase with
  | validate =>
    rw [removalStep]
    split <;> exact deletes_refl
  | remove =>
    rw [removalStep]
    unfold rmtree
    split
    · rename_i content there
      obtain ⟨runs,found,-⟩ := get_of_item there
      cases progress with
      | left content => exact deletes_setItem found
      | gone => exact deletes_popItem found
      | raised => exact deletes_refl
    · exact deletes_refl
  | parent =>
    rw [removalStep]
    rcases rmdir_cases root place.slug with same | ⟨runs,found,empty,gone⟩
    · rw [same]
      exact deletes_refl
    · rw [gone]
      intro slug
      by_cases here : slug = place.slug
      · subst here
        exact .inr ⟨rfl,runs,found,.inl ⟨empty,by rw [Dict.get_pop,if_pos rfl]⟩⟩
      · exact .inl (by rw [Dict.get_pop,if_neg here])
  | ended => exact deletes_refl
  | failed => exact deletes_refl

/-- Only the last call of a removal can take the profile's directory away. -/
theorem removalStep_keepsParent {phase : RemovalPhase} {progress : Progress} (notLast : phase ≠ .parent)
    (found : root.get place.slug = some (.dir runs)) : (removalStep place root progress phase).1.get place.slug ≠ none := by
  cases phase with
  | parent => exact absurd rfl notLast
  | validate =>
    rw [removalStep]
    split <;> simp [found]
  | remove =>
    rw [removalStep]
    unfold rmtree
    split
    · cases progress with
      | left content => simp [setItem_get found]
      | gone => simp [popItem_get found]
      | raised => simp [found]
    · simp [found]
  | ended => simp [removalStep,found]
  | failed => simp [removalStep,found]

end Items

section Alone

variable {f : Finalizer} {root : Root} {phase : Phase}

def Free (f : Finalizer) (root : Root) : Prop :=
  ∃ runs, root.get f.place.slug = some (.dir runs) ∧ runs.get f.place.name = none

def Holds (f : Finalizer) (root : Root) (done : List FsStep) : Prop :=
  ∃ content, applySteps done (some Dir.empty) = some content ∧ root.item f.place = some (.dir content)

structure Allowed (f : Finalizer) : Prop where
  lstat : f.refuses .lstat = false
  resolve : f.refuses .resolve = false
  mkdir : f.refuses .mkdir = false
  stat : f.refuses .stat = false
  sameDevice : f.sameDevice = true
  inside : ∀ k < f.steps.length, f.refuses (.inside k) = false

theorem Publishes.next (publishes : Publishes f root phase) (unpublished : phase ≠ .published) :
    Publishes f (finalizeStep f root phase).1 (finalizeStep f root phase).2 := by
  obtain ⟨n,eq⟩ := publishes
  cases n with
  | zero => exact absurd eq unpublished
  | succ n => exact ⟨n,by rwa [Function.iterate_succ_apply] at eq⟩

theorem not_publishes_failed : ¬Publishes f root .failed := by
  rintro ⟨n,eq⟩
  have stays : (fun s : Root × Phase => finalizeStep f s.1 s.2)^[n] (root,.failed) = (root,.failed) :=
    Function.iterate_fixed rfl n
  rw [stays] at eq
  cases eq

theorem allowed_inside {left : List FsStep} (publishes : Publishes f root (.inside left)) :
    ∀ k < left.length, f.refuses (.inside k) = false := by
  induction left generalizing root with
  | nil => simp
  | cons step left ih =>
    have next := publishes.next (by simp)
    rw [finalizeStep] at next
    split_ifs at next with refused
    · exact absurd next not_publishes_failed
    · intro k small
      rcases Nat.lt_succ_iff_lt_or_eq.mp small with later | rfl
      · exact ih next k later
      · simpa using refused

/-- From the check of the profile's directory on. -/
theorem allowed_of_lstat {runs : Dict Str Item} (found : root.get f.place.slug = some (.dir runs))
    (publishes : Publishes f root .lstat) : Allowed f ∧ Free f root := by
  have next := publishes.next (by simp)
  simp only [finalizeStep,found] at next
  split_ifs at next with lstat
  · exact absurd next not_publishes_failed
  replace next := next.next (by simp)
  simp only [finalizeStep] at next
  split_ifs at next with resolve
  · exact absurd next not_publishes_failed
  replace next := next.next (by simp)
  simp only [finalizeStep,found] at next
  split_ifs at next with taken
  · exact absurd next not_publishes_failed
  rw [Bool.or_eq_true,not_or,Bool.not_eq_true,Bool.not_eq_true,Option.isSome_eq_false_iff,Option.isNone_iff_eq_none] at taken
  replace next := next.next (by simp)
  simp only [finalizeStep] at next
  split_ifs at next with stat device
  · exact absurd next not_publishes_failed
  · exact ⟨⟨by simpa using lstat,by simpa using resolve,taken.1,by simpa using stat,device,allowed_inside next⟩,runs,found,taken.2⟩
  · exact absurd next not_publishes_failed

theorem allowed_of_publishes (publishes : Publishes f root .mkdirProfile) :
    Allowed f ∧ (root.get f.place.slug = none ∨ Free f root) := by
  have next := publishes.next (by simp)
  simp only [finalizeStep] at next
  cases found : root.get f.place.slug with
  | none =>
    simp only [found] at next
    exact ⟨(allowed_of_lstat (Dict.get_set_self ..) next).1,.inl rfl⟩
  | some profile =>
    simp only [found] at next
    replace next := next.next (by simp)
    cases profile with
    | dir runs =>
      simp only [finalizeStep,found] at next
      obtain ⟨allowed,free⟩ := allowed_of_lstat found next
      exact ⟨allowed,.inr free⟩
    | other isDir =>
      cases isDir with
      | true =>
        simp only [finalizeStep,found] at next
        replace next := next.next (by simp)
        simp only [finalizeStep,found] at next
        exact absurd next not_publishes_failed
      | false =>
        simp only [finalizeStep,found] at next
        exact absurd next not_publishes_failed

end Alone

section Invariant

variable {f : Finalizer} {root root' : Root} {place : Place} {done : List FsStep}

def Fits (f : Finalizer) (root : Root) : Phase → Prop
  | .mkdirProfile => root.get f.place.slug = none ∨ Free f root
  | .isDir | .lstat | .resolve | .mkdirDirectory => Free f root
  | .stat => Holds f root []
  | .inside left => ∃ done, f.steps = done ++ left ∧ Holds f root done
  | .published => Holds f root f.steps
  | .failed => False

theorem apply_some (step : FsStep) (content : Dir) : ∃ content', step.apply (some content) = some content' := by
  cases step <;> exact ⟨_,rfl⟩

theorem change_holds {step : FsStep} (holds : Holds f root done) : Holds f (change root f.place step) (done ++ [step]) := by
  obtain ⟨content,made,found⟩ := holds
  obtain ⟨content',applied⟩ := apply_some step content
  obtain ⟨runs,parent,-⟩ := get_of_item found
  refine ⟨content',?_,?_⟩
  · rw [applySteps] at made
    rw [applySteps,List.foldl_append,made]
    exact applied
  · rw [change,found]
    simp only [applied,Option.getD_some]
    exact item_setItem parent

/-- A call of the publication. -/
theorem finalizeStep_fits (allowed : Allowed f) {phase : Phase} (fits : Fits f root phase) :
    Fits f (finalizeStep f root phase).1 (finalizeStep f root phase).2 := by
  cases phase with
  | mkdirProfile =>
    rcases fits with missing | ⟨runs,found,free⟩
    · simp only [finalizeStep,missing]
      exact ⟨.empty,Dict.get_set_self ..,rfl⟩
    · simp only [finalizeStep,found]
      exact ⟨runs,found,free⟩
  | isDir =>
    obtain ⟨runs,found,free⟩ := fits
    simp only [finalizeStep,found]
    exact ⟨runs,found,free⟩
  | lstat =>
    obtain ⟨runs,found,free⟩ := fits
    simp only [finalizeStep,found,allowed.lstat,Bool.false_eq_true,if_false]
    exact ⟨runs,found,free⟩
  | resolve =>
    simp only [finalizeStep,allowed.resolve,Bool.false_eq_true,if_false]
    exact fits
  | mkdirDirectory =>
    obtain ⟨runs,found,free⟩ := fits
    simp only [finalizeStep,found,allowed.mkdir,free,Option.isSome_none,Bool.or_self,Bool.false_eq_true,if_false]
    exact ⟨Dir.empty,rfl,item_setItem found⟩
  | stat =>
    simp only [finalizeStep,allowed.stat,allowed.sameDevice,Bool.false_eq_true,if_false,if_true]
    exact ⟨[],rfl,fits⟩
  | inside left =>
    obtain ⟨done,split_,holds⟩ := fits
    cases left with
    | nil =>
      rw [List.append_nil] at split_
      rw [finalizeStep,Fits,split_]
      exact holds
    | cons step left =>
      have small : left.length < f.steps.length := by
        rw [split_]
        simp
        omega
      simp only [finalizeStep,allowed.inside _ small,Bool.false_eq_true,if_false]
      exact ⟨done ++ [step],by rw [split_,List.append_assoc]; rfl,change_holds holds⟩
  | published => exact fits
  | failed => exact fits

def Phase.rank (f : Finalizer) : Phase → ℕ
  | .mkdirProfile => f.steps.length + 7
  | .isDir => f.steps.length + 6
  | .lstat => f.steps.length + 5
  | .resolve => f.steps.length + 4
  | .mkdirDirectory => f.steps.length + 3
  | .stat => f.steps.length + 2
  | .inside left => left.length + 1
  | .published | .failed => 0

theorem finalizeStep_rank (root : Root) (phase : Phase) : (finalizeStep f root phase).2.rank f ≤ phase.rank f - 1 := by
  cases phase with
  | mkdirProfile =>
    rw [finalizeStep]
    split <;> simp [Phase.rank]
  | isDir =>
    rw [finalizeStep]
    split <;> simp [Phase.rank]
  | lstat =>
    rw [finalizeStep]
    split
    · dsimp only
      split_ifs <;> simp [Phase.rank]
    · simp [Phase.rank]
  | resolve =>
    rw [finalizeStep]
    dsimp only
    split_ifs <;> simp [Phase.rank]
  | mkdirDirectory =>
    rw [finalizeStep]
    split
    · split_ifs <;> simp [Phase.rank]
    · simp [Phase.rank]
  | stat =>
    rw [finalizeStep]
    split_ifs <;> simp [Phase.rank]
  | inside left =>
    cases left with
    | nil => simp [finalizeStep,Phase.rank]
    | cons step left =>
      rw [finalizeStep]
      split_ifs <;> simp [Phase.rank]
  | published => simp [finalizeStep,Phase.rank]
  | failed => simp [finalizeStep,Phase.rank]

theorem rank_zero {phase : Phase} (ended : phase.rank f = 0) : phase = .published ∨ phase = .failed := by
  cases phase with
  | published => exact .inl rfl
  | failed => exact .inr rfl
  | inside left => simp [Phase.rank] at ended
  | _ => simp [Phase.rank] at ended

/-- What fits comes to its end. -/
theorem Fits.publishes (allowed : Allowed f) {phase : Phase} (fits : Fits f root phase) : Publishes f root phase := by
  generalize rank : phase.rank f = n
  induction n using Nat.strongRecOn generalizing root phase with
  | ind n ih =>
    subst rank
    by_cases ended : phase.rank f = 0
    · rcases rank_zero ended with rfl | rfl
      · exact ⟨0,rfl⟩
      · exact fits.elim
    · have smaller := (finalizeStep_rank (f := f) root phase).trans_lt (Nat.sub_one_lt ended)
      obtain ⟨k,eq⟩ := ih _ smaller (finalizeStep_fits allowed fits) rfl
      exact ⟨k + 1,by rwa [Function.iterate_succ_apply]⟩

theorem publishes_iff : Publishes f root .mkdirProfile ↔ Allowed f ∧ (root.get f.place.slug = none ∨ Free f root) :=
  ⟨allowed_of_publishes,fun both => Fits.publishes both.1 both.2⟩

/-- The run's own directory is not touched by the removal of another place. -/
theorem Holds.deletes (holds : Holds f root done) (apart : place ≠ f.place) (deletes : Deletes place root root') :
    Holds f root' done := by
  obtain ⟨content,made,found⟩ := holds
  refine ⟨content,made,?_⟩
  obtain ⟨runs,parent,entry⟩ := get_of_item found
  rcases deletes f.place.slug with same | ⟨slug,runs',parent',gone | ⟨runs'',parent'',others⟩⟩
  · rw [item_of_get (same.trans parent),entry]
  · obtain rfl : runs = runs' := by simpa using parent.symm.trans parent'
    have member := Dict.mem_entries.mpr entry
    rw [List.isEmpty_iff.mp gone.1] at member
    simp at member
  · obtain rfl : runs = runs' := by simpa using parent.symm.trans parent'
    have name : f.place.name ≠ place.name := fun same => apart (Place.ext slug.symm same.symm)
    rw [item_of_get parent'',others _ name,entry]

theorem Free.deletes (free : Free f root) (apart : place ≠ f.place) (deletes : Deletes place root root') :
    root'.get f.place.slug = none ∨ Free f root' := by
  obtain ⟨runs,parent,entry⟩ := free
  rcases deletes f.place.slug with same | ⟨slug,runs',parent',gone | ⟨runs'',parent'',others⟩⟩
  · exact .inr ⟨runs,same.trans parent,entry⟩
  · exact .inl gone.2
  · obtain rfl : runs = runs' := by simpa using parent.symm.trans parent'
    have name : f.place.name ≠ place.name := fun same => apart (Place.ext slug.symm same.symm)
    exact .inr ⟨runs'',parent'',by rw [others _ name,entry]⟩

end Invariant

section Runs

variable {ι : Type} [DecidableEq ι] {f : Finalizer} {places : ι → Place} {s : State ι}

/-- A call of a removal that meets the condition. -/
theorem removal_fits {i : ι} {progress : Progress} (apart : places i ≠ f.place)
    (sparing : Sparing f places s (.remove i progress)) (fits : Fits f s.root s.phase) :
    Fits f (perform f places s (.remove i progress)).root s.phase := by
  have deletes := removalStep_deletes (places i) s.root progress (s.removals i)
  have still (between : s.phase.between = true) (free : Free f s.root) :
      Free f (perform f places s (.remove i progress)).root := by
    rcases free.deletes apart deletes with gone | free'
    · -- the parent went, so this was the last call of the removal, on the parent itself
      exfalso
      obtain ⟨runs,parent,-⟩ := free
      rcases deletes f.place.slug with same | ⟨slug,-⟩
      · rw [gone,parent] at same
        cases same
      · by_cases last : s.removals i = .parent
        · have full := sparing last slug.symm between runs parent
          rw [last,removalStep] at gone
          rcases rmdir_cases s.root (places i).slug with same | ⟨runs',found,empty,-⟩
          · rw [same,parent] at gone
            cases gone
          · rw [← slug,parent] at found
            obtain rfl : runs = runs' := by simpa using found
            rw [full] at empty
            cases empty
        · rw [slug] at gone parent
          exact removalStep_keepsParent last parent gone
    · exact free'
  cases phase : s.phase with
  | mkdirProfile =>
    rw [phase] at fits
    rcases fits with missing | free
    · rcases deletes f.place.slug with same | ⟨-,runs,parent,-⟩
      · exact .inl (same.trans missing)
      · rw [missing] at parent
        cases parent
    · exact free.deletes apart deletes
  | isDir =>
    rw [phase] at fits
    exact still (by rw [phase]; rfl) fits
  | lstat =>
    rw [phase] at fits
    exact still (by rw [phase]; rfl) fits
  | resolve =>
    rw [phase] at fits
    exact still (by rw [phase]; rfl) fits
  | mkdirDirectory =>
    rw [phase] at fits
    exact still (by rw [phase]; rfl) fits
  | stat =>
    rw [phase] at fits
    exact Holds.deletes fits apart deletes
  | inside left =>
    rw [phase] at fits
    obtain ⟨done,split_,holds⟩ := fits
    exact ⟨done,split_,holds.deletes apart deletes⟩
  | published =>
    rw [phase] at fits
    exact Holds.deletes fits apart deletes
  | failed =>
    rw [phase] at fits
    exact fits

theorem exec_fits (apart : ∀ i, places i ≠ f.place) (allowed : Allowed f) {events : List (Event ι)} (fits : Fits f s.root s.phase)
    (spares : Spares f places s events) : Fits f (exec f places s events).root (exec f places s events).phase := by
  induction events generalizing s with
  | nil => exact fits
  | cons event rest ih =>
    refine ih ?_ spares.2
    cases event with
    | finalize => exact finalizeStep_fits allowed fits
    | remove i progress => exact removal_fits (apart i) spares.1 fits

theorem exec_rank (events : List (Event ι)) : (exec f places s events).phase.rank f ≤ s.phase.rank f - finalizeSteps events := by
  induction events generalizing s with
  | nil => exact le_rfl
  | cons event rest ih =>
    have later := ih (s := perform f places s event)
    cases event with
    | finalize =>
      have step := finalizeStep_rank (f := f) s.root s.phase
      simp only [exec,perform,finalizeSteps] at later step ⊢
      omega
    | remove i progress => exact later

/-- Between the two creations nobody makes the profile's directory again. -/
theorem lost_publication (events : List (Event ι)) (lost : s.phase = .failed ∨ s.phase.between = true ∧ s.root.get f.place.slug = none) :
    (exec f places s events).phase ≠ .published := by
  induction events generalizing s with
  | nil =>
    intro published
    rw [exec] at published
    rcases lost with failed | ⟨between,-⟩
    · rw [failed] at published
      cases published
    · rw [published] at between
      cases between
  | cons event rest ih =>
    refine ih ?_
    cases event with
    | finalize =>
      rcases lost with failed | ⟨between,missing⟩
      · exact .inl (by simp [perform,failed,finalizeStep])
      · cases phase : s.phase with
        | resolve =>
          simp only [perform,phase,finalizeStep]
          split_ifs
          · exact .inl rfl
          · exact .inr ⟨rfl,missing⟩
        | isDir => exact .inl (by simp [perform,phase,finalizeStep,missing])
        | lstat => exact .inl (by simp [perform,phase,finalizeStep,missing])
        | mkdirDirectory => exact .inl (by simp [perform,phase,finalizeStep,missing])
        | _ => simp [phase,Phase.between] at between
    | remove i progress =>
      refine lost.imp_right fun still => ⟨still.1,?_⟩
      rcases removalStep_deletes (places i) s.root progress (s.removals i) f.place.slug with same | ⟨-,runs,found,-⟩
      · exact same.trans still.2
      · rw [still.2] at found
        cases found

/-- A call that does not spare the profile's directory makes the publication fail. -/
theorem not_sparing {event : Event ι} (taken : ¬Sparing f places s event) (events : List (Event ι)) :
    (exec f places (perform f places s event) events).phase ≠ .published := by
  cases event with
  | finalize => exact absurd trivial taken
  | remove i progress =>
    simp only [Sparing,not_forall,Bool.not_eq_false] at taken
    obtain ⟨last,slug,between,runs,found,empty⟩ := taken
    apply lost_publication
    refine .inr ⟨between,?_⟩
    simp only [perform,last,removalStep,Root.rmdir,slug,found,empty,if_true,Dict.get_pop]

/-- A publication that succeeds alone succeeds beside any removals of other runs: in no state of a
run that spares the profile's directory has it failed, it ends after so many calls, and then its
directory holds what it wrote. After a call that does not spare it the publication fails. In every
run the removals take away their own directories and empty parents only. -/
theorem finalize_succeeds (f : Finalizer) (places : ι → Place) (root : Root) (removals : ι → RemovalPhase)
    (apart : ∀ i, places i ≠ f.place) (alone : Publishes f root .mkdirProfile) :
    (∀ events, Spares f places (begun root removals) events →
        (exec f places (begun root removals) events).phase ≠ .failed ∧
          (f.steps.length + 7 ≤ finalizeSteps events →
            (exec f places (begun root removals) events).phase = .published ∧
              ∃ content, applySteps f.steps (some Dir.empty) = some content ∧
                (exec f places (begun root removals) events).root.item f.place = some (.dir content))) ∧
      (∀ events event rest, ¬Sparing f places (exec f places (begun root removals) events) event →
        (exec f places (perform f places (exec f places (begun root removals) events) event) rest).phase ≠ .published) ∧
      ∀ events i progress, Deletes (places i) (exec f places (begun root removals) events).root
        (perform f places (exec f places (begun root removals) events) (.remove i progress)).root := by
  obtain ⟨allowed,start⟩ := allowed_of_publishes alone
  refine ⟨fun events spares => ?_,fun events event rest taken => not_sparing taken rest,
    fun events i progress => removalStep_deletes (places i) _ progress _⟩
  have fits := exec_fits apart allowed (s := begun root removals) start spares
  constructor
  · intro failed
    rw [failed] at fits
    exact fits
  · intro enough
    have ended : (exec f places (begun root removals) events).phase.rank f ≤ 0 :=
      (exec_rank events).trans (by simp only [begun,Phase.rank]; omega)
    rcases rank_zero (Nat.le_zero.mp ended) with published | failed
    · rw [published] at fits
      exact ⟨published,fits⟩
    · rw [failed] at fits
      exact fits.elim

def smallFinalizer : Finalizer where
  publication := ⟨⟨str "00000007",by decide,by decide⟩,str "a",⟨str "second",by decide,by decide⟩,⟨str "moment",by decide,by decide⟩,
    ⟨str ".dump",by decide,by decide⟩,⟨[(str "key",.null)],⟨by decide,strOk_of_ascii (by decide),trivial,trivial⟩,by decide⟩,
    ⟨[4,5],by decide⟩,2,by decide⟩
  os := ⟨⟨fun _ => List.replicate 64 99,by simp,by simp⟩,24,by decide⟩
  limit := 10
  torn := 0
  sameDevice := true
  refuses _ := false

theorem smallFinalizer_allowed : Allowed smallFinalizer := ⟨rfl,rfl,rfl,rfl,rfl,fun _ _ => rfl⟩

def oneRun : Root := Dict.empty.set (str "a") (.dir (Dict.empty.set (str "earlier") (.dir Dir.empty)))

def earlier (_ : Unit) : Place := ⟨str "a",str "earlier"⟩

theorem oneRun_publishes : Publishes smallFinalizer oneRun .mkdirProfile := by
  refine publishes_iff.mpr ⟨smallFinalizer_allowed,.inr ⟨Dict.empty.set (str "earlier") (.dir Dir.empty),?_,?_⟩⟩
  · exact Dict.get_set_self ..
  · exact Dict.get_set_ne _ _ (by decide)

/-- The directory has been found when the last run in it is removed with it. -/
theorem finalize_losesParent :
    Publishes smallFinalizer oneRun .mkdirProfile ∧
      (exec smallFinalizer earlier (begun oneRun fun _ => .validate)
        [.finalize,.finalize,.remove () .gone,.remove () .gone,.remove () .gone,.finalize]).phase = .failed := by
  refine ⟨oneRun_publishes,?_⟩
  rfl

/-- The same run with the removal's last call after the second creation. -/
theorem finalize_succeeds_small :
    (exec smallFinalizer earlier (begun oneRun fun _ => .validate)
      [.finalize,.finalize,.remove () .gone,.remove () .gone,.finalize,.finalize,.finalize,.remove () .gone]).phase ≠ .failed := by
  refine ((finalize_succeeds smallFinalizer earlier oneRun (fun _ => .validate) ?_ oneRun_publishes).1 _ ?_).1
  · rintro ⟨⟩ same
    exact absurd (congrArg Place.name same) (by decide)
  · refine ⟨trivial,trivial,?_,?_,trivial,trivial,trivial,?_,trivial⟩
    · rintro ⟨⟩
    · rintro ⟨⟩
    · rintro - - ⟨⟩

end Runs

end BackupTelebot.SharedPending
