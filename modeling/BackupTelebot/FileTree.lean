import BackupTelebot.JsonValue

/-! File trees as a process that owns them and is not root can see and remove them. Only
the owner bits of a directory's mode matter here; symbolic links are never followed. -/
namespace Posix

open PyJson

/-- The owner bits of a directory: list it, change its entries, reach its entries. -/
structure DirMode where
  read : Bool
  write : Bool
  search : Bool
  deriving DecidableEq, Repr

inductive Tree where
  | file (size : Nat)
  | link
  | special
  | dir (mode : DirMode) (entries : List (Str × Tree))

/-- The mode `mkdir` gives the directories this process makes for itself. -/
def DirMode.own : DirMode := ⟨true,true,true⟩

namespace Tree

theorem induction {P : Tree → Prop} (file : ∀ size, P (.file size)) (link : P .link)
    (special : P .special) (dir : ∀ mode entries, (∀ entry ∈ entries, P entry.2) → P (.dir mode entries))
    (tree : Tree) : P tree :=
  @Tree.rec P (fun entries => ∀ entry ∈ entries, P entry.2) (fun entry => P entry.2) file link special dir (by simp)
    (fun _ _ head tail entry member => by
      rcases List.mem_cons.mp member with rfl | later
      · exact head
      · exact tail entry later)
    (fun _ _ value => value) tree

mutual
/-- What `shutil.rmtree` leaves of one entry: `none` when it is gone. A directory is
opened for reading before anything else; its entries are removed in their order, which
takes search and write permission, and the first refusal ends the removal. -/
def remove : Tree → Option Tree
  | .dir mode entries =>
      if mode.read then
        match removeEntries mode entries with
        | [] => none
        | left => some (.dir mode left)
      else some (.dir mode entries)
  | _ => none
def removeEntries (mode : DirMode) : List (Str × Tree) → List (Str × Tree)
  | [] => []
  | (name,entry) :: rest =>
      if mode.search then
        match entry.remove with
        | some left => (name,left) :: rest
        | none => if mode.write then removeEntries mode rest else (name,entry.emptied) :: rest
      else (name,entry) :: rest
/-- A directory whose entries are gone and that could not be unlinked itself. -/
def emptied : Tree → Tree
  | .dir mode _ => .dir mode []
  | tree => tree
end

mutual
/-- The owner may list every directory, and change and reach every entry there is. -/
def Removable : Tree → Prop
  | .dir mode entries => mode.read = true ∧
      (entries ≠ [] → mode.write = true ∧ mode.search = true) ∧ RemovableEntries entries
  | _ => True
def RemovableEntries : List (Str × Tree) → Prop
  | [] => True
  | (_,entry) :: rest => entry.Removable ∧ RemovableEntries rest
end

theorem removableEntries_iff {entries : List (Str × Tree)} :
    RemovableEntries entries ↔ ∀ entry ∈ entries, entry.2.Removable := by
  induction entries with
  | nil => simp [RemovableEntries]
  | cons entry rest ih => simp [RemovableEntries,ih]

theorem removeEntries_eq_nil {mode : DirMode} {entries : List (Str × Tree)} :
    removeEntries mode entries = [] ↔
      (entries ≠ [] → mode.write = true ∧ mode.search = true) ∧ ∀ entry ∈ entries, entry.2.remove = none := by
  induction entries with
  | nil => simp [removeEntries]
  | cons entry rest ih =>
    obtain ⟨name,entry⟩ := entry
    unfold removeEntries
    by_cases search : mode.search = true
    · simp only [if_pos search]
      cases removed : entry.remove with
      | some left => simp [removed]
      | none =>
        by_cases write : mode.write = true
        · simp [write,search,removed,ih]
        · simp [write]
    · simp [search]

/-- `rmtree` succeeds exactly on the removable trees. -/
theorem remove_eq_none {tree : Tree} : tree.remove = none ↔ tree.Removable := by
  induction tree using Tree.induction with
  | file size => simp [remove,Removable]
  | link => simp [remove,Removable]
  | special => simp [remove,Removable]
  | dir mode entries ih =>
    have gone : (∀ entry ∈ entries, entry.2.remove = none) ↔ ∀ entry ∈ entries, entry.2.Removable :=
      forall₂_congr ih
    by_cases read : mode.read = true
    · simp only [remove,if_pos read,Removable,removableEntries_iff,← gone]
      cases left : removeEntries mode entries with
      | nil =>
        have := removeEntries_eq_nil.mp left
        exact ⟨fun _ => ⟨read,this⟩,fun _ => rfl⟩
      | cons entry rest =>
        constructor
        · intro impossible
          simp at impossible
        · intro all
          rw [removeEntries_eq_nil.mpr all.2] at left
          simp at left
    · simp [remove,Removable,read]

instance : DecidablePred Removable := fun tree => decidable_of_iff _ (@remove_eq_none tree)

theorem removeEntries_cons (mode : DirMode) (name : Str) (entry : Tree) (rest : List (Str × Tree)) :
    removeEntries mode ((name,entry) :: rest) =
      if mode.search then
        match entry.remove with
        | some left => (name,left) :: rest
        | none => if mode.write then removeEntries mode rest else (name,entry.emptied) :: rest
      else (name,entry) :: rest := by
  rw [removeEntries]

theorem emptied_remove {entry : Tree} (gone : entry.remove = none) : entry.emptied.remove = none := by
  cases entry with
  | dir mode entries =>
    have readable : mode.read = true := (remove_eq_none.mp gone).1
    simp [emptied,remove,readable,removeEntries]
  | _ => simp [emptied,remove]

theorem emptied_emptied (entry : Tree) : entry.emptied.emptied = entry.emptied := by
  cases entry <;> simp [emptied]

theorem removeEntries_idem {mode : DirMode} {entries : List (Str × Tree)}
    (each : ∀ entry ∈ entries, ∀ left, entry.2.remove = some left → left.remove = some left) :
    removeEntries mode (removeEntries mode entries) = removeEntries mode entries := by
  induction entries with
  | nil => simp [removeEntries]
  | cons entry rest ih =>
    obtain ⟨name,entry⟩ := entry
    rw [removeEntries_cons]
    by_cases search : mode.search = true
    · simp only [if_pos search]
      cases removed : entry.remove with
      | some left =>
        have stays := each (name,entry) (by simp) left removed
        simp [removeEntries_cons,search,stays]
      | none =>
        by_cases write : mode.write = true
        · simp only [if_pos write]
          exact ih (fun entry member => each entry (List.mem_cons_of_mem _ member))
        · simp [removeEntries_cons,search,write,emptied_remove removed,emptied_emptied]
    · simp [removeEntries_cons,search]

/-- What an unsuccessful removal leaves cannot be removed the next time either. -/
theorem remove_idem {tree : Tree} : ∀ left, tree.remove = some left → left.remove = some left := by
  induction tree using Tree.induction with
  | file size => simp [remove]
  | link => simp [remove]
  | special => simp [remove]
  | dir mode entries ih =>
    intro left kept
    have stable : removeEntries mode (removeEntries mode entries) = removeEntries mode entries := removeEntries_idem ih
    by_cases read : mode.read = true
    · simp only [remove,if_pos read] at kept
      cases rest : removeEntries mode entries with
      | nil => simp [rest] at kept
      | cons entry others =>
        rw [rest] at stable kept
        obtain rfl := Option.some.inj kept
        simp only [remove,if_pos read,stable]
    · simp only [remove,if_neg read,Option.some.injEq] at kept
      subst left
      simp [remove,read]

end Tree

end Posix
