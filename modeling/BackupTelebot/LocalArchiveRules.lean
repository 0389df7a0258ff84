import BackupTelebot.LocalArchive

/-! What the traversal of a tree does to each node of it. The order of the names plays no part. -/
namespace BackupTelebot.LocalArchive

open PyJson Packaging PurePosix

namespace Node

mutual
def visible : Node → List (List Str × Node)
  | .dir access entries =>
      ([],.dir access entries) :: if access.stat && access.open_ && access.list then visibleEntries entries else []
  | node => [([],node)]
def visibleEntries : List (Str × Node) → List (List Str × Node)
  | [] => []
  | (name,node) :: rest => node.visible.map (fun found => (name :: found.1,found.2)) ++ visibleEntries rest
end

def isOpen : Node → Bool
  | .dir access _ => access.stat && access.open_
  | _ => false

def acts (depth : ℕ) (path : List Str) (node : Node) : List Act :=
  (if node.isOpen then [.checkDepth depth,.directory path] else []) ++
    (match node with
      | .file access content => if access.stat && access.open_ then [.file path content] else []
      | _ => []) ++
    match node.skipped? path with
    | some skipped => [.record skipped.reason skipped.entryType path]
    | none => []

/-- The directories are no deeper than the calls. -/
def Shallow (node : Node) (frames : ℕ) : Prop := ∀ found ∈ node.visible, found.2.isOpen = true → found.1.length < frames

theorem mem_visibleEntries {entries : List (Str × Node)} {found : List Str × Node} :
    found ∈ visibleEntries entries ↔ ∃ entry ∈ entries, ∃ below ∈ entry.2.visible, found = (entry.1 :: below.1,below.2) := by
  induction entries with
  | nil => simp [visibleEntries]
  | cons entry rest ih =>
    obtain ⟨name,node⟩ := entry
    rw [visibleEntries,List.mem_append,ih]
    simp [List.mem_map,eq_comm]

theorem self_visible (node : Node) : ([],node) ∈ node.visible := by
  cases node <;> simp [visible]

section Directory

variable {access : Access} {entries : List (Str × Node)}

theorem visible_listed (listed : (access.stat && access.open_ && access.list) = true) :
    (dir access entries).visible = ([],.dir access entries) :: visibleEntries entries := by
  rw [visible,if_pos listed]

theorem visible_unlisted (unlisted : (access.stat && access.open_ && access.list) = false) :
    (dir access entries).visible = [([],.dir access entries)] := by
  rw [visible,unlisted]
  rfl

theorem Shallow.below {frames : ℕ} (shallow : (dir access entries).Shallow frames)
    (listed : (access.stat && access.open_ && access.list) = true) : ∀ entry ∈ entries, entry.2.Shallow (frames - 1) := by
  intro entry member found inside isOpen
  have here := shallow (entry.1 :: found.1,found.2) (by
    rw [visible_listed listed]
    exact List.mem_cons_of_mem _ (mem_visibleEntries.mpr ⟨entry,member,found,inside,rfl⟩)) isOpen
  rw [List.length_cons] at here
  omega

end Directory

/-- A node that is no open directory is done with at once. -/
theorem archiveEntry_leaf (node : Node) (leaf : node.isOpen = false) (frames depth : ℕ) (path : List Str) :
    archiveEntry frames depth path node = node.acts depth path ∧ node.visible = [([],node)] := by
  cases node with
  | file access content =>
    obtain ⟨stat,open_,list⟩ := access
    refine ⟨?_,rfl⟩
    cases stat <;> cases open_ <;> simp [archiveEntry,acts,isOpen,skipped?,Node.access]
  | link access =>
    refine ⟨?_,rfl⟩
    cases stat : access.stat <;> simp [archiveEntry,acts,isOpen,skipped?,Node.access,stat]
  | special access entryType =>
    refine ⟨?_,rfl⟩
    cases stat : access.stat <;> simp [archiveEntry,acts,isOpen,skipped?,Node.access,stat]
  | dir access entries =>
    obtain ⟨stat,open_,list⟩ := access
    cases stat with
    | false => exact ⟨by simp [archiveEntry,acts,isOpen,skipped?,Node.access],visible_unlisted rfl⟩
    | true =>
      cases open_ with
      | false => exact ⟨by simp [archiveEntry,acts,isOpen,skipped?,Node.access],visible_unlisted rfl⟩
      | true => simp [isOpen] at leaf

/-- What the traversal of a node does, node by node. -/
theorem archiveEntry_perm {node : Node} {frames : ℕ} (shallow : node.Shallow frames) (depth : ℕ) (path : List Str) :
    (archiveEntry frames depth path node).Perm
      (node.visible.flatMap fun found => found.2.acts (depth + found.1.length) (path ++ found.1)) := by
  induction node using Node.induction generalizing frames depth path with
  | file access content =>
    obtain ⟨same,only⟩ := archiveEntry_leaf (.file access content) rfl frames depth path
    simp [same,only]
  | link access =>
    obtain ⟨same,only⟩ := archiveEntry_leaf (.link access) rfl frames depth path
    simp [same,only]
  | special access entryType =>
    obtain ⟨same,only⟩ := archiveEntry_leaf (.special access entryType) rfl frames depth path
    simp [same,only]
  | dir access entries ih =>
    by_cases leaf : (dir access entries).isOpen = true
    · have inside : 0 < frames := shallow _ (self_visible _) leaf
      have opened : access.stat = true ∧ access.open_ = true := by simpa [isOpen] using leaf
      cases listed : access.list with
      | false =>
        have alone : (dir access entries).visible = [([],.dir access entries)] := visible_unlisted (by simp [listed])
        simp [archiveEntry,alone,acts,isOpen,skipped?,Node.access,opened,listed,inside.ne']
      | true =>
        have whole : (access.stat && access.open_ && access.list) = true := by simp [opened,listed]
        have below := shallow.below whole
        have rest : ((sortByName (archiveEntries (frames - 1) (depth + 1) path entries)).flatMap (·.2)).Perm
            ((visibleEntries entries).flatMap fun found => found.2.acts (depth + found.1.length) (path ++ found.1)) := by
          refine ((List.mergeSort_perm _ _).flatMap_right _).trans ?_
          clear shallow inside leaf whole
          induction entries with
          | nil => simp [archiveEntries,visibleEntries]
          | cons entry rest later =>
            obtain ⟨name,node⟩ := entry
            have first := ih _ List.mem_cons_self (below _ List.mem_cons_self) (depth + 1) (path ++ [name])
            have others := later (fun entry member => ih entry (List.mem_cons_of_mem _ member))
              (fun entry member => below entry (List.mem_cons_of_mem _ member))
            rw [archiveEntries,visibleEntries,List.flatMap_cons,List.flatMap_append,List.flatMap_map]
            refine List.Perm.append ?_ others
            simpa [Nat.add_assoc,Nat.add_comm 1] using first
        rw [visible_listed whole,List.flatMap_cons]
        have here : (dir access entries).acts (depth + ([] : List Str).length) (path ++ []) = [.checkDepth depth,.directory path] := by
          simp [acts,isOpen,skipped?,Node.access,opened,listed]
        rw [here]
        simpa [archiveEntry,opened,listed,inside.ne'] using rest
    · obtain ⟨same,only⟩ := archiveEntry_leaf _ (by simpa using leaf) frames depth path
      simp [same,only]

/-- Where the tree is too deep the recursion limit is met. -/
theorem shallow_of_noRaise {node : Node} {frames depth : ℕ} {path : List Str}
    (noRaise : ∀ failure, Act.raise failure ∉ archiveEntry frames depth path node) : node.Shallow frames := by
  induction node using Node.induction generalizing frames depth path with
  | file access content => simp [Shallow,visible,isOpen]
  | link access => simp [Shallow,visible,isOpen]
  | special access entryType => simp [Shallow,visible,isOpen]
  | dir access entries ih =>
    by_cases opened : access.stat = true ∧ access.open_ = true
    · have inside : frames ≠ 0 := by
        rintro rfl
        exact noRaise recursionError (by simp [archiveEntry,opened])
      cases listed : access.list with
      | false =>
        have alone : (dir access entries).visible = [([],.dir access entries)] := visible_unlisted (by simp [listed])
        intro found member _
        rw [alone,List.mem_singleton] at member
        subst member
        exact Nat.pos_of_ne_zero inside
      | true =>
        have whole : (access.stat && access.open_ && access.list) = true := by simp [opened,listed]
        have each : ∀ entry ∈ entries, ∀ failure, Act.raise failure ∉ archiveEntry (frames - 1) (depth + 1) (path ++ [entry.1]) entry.2 := by
          intro entry member failure raised
          refine noRaise failure ?_
          have listedActs : (entry.1,archiveEntry (frames - 1) (depth + 1) (path ++ [entry.1]) entry.2) ∈
              archiveEntries (frames - 1) (depth + 1) path entries := by
            clear noRaise ih
            induction entries with
            | nil => simp at member
            | cons first rest later =>
              rcases List.mem_cons.mp member with rfl | member
              · exact List.mem_cons_self
              · exact List.mem_cons_of_mem _ (later member)
          simp only [archiveEntry,opened,listed,inside,if_true,if_false]
          exact List.mem_cons_of_mem _ (List.mem_cons_of_mem _
            (List.mem_flatMap.mpr ⟨_,(List.mergeSort_perm _ _).mem_iff.mpr listedActs,raised⟩))
        intro found member isOpen
        rw [visible_listed whole] at member
        rcases List.mem_cons.mp member with rfl | below
        · exact Nat.pos_of_ne_zero inside
        · obtain ⟨entry,among,lower,here,rfl⟩ := mem_visibleEntries.mp below
          have := ih entry among (each entry among) lower here isOpen
          rw [List.length_cons]
          omega
    · have alone : (dir access entries).visible = [([],.dir access entries)] := by
        apply visible_unlisted
        cases stat : access.stat <;> cases open_ : access.open_ <;> simp_all
      intro found member isOpen
      rw [alone,List.mem_singleton] at member
      subst member
      exact absurd (by simpa [Node.isOpen] using isOpen) opened

/-- The paths of a tree are different, and made of names. -/
theorem visible_nodup {node : Node} (proper : node.Proper) :
    (node.visible.map Prod.fst).Nodup ∧ ∀ found ∈ node.visible, ∀ name ∈ found.1, Packaging.Node.IsEntry name := by
  induction node using Node.induction with
  | file access content => simp [visible]
  | link access => simp [visible]
  | special access entryType => simp [visible]
  | dir access entries ih =>
    obtain ⟨distinct,below⟩ := proper
    rw [properEntries_iff] at below
    by_cases listed : (access.stat && access.open_ && access.list) = true
    · rw [visible_listed listed,List.map_cons,List.nodup_cons]
      have fresh : ([] : List Str) ∉ (visibleEntries entries).map Prod.fst := by
        intro member
        obtain ⟨found,inside,empty⟩ := List.mem_map.mp member
        obtain ⟨entry,_,lower,_,rfl⟩ := mem_visibleEntries.mp inside
        simp at empty
      refine ⟨⟨fresh,?_⟩,?_⟩
      · clear fresh listed
        induction entries with
        | nil => simp [visibleEntries]
        | cons entry rest later =>
          obtain ⟨name,node⟩ := entry
          obtain ⟨new,distinct⟩ := List.nodup_cons.mp distinct
          have there := later (fun entry member => ih entry (List.mem_cons_of_mem _ member)) distinct
            (fun entry member => below entry (List.mem_cons_of_mem _ member))
          have here := (ih _ List.mem_cons_self (below _ List.mem_cons_self).2).1
          rw [visibleEntries,List.map_append,List.nodup_append']
          refine ⟨?_,there,?_⟩
          · rw [List.map_map]
            have shape : (Prod.fst ∘ fun found : List Str × Node => (name :: found.1,found.2)) = (name :: ·) ∘ Prod.fst := rfl
            rw [shape,← List.map_map]
            exact here.map List.cons_injective
          · intro path first second
            obtain ⟨found,member,rfl⟩ := List.mem_map.mp first
            obtain ⟨low,_,rfl⟩ := List.mem_map.mp member
            obtain ⟨other,member',same⟩ := List.mem_map.mp second
            obtain ⟨entry,inside,high,_,rfl⟩ := mem_visibleEntries.mp member'
            have again : entry.1 = name := (List.cons.inj same).1
            exact new (List.mem_map.mpr ⟨entry,inside,again⟩)
      · intro found member
        rcases List.mem_cons.mp member with rfl | member
        · simp
        · obtain ⟨entry,inside,lower,here,rfl⟩ := mem_visibleEntries.mp member
          intro name member
          rcases List.mem_cons.mp member with rfl | member
          · exact (below entry inside).1
          · exact (ih entry inside (below entry inside).2).2 lower here name member
    · rw [visible_unlisted (by simpa using listed)]
      simp

theorem lookup_iff {α : Type} {entries : List (Str × α)} (distinct : (entries.map Prod.fst).Nodup) {name : Str} {value : α} :
    entries.lookup name = some value ↔ (name,value) ∈ entries := by
  induction entries with
  | nil => simp
  | cons entry rest ih =>
    obtain ⟨other,first⟩ := entry
    obtain ⟨new,distinct⟩ := List.nodup_cons.mp distinct
    by_cases same : name = other
    · subst same
      have absent : (name,value) ∉ rest := fun member => new (List.mem_map.mpr ⟨_,member,rfl⟩)
      simp [absent,eq_comm]
    · have differ : (name == other) = false := by simpa using same
      rw [List.lookup_cons,differ,List.mem_cons,ih distinct]
      simp [same]

/-- The visible nodes are those that can be found by their paths. -/
theorem mem_visible {node : Node} (proper : node.Proper) {path : List Str} {found : Node} :
    (path,found) ∈ node.visible ↔ node.at_ path = some found := by
  induction node using Node.induction generalizing path with
  | file access content => cases path <;> simp [visible,at_,eq_comm]
  | link access => cases path <;> simp [visible,at_,eq_comm]
  | special access entryType => cases path <;> simp [visible,at_,eq_comm]
  | dir access entries ih =>
    obtain ⟨distinct,below⟩ := proper
    rw [properEntries_iff] at below
    cases path with
    | nil =>
      have first : ([],found) ∈ (dir access entries).visible ↔ found = dir access entries := by
        by_cases listed : (access.stat && access.open_ && access.list) = true
        · rw [visible_listed listed,List.mem_cons]
          simp [mem_visibleEntries]
        · rw [visible_unlisted (by simpa using listed)]
          simp
      rw [first,at_,Option.some.injEq,eq_comm]
    | cons name rest =>
      by_cases listed : (access.stat && access.open_ && access.list) = true
      · rw [visible_listed listed,at_,if_pos listed,List.mem_cons]
        simp only [Prod.mk.injEq,reduceCtorEq,false_and,false_or,mem_visibleEntries,Option.bind_eq_some_iff]
        constructor
        · rintro ⟨entry,inside,lower,here,same⟩
          obtain ⟨rfl,rfl⟩ := List.cons.inj same.1
          obtain ⟨-,rfl⟩ := same
          exact ⟨entry.2,(lookup_iff distinct).mpr inside,(ih entry inside (below entry inside).2).mp here⟩
        · rintro ⟨node,lookup,there⟩
          have inside : (name,node) ∈ entries := (lookup_iff distinct).mp lookup
          exact ⟨(name,node),inside,(rest,found),(ih _ inside (below _ inside).2).mpr there,rfl,rfl⟩
      · rw [visible_unlisted (by simpa using listed),at_,if_neg listed]
        simp

end Node

end BackupTelebot.LocalArchive
