import BackupTelebot.FailureCleanup
import BackupTelebot.PendingRules
import BackupTelebot.PurePaths

/-! The archive of a finished download. `rsync -aHAX` keeps hard links and the modes of
the source, `tarfile.add` writes a link member for a second name of an archived inode, and
the worker that packs the download is not root. -/
namespace BackupTelebot.Packaging

open PyJson Posix PurePosix

/-! ### Downloaded trees -/

/-- What the names of one file share. -/
structure Inode where
  content : List Nat
  readable : Bool
deriving DecidableEq, Repr

/-- The entries of a directory stand in the order of their names, which is the order in
which they are archived. -/
inductive Node where
  | file (inode : Nat)
  | link
  | special
  | dir (mode : DirMode) (entries : List (Str × Node))

namespace Node

theorem induction {P : Node → Prop} (file : ∀ inode, P (.file inode)) (link : P .link)
    (special : P .special) (dir : ∀ mode entries, (∀ entry ∈ entries, P entry.2) → P (.dir mode entries))
    (node : Node) : P node :=
  @Node.rec P (fun entries => ∀ entry ∈ entries, P entry.2) (fun entry => P entry.2) file link special dir (by simp)
    (fun _ _ head tail entry member => by
      rcases List.mem_cons.mp member with rfl | later
      · exact head
      · exact tail entry later)
    (fun _ _ value => value) node

mutual
def All (P : Node → Prop) : Node → Prop
  | .dir mode entries => P (.dir mode entries) ∧ AllEntries P entries
  | node => P node
def AllEntries (P : Node → Prop) : List (Str × Node) → Prop
  | [] => True
  | (_,node) :: rest => node.All P ∧ AllEntries P rest
end

mutual
def files : Node → List (List Str × Nat)
  | .file inode => [([],inode)]
  | .dir _ entries => entryFiles entries
  | _ => []
def entryFiles : List (Str × Node) → List (List Str × Nat)
  | [] => []
  | (name,node) :: rest => node.files.map (fun file => (name :: file.1,file.2)) ++ entryFiles rest
end

mutual
def height : Node → Nat
  | .dir _ entries => entriesHeight entries + 1
  | _ => 1
def entriesHeight : List (Str × Node) → Nat
  | [] => 0
  | (_,node) :: rest => max node.height (entriesHeight rest)
end

mutual
/-- The tree as `_validate_download` sees it. -/
def tree (inode : Nat → Inode) : Node → Tree
  | .file i => .file (inode i).content.length
  | .link => .link
  | .special => .special
  | .dir mode entries => .dir mode (entryTrees inode entries)
def entryTrees (inode : Nat → Inode) : List (Str × Node) → List (Str × Tree)
  | [] => []
  | (name,node) :: rest => (name,node.tree inode) :: entryTrees inode rest
end

def Plain : Node → Prop := All fun node => node ≠ .link ∧ node ≠ .special

/-- A name of an entry: not empty, without a slash, neither of the two dotted names. -/
structure IsEntry (name : Str) : Prop extends IsName name where
  notUp : name ≠ [PurePosix.dot,PurePosix.dot]

def Proper : Node → Prop := All fun
  | .dir _ entries => (entries.map Prod.fst).Nodup ∧ ∀ entry ∈ entries, IsEntry entry.1
  | _ => True

def Listable : Node → Prop := All fun
  | .dir mode _ => mode.read = true
  | _ => True

def Reachable : Node → Prop := All fun
  | .dir mode entries => entries ≠ [] → mode.search = true
  | _ => True

end Node

/-- `download_root` after the transfers: one entry for each source path. -/
structure Download where
  items : List (Str × Node)
  inode : Nat → Inode
  proper : (Node.dir .own items).Proper

namespace Download

def root (d : Download) : Node := .dir .own d.items

def Plain (d : Download) : Prop := d.root.Plain

/-- `_validate_download` has let every transfer pass, each under its budget. -/
def Accepted (d : Download) : Prop :=
  ∀ item ∈ d.items, ∃ budget found, validateDownload budget (some (item.2.tree d.inode)) = .ok found

/-- `st_nlink`. The directory is the worker's own, so every name of a file is in it. -/
def links (d : Download) (inode : Nat) : Nat := (d.root.files.map Prod.snd).count inode

end Download

/-! ### The archive -/

/-- `TarInfo.type`, as far as the verification tells types apart. -/
inductive TarType where
  | regular
  | link
  | directory
  | other
deriving DecidableEq, Repr

structure TarMember where
  name : Str
  type : TarType
  linkname : Str
  data : List Nat
deriving DecidableEq, Repr

/-- An open `TarFile`: the members so far, and the first name of each archived inode. -/
structure TarFile where
  members : List TarMember
  inodes : List (Nat × Str)
deriving DecidableEq, Repr

def TarFile.new : TarFile := ⟨[],[]⟩

/-- One call of `TarFile.add`, or the exception in its place. -/
inductive Visit where
  | file (path : List Str) (inode : Nat)
  | directory (path : List Str)
  | other (path : List Str)
  | refused (failure : Failure)
deriving DecidableEq, Repr

mutual
/-- The calls of `TarFile.add` for one node, of which at most `frames` can be open at once
before Python's recursion limit. -/
def Node.visits (frames : Nat) (path : List Str) : Node → List Visit
  | .file inode => if frames = 0 then [.refused (.builtin "RecursionError")] else [.file path inode]
  | .dir mode entries =>
      if frames = 0 then [.refused (.builtin "RecursionError")]
      else .directory path ::
        if mode.read then entryVisits mode (frames - 1) path entries else [.refused (.builtin "PermissionError")]
  | _ => if frames = 0 then [.refused (.builtin "RecursionError")] else [.other path]
def entryVisits (mode : DirMode) (frames : Nat) (path : List Str) : List (Str × Node) → List Visit
  | [] => []
  | (name,node) :: rest =>
      (if mode.search then node.visits frames (path ++ [name]) else [.refused (.builtin "PermissionError")]) ++
        entryVisits mode frames path rest
end

/-- `TarFile.gettarinfo` and `addfile` for one node. -/
def TarFile.add (d : Download) (archive : TarFile) : Visit → Except Failure TarFile
  | .refused failure => .error failure
  | .other path => .ok { archive with members := archive.members ++ [⟨join path,.other,[],[]⟩] }
  | .directory path => .ok { archive with members := archive.members ++ [⟨join path,.directory,[],[]⟩] }
  | .file path inode =>
      let regular : Except Failure TarFile :=
        if (d.inode inode).readable then
          .ok ⟨archive.members ++ [⟨join path,.regular,[],(d.inode inode).content⟩],
            (inode,join path) :: archive.inodes⟩
        else .error (.builtin "PermissionError")
      match archive.inodes.lookup inode with
      | some first =>
          if 1 < d.links inode ∧ join path ≠ first then
            .ok { archive with members := archive.members ++ [⟨join path,.link,first,[]⟩] }
          else regular
      | none => regular

/-- `arcname="sources"`. -/
def sources : Str := str "sources"

/-- `_tar_download`; the checks of disk, deadline and stop between members are left out. -/
def tarDownload (frames : Nat) (d : Download) : Except Failure TarFile :=
  (d.root.visits frames [sources]).foldlM (TarFile.add d) .new

def verifyMember (member : TarMember) : Except Failure Unit :=
  let path := parse member.name
  if path.isAbsolute || path.climbs || !(member.type = .regular || member.type = .directory) then
    .error (.pipeline "UNSAFE_ARCHIVE")
  else .ok ()

def verifyTar (archive : TarFile) : Except Failure Unit := archive.members.forM verifyMember

/-- Every file of the download is in the archive with all its content. -/
def TarFile.Holds (archive : TarFile) (d : Download) : Prop :=
  ∀ file ∈ d.root.files, ∃ member ∈ archive.members,
    member.name = join (sources :: file.1) ∧ member.type = .regular ∧ member.data = (d.inode file.2).content

/-- No two names of one file, everything open to the worker, and no deeper nesting than
the recursion limit has calls for. -/
structure Download.Packable (d : Download) (frames : Nat) : Prop where
  single : (d.root.files.map Prod.snd).Nodup
  readable : ∀ file ∈ d.root.files, (d.inode file.2).readable = true
  listable : d.root.Listable
  shallow : d.root.height ≤ frames

/-! ### The calls for a tree -/

namespace Node

theorem allEntries_iff {P : Node → Prop} {entries : List (Str × Node)} :
    AllEntries P entries ↔ ∀ entry ∈ entries, entry.2.All P := by
  induction entries with
  | nil => simp [AllEntries]
  | cons entry rest ih => simp [AllEntries,ih]

theorem all_dir {P : Node → Prop} {mode : DirMode} {entries : List (Str × Node)} :
    (dir mode entries).All P ↔ P (.dir mode entries) ∧ ∀ entry ∈ entries, entry.2.All P := by
  simp [All,allEntries_iff]

theorem entriesHeight_le {entries : List (Str × Node)} {bound : Nat} :
    entriesHeight entries ≤ bound ↔ ∀ entry ∈ entries, entry.2.height ≤ bound := by
  induction entries with
  | nil => simp [entriesHeight]
  | cons entry rest ih => simp [entriesHeight,ih]

theorem mem_entryFiles {entries : List (Str × Node)} {file : List Str × Nat} :
    file ∈ entryFiles entries ↔ ∃ entry ∈ entries, ∃ below ∈ entry.2.files, file = (entry.1 :: below.1,below.2) := by
  induction entries with
  | nil => simp [entryFiles]
  | cons entry rest ih =>
    obtain ⟨name,node⟩ := entry
    rw [entryFiles,List.mem_append,ih]
    simp [List.mem_map,eq_comm]

def Unhindered (visits : List Visit) : Prop := ∀ failure, Visit.refused failure ∉ visits

theorem unhindered_append {first second : List Visit} :
    Unhindered (first ++ second) ↔ Unhindered first ∧ Unhindered second := by
  simp [Unhindered,forall_and]

theorem entryVisits_unhindered {mode : DirMode} {frames : Nat} {path : List Str} {entries : List (Str × Node)} :
    Unhindered (entryVisits mode frames path entries) ↔
      (entries ≠ [] → mode.search = true) ∧
        ∀ entry ∈ entries, Unhindered (entry.2.visits frames (path ++ [entry.1])) := by
  induction entries with
  | nil => simp [entryVisits,Unhindered]
  | cons entry rest ih =>
    obtain ⟨name,node⟩ := entry
    rw [entryVisits,unhindered_append,ih]
    by_cases search : mode.search = true
    · simp [search]
    · simp [search,Unhindered]

theorem visits_unhindered {node : Node} {frames : Nat} {path : List Str} :
    Unhindered (node.visits frames path) ↔ node.Listable ∧ node.Reachable ∧ node.height ≤ frames := by
  induction node using Node.induction generalizing frames path with
  | file | link | special =>
    by_cases none : frames = 0
    · simp [visits,none,Unhindered,height]
    · have enough : 1 ≤ frames := by omega
      simp [visits,none,Unhindered,height,enough,Listable,Reachable,All]
  | dir mode entries ih =>
    by_cases none : frames = 0
    · simp [visits,none,Unhindered,height]
    · by_cases read : mode.read = true
      · have inside : Unhindered ((dir mode entries).visits frames path) ↔
            Unhindered (entryVisits mode (frames - 1) path entries) := by
          simp [visits,none,read,Unhindered]
        have below : entriesHeight entries + 1 ≤ frames ↔ entriesHeight entries ≤ frames - 1 := by omega
        rw [inside,entryVisits_unhindered,height,below,entriesHeight_le,Listable,Reachable,all_dir,all_dir]
        constructor
        · rintro ⟨search,each⟩
          have each := fun entry member => (ih entry member).mp (each entry member)
          exact ⟨⟨read,fun entry member => (each entry member).1⟩,
            ⟨search,fun entry member => (each entry member).2.1⟩,fun entry member => (each entry member).2.2⟩
        · rintro ⟨⟨_,listable⟩,⟨search,reachable⟩,shallow⟩
          exact ⟨search,fun entry member =>
            (ih entry member).mpr ⟨listable entry member,reachable entry member,shallow entry member⟩⟩
      · simp [visits,none,read,Unhindered,Listable,all_dir]

end Node

namespace Visit

def file? : Visit → Option (List Str × Nat)
  | .file path inode => some (path,inode)
  | _ => none

def path? : Visit → Option (List Str)
  | .file path _ | .directory path | .other path => some path
  | .refused _ => none

end Visit

namespace Node

/-- Where nothing is refused, the files are archived under their paths. -/
theorem visits_files {node : Node} {frames : Nat} {path : List Str}
    (unhindered : Unhindered (node.visits frames path)) :
    (node.visits frames path).filterMap Visit.file? = node.files.map fun file => (path ++ file.1,file.2) := by
  induction node using Node.induction generalizing frames path with
  | file | link | special =>
    by_cases none : frames = 0
    · simp [visits,none,Unhindered] at unhindered
    · simp [visits,none,Visit.file?,files]
  | dir mode entries ih =>
    by_cases none : frames = 0
    · simp [visits,none,Unhindered] at unhindered
    · by_cases read : mode.read = true
      · have shape : (dir mode entries).visits frames path =
            .directory path :: entryVisits mode (frames - 1) path entries := by
          simp [visits,none,read]
        rw [shape] at unhindered ⊢
        have inside : Unhindered (entryVisits mode (frames - 1) path entries) :=
          fun failure member => unhindered failure (List.mem_cons_of_mem _ member)
        obtain ⟨search,each⟩ := entryVisits_unhindered.mp inside
        rw [List.filterMap_cons_none (by rfl),files]
        clear shape unhindered inside
        induction entries with
        | nil => rfl
        | cons entry rest later =>
          obtain ⟨name,node⟩ := entry
          have here := ih _ List.mem_cons_self (each _ List.mem_cons_self)
          have there := later (fun entry member => ih entry (List.mem_cons_of_mem _ member))
            (fun _ => search (by simp)) (fun entry member => each entry (List.mem_cons_of_mem _ member))
          rw [entryVisits,if_pos (search (by simp)),List.filterMap_append,there,here,entryFiles]
          simp
      · simp [visits,none,read,Unhindered] at unhindered

theorem mem_entryVisits {mode : DirMode} {frames : Nat} {path : List Str} {entries : List (Str × Node)} {visit : Visit}
    (member : visit ∈ entryVisits mode frames path entries) :
    (∃ failure, visit = .refused failure) ∨
      ∃ entry ∈ entries, visit ∈ entry.2.visits frames (path ++ [entry.1]) := by
  induction entries with
  | nil => simp [entryVisits] at member
  | cons entry rest ih =>
    obtain ⟨name,node⟩ := entry
    rw [entryVisits,List.mem_append] at member
    rcases member with here | later
    · split at here
      · exact .inr ⟨_,List.mem_cons_self,here⟩
      · exact .inl ⟨_,List.mem_singleton.mp here⟩
    · rcases ih later with refused | ⟨entry,inside,found⟩
      · exact .inl refused
      · exact .inr ⟨entry,List.mem_cons_of_mem _ inside,found⟩

theorem visits_dir_cases {mode : DirMode} {entries : List (Str × Node)} {frames : Nat} {path : List Str} {visit : Visit}
    (member : visit ∈ (dir mode entries).visits frames path) :
    (∃ failure, visit = .refused failure) ∨ visit = .directory path ∨
      ∃ entry ∈ entries, visit ∈ entry.2.visits (frames - 1) (path ++ [entry.1]) := by
  rw [visits] at member
  split at member
  · exact .inl ⟨_,List.mem_singleton.mp member⟩
  · rcases List.mem_cons.mp member with here | below
    · exact .inr (.inl here)
    · split at below
      · rcases mem_entryVisits below with refused | found
        · exact .inl refused
        · exact .inr (.inr found)
      · exact .inl ⟨_,List.mem_singleton.mp below⟩

/-- The name of a member is the path of its node. -/
theorem visits_path {node : Node} (proper : node.Proper) {frames : Nat} {path : List Str} {visit : Visit}
    (member : visit ∈ node.visits frames path) {archived : List Str} (named : visit.path? = some archived) :
    ∃ below, archived = path ++ below ∧ ∀ name ∈ below, IsEntry name := by
  induction node using Node.induction generalizing frames path with
  | file | link | special =>
    rw [visits] at member
    · split at member
      · obtain rfl := List.mem_singleton.mp member
        cases named
      · obtain rfl := List.mem_singleton.mp member
        obtain rfl := Option.some.inj named
        exact ⟨[],by simp,by simp⟩
    all_goals simp
  | dir mode entries ih =>
    obtain ⟨⟨_,names⟩,below⟩ := all_dir.mp proper
    rcases visits_dir_cases member with ⟨failure,rfl⟩ | rfl | ⟨entry,inside,found⟩
    · cases named
    · obtain rfl := Option.some.inj named
      exact ⟨[],by simp,by simp⟩
    · obtain ⟨rest,rfl,all⟩ := ih entry inside (below entry inside) found
      exact ⟨entry.1 :: rest,by simp,by simpa using ⟨names entry inside,all⟩⟩

theorem visits_plain {node : Node} (plain : node.Plain) {frames : Nat} {path archived : List Str} :
    .other archived ∉ node.visits frames path := by
  induction node using Node.induction generalizing frames path with
  | file inode =>
    rw [visits]
    split <;> simp
  | link => exact absurd rfl plain.1
  | special => exact absurd rfl plain.2
  | dir mode entries ih =>
    intro member
    rcases visits_dir_cases member with ⟨failure,same⟩ | same | ⟨entry,inside,found⟩
    · cases same
    · cases same
    · exact ih entry inside ((all_dir.mp plain).2 entry inside) found

/-- Different files have different paths. -/
theorem files_nodup {node : Node} (proper : node.Proper) : (node.files.map Prod.fst).Nodup := by
  induction node using Node.induction with
  | file | link | special => simp [files]
  | dir mode entries ih =>
    obtain ⟨⟨distinct,names⟩,below⟩ := all_dir.mp proper
    rw [files]
    clear proper
    induction entries with
    | nil => simp [entryFiles]
    | cons entry rest later =>
      obtain ⟨name,node⟩ := entry
      obtain ⟨fresh,distinct⟩ := List.nodup_cons.mp distinct
      have there := later (fun entry member => ih entry (List.mem_cons_of_mem _ member))
        (fun entry member => below entry (List.mem_cons_of_mem _ member)) distinct
        (fun entry member => names entry (List.mem_cons_of_mem _ member))
      have here := ih _ List.mem_cons_self (below _ List.mem_cons_self)
      rw [entryFiles,List.map_append,List.nodup_append']
      refine ⟨?_,there,?_⟩
      · rw [List.map_map]
        have shape : (Prod.fst ∘ fun file : List Str × Nat => (name :: file.1,file.2)) = (name :: ·) ∘ Prod.fst := rfl
        rw [shape,← List.map_map]
        exact here.map (List.cons_injective)
      · intro path first second
        obtain ⟨file,member,rfl⟩ := List.mem_map.mp first
        obtain ⟨low,_,rfl⟩ := List.mem_map.mp member
        obtain ⟨other,member',same⟩ := List.mem_map.mp second
        obtain ⟨entry,inside,high,_,rfl⟩ := mem_entryFiles.mp member'
        have again : entry.1 = name := (List.cons.inj same).1
        exact fresh (List.mem_map.mpr ⟨entry,inside,again⟩)

theorem validateEntries_search {budget : SourceBudget} {mode : DirMode} {entries : List (Str × Tree)}
    {found result : Nat × Nat} (done : validateEntries budget mode entries found = .ok result)
    (some_ : entries ≠ []) : mode.search = true := by
  cases entries with
  | nil => exact absurd rfl some_
  | cons entry rest =>
    unfold validateEntries at done
    by_cases search : mode.search = true
    · exact search
    · simp [search] at done

theorem walkEntries_each {budget : SourceBudget} {depth : Nat} {inode : Nat → Inode} {entries : List (Str × Node)}
    {found result : Nat × Nat} (done : walkEntries budget depth (entryTrees inode entries) found = .ok result) :
    ∀ entry ∈ entries, ∃ before after, walkDownload budget depth (entry.2.tree inode) before = .ok after := by
  induction entries generalizing found with
  | nil => simp
  | cons entry rest ih =>
    obtain ⟨name,node⟩ := entry
    rw [entryTrees,walkEntries] at done
    obtain ⟨middle,here,later⟩ := except_bind_ok.mp done
    intro entry member
    rcases List.mem_cons.mp member with rfl | member
    · exact ⟨_,_,here⟩
    · exact ih later entry member

/-- The validation tests every entry of every directory it can list. -/
theorem walk_reachable {budget : SourceBudget} {inode : Nat → Inode} {node : Node} (listable : node.Listable)
    {depth : Nat} {found result : Nat × Nat} (done : walkDownload budget depth (node.tree inode) found = .ok result) :
    node.Reachable := by
  induction node using Node.induction generalizing depth found result with
  | file | link | special => exact trivial
  | dir mode entries ih =>
    obtain ⟨read,below⟩ := all_dir.mp listable
    rw [tree,walkDownload] at done
    simp only [read,Bool.not_true,Bool.false_eq_true,if_false] at done
    obtain ⟨_,_,done⟩ := except_bind_ok.mp done
    obtain ⟨_,tested,done⟩ := except_bind_ok.mp done
    obtain ⟨_,_,walked⟩ := except_bind_ok.mp done
    refine all_dir.mpr ⟨fun some_ => ?_,fun entry member => ?_⟩
    · refine validateEntries_search tested ?_
      cases entries with
      | nil => exact absurd rfl some_
      | cons entry rest => simp [entryTrees]
    · obtain ⟨_,_,here⟩ := walkEntries_each walked entry member
      exact ih entry member (below entry member) here

end Node

theorem Download.reachable {d : Download} (accepted : d.Accepted) (listable : d.root.Listable) : d.root.Reachable := by
  obtain ⟨_,below⟩ := Node.all_dir.mp listable
  refine Node.all_dir.mpr ⟨fun _ => rfl,fun item member => ?_⟩
  obtain ⟨budget,found,done⟩ := accepted item member
  cases here : item.2 with
  | file | link | special => exact trivial
  | dir mode entries =>
    have listable := below item member
    rw [here] at done listable
    exact Node.walk_reachable listable done

/-! ### Writing and reading the archive -/

def TarMember.Ordinary (member : TarMember) : Prop := member.type = .regular ∨ member.type = .directory

theorem add_extends {d : Download} {archive next : TarFile} {visit : Visit} (done : archive.add d visit = .ok next) :
    archive.members <+: next.members := by
  unfold TarFile.add at done
  split at done
  · cases done
  · obtain rfl := Except.ok.inj done
    exact List.prefix_append _ _
  · obtain rfl := Except.ok.inj done
    exact List.prefix_append _ _
  · dsimp only at done
    split at done
    · split_ifs at done
      all_goals
        obtain rfl := Except.ok.inj done
        exact List.prefix_append _ _
    · split_ifs at done
      obtain rfl := Except.ok.inj done
      exact List.prefix_append _ _

theorem fold_extends {d : Download} {archive last : TarFile} {visits : List Visit}
    (done : visits.foldlM (TarFile.add d) archive = .ok last) : archive.members <+: last.members := by
  induction visits generalizing archive with
  | nil =>
    obtain rfl := Except.ok.inj done
    exact List.prefix_rfl
  | cons visit rest ih =>
    rw [List.foldlM_cons] at done
    obtain ⟨next,here,later⟩ := except_bind_ok.mp done
    exact (add_extends here).trans (ih later)

theorem fold_unhindered {d : Download} {archive last : TarFile} {visits : List Visit}
    (done : visits.foldlM (TarFile.add d) archive = .ok last) : Node.Unhindered visits := by
  induction visits generalizing archive with
  | nil => simp [Node.Unhindered]
  | cons visit rest ih =>
    rw [List.foldlM_cons] at done
    obtain ⟨next,here,later⟩ := except_bind_ok.mp done
    intro failure member
    rcases List.mem_cons.mp member with rfl | member
    · cases here
    · exact ih later failure member

def Visit.member? (d : Download) : Visit → Option TarMember
  | .file path inode => some ⟨join path,.regular,[],(d.inode inode).content⟩
  | .directory path => some ⟨join path,.directory,[],[]⟩
  | _ => none

/-- Readable files with one name each are all written as regular members. -/
theorem fold_writes {d : Download} {visits : List Visit} {archive : TarFile} (unhindered : Node.Unhindered visits)
    (plain : ∀ path, .other path ∉ visits)
    (readable : ∀ file ∈ visits.filterMap Visit.file?, (d.inode file.2).readable = true)
    (single : ((visits.filterMap Visit.file?).map Prod.snd).Nodup)
    (fresh : ∀ file ∈ visits.filterMap Visit.file?, archive.inodes.lookup file.2 = none) :
    ∃ last, visits.foldlM (TarFile.add d) archive = .ok last ∧
      last.members = archive.members ++ visits.filterMap (Visit.member? d) := by
  induction visits generalizing archive with
  | nil => exact ⟨archive,rfl,by simp⟩
  | cons visit rest ih =>
    have unhindered' : Node.Unhindered rest := fun failure member => unhindered failure (List.mem_cons_of_mem _ member)
    have plain' : ∀ path, .other path ∉ rest := fun path member => plain path (List.mem_cons_of_mem _ member)
    rw [List.foldlM_cons]
    cases visit with
    | refused failure => exact absurd List.mem_cons_self (unhindered failure)
    | other path => exact absurd List.mem_cons_self (plain path)
    | directory path =>
      rw [List.filterMap_cons_none (by rfl)] at readable single fresh
      obtain ⟨last,done,members⟩ := @ih ⟨archive.members ++ [⟨join path,.directory,[],[]⟩],archive.inodes⟩
        unhindered' plain' readable single fresh
      exact ⟨last,done,by simp [members,Visit.member?]⟩
    | file path inode =>
      rw [List.filterMap_cons_some (b := (path,inode)) (by rfl)] at readable single fresh
      obtain ⟨alone,single⟩ := List.nodup_cons.mp single
      have first : archive.inodes.lookup inode = none := fresh _ List.mem_cons_self
      have opened : (d.inode inode).readable = true := readable _ List.mem_cons_self
      obtain ⟨last,done,members⟩ := @ih
        ⟨archive.members ++ [⟨join path,.regular,[],(d.inode inode).content⟩],(inode,join path) :: archive.inodes⟩
        unhindered' plain'
        (fun file member => readable file (List.mem_cons_of_mem _ member)) single (fun file member => by
          have other : (file.2 == inode) = false := by
            rw [beq_eq_false_iff_ne]
            intro same
            exact alone (List.mem_map.mpr ⟨file,member,same⟩)
          rw [List.lookup_cons,other]
          exact fresh file (List.mem_cons_of_mem _ member))
      refine ⟨last,?_,by simp [members,Visit.member?]⟩
      simp only [TarFile.add,first,opened,if_true]
      exact done

/-- Where only regular files and directories were written, every file had one name and
was open. `seen` are the files before. -/
theorem fold_single {d : Download} {visits : List Visit} {archive last : TarFile} {seen : List (List Str × Nat)}
    (done : visits.foldlM (TarFile.add d) archive = .ok last) (ordinary : ∀ member ∈ last.members, member.Ordinary)
    (links : ∀ inode, ((seen ++ visits.filterMap Visit.file?).map Prod.snd).count inode ≤ d.links inode)
    (distinct : ((seen ++ visits.filterMap Visit.file?).map fun file => join file.1).Nodup)
    (stored : ∀ inode first, archive.inodes.lookup inode = some first → ∃ path, (path,inode) ∈ seen ∧ first = join path)
    (kept : ∀ file ∈ seen, archive.inodes.lookup file.2 ≠ none) (single : (seen.map Prod.snd).Nodup) :
    ((seen ++ visits.filterMap Visit.file?).map Prod.snd).Nodup ∧
      ∀ file ∈ visits.filterMap Visit.file?, (d.inode file.2).readable = true := by
  induction visits generalizing archive seen with
  | nil => simpa using single
  | cons visit rest ih =>
    rw [List.foldlM_cons] at done
    obtain ⟨next,here,later⟩ := except_bind_ok.mp done
    have written : ∀ member ∈ next.members, member.Ordinary :=
      fun member inside => ordinary member ((fold_extends later).subset inside)
    cases visit with
    | refused failure => cases here
    | other path =>
      obtain rfl := Except.ok.inj here
      have := written ⟨join path,.other,[],[]⟩ (by simp)
      simp [TarMember.Ordinary] at this
    | directory path =>
      obtain rfl := Except.ok.inj here
      rw [List.filterMap_cons_none (by rfl)] at links distinct ⊢
      exact ih later links distinct stored kept single
    | file path inode =>
      rw [List.filterMap_cons_some (b := (path,inode)) (by rfl)] at links distinct ⊢
      cases known : archive.inodes.lookup inode with
      | some first =>
        -- A second name of an archived file becomes a link member.
        obtain ⟨other,before,rfl⟩ := stored inode first known
        have twice : 1 < d.links inode := by
          have occurs : 0 < (seen.map Prod.snd).count inode :=
            List.count_pos_iff.mpr (List.mem_map.mpr ⟨_,before,rfl⟩)
          have := links inode
          simp only [List.map_append,List.map_cons,List.count_append,List.count_cons_self] at this
          omega
        have apart : join path ≠ join other := by
          intro same
          rw [List.map_append,List.map_cons] at distinct
          exact (List.nodup_append'.mp distinct).2.2 (List.mem_map.mpr ⟨_,before,same.symm⟩) List.mem_cons_self
        simp only [TarFile.add,known,if_pos (And.intro twice apart)] at here
        obtain rfl := Except.ok.inj here
        have := written ⟨join path,.link,join other,[]⟩ (by simp)
        simp [TarMember.Ordinary] at this
      | none =>
        simp only [TarFile.add,known] at here
        split_ifs at here with opened
        obtain rfl := Except.ok.inj here
        have new : inode ∉ seen.map Prod.snd := by
          intro member
          obtain ⟨file,before,rfl⟩ := List.mem_map.mp member
          exact kept file before known
        have shape : seen ++ (path,inode) :: rest.filterMap Visit.file? =
            (seen ++ [(path,inode)]) ++ rest.filterMap Visit.file? := by simp
        rw [shape] at links distinct ⊢
        obtain ⟨all,open_⟩ := ih later links distinct
          (fun other first found => by
            rw [List.lookup_cons] at found
            by_cases same : other = inode
            · subst same
              exact ⟨path,by simp,by simpa using found.symm⟩
            · rw [beq_eq_false_iff_ne.mpr same] at found
              obtain ⟨earlier,before,named⟩ := stored other first found
              exact ⟨earlier,List.mem_append_left _ before,named⟩)
          (fun file member => by
            rw [List.lookup_cons]
            by_cases same : file.2 = inode
            · simp [same]
            · have before : file ∈ seen := by
                rcases List.mem_append.mp member with before | last
                · exact before
                · exact absurd (List.mem_singleton.mp last ▸ rfl) same
              rw [beq_eq_false_iff_ne.mpr same]
              exact kept file before)
          (by
            rw [List.map_append,List.nodup_append']
            exact ⟨single,by simp,by simpa using new⟩)
        refine ⟨all,fun file member => ?_⟩
        rcases List.mem_cons.mp member with rfl | member
        · exact opened
        · exact open_ file member

theorem verifyTar_ok {archive : TarFile} : verifyTar archive = .ok () ↔ ∀ member ∈ archive.members, verifyMember member = .ok () := by
  unfold verifyTar
  induction archive.members with
  | nil => simp [pure,Except.pure]
  | cons member rest ih =>
    rw [List.forall_mem_cons,← ih]
    exact (except_bind_ok (x := verifyMember member) (f := fun _ => rest.forM verifyMember)).trans ⟨fun ⟨_,here,later⟩ => ⟨here,later⟩,fun ⟨here,later⟩ => ⟨_,here,later⟩⟩

theorem ordinary_of_verified {member : TarMember} (verified : verifyMember member = .ok ()) : member.Ordinary := by
  unfold verifyMember at verified
  by_cases ordinary : member.Ordinary
  · exact ordinary
  · have refused : (decide (member.type = .regular) || decide (member.type = .directory)) = false := by
      simpa [TarMember.Ordinary] using ordinary
    simp [refused] at verified

theorem splitRoot_relative {text : Text} (head : text.head? ≠ some PurePosix.slash) : splitRoot text = (.relative,text) := by
  cases text with
  | nil => rfl
  | cons first rest =>
    have other : first ≠ PurePosix.slash := by simpa using head
    simp [splitRoot,other]

/-- A path of proper names is relative and leads nowhere up. -/
theorem verified_of_ordinary {member : TarMember} {path : List Str} (nonempty : path ≠ [])
    (names : ∀ name ∈ path, Node.IsEntry name) (named : member.name = join path) (ordinary : member.Ordinary) :
    verifyMember member = .ok () := by
  obtain ⟨first,rest,rfl⟩ := List.exists_cons_of_ne_nil nonempty
  have names' : ∀ name ∈ first :: rest, IsName name := fun name inside => (names name inside).toIsName
  have head := (@head_join first rest (names' first List.mem_cons_self)).2
  have relative : (parse member.name).isAbsolute = false := by
    rw [Bool.eq_false_iff]
    intro absolute
    exact head (named ▸ isAbsolute_parse.mp absolute)
  have climbs : (parse member.name).climbs = false := by
    have split : (parse member.name).names = first :: rest := by
      rw [named,parse,splitRoot_relative head,names_join names']
    rw [Path.climbs,split,Bool.eq_false_iff]
    intro up
    exact (names _ (List.contains_iff_mem.mp up)).notUp rfl
  have fine : (decide (member.type = .regular) || decide (member.type = .directory)) = true := by
    simpa [TarMember.Ordinary] using ordinary
  simp [verifyMember,relative,climbs,fine]

/-! ### Downloads that can be packed -/

theorem sources_isEntry : Node.IsEntry sources :=
  ⟨⟨by decide,by decide,by decide⟩,by decide⟩

namespace Download

variable {d : Download} {frames : Nat}

/-- The paths of the members below `sources`. -/
theorem visit_entries (d : Download) {visit : Visit} (member : visit ∈ d.root.visits frames [sources]) {path : List Str}
    (named : visit.path? = some path) : path ≠ [] ∧ ∀ name ∈ path, Node.IsEntry name := by
  obtain ⟨below,rfl,names⟩ := Node.visits_path d.proper member named
  refine ⟨by simp,fun name inside => ?_⟩
  rcases List.mem_append.mp inside with top | inside
  · exact List.mem_singleton.mp top ▸ sources_isEntry
  · exact names name inside

theorem visit_files (unhindered : Node.Unhindered (d.root.visits frames [sources])) :
    (d.root.visits frames [sources]).filterMap Visit.file? =
      d.root.files.map fun file => (sources :: file.1,file.2) := by
  rw [Node.visits_files unhindered]
  simp

theorem inodes_of_visits (unhindered : Node.Unhindered (d.root.visits frames [sources])) :
    ((d.root.visits frames [sources]).filterMap Visit.file?).map Prod.snd = d.root.files.map Prod.snd := by
  rw [visit_files unhindered,List.map_map]
  rfl

/-- Different files are archived under different names. -/
theorem names_distinct (unhindered : Node.Unhindered (d.root.visits frames [sources])) :
    (((d.root.visits frames [sources]).filterMap Visit.file?).map fun file => join file.1).Nodup := by
  have names : ∀ file ∈ d.root.files, ∀ name ∈ sources :: file.1, IsName name := by
    intro file inside name member
    have listed : (sources :: file.1,file.2) ∈ (d.root.visits frames [sources]).filterMap Visit.file? := by
      rw [visit_files unhindered]
      exact List.mem_map_of_mem inside
    obtain ⟨visit,visited,same⟩ := List.mem_filterMap.mp listed
    have named : visit.path? = some (sources :: file.1) := by
      cases visit with
      | file path inode => simpa [Visit.file?,Visit.path?] using (Prod.mk.inj (Option.some.inj same)).1
      | directory | other | refused => cases same
    exact ((visit_entries d visited named).2 name member).toIsName
  rw [visit_files unhindered,List.map_map]
  refine List.Nodup.map_on ?_ (List.Nodup.of_map _ (Node.files_nodup d.proper))
  intro file inside other inside' same
  have joined : join (sources :: file.1) = join (sources :: other.1) := same
  have split := congrArg PurePosix.names joined
  rw [names_join (names file inside),names_join (names other inside')] at split
  exact List.inj_on_of_nodup_map (Node.files_nodup d.proper) inside inside' (List.cons.inj split).2

end Download

/-- An accepted download is packed into an archive that passes and holds every file
exactly if it is packable. -/
theorem tarDownload_packs (d : Download) (frames : Nat) (plain : d.Plain) (accepted : d.Accepted) :
    (∃ archive, tarDownload frames d = .ok archive ∧ verifyTar archive = .ok () ∧ archive.Holds d) ↔
      d.Packable frames := by
  constructor
  · rintro ⟨archive,written,verified,_⟩
    have unhindered := fold_unhindered written
    obtain ⟨listable,_,shallow⟩ := Node.visits_unhindered.mp unhindered
    obtain ⟨single,readable⟩ := @fold_single _ _ _ _ [] written
      (fun member inside => ordinary_of_verified (verifyTar_ok.mp verified member inside))
      (fun inode => by rw [List.nil_append,Download.inodes_of_visits unhindered]; exact le_rfl)
      (by simpa using Download.names_distinct unhindered) (by simp [TarFile.new]) (by simp) (by simp)
    rw [List.nil_append,Download.inodes_of_visits unhindered] at single
    refine ⟨single,fun file inside => ?_,listable,shallow⟩
    refine readable (sources :: file.1,file.2) ?_
    rw [Download.visit_files unhindered]
    exact List.mem_map_of_mem inside
  · intro packable
    have unhindered : Node.Unhindered (d.root.visits frames [sources]) :=
      Node.visits_unhindered.mpr ⟨packable.listable,Download.reachable accepted packable.listable,packable.shallow⟩
    obtain ⟨archive,written,members⟩ := @fold_writes d _ .new unhindered
      (fun path => Node.visits_plain plain)
      (fun file inside => by
        rw [Download.visit_files unhindered] at inside
        obtain ⟨original,member,rfl⟩ := List.mem_map.mp inside
        exact packable.readable original member)
      (by rw [Download.inodes_of_visits unhindered]; exact packable.single) (by simp [TarFile.new])
    have members : archive.members = (d.root.visits frames [sources]).filterMap (Visit.member? d) := by
      simpa [TarFile.new] using members
    refine ⟨archive,written,verifyTar_ok.mpr fun member inside => ?_,fun file inside => ?_⟩
    · rw [members] at inside
      obtain ⟨visit,visited,same⟩ := List.mem_filterMap.mp inside
      cases visit with
      | file path inode =>
        obtain rfl := Option.some.inj same
        obtain ⟨nonempty,names⟩ := Download.visit_entries d visited rfl
        exact verified_of_ordinary nonempty names rfl (.inl rfl)
      | directory path =>
        obtain rfl := Option.some.inj same
        obtain ⟨nonempty,names⟩ := Download.visit_entries d visited rfl
        exact verified_of_ordinary nonempty names rfl (.inr rfl)
      | other | refused => cases same
    · have listed : (sources :: file.1,file.2) ∈ (d.root.visits frames [sources]).filterMap Visit.file? := by
        rw [Download.visit_files unhindered]
        exact List.mem_map_of_mem inside
      obtain ⟨visit,visited,same⟩ := List.mem_filterMap.mp listed
      cases visit with
      | file path inode =>
        obtain ⟨path',inode'⟩ := file
        obtain ⟨rfl,rfl⟩ := Prod.mk.inj (Option.some.inj same)
        refine ⟨⟨join (sources :: path'),.regular,[],(d.inode inode).content⟩,?_,rfl,rfl,rfl⟩
        rw [members]
        exact List.mem_filterMap.mpr ⟨_,visited,rfl⟩
      | directory | other | refused => cases same

def twoFiles (first second : Nat) : Download where
  items := [(str "0",.dir .own [(str "a",.file first),(str "b",.file second)])]
  inode := fun _ => ⟨[1,2,3],true⟩
  proper := by
    have zero : Node.IsEntry (str "0") := ⟨⟨by decide,by decide,by decide⟩,by decide⟩
    have a : Node.IsEntry (str "a") := ⟨⟨by decide,by decide,by decide⟩,by decide⟩
    have b : Node.IsEntry (str "b") := ⟨⟨by decide,by decide,by decide⟩,by decide⟩
    have apart : str "a" ≠ str "b" := by decide
    simp [Node.Proper,Node.All,Node.AllEntries,zero,a,b,apart]

theorem twoFiles_plain (first second : Nat) : (twoFiles first second).Plain := by
  simp [Download.Plain,Download.root,twoFiles,Node.Plain,Node.All,Node.AllEntries]

theorem twoFiles_accepted (first second : Nat) : (twoFiles first second).Accepted := by
  intro item member
  obtain rfl : item = _ := List.mem_singleton.mp member
  exact ⟨⟨1000,10,100,64,0,0⟩,(6,2),rfl⟩

/-- Two files with one inode each. -/
theorem tarDownload_packs_small : ∃ archive, tarDownload 900 (twoFiles 1 2) = .ok archive ∧
    verifyTar archive = .ok () ∧ archive.Holds (twoFiles 1 2) := by
  refine (tarDownload_packs _ 900 (twoFiles_plain 1 2) (twoFiles_accepted 1 2)).mpr ⟨by decide,?_,?_,by decide⟩
  · intro file _
    rfl
  · simp [Download.root,twoFiles,Node.Listable,Node.All,Node.AllEntries,DirMode.own]

/-- Two names of one file: the transfer is accepted and its archive is refused. -/
theorem tarDownload_hardLink : (twoFiles 1 1).Plain ∧ (twoFiles 1 1).Accepted ∧
    ∃ archive, tarDownload 900 (twoFiles 1 1) = .ok archive ∧
      verifyTar archive = .error (.pipeline "UNSAFE_ARCHIVE") :=
  ⟨twoFiles_plain 1 1,twoFiles_accepted 1 1,_,rfl,by decide +kernel⟩

end BackupTelebot.Packaging
