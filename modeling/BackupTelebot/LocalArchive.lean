import BackupTelebot.DownloadArchive
import BackupTelebot.JsonRoundTrip

/-! The archive of local sources. The worker may be refused three things about an entry: its status,
its opening, and the list of its names. The tree stays as it is, and so do the answers. -/
namespace BackupTelebot.LocalArchive

open PyJson Packaging PurePosix

structure Access where
  stat : Bool
  open_ : Bool
  /-- Of no meaning but for directories. -/
  list : Bool
  deriving DecidableEq

/-- An entry of a directory. The names of a directory come in any order. -/
inductive Node where
  | file (access : Access) (content : List ℕ)
  | link (access : Access)
  | special (access : Access) (entryType : Str)
  | dir (access : Access) (entries : List (Str × Node))

namespace Node

theorem induction {P : Node → Prop} (file : ∀ access content, P (.file access content)) (link : ∀ access, P (.link access))
    (special : ∀ access entryType, P (.special access entryType))
    (dir : ∀ access entries, (∀ entry ∈ entries, P entry.2) → P (.dir access entries)) (node : Node) : P node :=
  @Node.rec P (fun entries => ∀ entry ∈ entries, P entry.2) (fun entry => P entry.2) file link special dir (by simp)
    (fun _ _ head tail entry member => by
      rcases List.mem_cons.mp member with rfl | later
      · exact head
      · exact tail entry later)
    (fun _ _ value => value) node

mutual
/-- The names of every directory are different, and are names. -/
def Proper : Node → Prop
  | .dir _ entries => (entries.map Prod.fst).Nodup ∧ ProperEntries entries
  | _ => True
def ProperEntries : List (Str × Node) → Prop
  | [] => True
  | (name,node) :: rest => Packaging.Node.IsEntry name ∧ node.Proper ∧ ProperEntries rest
end

theorem properEntries_iff {entries : List (Str × Node)} :
    ProperEntries entries ↔ ∀ entry ∈ entries, Packaging.Node.IsEntry entry.1 ∧ entry.2.Proper := by
  induction entries with
  | nil => simp [ProperEntries]
  | cons entry rest ih => simp [ProperEntries,ih,and_assoc]

end Node

inductive Reason where
  | symlink
  | specialFile
  | unreadable
  deriving DecidableEq

structure Skipped where
  reason : Reason
  entryType : Str
  relativePath : Str
  deriving DecidableEq

/-- `LocalAcquisitionWarnings`. -/
structure Warnings where
  skippedSymlinks : ℕ
  skippedSpecialFiles : ℕ
  skippedUnreadableEntries : ℕ
  skippedEntries : List Skipped

def Warnings.record (w : Warnings) (skipped : Skipped) : Warnings :=
  let w := match skipped.reason with
    | .symlink => { w with skippedSymlinks := w.skippedSymlinks + 1 }
    | .specialFile => { w with skippedSpecialFiles := w.skippedSpecialFiles + 1 }
    | .unreadable => { w with skippedUnreadableEntries := w.skippedUnreadableEntries + 1 }
  { w with skippedEntries := w.skippedEntries ++ [skipped] }

inductive Act where
  | checkDepth (depth : ℕ)
  | directory (path : List Str)
  | file (path : List Str) (content : List ℕ)
  | record (reason : Reason) (entryType : Str) (path : List Str)
  | raise (failure : Failure)

def recursionError : Failure := .builtin "RecursionError"

def sortByName {α : Type} (items : List (Str × α)) : List (Str × α) := items.mergeSort fun a b => decide (a.1 ≤ b.1)

mutual
/-- One turn of the loop of `_archive_directory_fd`, and for a directory the call in it. `frames` are
the calls that the recursion limit leaves. -/
def archiveEntry (frames depth : ℕ) (path : List Str) : Node → List Act
  | .link access => if access.stat then [.record .symlink (str "symlink") path] else [.record .unreadable (str "unknown") path]
  | .special access entryType =>
      if access.stat then [.record .specialFile entryType path] else [.record .unreadable (str "unknown") path]
  | .file access content =>
      if access.stat then
        if access.open_ then [.file path content] else [.record .unreadable (str "regular_file") path]
      else [.record .unreadable (str "unknown") path]
  | .dir access entries =>
      if access.stat then
        if access.open_ then
          if frames = 0 then [.raise recursionError]
          else .checkDepth depth :: .directory path ::
            if access.list then (sortByName (archiveEntries (frames - 1) (depth + 1) path entries)).flatMap (·.2)
            else [.record .unreadable (str "directory") path]
        else [.record .unreadable (str "directory") path]
      else [.record .unreadable (str "unknown") path]
def archiveEntries (frames depth : ℕ) (path : List Str) : List (Str × Node) → List (Str × List Act)
  | [] => []
  | (name,node) :: rest => (name,archiveEntry frames depth (path ++ [name]) node) :: archiveEntries frames depth path rest
end

inductive Opened where
  | file (content : List ℕ)
  | directory (list : Bool) (entries : List (Str × Node))

/-- The directory has been opened, so its status and its opening were granted. -/
def rootNode (list : Bool) (entries : List (Str × Node)) : Node := .dir ⟨true,true,list⟩ entries

structure Source where
  /-- `path.name`. -/
  name : Str
  sqliteSnapshotCandidate : Bool
  /-- What the validation and the opening of the path give. -/
  opened : Except Failure Opened
  named : ∀ content, opened = .ok (.file content) → Packaging.Node.IsEntry name
  proper : ∀ list entries, opened = .ok (.directory list entries) → (rootNode list entries).Proper

section Package

-- the Online Backup API: the bytes of the verified copy of a database
variable (sqlite : List ℕ → Except Failure (List ℕ))

def sourcePath (index : ℕ) : List Str := [sources,dumpNat index]

def Source.acts (frames : ℕ) (source : Source) (index : ℕ) : List Act :=
  match source.opened with
  | .error failure => [.raise failure]
  | .ok (.file content) =>
      if source.sqliteSnapshotCandidate then
        match sqlite content with
        | .error failure => [.raise failure]
        | .ok copy => [.file (sourcePath index ++ [source.name]) copy]
      else [.file (sourcePath index ++ [source.name]) content]
  | .ok (.directory list entries) => archiveEntry frames 0 (sourcePath index) (rootNode list entries)

structure Packing where
  members : List TarMember
  budget : SourceBudget
  warnings : Warnings

def addKnownFile (budget : SourceBudget) (size : ℕ) : Except Failure SourceBudget := do
  budget.validateFileSize size
  budget.validateAddition size 1
  return { budget with bytesUsed := budget.bytesUsed + size, filesUsed := budget.filesUsed + 1 }

def Packing.perform (p : Packing) : Act → Except Failure Packing
  | .checkDepth depth => do
      p.budget.checkDepth depth
      return p
  | .directory path => .ok { p with members := p.members ++ [⟨join path,.directory,[],[]⟩] }
  | .file path content => do
      let budget ← addKnownFile p.budget content.length
      return { p with members := p.members ++ [⟨join path,.regular,[],content⟩], budget := budget }
  | .record reason entryType path => .ok { p with warnings := p.warnings.record ⟨reason,entryType,join path⟩ }
  | .raise failure => .error failure

/-- An exception leaves what has been done. -/
def Packing.run (p : Packing) : List Act → Packing × Except Failure Unit
  | [] => (p,.ok ())
  | act :: rest =>
    match p.perform act with
    | .error failure => (p,.error failure)
    | .ok p => p.run rest

inductive SourceKind where
  | file
  | directory
  deriving DecidableEq

def Source.kind (source : Source) : SourceKind :=
  match source.opened with
  | .ok (.directory _ _) => .directory
  | _ => .file

structure Metadata where
  sourceKinds : List SourceKind
  originalSizeBytes : ℕ
  warnings : Warnings

/-- `_package_local`, with what is in the archive and in the budget at its end. The checks of disk,
deadline and stop are left out. -/
def packageLocal (frames : ℕ) (limits : SourceBudget) (paths : List Source) : Packing × Except Failure Metadata :=
  let start : Packing := ⟨[],{ limits with bytesUsed := 0, filesUsed := 0 },⟨0,0,0,[]⟩⟩
  let result := start.run (paths.zipIdx.flatMap fun item => item.1.acts sqlite frames item.2)
  (result.1,result.2.map fun _ => ⟨paths.map Source.kind,result.1.budget.bytesUsed,result.1.warnings⟩)

end Package

namespace Node

def access : Node → Access
  | .file access _ | .link access | .special access _ | .dir access _ => access

/-- The node under a path, as far as the worker may go. -/
def at_ : Node → List Str → Option Node
  | node, [] => some node
  | .dir access entries, name :: rest =>
      if access.stat && access.open_ && access.list then (entries.lookup name).bind fun node => node.at_ rest else none
  | _, _ :: _ => none

/-- The readable files and directories, as members of the archive. -/
def member? (path : List Str) : Node → Option TarMember
  | .file access content => if access.stat && access.open_ then some ⟨join path,.regular,[],content⟩ else none
  | .dir access _ => if access.stat && access.open_ then some ⟨join path,.directory,[],[]⟩ else none
  | _ => none

def skipped? (path : List Str) (node : Node) : Option Skipped :=
  if node.access.stat = false then some ⟨.unreadable,str "unknown",join path⟩
  else match node with
    | .link _ => some ⟨.symlink,str "symlink",join path⟩
    | .special _ entryType => some ⟨.specialFile,entryType,join path⟩
    | .file access _ => if access.open_ then none else some ⟨.unreadable,str "regular_file",join path⟩
    | .dir access _ => if access.open_ && access.list then none else some ⟨.unreadable,str "directory",join path⟩

end Node

end BackupTelebot.LocalArchive
