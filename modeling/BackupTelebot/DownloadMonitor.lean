import BackupTelebot.FailureCleanup
import BackupTelebot.PendingRules
import Mathlib.Algebra.Order.BigOperators.Group.List

/-! `_validate_download` while `rsync` still writes: the scan asks the system one question
at a time, and between two of them the destination may have become any other tree. -/
namespace BackupTelebot.Monitor

open PyJson Interleave Posix

/-! ### Questions to the system -/

mutual
def Distinct : Tree → Prop
  | .dir _ entries => (entries.map Prod.fst).Nodup ∧ DistinctEntries entries
  | _ => True
def DistinctEntries : List (Str × Tree) → Prop
  | [] => True
  | (_,tree) :: rest => Distinct tree ∧ DistinctEntries rest
end

/-- The destination, the free space of its filesystem, and whether the run's deadline has
passed. -/
structure Disk where
  tree : Option Tree
  free : Nat
  expired : Bool
  distinct : ∀ root, tree = some root → Distinct root

/-- `st_mode` as far as the validation tells modes apart. -/
inductive Kind where
  | regular
  | directory
  | link
  | special
deriving DecidableEq, Repr

structure Status where
  kind : Kind
  size : Nat
deriving DecidableEq, Repr

inductive OSError where
  | missing
  | denied
deriving DecidableEq, Repr

def OSError.failure : OSError → Failure
  | .missing => .builtin "FileNotFoundError"
  | .denied => .builtin "PermissionError"

/-- The answers that the destination does not determine: what lies behind a symbolic link,
and the `st_size` of what is not a regular file. -/
structure Beyond where
  stat : Except OSError Status
  listing : Option (List (Str × Bool))
  isDir : Str → Bool
  size : Nat
  distinct : ∀ entries, listing = some entries → (entries.map Prod.fst).Nodup

inductive Found where
  | node (tree : Tree)
  | beyond
  | missing
  | denied

def find : Tree → List Str → Found
  | tree, [] => .node tree
  | .dir mode entries, name :: rest =>
      if mode.search then
        match entries.lookup name with
        | some tree => find tree rest
        | none => .missing
      else .denied
  | .link, _ :: _ => .beyond
  | _, _ :: _ => .missing

namespace Disk

def find (disk : Disk) (path : List Str) : Found :=
  match disk.tree with
  | some root => Monitor.find root path
  | none => .missing

def lstat (disk : Disk) (beyond : Beyond) (path : List Str) : Except OSError Status :=
  match disk.find path with
  | .node (.file size) => .ok ⟨.regular,size⟩
  | .node (.dir _ _) => .ok ⟨.directory,beyond.size⟩
  | .node .link => .ok ⟨.link,beyond.size⟩
  | .node .special => .ok ⟨.special,beyond.size⟩
  | .beyond => beyond.stat
  | .missing => .error .missing
  | .denied => .error .denied

def stat (disk : Disk) (beyond : Beyond) (path : List Str) : Except OSError Status :=
  match disk.find path with
  | .node .link => beyond.stat
  | _ => disk.lstat beyond path

/-- `os.scandir` with `entry.is_dir()`. `os.walk` passes over what cannot be listed. -/
def scandir (disk : Disk) (beyond : Beyond) (path : List Str) : Option (List (Str × Bool)) :=
  match disk.find path with
  | .node (.dir mode entries) =>
      if mode.read then
        some (entries.map fun entry => (entry.1,match entry.2 with
          | .dir _ _ => true
          | .link => beyond.isDir entry.1
          | _ => false))
      else none
  | .node .link | .beyond => beyond.listing
  | _ => none

end Disk

/-! ### The scan -/

/-- The budget of the transfer, with `MIN_FREE_DISK_BYTES`. -/
structure Guard where
  budget : SourceBudget
  minFree : Nat

namespace Guard

def checkDisk (guard : Guard) (disk : Disk) : Except Failure Unit :=
  if disk.expired then .error (.pipeline "BACKUP_TIMEOUT")
  else if disk.free < guard.minFree then .error (.pipeline "DISK_CAPACITY")
  else .ok ()

/-- `if budget is not None`. -/
def given (guard : Option Guard) (check : Guard → Except Failure Unit) : Except Failure Unit :=
  match guard with
  | some guard => check guard
  | none => .ok ()

end Guard

/-- One entry of a listed directory, the names after it, and the paths of the directories
among all entries, which are scanned later. -/
structure Item where
  dir : List Str
  name : Str
  rest : List Str
  directories : List (List Str)

def Item.path (item : Item) : List Str := item.dir ++ [item.name]

inductive Point where
  | exists
  | isFile
  | statFile
  | walk
  | test (item : Item)
  | mode (item : Item)
  | size (item : Item)
  | totals (directories : List (List Str))
  | push (directories : List (List Str))

/-- `stack` belongs to `os.walk`. `measured` lists what `bytes` and `files` count. -/
structure Scan where
  point : Point
  stack : List (List Str)
  bytes : Nat
  files : Nat
  measured : List (List Str × Nat)

namespace Scan

def start : Scan := ⟨.exists,[],0,0,[]⟩

def proceed (dir : List Str) (names : List Str) (directories : List (List Str)) : Point :=
  match names with
  | [] => .totals directories
  | name :: rest => .test ⟨dir,name,rest,directories⟩

def count (scan : Scan) (path : List Str) (size : Nat) : Scan :=
  { scan with bytes := scan.bytes + size, files := scan.files + 1, measured := (path,size) :: scan.measured }

/-- One question of `_validate_download`: an exception, the next state, or the result. -/
def step (guard : Option Guard) (disk : Disk) (beyond : Beyond) (scan : Scan) : Except Failure (Scan ⊕ Nat × Nat) :=
  match scan.point with
  | .exists =>
      match disk.stat beyond [] with
      | .ok _ => .ok (.inl { scan with point := .isFile })
      | .error _ => do
          Guard.given guard fun guard => guard.checkDisk disk
          return .inr (0,0)
  | .isFile =>
      match disk.stat beyond [] with
      | .ok ⟨.regular,_⟩ => .ok (.inl { scan with point := .statFile })
      | _ => .ok (.inl { scan with point := .walk, stack := [[]] })
  | .statFile =>
      match disk.stat beyond [] with
      | .error e => .error e.failure
      | .ok status => do
          Guard.given guard fun guard => do
            guard.budget.validateFileSize status.size
            guard.budget.validateAddition status.size 1
            guard.checkDisk disk
          return .inr (status.size,1)
  | .walk =>
      match scan.stack with
      | [] => .ok (.inr (scan.bytes,scan.files))
      | dir :: rest =>
          match disk.scandir beyond dir with
          | none => .ok (.inl { scan with stack := rest })
          | some entries => do
              Guard.given guard fun guard => guard.budget.checkDepth dir.length
              let directories := (entries.filter (·.2)).map Prod.fst
              let files := (entries.filter (!·.2)).map Prod.fst
              return .inl { scan with
                point := proceed dir (directories ++ files) (directories.map fun name => dir ++ [name]), stack := rest }
  | .test item =>
      match disk.lstat beyond item.path with
      | .ok ⟨.link,_⟩ => .error (.pipeline "UNSAFE_SOURCE")
      | .error .denied => .error (OSError.denied.failure)
      | _ => .ok (.inl { scan with point := .mode item })
  | .mode item =>
      match disk.stat beyond item.path with
      | .error e => .error e.failure
      | .ok ⟨.regular,_⟩ => .ok (.inl { scan with point := .size item })
      | .ok ⟨.directory,_⟩ => .ok (.inl { scan with point := proceed item.dir item.rest item.directories })
      | .ok _ => .error (.pipeline "UNSAFE_SOURCE")
  | .size item =>
      match disk.stat beyond item.path with
      | .error e => .error e.failure
      | .ok status => do
          Guard.given guard fun guard => guard.budget.validateFileSize status.size
          return .inl { scan.count item.path status.size with point := proceed item.dir item.rest item.directories }
  | .totals directories => do
      Guard.given guard fun guard => do
        guard.budget.validateAddition scan.bytes scan.files
        guard.checkDisk disk
      return .inl { scan with point := .push directories.reverse }
  | .push [] => .ok (.inl { scan with point := .walk })
  | .push (path :: rest) =>
      match disk.lstat beyond path with
      | .ok ⟨.link,_⟩ => .ok (.inl { scan with point := .push rest })
      | _ => .ok (.inl { scan with point := .push rest, stack := path :: scan.stack })

end Scan

/-! ### The transfer -/

/-- `rsync` at work between two calls of the monitor, a call of the monitor, the exception
of one, or the end of the process. -/
inductive Phase where
  | waiting
  | scanning (scan : Scan)
  | failed (failure : Failure)
  | ended

structure Transfer where
  disk : Disk
  phase : Phase

/-- `change` is any work of `rsync` and of the rest of the system: entries created,
written, renamed or removed, space used, time passed. -/
inductive Event where
  | change (disk : Disk)
  | tick
  | check (beyond : Beyond)
  | exit

/-- `run_process` with `monitor_download` as its `capacity_check`. -/
def Transfer.step (guard : Option Guard) (s : Transfer) : Event → Option Transfer
  | .change disk => some { s with disk := disk }
  | .tick =>
      match s.phase with
      | .waiting => some { s with phase := .scanning .start }
      | _ => none
  | .check beyond =>
      match s.phase with
      | .scanning scan =>
          match scan.step guard s.disk beyond with
          | .error failure => some { s with phase := .failed failure }
          | .ok (.inl scan) => some { s with phase := .scanning scan }
          | .ok (.inr _) => some { s with phase := .waiting }
      | _ => none
  | .exit =>
      match s.phase with
      | .waiting => some { s with phase := .ended }
      | _ => none

inductive Excessive (guard : Option Guard) (disk : Disk) : Prop where
  | link (path : List Str) : disk.find path = .node .link → Excessive guard disk
  | special (path : List Str) : disk.find path = .node .special → Excessive guard disk
  | fileSize (g : Guard) (path : List Str) (size : Nat) : guard = some g → disk.find path = .node (.file size) →
      g.budget.maxFileBytes < size → Excessive guard disk
  | depth (g : Guard) (path : List Str) (mode : DirMode) (entries : List (Str × Tree)) : guard = some g →
      disk.find path = .node (.dir mode entries) → g.budget.maxDepth < path.length → Excessive guard disk
  | totals (g : Guard) (files : List (List Str × Nat)) : guard = some g → (files.map Prod.fst).Nodup →
      (∀ file ∈ files, disk.find file.1 = .node (.file file.2)) →
      (g.budget.maxBytes < g.budget.bytesUsed + (files.map Prod.snd).sum ∨
        g.budget.maxFiles < g.budget.filesUsed + files.length) → Excessive guard disk
  | space (g : Guard) : guard = some g → disk.free < g.minFree → Excessive guard disk

def Scan.Standing (disk : Disk) (scan : Scan) : Prop :=
  ∀ file ∈ scan.measured, ∃ size, disk.find file.1 = .node (.file size) ∧ file.2 ≤ size

/-- A question finds what the earlier ones have promised: a listed entry is there and can
be reached, it is still a regular file when its size is read, and what was measured is
still there where its total exceeds a limit. The deadline has not passed at a check of the
disk. -/
def Steady (guard : Option Guard) (s : Transfer) (event : Event) : Prop :=
  ∀ beyond scan, event = .check beyond → s.phase = .scanning scan →
    match scan.point with
    | .exists => s.disk.tree = none → s.disk.expired = false
    | .statFile => (∃ size, s.disk.find [] = .node (.file size)) ∧ s.disk.expired = false
    | .test item => s.disk.find item.path ≠ .denied
    | .mode item => s.disk.find item.path ≠ .missing ∧ s.disk.find item.path ≠ .denied
    | .size item => ∃ size, s.disk.find item.path = .node (.file size)
    | .totals _ => s.disk.expired = false ∧
        (scan.Standing s.disk ∨ ∀ g, guard = some g → g.budget.validateAddition scan.bytes scan.files = .ok ())
    | _ => True

/-- The states of the transfers into a destination, whose events meet a condition. -/
abbrev Reached (guard : Option Guard) (allowed : Transfer → Event → Prop) : Transfer → Prop :=
  Runs (fun s => s.phase = .waiting) (Transfer.step guard) allowed

/-! ### What an exception shows -/

theorem Guard.checkDisk_error {guard : Guard} {disk : Disk} {failure : Failure}
    (raised : guard.checkDisk disk = .error failure) (early : disk.expired = false) : disk.free < guard.minFree := by
  unfold Guard.checkDisk at raised
  rw [early] at raised
  by_cases short : disk.free < guard.minFree
  · exact short
  · simp [short] at raised

/-- A path leads beyond the destination only through a link inside it. -/
theorem link_of_find_beyond {tree : Tree} {path : List Str} (beyond : find tree path = .beyond) :
    ∃ up, find tree up = .node .link := by
  induction path generalizing tree with
  | nil => cases tree <;> cases beyond
  | cons name rest ih =>
    cases tree with
    | file size => cases beyond
    | special => cases beyond
    | link => exact ⟨[],rfl⟩
    | dir mode entries =>
      unfold find at beyond
      by_cases search : mode.search = true
      · rw [if_pos search] at beyond
        cases known : entries.lookup name with
        | none => simp [known] at beyond
        | some below =>
          rw [known] at beyond
          obtain ⟨up,found⟩ := ih beyond
          exact ⟨name :: up,by simp [find,search,known,found]⟩
      · simp [search] at beyond

theorem Excessive.of_beyond {guard : Option Guard} {disk : Disk} {path : List Str}
    (beyond : disk.find path = .beyond) : Excessive guard disk := by
  unfold Disk.find at beyond
  cases root : disk.tree with
  | none => simp [root] at beyond
  | some tree =>
    rw [root] at beyond
    obtain ⟨up,found⟩ := link_of_find_beyond beyond
    exact .link up (by simp [Disk.find,root,found])

namespace Disk

variable {disk : Disk} {beyond : Beyond} {path : List Str}

theorem lstat_link {size : Nat} (read : disk.lstat beyond path = .ok ⟨.link,size⟩) :
    disk.find path = .node .link ∨ disk.find path = .beyond := by
  unfold lstat at read
  split at read
  · cases read
  · cases read
  · exact .inl (by assumption)
  · cases read
  · exact .inr (by assumption)
  · cases read
  · cases read

theorem lstat_denied (read : disk.lstat beyond path = .error .denied) :
    disk.find path = .denied ∨ disk.find path = .beyond := by
  unfold lstat at read
  split at read
  · cases read
  · cases read
  · cases read
  · cases read
  · exact .inr (by assumption)
  · cases read
  · exact .inl (by assumption)

theorem stat_error {e : OSError} (read : disk.stat beyond path = .error e) :
    disk.find path = .missing ∨ disk.find path = .denied ∨ disk.find path = .node .link ∨ disk.find path = .beyond := by
  unfold stat at read
  split at read
  · exact .inr (.inr (.inl (by assumption)))
  · unfold lstat at read
    split at read
    · cases read
    · cases read
    · cases read
    · cases read
    · exact .inr (.inr (.inr (by assumption)))
    · exact .inl (by assumption)
    · exact .inr (.inl (by assumption))

theorem stat_other {status : Status} (read : disk.stat beyond path = .ok status) (irregular : status.kind ≠ .regular)
    (other : status.kind ≠ .directory) :
    disk.find path = .node .special ∨ disk.find path = .node .link ∨ disk.find path = .beyond := by
  unfold stat at read
  split at read
  · exact .inr (.inl (by assumption))
  · unfold lstat at read
    split at read
    · obtain rfl := Except.ok.inj read
      exact absurd rfl irregular
    · obtain rfl := Except.ok.inj read
      exact absurd rfl other
    · exact .inr (.inl (by assumption))
    · exact .inl (by assumption)
    · exact .inr (.inr (by assumption))
    · cases read
    · cases read

theorem stat_file {size : Nat} (there : disk.find path = .node (.file size)) :
    disk.stat beyond path = .ok ⟨.regular,size⟩ := by
  simp [stat,lstat,there]

theorem scandir_some {entries : List (Str × Bool)} (listed : disk.scandir beyond path = some entries) :
    (∃ mode below, disk.find path = .node (.dir mode below)) ∨ disk.find path = .node .link ∨
      disk.find path = .beyond := by
  unfold scandir at listed
  split at listed
  · exact .inl ⟨_,_,by assumption⟩
  · exact .inr (.inl (by assumption))
  · exact .inr (.inr (by assumption))
  · cases listed

end Disk

theorem distinctEntries_iff {entries : List (Str × Tree)} : DistinctEntries entries ↔ ∀ entry ∈ entries, Distinct entry.2 := by
  induction entries with
  | nil => simp [DistinctEntries]
  | cons entry rest ih => simp [DistinctEntries,ih]

theorem find_distinct {tree below : Tree} {path : List Str} (distinct : Distinct tree)
    (found : find tree path = .node below) : Distinct below := by
  induction path generalizing tree with
  | nil =>
    have same : tree = below := by cases tree <;> exact Found.node.inj found
    exact same ▸ distinct
  | cons name rest ih =>
    cases tree with
    | file size => cases found
    | special => cases found
    | link => cases found
    | dir mode entries =>
      unfold find at found
      by_cases search : mode.search = true
      · rw [if_pos search] at found
        cases known : entries.lookup name with
        | none => simp [known] at found
        | some entry =>
          rw [known] at found
          refine ih ?_ found
          have member : (name,entry) ∈ entries := by
            obtain ⟨before,after,rfl,_⟩ := List.lookup_eq_some_iff.mp known
            simp
          exact distinctEntries_iff.mp distinct.2 _ member
      · simp [search] at found

/-- A listing has every name once. -/
theorem Disk.scandir_nodup {disk : Disk} {beyond : Beyond} {path : List Str} {entries : List (Str × Bool)}
    (listed : disk.scandir beyond path = some entries) : (entries.map Prod.fst).Nodup := by
  unfold scandir at listed
  split at listed
  next mode below found =>
    split at listed
    next =>
      obtain rfl := Option.some.inj listed
      unfold Disk.find at found
      cases root : disk.tree with
      | none => simp [root] at found
      | some tree =>
        rw [root] at found
        have inside : Distinct (.dir mode below) := find_distinct (disk.distinct tree root) found
        rw [List.map_map]
        exact inside.1
    next => cases listed
  next => exact beyond.distinct entries listed
  next => exact beyond.distinct entries listed
  next => cases listed

/-! ### No file is counted twice -/

def Apart (p q : List Str) : Prop := ¬ p <+: q ∧ ¬ q <+: p

theorem Apart.symm {p q : List Str} (apart : Apart p q) : Apart q p := ⟨apart.2,apart.1⟩

theorem apart_siblings {dir : List Str} {a b : Str} (other : a ≠ b) : Apart (dir ++ [a]) (dir ++ [b]) := by
  constructor
  · intro inside
    exact other (by simpa using inside.eq_of_length (by simp))
  · intro inside
    exact other (by simpa using (inside.eq_of_length (by simp)).symm)

theorem Apart.child {dir other : List Str} (apart : Apart dir other) (name : Str) : Apart (dir ++ [name]) other := by
  constructor
  · intro inside
    exact apart.1 ((List.prefix_append dir [name]).trans inside)
  · intro inside
    rcases List.prefix_concat_iff.mp inside with rfl | above
    · exact apart.1 (List.prefix_append _ _)
    · exact apart.2 above

def Point.pending : Point → List (List Str)
  | .test item | .mode item | .size item => item.directories
  | .totals directories | .push directories => directories
  | _ => []

structure Fresh (scan : Scan) (dir names : List Str) (directories : List (List Str)) : Prop where
  nodup : names.Nodup
  unmeasured : ∀ name ∈ names, ∀ file ∈ scan.measured, file.1 ≠ dir ++ [name]
  offStack : ∀ path ∈ scan.stack, Apart dir path
  children : ∀ path ∈ directories, ∃ name, path = dir ++ [name]

/-- The counts, and that no directory to come holds a measured file or another directory
to come. -/
structure Covered (scan : Scan) (pending : List (List Str)) : Prop where
  bytes : scan.bytes = (scan.measured.map Prod.snd).sum
  files : scan.files = scan.measured.length
  once : (scan.measured.map Prod.fst).Nodup
  apart : (pending ++ scan.stack).Pairwise Apart
  above : ∀ file ∈ scan.measured, ∀ path ∈ pending ++ scan.stack, path <+: file.1 → file.1 = path

def Point.Examines (scan : Scan) : Point → Prop
  | .test item | .mode item | .size item => Fresh scan item.dir (item.name :: item.rest) item.directories
  | .exists | .isFile => scan.measured = []
  | _ => True

structure Orderly (scan : Scan) : Prop where
  covered : Covered scan scan.point.pending
  examines : scan.point.Examines scan

theorem Orderly.start : Orderly .start :=
  ⟨⟨rfl,rfl,by simp [Scan.start],by simp [Scan.start,Point.pending],by simp [Scan.start]⟩,rfl⟩

theorem Covered.proceed {scan : Scan} {dir names : List Str} {directories : List (List Str)}
    (covered : Covered scan directories) (fresh : Fresh scan dir names directories) :
    Orderly { scan with point := Scan.proceed dir names directories } := by
  cases names with
  | nil => exact ⟨⟨covered.bytes,covered.files,covered.once,covered.apart,covered.above⟩,trivial⟩
  | cons name rest =>
    exact ⟨⟨covered.bytes,covered.files,covered.once,covered.apart,covered.above⟩,
      ⟨fresh.nodup,fresh.unmeasured,fresh.offStack,fresh.children⟩⟩

theorem Fresh.tail {scan : Scan} {dir rest : List Str} {name : Str} {directories : List (List Str)}
    (fresh : Fresh scan dir (name :: rest) directories) : Fresh scan dir rest directories :=
  ⟨(List.nodup_cons.mp fresh.nodup).2,fun name member => fresh.unmeasured name (List.mem_cons_of_mem _ member),
    fresh.offStack,fresh.children⟩

theorem Covered.pushed {scan : Scan} {path : List Str} {rest : List (List Str)}
    (covered : Covered scan (path :: rest)) (point : Point) :
    Covered { scan with point := point, stack := path :: scan.stack } rest := by
  have moved : (path :: rest ++ scan.stack).Perm (rest ++ path :: scan.stack) := List.perm_middle.symm
  exact ⟨covered.bytes,covered.files,covered.once,
    (moved.pairwise_iff fun apart => Apart.symm apart).mp covered.apart,
    fun file member below inside => covered.above file member below (moved.mem_iff.mpr inside)⟩

theorem Covered.dropped {scan : Scan} {path : List Str} {rest : List (List Str)}
    (covered : Covered scan (path :: rest)) (point : Point) : Covered { scan with point := point } rest :=
  ⟨covered.bytes,covered.files,covered.once,(List.pairwise_cons.mp covered.apart).2,
    fun file member below inside => covered.above file member below (List.mem_cons_of_mem _ inside)⟩

/-- The directory on top of the stack is listed: nothing in it was measured before. -/
theorem Covered.listed {scan : Scan} {dir : List Str} {rest : List (List Str)} (stack : scan.stack = dir :: rest)
    (covered : Covered scan []) {directories files : List Str} (nodup : (directories ++ files).Nodup) :
    Covered { scan with stack := rest } (directories.map fun name => dir ++ [name]) ∧
      Fresh { scan with stack := rest } dir (directories ++ files) (directories.map fun name => dir ++ [name]) := by
  have apart := covered.apart
  have above := covered.above
  rw [List.nil_append,stack] at apart above
  obtain ⟨off,apart⟩ := List.pairwise_cons.mp apart
  have clear : ∀ file ∈ scan.measured, ∀ name : Str, ¬ dir ++ [name] <+: file.1 := by
    intro file member name inside
    have same := above file member dir List.mem_cons_self ((List.prefix_append dir [name]).trans inside)
    have := inside.length_le
    rw [same,List.length_append] at this
    simp at this
  refine ⟨⟨covered.bytes,covered.files,covered.once,?_,?_⟩,⟨nodup,?_,off,?_⟩⟩
  · rw [List.pairwise_append]
    refine ⟨?_,apart,?_⟩
    · rw [List.pairwise_map]
      exact (List.nodup_append.mp nodup).1.imp fun other => apart_siblings other
    · intro child inside other member
      obtain ⟨name,_,rfl⟩ := List.mem_map.mp inside
      exact (off other member).child name
  · intro file member path inside below
    rcases List.mem_append.mp inside with inside | inside
    · obtain ⟨name,_,rfl⟩ := List.mem_map.mp inside
      exact absurd below (clear file member name)
    · exact above file member path (List.mem_cons_of_mem _ inside) below
  · intro name _ file member same
    exact clear file member name (same ▸ List.prefix_rfl)
  · intro path member
    obtain ⟨name,_,rfl⟩ := List.mem_map.mp member
    exact ⟨name,rfl⟩

/-- A file of the listed directory is measured. -/
theorem Covered.measure {scan : Scan} {item : Item} (covered : Covered scan item.directories)
    (fresh : Fresh scan item.dir (item.name :: item.rest) item.directories) (size : Nat) :
    Covered (scan.count item.path size) item.directories ∧
      Fresh (scan.count item.path size) item.dir item.rest item.directories := by
  obtain ⟨new,nodup⟩ := List.nodup_cons.mp fresh.nodup
  refine ⟨⟨?_,?_,?_,covered.apart,?_⟩,⟨nodup,?_,fresh.offStack,fresh.children⟩⟩
  · simp [Scan.count,covered.bytes,Nat.add_comm]
  · simp [Scan.count,covered.files]
  · rw [Scan.count,List.map_cons,List.nodup_cons]
    refine ⟨fun again => ?_,covered.once⟩
    obtain ⟨file,member,same⟩ := List.mem_map.mp again
    exact fresh.unmeasured item.name List.mem_cons_self file member same
  · intro file member path inside below
    rcases List.mem_cons.mp member with rfl | member
    · rcases List.mem_append.mp inside with inside | inside
      · obtain ⟨name,rfl⟩ := fresh.children path inside
        exact (below.eq_of_length (by simp [Item.path])).symm
      · exact absurd below ((fresh.offStack path inside).child item.name).2
    · exact covered.above file member path inside below
  · intro name member file inside
    rcases List.mem_cons.mp inside with rfl | inside
    · intro same
      have : item.name = name := by simpa [Item.path] using same
      exact new (this ▸ member)
    · exact fresh.unmeasured name (List.mem_cons_of_mem _ member) file inside

theorem Covered.moved {scan : Scan} {pending : List (List Str)} (covered : Covered scan pending) (point : Point) :
    Covered { scan with point := point } pending :=
  ⟨covered.bytes,covered.files,covered.once,covered.apart,covered.above⟩

theorem Fresh.moved {scan : Scan} {dir names : List Str} {directories : List (List Str)}
    (fresh : Fresh scan dir names directories) (point : Point) :
    Fresh { scan with point := point } dir names directories :=
  ⟨fresh.nodup,fresh.unmeasured,fresh.offStack,fresh.children⟩

theorem filter_split_nodup {entries : List (Str × Bool)} (nodup : (entries.map Prod.fst).Nodup) :
    ((entries.filter (·.2)).map Prod.fst ++ (entries.filter (!·.2)).map Prod.fst).Nodup := by
  rw [← List.map_append]
  exact ((List.filter_append_perm (·.2) entries).map Prod.fst).nodup_iff.mpr nodup

theorem Orderly.step {guard : Option Guard} {disk : Disk} {beyond : Beyond} {scan next : Scan} (orderly : Orderly scan)
    (done : scan.step guard disk beyond = .ok (.inl next)) : Orderly next := by
  obtain ⟨covered,examines⟩ := orderly
  obtain ⟨point,stack,bytes,files,measured⟩ := scan
  cases point with
  | «exists» =>
    simp only [Scan.step] at done
    split at done
    · obtain rfl := Sum.inl.inj (Except.ok.inj done)
      exact ⟨covered.moved .isFile,examines⟩
    · obtain ⟨_,_,done⟩ := except_bind_ok.mp done
      cases done
  | isFile =>
    obtain rfl : measured = [] := examines
    simp only [Scan.step] at done
    split at done
    · obtain rfl := Sum.inl.inj (Except.ok.inj done)
      exact ⟨covered.moved .statFile,trivial⟩
    · obtain rfl := Sum.inl.inj (Except.ok.inj done)
      exact ⟨⟨covered.bytes,covered.files,covered.once,by simp [Point.pending],by simp⟩,trivial⟩
  | statFile =>
    simp only [Scan.step] at done
    split at done
    · cases done
    · obtain ⟨_,_,done⟩ := except_bind_ok.mp done
      cases done
  | walk =>
    cases stack with
    | nil =>
      simp only [Scan.step] at done
      cases done
    | cons dir rest =>
      simp only [Scan.step] at done
      split at done
      · obtain rfl := Sum.inl.inj (Except.ok.inj done)
        exact ⟨⟨covered.bytes,covered.files,covered.once,(List.pairwise_cons.mp covered.apart).2,
          fun file member path inside => covered.above file member path (List.mem_cons_of_mem _ inside)⟩,trivial⟩
      next entries listed =>
        obtain ⟨_,_,done⟩ := except_bind_ok.mp done
        obtain rfl := Sum.inl.inj (Except.ok.inj done)
        obtain ⟨below,fresh⟩ := covered.listed rfl (filter_split_nodup (Disk.scandir_nodup listed))
        exact below.proceed fresh
  | test item =>
    simp only [Scan.step] at done
    split at done
    · cases done
    · cases done
    · obtain rfl := Sum.inl.inj (Except.ok.inj done)
      exact ⟨covered.moved (.mode item),examines.moved (.mode item)⟩
  | mode item =>
    simp only [Scan.step] at done
    split at done
    · cases done
    · obtain rfl := Sum.inl.inj (Except.ok.inj done)
      exact ⟨covered.moved (.size item),examines.moved (.size item)⟩
    · obtain rfl := Sum.inl.inj (Except.ok.inj done)
      exact covered.proceed examines.tail
    · cases done
  | size item =>
    simp only [Scan.step] at done
    split at done
    · cases done
    next status read =>
      obtain ⟨_,_,done⟩ := except_bind_ok.mp done
      obtain rfl := Sum.inl.inj (Except.ok.inj done)
      obtain ⟨counted,fresh⟩ := covered.measure examines status.size
      exact counted.proceed fresh
  | totals directories =>
    simp only [Scan.step] at done
    obtain ⟨_,_,done⟩ := except_bind_ok.mp done
    obtain rfl := Sum.inl.inj (Except.ok.inj done)
    have turned : (directories ++ stack).Perm (directories.reverse ++ stack) :=
      (List.reverse_perm directories).symm.append_right stack
    exact ⟨⟨covered.bytes,covered.files,covered.once,
      (turned.pairwise_iff fun apart => Apart.symm apart).mp covered.apart,
      fun file member path inside => covered.above file member path (turned.mem_iff.mpr inside)⟩,trivial⟩
  | push directories =>
    cases directories with
    | nil =>
      simp only [Scan.step] at done
      obtain rfl := Sum.inl.inj (Except.ok.inj done)
      exact ⟨covered.moved .walk,trivial⟩
    | cons path rest =>
      simp only [Scan.step] at done
      split at done
      · obtain rfl := Sum.inl.inj (Except.ok.inj done)
        exact ⟨covered.dropped (.push rest),trivial⟩
      · obtain rfl := Sum.inl.inj (Except.ok.inj done)
        exact ⟨covered.pushed (.push rest),trivial⟩

/-! ### Exceptions and excess -/

theorem validateFileSize_error {budget : SourceBudget} {size : Nat} {failure : Failure}
    (raised : budget.validateFileSize size = .error failure) : budget.maxFileBytes < size := by
  unfold SourceBudget.validateFileSize at raised
  by_cases large : budget.maxFileBytes < size
  · exact large
  · simp [large] at raised

theorem checkDepth_error {budget : SourceBudget} {depth : Nat} {failure : Failure}
    (raised : budget.checkDepth depth = .error failure) : budget.maxDepth < depth := by
  unfold SourceBudget.checkDepth at raised
  by_cases deep : budget.maxDepth < depth
  · exact deep
  · simp [deep] at raised

theorem validateAddition_error {budget : SourceBudget} {bytes files : Nat} {failure : Failure}
    (raised : budget.validateAddition bytes files = .error failure) :
    budget.maxBytes < budget.bytesUsed + bytes ∨ budget.maxFiles < budget.filesUsed + files := by
  unfold SourceBudget.validateAddition at raised
  by_cases large : budget.maxBytes < budget.bytesUsed + bytes
  · exact .inl large
  · by_cases many : budget.maxFiles < budget.filesUsed + files
    · exact .inr many
    · simp [large,many] at raised

theorem except_bind_error {α β : Type} {x : Except Failure α} {f : α → Except Failure β} {failure : Failure}
    (raised : (x >>= f) = .error failure) : x = .error failure ∨ ∃ a, x = .ok a ∧ f a = .error failure := by
  cases x with
  | error e => exact .inl (by simpa [bind,Except.bind] using raised)
  | ok a => exact .inr ⟨a,rfl,raised⟩

/-- The files that stand as they were measured exceed what their counts exceed. -/
theorem Excessive.of_counts {g : Guard} {disk : Disk} {scan : Scan} {pending : List (List Str)}
    (covered : Covered scan pending) (standing : scan.Standing disk)
    (exceeds : g.budget.maxBytes < g.budget.bytesUsed + scan.bytes ∨ g.budget.maxFiles < g.budget.filesUsed + scan.files) :
    Excessive (some g) disk := by
  have sizes : ∀ file : List Str × Nat, ∃ size, file ∈ scan.measured →
      disk.find file.1 = .node (.file size) ∧ file.2 ≤ size := by
    intro file
    by_cases member : file ∈ scan.measured
    · obtain ⟨size,there⟩ := standing file member
      exact ⟨size,fun _ => there⟩
    · exact ⟨0,fun inside => absurd inside member⟩
  choose now there using sizes
  refine .totals g (scan.measured.map fun file => (file.1,now file)) rfl ?_ ?_ ?_
  · rw [List.map_map]
    exact covered.once
  · intro file member
    obtain ⟨old,inside,rfl⟩ := List.mem_map.mp member
    exact (there old inside).1
  · have grown : (scan.measured.map Prod.snd).sum ≤ ((scan.measured.map fun file => (file.1,now file)).map Prod.snd).sum := by
      rw [List.map_map]
      exact List.sum_le_sum fun file inside => (there file inside).2
    rw [List.length_map,← covered.files]
    rw [← covered.bytes] at grown
    omega

theorem Guard.given_error {guard : Option Guard} {check : Guard → Except Failure Unit} {failure : Failure}
    (raised : Guard.given guard check = .error failure) : ∃ g, guard = some g ∧ check g = .error failure := by
  cases guard with
  | none => cases raised
  | some g => exact ⟨g,rfl,raised⟩

/-- An exception of the monitor at a question that finds what was promised shows an
excess in the very state it asked. -/
theorem Scan.step_error {guard : Option Guard} {s : Transfer} {beyond : Beyond} {scan : Scan} {failure : Failure}
    (orderly : Orderly scan) (phase : s.phase = .scanning scan) (steady : Steady guard s (.check beyond))
    (raised : scan.step guard s.disk beyond = .error failure) : Excessive guard s.disk := by
  have promised := steady beyond scan rfl phase
  obtain ⟨covered,_⟩ := orderly
  obtain ⟨point,stack,bytes,files,measured⟩ := scan
  cases point with
  | «exists» =>
    simp only [Scan.step] at raised
    split at raised
    next => cases raised
    next read =>
      rcases except_bind_error raised with raised | ⟨_,_,raised⟩
      · obtain ⟨g,rfl,raised⟩ := Guard.given_error raised
        cases root : s.disk.tree with
        | none => exact .space g rfl (Guard.checkDisk_error raised (promised root))
        | some tree =>
          have here : s.disk.find [] = .node tree := by
            rw [Disk.find,root]
            cases tree <;> rfl
          rcases Disk.stat_error read with found | found | found | found
          · rw [here] at found
            cases found
          · rw [here] at found
            cases found
          · exact .link [] found
          · exact .of_beyond found
      · cases raised
  | isFile =>
    simp only [Scan.step] at raised
    split at raised <;> cases raised
  | statFile =>
    obtain ⟨⟨size,there⟩,early⟩ := promised
    simp only [Scan.step,Disk.stat_file there] at raised
    rcases except_bind_error raised with raised | ⟨_,_,raised⟩
    · obtain ⟨g,rfl,raised⟩ := Guard.given_error raised
      rcases except_bind_error raised with raised | ⟨_,_,raised⟩
      · exact .fileSize g [] size rfl there (validateFileSize_error raised)
      · rcases except_bind_error raised with raised | ⟨_,_,raised⟩
        · refine .totals g [([],size)] rfl (by simp) (by simpa using there) ?_
          simpa using validateAddition_error raised
        · exact .space g rfl (Guard.checkDisk_error raised early)
    · cases raised
  | walk =>
    cases stack with
    | nil =>
      simp only [Scan.step] at raised
      cases raised
    | cons dir rest =>
      simp only [Scan.step] at raised
      split at raised
      next => cases raised
      next entries listed =>
        rcases except_bind_error raised with raised | ⟨_,_,raised⟩
        · obtain ⟨g,rfl,raised⟩ := Guard.given_error raised
          have deep := checkDepth_error raised
          rcases Disk.scandir_some listed with ⟨mode,below,found⟩ | found | found
          · exact .depth g dir mode below rfl found deep
          · exact .link dir found
          · exact .of_beyond found
        · cases raised
  | test item =>
    simp only [Scan.step] at raised
    split at raised
    next read =>
      rcases Disk.lstat_link read with found | found
      · exact .link _ found
      · exact .of_beyond found
    next read =>
      rcases Disk.lstat_denied read with found | found
      · exact absurd found promised
      · exact .of_beyond found
    next => cases raised
  | mode item =>
    obtain ⟨present,reached⟩ := promised
    simp only [Scan.step] at raised
    split at raised
    next read =>
      rcases Disk.stat_error read with found | found | found | found
      · exact absurd found present
      · exact absurd found reached
      · exact .link _ found
      · exact .of_beyond found
    next => cases raised
    next => cases raised
    next status regular directory read =>
      rcases Disk.stat_other read (fun same => regular status.size (by cases status; cases same; rfl))
          (fun same => directory status.size (by cases status; cases same; rfl)) with found | found | found
      · exact .special _ found
      · exact .link _ found
      · exact .of_beyond found
  | size item =>
    obtain ⟨size,there⟩ := promised
    simp only [Scan.step,Disk.stat_file there] at raised
    rcases except_bind_error raised with raised | ⟨_,_,raised⟩
    · obtain ⟨g,rfl,raised⟩ := Guard.given_error raised
      exact .fileSize g _ size rfl there (validateFileSize_error raised)
    · cases raised
  | totals directories =>
    obtain ⟨early,standing⟩ := promised
    simp only [Scan.step] at raised
    rcases except_bind_error raised with raised | ⟨_,_,raised⟩
    · obtain ⟨g,rfl,raised⟩ := Guard.given_error raised
      rcases except_bind_error raised with raised | ⟨_,_,raised⟩
      · rcases standing with standing | within
        · exact .of_counts covered standing (validateAddition_error raised)
        · rw [within g rfl] at raised
          cases raised
      · exact .space g rfl (Guard.checkDisk_error raised early)
    · cases raised
  | push directories =>
    cases directories with
    | nil =>
      simp only [Scan.step] at raised
      cases raised
    | cons path rest =>
      simp only [Scan.step] at raised
      split at raised <;> cases raised

def Transfer.Orderly (s : Transfer) : Prop := ∀ scan, s.phase = .scanning scan → Monitor.Orderly scan

theorem orderly_of_reached {guard : Option Guard} {allowed : Transfer → Event → Prop} {s : Transfer}
    (run : Reached guard allowed s) : s.Orderly := by
  refine Runs.invariant ?_ ?_ run
  · intro s waiting scan phase
    rw [waiting] at phase
    cases phase
  · intro s event next ih _ done
    cases event with
    | change disk =>
      obtain rfl := Option.some.inj done
      exact ih
    | tick =>
      simp only [Transfer.step] at done
      split at done
      · obtain rfl := Option.some.inj done
        intro scan phase
        obtain rfl := Phase.scanning.inj phase
        exact .start
      · cases done
    | check beyond =>
      simp only [Transfer.step] at done
      split at done
      next scan phase =>
        split at done
        · obtain rfl := Option.some.inj done
          intro scan phase
          cases phase
        next later stepped =>
          obtain rfl := Option.some.inj done
          intro scan phase'
          obtain rfl := Phase.scanning.inj phase'
          exact (ih scan phase).step stepped
        · obtain rfl := Option.some.inj done
          intro scan phase
          cases phase
      next => cases done
    | exit =>
      simp only [Transfer.step] at done
      split at done
      · obtain rfl := Option.some.inj done
        intro scan phase
        cases phase
      · cases done

/-- Where every question of the monitor finds what the earlier ones have promised, the
monitor fails a transfer only in a state that is excessive. -/
theorem monitorDownload_sound (guard : Option Guard) (s : Transfer) (beyond : Beyond) (failure : Failure)
    (run : Reached guard (Steady guard) s) (steady : Steady guard s (.check beyond))
    (failed : ∃ next, s.step guard (.check beyond) = some next ∧ next.phase = .failed failure) :
    Excessive guard s.disk := by
  obtain ⟨next,stepped,failed⟩ := failed
  simp only [Transfer.step] at stepped
  split at stepped
  next scan phase =>
    split at stepped
    next raised =>
      obtain rfl := Option.some.inj stepped
      exact Scan.step_error (orderly_of_reached run scan phase) phase steady raised
    next => 
      obtain rfl := Option.some.inj stepped
      cases failed
    next =>
      obtain rfl := Option.some.inj stepped
      cases failed
  next => cases stepped

def oneEntry (name : Str) (tree : Tree) (distinct : Distinct tree) : Disk where
  tree := some (.dir .own [(name,tree)])
  free := 100
  expired := false
  distinct := by
    intro root same
    obtain rfl := Option.some.inj same
    exact ⟨by simp,distinct,trivial⟩

def smallGuard : Guard := ⟨⟨1000,10,100,64,0,0⟩,10⟩

def noLinks : Beyond := ⟨.error .missing,none,fun _ => false,0,by simp⟩

/-- The monitor finds the link of a destination that stays as it is. -/
theorem monitorDownload_sound_small : Excessive (some smallGuard) (oneEntry (str "a") .link trivial) := by
  have first : Reached (some smallGuard) (Steady (some smallGuard))
      ⟨oneEntry (str "a") .link trivial,.scanning .start⟩ := by
    refine .next (a := .tick) (.start (s := ⟨oneEntry (str "a") .link trivial,.waiting⟩) rfl) ?_ rfl
    intro beyond scan event
    cases event
  have second : Reached (some smallGuard) (Steady (some smallGuard))
      ⟨oneEntry (str "a") .link trivial,.scanning ⟨.isFile,[],0,0,[]⟩⟩ := by
    refine .next (a := .check noLinks) first ?_ rfl
    intro beyond scan _ phase
    obtain rfl := Phase.scanning.inj phase
    exact fun _ => rfl
  have third : Reached (some smallGuard) (Steady (some smallGuard))
      ⟨oneEntry (str "a") .link trivial,.scanning ⟨.walk,[[]],0,0,[]⟩⟩ := by
    refine .next (a := .check noLinks) second ?_ rfl
    intro beyond scan _ phase
    obtain rfl := Phase.scanning.inj phase
    trivial
  have last : Reached (some smallGuard) (Steady (some smallGuard))
      ⟨oneEntry (str "a") .link trivial,.scanning ⟨.test ⟨[],str "a",[],[]⟩,[],0,0,[]⟩⟩ := by
    refine .next (a := .check noLinks) third ?_ rfl
    intro beyond scan _ phase
    obtain rfl := Phase.scanning.inj phase
    trivial
  refine monitorDownload_sound (some smallGuard) _ noLinks (.pipeline "UNSAFE_SOURCE") last ?_ ⟨_,rfl,rfl⟩
  intro beyond scan _ phase
  obtain rfl := Phase.scanning.inj phase
  exact fun impossible => by cases impossible

theorem find_oneFile {name : Str} {path : List Str} {tree : Tree}
    (found : (oneEntry name (.file 5) trivial).find path = .node tree) :
    (path = [] ∧ tree = .dir .own [(name,.file 5)]) ∨ (path = [name] ∧ tree = .file 5) := by
  cases path with
  | nil => exact .inl ⟨rfl,(Found.node.inj found).symm⟩
  | cons first rest =>
    by_cases same : first = name
    · subst same
      cases rest with
      | nil =>
        simp only [oneEntry,Disk.find,Monitor.find,DirMode.own,List.lookup_cons,beq_self_eq_true,if_true] at found
        exact .inr ⟨rfl,(Found.node.inj found).symm⟩
      | cons second third => simp [oneEntry,Disk.find,Monitor.find,DirMode.own] at found
    · have other : (first == name) = false := beq_eq_false_iff_ne.mpr same
      simp [oneEntry,Disk.find,Monitor.find,DirMode.own,List.lookup_cons,other] at found

/-- A destination with one small file is not excessive. -/
theorem oneFile_modest (name : Str) : ¬ Excessive (some smallGuard) (oneEntry name (.file 5) trivial) := by
  have sizes : ∀ path size, (oneEntry name (.file 5) trivial).find path = .node (.file size) →
      path = [name] ∧ size = 5 := by
    intro path size found
    rcases find_oneFile found with ⟨_,same⟩ | ⟨here,same⟩
    · cases same
    · exact ⟨here,Tree.file.inj same⟩
  intro excessive
  cases excessive with
  | link path found =>
    rcases find_oneFile found with ⟨_,same⟩ | ⟨_,same⟩ <;> cases same
  | special path found =>
    rcases find_oneFile found with ⟨_,same⟩ | ⟨_,same⟩ <;> cases same
  | fileSize g path size same found large =>
    obtain rfl := Option.some.inj same
    obtain ⟨_,rfl⟩ := sizes path size found
    exact absurd large (by decide)
  | depth g path mode entries same found deep =>
    obtain rfl := Option.some.inj same
    rcases find_oneFile found with ⟨rfl,_⟩ | ⟨_,same⟩
    · exact absurd deep (by simp)
    · cases same
  | totals g files same once there exceeds =>
    obtain rfl := Option.some.inj same
    have alone : files = [] ∨ files = [([name],5)] := by
      cases files with
      | nil => exact .inl rfl
      | cons file rest =>
        obtain ⟨path,size⟩ := file
        obtain ⟨rfl,rfl⟩ := sizes _ _ (there _ List.mem_cons_self)
        cases rest with
        | nil => exact .inr rfl
        | cons other more =>
          obtain ⟨path,size⟩ := other
          obtain ⟨rfl,rfl⟩ := sizes _ _ (there _ (List.mem_cons_of_mem _ List.mem_cons_self))
          simp at once
    rcases alone with rfl | rfl
    · simp [smallGuard] at exceeds
    · simp [smallGuard] at exceeds
  | space g same short =>
    obtain rfl := Option.some.inj same
    simp [smallGuard,oneEntry] at short

/-- `rsync` renames a temporary file after the monitor has listed it: the monitor raises
and the transfer fails, although nothing in any state is excessive. -/
theorem monitorDownload_failsRename : ∃ s next : Transfer,
    Reached (some smallGuard) (fun s _ => ¬ Excessive (some smallGuard) s.disk) s ∧
    ¬ Excessive (some smallGuard) s.disk ∧ s.step (some smallGuard) (.check noLinks) = some next ∧
    next.phase = .failed (.builtin "FileNotFoundError") := by
  have modest := oneFile_modest (str ".a.tmp")
  have listed : Reached (some smallGuard) (fun s _ => ¬ Excessive (some smallGuard) s.disk)
      ⟨oneEntry (str ".a.tmp") (.file 5) trivial,.scanning ⟨.mode ⟨[],str ".a.tmp",[],[]⟩,[],0,0,[]⟩⟩ := by
    refine .next (a := .check noLinks) (.next (a := .check noLinks) (.next (a := .check noLinks)
      (.next (a := .check noLinks) (.next (a := .tick)
        (.start (s := ⟨oneEntry (str ".a.tmp") (.file 5) trivial,.waiting⟩) rfl)
        modest rfl) modest rfl) modest rfl) modest rfl) modest rfl
  exact ⟨⟨oneEntry (str "a") (.file 5) trivial,.scanning ⟨.mode ⟨[],str ".a.tmp",[],[]⟩,[],0,0,[]⟩⟩,_,
    .next (a := .change (oneEntry (str "a") (.file 5) trivial)) listed modest rfl,oneFile_modest _,rfl,rfl⟩

end BackupTelebot.Monitor
