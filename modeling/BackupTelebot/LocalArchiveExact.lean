import BackupTelebot.LocalArchiveRules

/-! The archive of local sources holds what the worker can read, and its counters say how much. -/
namespace BackupTelebot.LocalArchive

open PyJson Packaging PurePosix

namespace Act

def member? : Act → Option TarMember
  | .directory path => some ⟨join path,.directory,[],[]⟩
  | .file path content => some ⟨join path,.regular,[],content⟩
  | _ => none

def skipped? : Act → Option Skipped
  | .record reason entryType path => some ⟨reason,entryType,join path⟩
  | _ => none

def content? : Act → Option (List ℕ)
  | .file _ content => some content
  | _ => none

def Allowed (limits : SourceBudget) : Act → Prop
  | .checkDepth depth => depth ≤ limits.maxDepth
  | .file _ content => content.length ≤ limits.maxFileBytes
  | .raise _ => False
  | _ => True

end Act

def bytes (contents : List (List ℕ)) : ℕ := (contents.map List.length).sum

namespace Packing

def Capped (p : Packing) : Prop := p.budget.bytesUsed ≤ p.budget.maxBytes ∧ p.budget.filesUsed ≤ p.budget.maxFiles

def after (p : Packing) (acts : List Act) : Packing where
  members := p.members ++ acts.filterMap Act.member?
  budget := { p.budget with
    bytesUsed := p.budget.bytesUsed + bytes (acts.filterMap Act.content?)
    filesUsed := p.budget.filesUsed + (acts.filterMap Act.content?).length }
  warnings := (acts.filterMap Act.skipped?).foldl Warnings.record p.warnings

section

variable {p p' : Packing} {act : Act} {acts : List Act}

@[simp] theorem after_nil : p.after [] = p := by simp [after,bytes]

theorem after_cons : (p.after [act]).after acts = p.after (act :: acts) := by
  have whole : act :: acts = [act] ++ acts := rfl
  rw [whole]
  simp only [after,List.filterMap_append,List.foldl_append,bytes,List.map_append,List.sum_append,List.length_append,List.append_assoc,
    Nat.add_assoc]

theorem validateFileSize_ok {budget : SourceBudget} {size : ℕ} : budget.validateFileSize size = .ok () ↔ size ≤ budget.maxFileBytes := by
  unfold SourceBudget.validateFileSize
  split_ifs with large
  · simp [large]
  · simpa using large

theorem validateAddition_ok {budget : SourceBudget} {size count : ℕ} : budget.validateAddition size count = .ok () ↔
    budget.bytesUsed + size ≤ budget.maxBytes ∧ budget.filesUsed + count ≤ budget.maxFiles := by
  unfold SourceBudget.validateAddition
  split_ifs with room more
  · simp [room]
  · simp [more]
  · simp only [true_iff]
    omega

theorem addKnownFile_ok {budget budget' : SourceBudget} {size : ℕ} : addKnownFile budget size = .ok budget' ↔
    (size ≤ budget.maxFileBytes ∧ budget.bytesUsed + size ≤ budget.maxBytes ∧ budget.filesUsed + 1 ≤ budget.maxFiles) ∧
      budget' = { budget with bytesUsed := budget.bytesUsed + size, filesUsed := budget.filesUsed + 1 } := by
  simp only [addKnownFile,except_bind_ok,pure,Except.pure,Except.ok.injEq]
  constructor
  · rintro ⟨⟨⟩,small,⟨⟩,room,rfl⟩
    exact ⟨⟨validateFileSize_ok.mp small,validateAddition_ok.mp room⟩,rfl⟩
  · rintro ⟨⟨small,room⟩,rfl⟩
    exact ⟨(),validateFileSize_ok.mpr small,(),validateAddition_ok.mpr room,rfl⟩

/-- One act. -/
theorem perform_ok (capped : p.Capped) : p.perform act = .ok p' ↔
    (act.Allowed p.budget ∧ (p.after [act]).Capped) ∧ p' = p.after [act] := by
  obtain ⟨inBytes,inFiles⟩ := capped
  cases act with
  | checkDepth depth =>
    have same : p.after [.checkDepth depth] = p := by simp [after,List.filterMap_cons,Act.member?,Act.content?,Act.skipped?,bytes]
    simp only [perform,SourceBudget.checkDepth,same,Act.Allowed]
    split_ifs with deep
    · simp [bind,Except.bind,deep]
    · simp only [bind,Except.bind,pure,Except.pure,Except.ok.injEq]
      exact ⟨fun same => ⟨⟨by omega,inBytes,inFiles⟩,same.symm⟩,fun both => both.2.symm⟩
  | directory path =>
    simp [perform,after,List.filterMap_cons,Act.Allowed,Act.member?,Act.content?,Act.skipped?,bytes,Capped,inBytes,inFiles,eq_comm]
  | record reason entryType path =>
    simp [perform,after,List.filterMap_cons,Act.Allowed,Act.member?,Act.content?,Act.skipped?,bytes,Capped,inBytes,inFiles,eq_comm]
  | raise failure => simp [perform,Act.Allowed]
  | file path content =>
    simp only [perform,except_bind_ok,addKnownFile_ok,pure,Except.pure,Except.ok.injEq,Act.Allowed]
    have shape : p.after [.file path content] = { p with
        members := p.members ++ [⟨join path,.regular,[],content⟩]
        budget := { p.budget with bytesUsed := p.budget.bytesUsed + content.length, filesUsed := p.budget.filesUsed + 1 } } := by
      simp [after,List.filterMap_cons,Act.member?,Act.content?,Act.skipped?,bytes]
    rw [shape]
    constructor
    · rintro ⟨budget,⟨⟨large,room,count⟩,rfl⟩,rfl⟩
      exact ⟨⟨large,room,count⟩,rfl⟩
    · rintro ⟨⟨large,room,count⟩,rfl⟩
      exact ⟨_,⟨⟨large,room,count⟩,rfl⟩,rfl⟩

theorem allowed_after : act.Allowed (p.after acts).budget ↔ act.Allowed p.budget := by
  cases act <;> rfl

/-- The counters only grow. -/
theorem capped_of_after (capped : (p.after acts).Capped) : p.Capped := by
  obtain ⟨inBytes,inFiles⟩ := capped
  simp only [after] at inBytes inFiles
  exact ⟨by omega,by omega⟩

theorem run_ok (capped : p.Capped) : (p.run acts).2 = .ok () ↔ (∀ act ∈ acts, act.Allowed p.budget) ∧ (p.after acts).Capped := by
  induction acts generalizing p with
  | nil => simp [run,capped]
  | cons act rest ih =>
    rw [run,List.forall_mem_cons]
    cases done : p.perform act with
    | error failure =>
      have refused : ¬(act.Allowed p.budget ∧ (p.after [act]).Capped) := by
        intro fine
        rw [(perform_ok capped).mpr ⟨fine,rfl⟩] at done
        cases done
      refine iff_of_false (by simp) fun whole => refused ⟨whole.1.1,?_⟩
      rw [← after_cons] at whole
      exact capped_of_after whole.2
    | ok p' =>
      obtain ⟨⟨allowed,capped'⟩,rfl⟩ := (perform_ok capped).mp done
      simp only
      rw [ih capped',after_cons]
      simp only [allowed_after,allowed,true_and]

theorem run_after (capped : p.Capped) (done : (p.run acts).2 = .ok ()) : (p.run acts).1 = p.after acts := by
  induction acts generalizing p with
  | nil => simp [run]
  | cons act rest ih =>
    rw [run] at done ⊢
    cases here : p.perform act with
    | error failure => simp [here] at done
    | ok p' =>
      obtain ⟨⟨-,capped'⟩,rfl⟩ := (perform_ok capped).mp here
      simp only [here] at done ⊢
      rw [ih capped' done,after_cons]

/-- Also where an exception ends the run, the counters are within the same maxima. -/
theorem run_capped (capped : p.Capped) : (p.run acts).1.Capped ∧ (p.run acts).1.budget.maxBytes = p.budget.maxBytes ∧
    (p.run acts).1.budget.maxFiles = p.budget.maxFiles := by
  induction acts generalizing p with
  | nil => exact ⟨capped,rfl,rfl⟩
  | cons act rest ih =>
    rw [run]
    cases here : p.perform act with
    | error failure => exact ⟨capped,rfl,rfl⟩
    | ok p' =>
      obtain ⟨⟨-,capped'⟩,rfl⟩ := (perform_ok capped).mp here
      exact ih capped'

end

end Packing

section Sources

variable (sqlite : List ℕ → Except Failure (List ℕ))

def plainFile (content : List ℕ) : Node := .file ⟨true,true,true⟩ content

namespace Source

def stored (source : Source) (content : List ℕ) : Option (List ℕ) :=
  if source.sqliteSnapshotCandidate then (sqlite content).toOption else some content

def Available (source : Source) : Prop :=
  match source.opened with
  | .error _ => False
  | .ok (.file content) => (source.stored sqlite content).isSome
  | .ok (.directory _ _) => True

def at_ (source : Source) (index : ℕ) (path : List Str) : Option Node :=
  match source.opened with
  | .error _ => none
  | .ok (.file content) => if path = sourcePath index ++ [source.name] then (source.stored sqlite content).map plainFile else none
  | .ok (.directory list entries) =>
      if sourcePath index = path.take 2 then (rootNode list entries).at_ (path.drop 2) else none

def nodes (source : Source) (index : ℕ) : List (List Str × Node) :=
  match source.opened with
  | .error _ => []
  | .ok (.file content) => ((source.stored sqlite content).map fun content => (sourcePath index ++ [source.name],plainFile content)).toList
  | .ok (.directory list entries) => (rootNode list entries).visible.map fun found => (sourcePath index ++ found.1,found.2)

end Source

def nodes (paths : List Source) : List (List Str × Node) := paths.zipIdx.flatMap fun item => item.1.nodes sqlite item.2

def Found (paths : List Source) (path : List Str) (node : Node) : Prop :=
  ∃ (index : ℕ) (source : Source), paths[index]? = some source ∧ source.at_ sqlite index path = some node

theorem Source.mem_nodes {source : Source} {index : ℕ} {path : List Str} {node : Node} :
    (path,node) ∈ source.nodes sqlite index ↔ source.at_ sqlite index path = some node := by
  unfold Source.nodes Source.at_
  split
  · simp
  · cases source.stored sqlite _ <;> simp [eq_comm,and_comm]
  · rename_i list entries opened
    rw [List.mem_map]
    constructor
    · rintro ⟨found,member,same⟩
      obtain ⟨rfl,rfl⟩ := Prod.mk.inj same
      have front : (sourcePath index ++ found.1).take 2 = sourcePath index := rfl
      have back : (sourcePath index ++ found.1).drop 2 = found.1 := rfl
      rw [front,if_pos rfl,back]
      exact (Node.mem_visible (source.proper _ _ opened)).mp member
    · intro found
      split_ifs at found with front
      refine ⟨(path.drop 2,node),(Node.mem_visible (source.proper _ _ opened)).mpr found,?_⟩
      rw [front,List.take_append_drop]

theorem mem_nodes {paths : List Source} {path : List Str} {node : Node} : (path,node) ∈ nodes sqlite paths ↔ Found sqlite paths path node := by
  rw [nodes,List.mem_flatMap,Found]
  constructor
  · rintro ⟨⟨source,index⟩,listed,member⟩
    exact ⟨index,source,List.mem_zipIdx_iff_getElem?.mp listed,(Source.mem_nodes sqlite).mp member⟩
  · rintro ⟨index,source,listed,found⟩
    exact ⟨(source,index),List.mem_zipIdx_iff_getElem?.mpr listed,(Source.mem_nodes sqlite).mpr found⟩

theorem sourcePath_injective {i j : ℕ} (same : sourcePath i = sourcePath j) : i = j := by
  have text : dumpNat i = dumpNat j := (List.cons.inj (List.cons.inj same).2).1
  rw [← natOfDigits_dump i,text,natOfDigits_dump]

theorem sourcePath_isEntry (index : ℕ) : ∀ name ∈ sourcePath index, Packaging.Node.IsEntry name := by
  intro name member
  rcases List.mem_cons.mp member with rfl | last
  · exact sources_isEntry
  · obtain rfl := List.mem_singleton.mp last
    have digits := dumpNat_digit index
    refine ⟨⟨dumpNat_ne index,?_,?_⟩,?_⟩
    · intro dots
      have := digits 46 (dots ▸ List.mem_cons_self)
      omega
    · intro inside
      have := digits _ inside
      revert this
      decide
    · intro dots
      have := digits 46 (dots ▸ List.mem_cons_self)
      omega

theorem Source.nodes_paths (source : Source) (index : ℕ) :
    ((source.nodes sqlite index).map Prod.fst).Nodup ∧ ∀ found ∈ source.nodes sqlite index,
      sourcePath index = found.1.take 2 ∧ found.1 ≠ [] ∧ ∀ name ∈ found.1, Packaging.Node.IsEntry name := by
  unfold Source.nodes
  split
  · simp
  · rename_i content opened
    cases source.stored sqlite content with
    | none => simp
    | some copy =>
      refine ⟨by simp,?_⟩
      intro found member
      obtain rfl := List.mem_singleton.mp member
      refine ⟨rfl,by simp,fun name inside => ?_⟩
      rcases List.mem_append.mp inside with front | last
      · exact sourcePath_isEntry index name front
      · exact List.mem_singleton.mp last ▸ source.named content opened
  · rename_i list entries opened
    obtain ⟨distinct,names⟩ := Node.visible_nodup (source.proper _ _ opened)
    refine ⟨?_,?_⟩
    · rw [List.map_map]
      have shape : (Prod.fst ∘ fun found : List Str × Node => (sourcePath index ++ found.1,found.2)) = (sourcePath index ++ ·) ∘ Prod.fst := rfl
      rw [shape,← List.map_map]
      exact distinct.map (List.append_right_injective _)
    · intro found member
      obtain ⟨lower,inside,rfl⟩ := List.mem_map.mp member
      refine ⟨rfl,by simp [sourcePath],fun name among => ?_⟩
      rcases List.mem_append.mp among with front | back
      · exact sourcePath_isEntry index name front
      · exact names lower inside name back

/-- No two nodes have one path. -/
theorem nodes_paths (paths : List Source) :
    ((nodes sqlite paths).map Prod.fst).Nodup ∧
      ∀ found ∈ nodes sqlite paths, found.1 ≠ [] ∧ ∀ name ∈ found.1, Packaging.Node.IsEntry name := by
  constructor
  · rw [nodes,List.map_flatMap,List.nodup_flatMap]
    refine ⟨fun item _ => (item.1.nodes_paths sqlite item.2).1,?_⟩
    have apart : paths.zipIdx.Pairwise fun a b => a.2 ≠ b.2 := by
      have indices : (paths.zipIdx.map Prod.snd).Nodup := by
        rw [List.zipIdx_map_snd]
        exact List.nodup_range'
      exact List.pairwise_map.mp indices
    refine apart.imp fun {a b} differ => ?_
    rintro path first second
    obtain ⟨found,member,rfl⟩ := List.mem_map.mp first
    obtain ⟨other,member',same⟩ := List.mem_map.mp second
    have here := ((a.1.nodes_paths sqlite a.2).2 found member).1
    have there := ((b.1.nodes_paths sqlite b.2).2 other member').1
    rw [same] at there
    exact differ (sourcePath_injective (here.trans there.symm))
  · intro found member
    rw [nodes,List.mem_flatMap] at member
    obtain ⟨item,_,inside⟩ := member
    exact ((item.1.nodes_paths sqlite item.2).2 found inside).2

def Node.content? : Node → Option (List ℕ)
  | .file access content => if access.stat && access.open_ then some content else none
  | _ => none

def nodeActs (found : List Str × Node) : List Act := found.2.acts (found.1.length - 2) found.1

namespace Node

variable (node : Node) (depth : ℕ) (path : List Str)

theorem acts_member : (node.acts depth path).filterMap Act.member? = (node.member? path).toList := by
  obtain ⟨⟨stat,open_,list⟩,content⟩ | ⟨⟨stat,open_,list⟩⟩ | ⟨⟨stat,open_,list⟩,entryType⟩ | ⟨⟨stat,open_,list⟩,entries⟩ := node <;>
    cases stat <;> cases open_ <;> cases list <;> rfl

theorem acts_skipped : (node.acts depth path).filterMap Act.skipped? = (node.skipped? path).toList := by
  obtain ⟨⟨stat,open_,list⟩,content⟩ | ⟨⟨stat,open_,list⟩⟩ | ⟨⟨stat,open_,list⟩,entryType⟩ | ⟨⟨stat,open_,list⟩,entries⟩ := node <;>
    cases stat <;> cases open_ <;> cases list <;> rfl

theorem acts_content : (node.acts depth path).filterMap Act.content? = node.content?.toList := by
  obtain ⟨⟨stat,open_,list⟩,content⟩ | ⟨⟨stat,open_,list⟩⟩ | ⟨⟨stat,open_,list⟩,entryType⟩ | ⟨⟨stat,open_,list⟩,entries⟩ := node <;>
    cases stat <;> cases open_ <;> cases list <;> rfl

theorem acts_allowed {limits : SourceBudget} : (∀ act ∈ node.acts depth path, act.Allowed limits) ↔
    (node.isOpen = true → depth ≤ limits.maxDepth) ∧ ∀ content, node.content? = some content → content.length ≤ limits.maxFileBytes := by
  obtain ⟨⟨stat,open_,list⟩,content⟩ | ⟨⟨stat,open_,list⟩⟩ | ⟨⟨stat,open_,list⟩,entryType⟩ | ⟨⟨stat,open_,list⟩,entries⟩ := node <;>
    cases stat <;> cases open_ <;> cases list <;> simp [acts,isOpen,content?,skipped?,Node.access,Act.Allowed]

end Node

/-- Nothing but a node that cannot be gone into, or a source that is not there, is in the way. -/
theorem Source.acts_perm {source : Source} {frames index : ℕ} (available : source.Available sqlite)
    (shallow : ∀ list entries, source.opened = .ok (.directory list entries) → (rootNode list entries).Shallow frames) :
    (source.acts sqlite frames index).Perm ((source.nodes sqlite index).flatMap nodeActs) := by
  unfold Source.Available Source.stored at available
  unfold Source.acts Source.nodes Source.stored
  cases opened : source.opened with
  | error failure => simp [opened] at available
  | ok value =>
    cases value with
    | file content =>
      simp only [opened] at available ⊢
      cases candidate : source.sqliteSnapshotCandidate with
      | false => simp [nodeActs,plainFile,Node.acts,Node.isOpen,Node.skipped?,Node.access]
      | true =>
        cases copied : sqlite content with
        | error failure => simp [candidate,copied,Except.toOption] at available
        | ok copy => simp [Except.toOption,nodeActs,plainFile,Node.acts,Node.isOpen,Node.skipped?,Node.access]
    | directory list entries =>
      simp only
      refine (Node.archiveEntry_perm (shallow list entries opened) 0 (sourcePath index)).trans ?_
      rw [List.flatMap_map]
      refine List.Perm.of_eq (congrArg (fun f => List.flatMap f _) (funext fun found => ?_))
      simp [nodeActs,sourcePath]

def contents (paths : List Source) : List (List ℕ) := (nodes sqlite paths).filterMap fun found => found.2.content?

structure Within (limits : SourceBudget) (paths : List Source) : Prop where
  depth : ∀ path node, Found sqlite paths path node → node.isOpen = true → path.length - 2 ≤ limits.maxDepth
  size : ∀ path node, Found sqlite paths path node → ∀ content, node.content? = some content → content.length ≤ limits.maxFileBytes
  bytes : bytes (contents sqlite paths) ≤ limits.maxBytes
  files : (contents sqlite paths).length ≤ limits.maxFiles

def archivedFiles (members : List TarMember) : List TarMember := members.filter fun member => member.type = .regular

def skippedFor (reason : Reason) (skipped : List Skipped) : ℕ := skipped.countP fun entry => entry.reason = reason

/-- The archive and the metadata say what the sources have: each entry once, and nothing else. -/
structure Complete (paths : List Source) (result : Packing) (metadata : Metadata) : Prop where
  archived : ∀ member, member ∈ result.members ↔ ∃ path node, Found sqlite paths path node ∧ node.member? path = some member
  archivedOnce : (result.members.map TarMember.name).Nodup
  skipped : ∀ entry, entry ∈ metadata.warnings.skippedEntries ↔
    ∃ path node, Found sqlite paths path node ∧ node.skipped? path = some entry
  skippedOnce : (metadata.warnings.skippedEntries.map Skipped.relativePath).Nodup
  symlinks : metadata.warnings.skippedSymlinks = skippedFor .symlink metadata.warnings.skippedEntries
  specialFiles : metadata.warnings.skippedSpecialFiles = skippedFor .specialFile metadata.warnings.skippedEntries
  unreadable : metadata.warnings.skippedUnreadableEntries = skippedFor .unreadable metadata.warnings.skippedEntries
  verified : verifyTar ⟨result.members,[]⟩ = .ok ()
  originalSize : metadata.originalSizeBytes = bytes ((archivedFiles result.members).map TarMember.data)
  bytesUsed : result.budget.bytesUsed = metadata.originalSizeBytes
  filesUsed : result.budget.filesUsed = (archivedFiles result.members).length
  kinds : metadata.sourceKinds = paths.map Source.kind

variable {paths : List Source} {frames : ℕ} {limits : SourceBudget}

theorem names_nodup {α : Type} {select : List Str × Node → Option α} {name : α → Str}
    (named : ∀ found item, select found = some item → name item = join found.1) :
    (((nodes sqlite paths).filterMap select).map name).Nodup := by
  obtain ⟨distinct,entries⟩ := nodes_paths sqlite paths
  refine List.pairwise_map.mpr (List.pairwise_filterMap.mpr ?_)
  refine (List.pairwise_map.mp distinct).imp_of_mem fun {found other} member member' differ item selected item' selected' same => ?_
  rw [named _ _ selected,named _ _ selected'] at same
  have isNames : ∀ {path : List Str}, (∀ name ∈ path, Packaging.Node.IsEntry name) → ∀ name ∈ path, IsName name :=
    fun entries name inside => (entries name inside).toIsName
  have first := names_join (isNames (entries found member).2)
  rw [same,names_join (isNames (entries other member').2)] at first
  exact differ first.symm

theorem warnings_foldl (start : Warnings) (skipped : List Skipped) : skipped.foldl Warnings.record start =
    ⟨start.skippedSymlinks + skippedFor .symlink skipped,start.skippedSpecialFiles + skippedFor .specialFile skipped,
      start.skippedUnreadableEntries + skippedFor .unreadable skipped,start.skippedEntries ++ skipped⟩ := by
  induction skipped generalizing start with
  | nil => simp [skippedFor]
  | cons entry rest ih =>
    obtain ⟨reason,entryType,relativePath⟩ := entry
    rw [List.foldl_cons,ih]
    cases reason <;> simp [Warnings.record,skippedFor,Nat.add_assoc,Nat.add_comm 1]

def allActs (frames : ℕ) (paths : List Source) : List Act := paths.zipIdx.flatMap fun item => item.1.acts sqlite frames item.2

def begun (limits : SourceBudget) : Packing := ⟨[],{ limits with bytesUsed := 0, filesUsed := 0 },⟨0,0,0,[]⟩⟩

theorem begun_capped : (begun limits).Capped := ⟨Nat.zero_le _,Nat.zero_le _⟩

def Shallow (frames : ℕ) (paths : List Source) : Prop := ∀ source ∈ paths, ∀ list entries,
  source.opened = .ok (.directory list entries) → (rootNode list entries).Shallow frames

theorem allActs_perm (available : ∀ source ∈ paths, source.Available sqlite) (shallow : Shallow frames paths) :
    (allActs sqlite frames paths).Perm ((nodes sqlite paths).flatMap nodeActs) := by
  rw [allActs,nodes,List.flatMap_assoc]
  refine List.Perm.flatMap_left _ fun item member => ?_
  have listed : item.1 ∈ paths := List.fst_mem_of_mem_zipIdx member
  exact Source.acts_perm sqlite (available _ listed) (shallow _ listed)

/-- Within the depth limit the recursion limit is out of reach. -/
theorem shallow_of_within (deep : limits.maxDepth < frames) (within : Within sqlite limits paths) : Shallow frames paths := by
  intro source listed list entries opened found visible isOpen
  obtain ⟨index,here⟩ := List.mem_iff_getElem?.mp listed
  have member : (sourcePath index ++ found.1,found.2) ∈ source.nodes sqlite index := by
    unfold Source.nodes
    simp only [opened]
    exact List.mem_map.mpr ⟨found,visible,rfl⟩
  have bounded := within.depth _ _ ⟨index,source,here,(Source.mem_nodes sqlite).mp member⟩ isOpen
  have length : (sourcePath index ++ found.1).length = found.1.length + 2 := rfl
  omega

/-- What does not raise has been there, and was not too deep. -/
theorem available_of_noRaise (noRaise : ∀ failure, Act.raise failure ∉ allActs sqlite frames paths) :
    (∀ source ∈ paths, source.Available sqlite) ∧ Shallow frames paths := by
  have each : ∀ source ∈ paths, ∃ index, ∀ failure, Act.raise failure ∉ source.acts sqlite frames index := by
    intro source listed
    obtain ⟨index,here⟩ := List.mem_iff_getElem?.mp listed
    exact ⟨index,fun failure raised => noRaise failure
      (List.mem_flatMap.mpr ⟨(source,index),List.mem_zipIdx_iff_getElem?.mpr here,raised⟩)⟩
  constructor
  · intro source listed
    obtain ⟨index,silent⟩ := each source listed
    unfold Source.acts at silent
    unfold Source.Available Source.stored
    cases opened : source.opened with
    | error failure => simp [opened] at silent
    | ok value =>
      cases value with
      | file content =>
        simp only [opened] at silent ⊢
        cases candidate : source.sqliteSnapshotCandidate with
        | false => rfl
        | true =>
          cases copied : sqlite content with
          | error failure => simp [candidate,copied] at silent
          | ok copy => rfl
      | directory list entries => trivial
  · intro source listed list entries opened
    obtain ⟨index,silent⟩ := each source listed
    unfold Source.acts at silent
    simp only [opened] at silent
    exact Node.shallow_of_noRaise silent

theorem allowed_nodes : (∀ act ∈ (nodes sqlite paths).flatMap nodeActs, act.Allowed limits) ↔
    ∀ path node, Found sqlite paths path node → (node.isOpen = true → path.length - 2 ≤ limits.maxDepth) ∧
      ∀ content, node.content? = some content → content.length ≤ limits.maxFileBytes := by
  constructor
  · intro allowed path node found
    exact Node.acts_allowed node _ path |>.mp fun act inside =>
      allowed act (List.mem_flatMap.mpr ⟨(path,node),(mem_nodes sqlite).mpr found,inside⟩)
  · intro each act member
    obtain ⟨found,inside,among⟩ := List.mem_flatMap.mp member
    exact (Node.acts_allowed found.2 _ found.1).mpr (each _ _ ((mem_nodes sqlite).mp inside)) act among

theorem members_of_nodes : ((nodes sqlite paths).flatMap nodeActs).filterMap Act.member? =
    (nodes sqlite paths).filterMap fun found => found.2.member? found.1 := by
  rw [List.filterMap_flatMap,List.filterMap_eq_flatMap_toList]
  simp only [nodeActs,Node.acts_member]

theorem skipped_of_nodes : ((nodes sqlite paths).flatMap nodeActs).filterMap Act.skipped? =
    (nodes sqlite paths).filterMap fun found => found.2.skipped? found.1 := by
  rw [List.filterMap_flatMap,List.filterMap_eq_flatMap_toList]
  simp only [nodeActs,Node.acts_skipped]

theorem contents_of_nodes : ((nodes sqlite paths).flatMap nodeActs).filterMap Act.content? = contents sqlite paths := by
  rw [contents,List.filterMap_flatMap,List.filterMap_eq_flatMap_toList]
  simp only [nodeActs,Node.acts_content]

theorem bytes_perm {first second : List (List ℕ)} (perm : first.Perm second) : bytes first = bytes second :=
  (perm.map List.length).sum_eq

/-- A run without an exception has done what there is to do, in some order. -/
theorem perm_of_ok (done : ((begun limits).run (allActs sqlite frames paths)).2 = .ok ()) :
    (allActs sqlite frames paths).Perm ((nodes sqlite paths).flatMap nodeActs) ∧ ∀ source ∈ paths, source.Available sqlite := by
  obtain ⟨allowed,-⟩ := (Packing.run_ok begun_capped).mp done
  obtain ⟨available,shallow⟩ := available_of_noRaise sqlite fun failure raised => allowed _ raised
  exact ⟨allActs_perm sqlite available shallow,available⟩

theorem capped_iff (perm : (allActs sqlite frames paths).Perm ((nodes sqlite paths).flatMap nodeActs)) :
    ((begun limits).after (allActs sqlite frames paths)).Capped ↔
      bytes (contents sqlite paths) ≤ limits.maxBytes ∧ (contents sqlite paths).length ≤ limits.maxFiles := by
  have same := perm.filterMap Act.content?
  rw [contents_of_nodes] at same
  simp only [Packing.Capped,Packing.after,begun,Nat.zero_add,bytes_perm same,same.length_eq]

/-- The packaging succeeds exactly on sources that are there and within the limits. -/
theorem unhindered_iff (deep : limits.maxDepth < frames) :
    ((begun limits).run (allActs sqlite frames paths)).2 = .ok () ↔
      (∀ source ∈ paths, source.Available sqlite) ∧ Within sqlite limits paths := by
  constructor
  · intro done
    obtain ⟨perm,available⟩ := perm_of_ok sqlite done
    obtain ⟨allowed,capped⟩ := (Packing.run_ok begun_capped).mp done
    have nodewise := (allowed_nodes sqlite).mp fun act member => allowed act (perm.mem_iff.mpr member)
    obtain ⟨total,count⟩ := (capped_iff sqlite perm).mp capped
    exact ⟨available,fun path node found => (nodewise path node found).1,fun path node found => (nodewise path node found).2,total,count⟩
  · rintro ⟨available,within⟩
    have perm := allActs_perm sqlite available (shallow_of_within sqlite deep within)
    refine (Packing.run_ok begun_capped).mpr ⟨fun act member => ?_,(capped_iff sqlite perm).mpr ⟨within.bytes,within.files⟩⟩
    exact (allowed_nodes sqlite).mpr (fun path node found => ⟨within.depth path node found,within.size path node found⟩) act
      (perm.mem_iff.mp member)

theorem Node.member_content (node : Node) (path : List Str) :
    ((node.member? path).filter fun member => member.type = .regular).map TarMember.data = node.content? := by
  obtain ⟨⟨stat,open_,list⟩,content⟩ | ⟨⟨stat,open_,list⟩⟩ | ⟨⟨stat,open_,list⟩,entryType⟩ | ⟨⟨stat,open_,list⟩,entries⟩ := node <;>
    cases stat <;> cases open_ <;> rfl

theorem archivedFiles_data (found : List (List Str × Node)) :
    (archivedFiles (found.filterMap fun item => item.2.member? item.1)).map TarMember.data = found.filterMap fun item => item.2.content? := by
  rw [archivedFiles,List.filter_filterMap,List.map_filterMap]
  simp only [Node.member_content]

theorem Node.member_ordinary {node : Node} {path : List Str} {member : TarMember} (selected : node.member? path = some member) :
    member.name = join path ∧ member.Ordinary := by
  unfold Node.member? at selected
  split at selected
  · split_ifs at selected
    obtain rfl := Option.some.inj selected
    exact ⟨rfl,.inl rfl⟩
  · split_ifs at selected
    obtain rfl := Option.some.inj selected
    exact ⟨rfl,.inr rfl⟩
  · cases selected

theorem Node.skipped_path {node : Node} {path : List Str} {entry : Skipped} (selected : node.skipped? path = some entry) :
    entry.relativePath = join path := by
  obtain ⟨⟨stat,open_,list⟩,content⟩ | ⟨⟨stat,open_,list⟩⟩ | ⟨⟨stat,open_,list⟩,entryType⟩ | ⟨⟨stat,open_,list⟩,entries⟩ := node <;>
    cases stat <;> cases open_ <;> cases list <;> simp [Node.skipped?,Node.access] at selected <;> rw [← selected]

theorem complete_of_perm {acts : List Act} {result : Packing} (perm : acts.Perm ((nodes sqlite paths).flatMap nodeActs))
    (done : result = (begun limits).after acts) :
    Complete sqlite paths result ⟨paths.map Source.kind,result.budget.bytesUsed,result.warnings⟩ := by
  have members : result.members.Perm ((nodes sqlite paths).filterMap fun found => found.2.member? found.1) := by
    rw [done,← members_of_nodes]
    exact perm.filterMap _
  have skipped : (acts.filterMap Act.skipped?).Perm ((nodes sqlite paths).filterMap fun found => found.2.skipped? found.1) := by
    rw [← skipped_of_nodes]
    exact perm.filterMap _
  have contained : (acts.filterMap Act.content?).Perm (contents sqlite paths) := by
    rw [← contents_of_nodes]
    exact perm.filterMap _
  have files : ((archivedFiles result.members).map TarMember.data).Perm (contents sqlite paths) := by
    rw [contents,← archivedFiles_data]
    exact (members.filter _).map _
  have warned : result.warnings = ⟨skippedFor .symlink (acts.filterMap Act.skipped?),skippedFor .specialFile (acts.filterMap Act.skipped?),
      skippedFor .unreadable (acts.filterMap Act.skipped?),acts.filterMap Act.skipped?⟩ := by
    rw [done]
    simp [Packing.after,begun,warnings_foldl]
  have used : result.budget.bytesUsed = bytes (acts.filterMap Act.content?) := by
    rw [done]
    simp [Packing.after,begun]
  have counted : result.budget.filesUsed = (acts.filterMap Act.content?).length := by
    rw [done]
    simp [Packing.after,begun]
  constructor
  case archived =>
    intro member
    rw [members.mem_iff,List.mem_filterMap]
    exact ⟨fun ⟨found,inside,same⟩ => ⟨found.1,found.2,(mem_nodes sqlite).mp inside,same⟩,
      fun ⟨path,node,found,same⟩ => ⟨(path,node),(mem_nodes sqlite).mpr found,same⟩⟩
  case archivedOnce =>
    exact (members.map _).nodup_iff.mpr (names_nodup sqlite fun _ _ selected => (Node.member_ordinary selected).1)
  case skipped =>
    intro entry
    rw [warned,skipped.mem_iff,List.mem_filterMap]
    exact ⟨fun ⟨found,inside,same⟩ => ⟨found.1,found.2,(mem_nodes sqlite).mp inside,same⟩,
      fun ⟨path,node,found,same⟩ => ⟨(path,node),(mem_nodes sqlite).mpr found,same⟩⟩
  case skippedOnce =>
    rw [warned]
    exact (skipped.map _).nodup_iff.mpr (names_nodup sqlite fun _ _ selected => Node.skipped_path selected)
  case symlinks => rw [warned]
  case specialFiles => rw [warned]
  case unreadable => rw [warned]
  case verified =>
    refine verifyTar_ok.mpr fun member inside => ?_
    obtain ⟨found,among,selected⟩ := List.mem_filterMap.mp (members.mem_iff.mp inside)
    obtain ⟨nonempty,entries⟩ := (nodes_paths sqlite paths).2 found among
    obtain ⟨named,ordinary⟩ := Node.member_ordinary selected
    exact verified_of_ordinary nonempty entries named ordinary
  case originalSize => rw [used,bytes_perm contained,bytes_perm files]
  case bytesUsed => rfl
  case filesUsed => rw [counted,contained.length_eq,← files.length_eq,List.length_map]
  case kinds => rfl

/-- What is packaged holds every readable file and directory once, and says once of everything else why it
does not. The counters never pass their maxima, whether the packaging succeeds or not. It succeeds exactly
where all sources are there and within the limits, if the recursion limit is no tighter than that of the depth. -/
theorem packageLocal_exact (sqlite : List ℕ → Except Failure (List ℕ)) (limits : SourceBudget) (frames : ℕ) (paths : List Source) :
    (packageLocal sqlite frames limits paths).1.budget.bytesUsed ≤ limits.maxBytes ∧
    (packageLocal sqlite frames limits paths).1.budget.filesUsed ≤ limits.maxFiles ∧
    (∀ metadata, (packageLocal sqlite frames limits paths).2 = .ok metadata →
      Complete sqlite paths (packageLocal sqlite frames limits paths).1 metadata) ∧
    (limits.maxDepth < frames → ((∃ metadata, (packageLocal sqlite frames limits paths).2 = .ok metadata) ↔
      (∀ source ∈ paths, source.Available sqlite) ∧ Within sqlite limits paths)) := by
  have whole : packageLocal sqlite frames limits paths = (((begun limits).run (allActs sqlite frames paths)).1,
      ((begun limits).run (allActs sqlite frames paths)).2.map fun _ => ⟨paths.map Source.kind,
        ((begun limits).run (allActs sqlite frames paths)).1.budget.bytesUsed,
        ((begun limits).run (allActs sqlite frames paths)).1.warnings⟩) := rfl
  obtain ⟨⟨inBytes,inFiles⟩,sameBytes,sameFiles⟩ := @Packing.run_capped (begun limits) (allActs sqlite frames paths) begun_capped
  rw [whole]
  refine ⟨sameBytes ▸ inBytes,sameFiles ▸ inFiles,?_,?_⟩
  · intro metadata returned
    cases done : ((begun limits).run (allActs sqlite frames paths)).2 with
    | error failure => simp [done,Except.map] at returned
    | ok value =>
      simp only [done,Except.map,Except.ok.injEq] at returned
      subst returned
      exact complete_of_perm sqlite (perm_of_ok sqlite done).1 (Packing.run_after begun_capped done)
  · intro deep
    rw [← unhindered_iff sqlite deep]
    cases ((begun limits).run (allActs sqlite frames paths)).2 <;> simp [Except.map]

end Sources

theorem letter_isEntry {letter : ℕ} (other : letter ≠ PurePosix.dot ∧ letter ≠ PurePosix.slash) : Packaging.Node.IsEntry [letter] := by
  obtain ⟨notDot,notSlash⟩ := other
  exact ⟨⟨by simp,by simpa using notDot,by simpa using notSlash.symm⟩,by simp⟩

/-- A directory with a file `a`, a link `b` and a directory `c` that the worker may not read. -/
def mixedDirectory : Source where
  name := [100]
  sqliteSnapshotCandidate := false
  opened := .ok (.directory true [([99],.dir ⟨true,false,true⟩ []),([98],.link ⟨true,true,true⟩),([97],.file ⟨true,true,true⟩ [1,2])])
  named := by simp
  proper := by
    intro list entries same
    simp only [Except.ok.injEq,Opened.directory.injEq] at same
    obtain ⟨rfl,rfl⟩ := same
    refine ⟨by simp,?_⟩
    rw [Node.properEntries_iff]
    simp [letter_isEntry,PurePosix.dot,PurePosix.slash,Node.Proper,Node.ProperEntries]

def smallLimits : SourceBudget := ⟨2,1,2,0,0,0⟩

theorem packageLocal_mixed : ∃ metadata, (packageLocal .ok 1000 smallLimits [mixedDirectory]).2 = .ok metadata ∧
    Complete .ok [mixedDirectory] (packageLocal .ok 1000 smallLimits [mixedDirectory]).1 metadata := by
  obtain ⟨-,-,complete,succeeds⟩ := packageLocal_exact .ok smallLimits 1000 [mixedDirectory]
  have every : nodes .ok [mixedDirectory] = [(sourcePath 0,rootNode true [([99],.dir ⟨true,false,true⟩ []),([98],.link ⟨true,true,true⟩),
      ([97],.file ⟨true,true,true⟩ [1,2])]),(sourcePath 0 ++ [[99]],.dir ⟨true,false,true⟩ []),(sourcePath 0 ++ [[98]],.link ⟨true,true,true⟩),
      (sourcePath 0 ++ [[97]],.file ⟨true,true,true⟩ [1,2])] := rfl
  have within : Within .ok smallLimits [mixedDirectory] := by
    constructor
    case depth =>
      intro path node found isOpen
      rw [← mem_nodes,every] at found
      simp only [List.mem_cons,Prod.mk.injEq,List.not_mem_nil,or_false] at found
      rcases found with ⟨rfl,rfl⟩ | ⟨rfl,rfl⟩ | ⟨rfl,rfl⟩ | ⟨rfl,rfl⟩ <;> first | exact le_rfl | cases isOpen
    case size =>
      intro path node found content isFile
      rw [← mem_nodes,every] at found
      simp only [List.mem_cons,Prod.mk.injEq,List.not_mem_nil,or_false] at found
      rcases found with ⟨rfl,rfl⟩ | ⟨rfl,rfl⟩ | ⟨rfl,rfl⟩ | ⟨rfl,rfl⟩ <;> cases isFile
      exact le_rfl
    case bytes => exact le_of_eq (by rw [contents,every]; rfl)
    case files => exact le_of_eq (by rw [contents,every]; rfl)
  obtain ⟨metadata,returned⟩ := (succeeds (by decide)).mpr ⟨by simp [Source.Available,mixedDirectory],within⟩
  exact ⟨metadata,returned,complete metadata returned⟩

/-- The copy is refused of what does not begin as a database does. -/
def copyDatabase (content : List ℕ) : Except Failure (List ℕ) :=
  if str "SQLite format 3\x00" <+: content then .ok content else .error (.builtin "DatabaseError")

def textFile : Source where
  name := str "notes.db"
  sqliteSnapshotCandidate := true
  opened := .ok (.file (str "call the plumber"))
  named := by
    intro _ _
    exact ⟨⟨by decide,by decide,by decide⟩,by decide⟩
  proper := by simp

def lockedFile : Source where
  name := str "notes"
  sqliteSnapshotCandidate := false
  opened := .error (.pipeline "UNSAFE_SOURCE")
  named := by simp
  proper := by simp

/-- A file that can be read and is far from any limit is not archived, and a selected file that cannot be
read is not recorded. -/
theorem packageLocal_refuses :
    (packageLocal copyDatabase 1000 ⟨1000,10,1000,10,0,0⟩ [textFile]).2 = .error (.builtin "DatabaseError") ∧
    (packageLocal copyDatabase 1000 ⟨1000,10,1000,10,0,0⟩ [lockedFile]).2 = .error (.pipeline "UNSAFE_SOURCE") := by
  constructor
  · have copied : copyDatabase (str "call the plumber") = .error (.builtin "DatabaseError") := by
      unfold copyDatabase
      rw [if_neg (by decide)]
    have acts : textFile.acts copyDatabase 1000 0 = [.raise (.builtin "DatabaseError")] := by
      simp [Source.acts,textFile,copied]
    simp [packageLocal,acts,Packing.run,Packing.perform,Except.map]
  · have acts : lockedFile.acts copyDatabase 1000 0 = [.raise (.pipeline "UNSAFE_SOURCE")] := rfl
    simp [packageLocal,acts,Packing.run,Packing.perform,Except.map]

end BackupTelebot.LocalArchive
