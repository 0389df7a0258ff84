import BackupTelebot.InterruptedPublication

/-! A publication that has returned, read back: recovery and delivery find in the directory
exactly what `finalize_artifact` returned, unless its manifest has outgrown the limit that
only the readers know. -/
namespace BackupTelebot

open PyJson Interleave

theorem FsStep.apply_some (step : FsStep) (d : Dir) : ∃ d', step.apply (some d) = some d' := by
  cases step with
  | mkdir => exact ⟨_,rfl⟩
  | write name content => exact ⟨_,rfl⟩
  | rename source target => exact ⟨_,rfl⟩
  | unlink name => exact ⟨_,rfl⟩

section Alone

variable {c : Setup} {p : Publication} {i : Answer} (quiet : i.fault = none)
include quiet

theorem runSteps_alone (path : Path) (steps : List FsStep) {s : World} {d : Dir} (here : s.spool path = some d) :
    (runSteps path steps).alone i s =
      some (.ok (),{ s with spool := Function.update s.spool path (applySteps steps (some d)) }) := by
  induction steps generalizing s d with
  | nil =>
    have same : Function.update s.spool path (applySteps [] (some d)) = s.spool := by
      rw [applySteps,List.foldl_nil,← here,Function.update_eq_self]
    rw [same]
    rfl
  | cons step rest ih =>
    obtain ⟨d',next⟩ := step.apply_some d
    have placed : (stepEffect path step s).spool path = some d' := by simp [stepEffect,here,next]
    rw [runSteps,alone_op_bind quiet]
    simp only [here,Option.isSome_some,if_true]
    rw [ih placed]
    simp [stepEffect,applySteps,next]

theorem finalizeArtifact_alone {s : World} (absent : s.spool (p.directory c.pendingRoot) = none)
    (device : i.sameDevice = true) : (finalizeArtifact c p).alone i s =
      some (.ok (p.finalized c.os c.pendingRoot c.maxFileBytes),{ s with
        spool := Function.update s.spool (p.directory c.pendingRoot)
          (applySteps (p.steps c.os c.maxFileBytes i.torn) none) }) := by
  have made : (stepEffect (p.directory c.pendingRoot) .mkdir s).spool (p.directory c.pendingRoot) =
      some Dir.empty := by simp [stepEffect,FsStep.apply]
  have ran := runSteps_alone quiet _ ((p.steps c.os c.maxFileBytes i.torn).drop 1) made
  rw [finalizeArtifact,alone_op_bind quiet]
  simp only [absent,device,Option.isSome_none,Bool.false_eq_true,Bool.not_true,if_false]
  rw [Prog.alone_then _ (Prog.alone_unhandled _ ran)]
  simp only [stepEffect,Function.update_idem]
  rfl

/-- A call that returns has taken all its steps in a directory that it made. -/
theorem finalizeArtifact_returned {s s' : World} {finalized : FinalizedArtifact}
    (returned : (finalizeArtifact c p).alone i s = some (.ok finalized,s')) :
    finalized = p.finalized c.os c.pendingRoot c.maxFileBytes ∧
      s'.spool (p.directory c.pendingRoot) = applySteps (p.steps c.os c.maxFileBytes i.torn) none := by
  have raised (e : Exc) (last : World) (ran : (finalizeArtifact c p).alone i s = some (.error e,last)) : False := by
    rw [ran] at returned
    cases returned
  cases present : s.spool (p.directory c.pendingRoot) with
  | some d =>
    refine (raised (.failure (.builtin "FileExistsError")) s ?_).elim
    rw [finalizeArtifact,alone_op_bind quiet]
    simp [present]
  | none =>
    cases device : i.sameDevice with
    | true =>
      rw [finalizeArtifact_alone quiet present device] at returned
      cases returned
      exact ⟨rfl,Function.update_self ..⟩
    | false =>
      rw [finalizeArtifact,alone_op_bind quiet] at returned
      simp only [present,device,Option.isSome_none,Bool.false_eq_true,if_false,Bool.not_false,if_true,discard] at returned
      rw [alone_op_bind quiet] at returned
      split at returned
      · cases returned
      · cases returned

end Alone

/-- Recovery returns what the call returned, with the same metadata (whose keys are then in
order), and delivery returns parts of at most the limit that together are the artifact. -/
structure Agrees (c : Setup) (p : Publication) (finalized : FinalizedArtifact) (s : World) : Prop where
  recovered : recoverFinalized c.os c.pendingRoot s.spool finalized.directory p.runUuid.text =
    .ok (some (finalized,p.metadata.json.sorted))
  delivered : ∃ parts contents, deliveryArtifacts c.os ((s.spool finalized.directory).getD Dir.empty)
      finalized.artifact finalized.size finalized.checksum = .ok parts ∧
    parts.map (partBytes ((s.spool finalized.directory).getD Dir.empty)) = contents.map some ∧
    parts.map ArtifactPart.size = contents.map (fun content => (content.length : Int)) ∧
    contents.flatten = p.artifact.content ∧
    ((∀ content ∈ contents, 1 ≤ content.length ∧ content.length ≤ c.maxFileBytes) ∨ contents = [p.artifact.content])

namespace Publication

variable (p : Publication) {os : Platform} {limit : Nat}

theorem chunks_le (limit : Nat) : ∀ chunk ∈ p.chunks limit, chunk.length ≤ limit := by
  intro chunk member
  unfold chunks at member
  dsimp only at member
  split at member
  · obtain ⟨i,-,rfl⟩ := List.mem_map.mp member
    exact List.length_take_le _ _
  · contradiction

theorem published_steps (os : Platform) (limit torn : Nat) :
    ∃ d, applySteps (p.steps os limit torn) none = some d ∧ Published p os limit d := by
  obtain ⟨d,result,published,-⟩ := p.published_rename os limit torn
  have split : p.steps os limit torn =
      (p.unpublishedSteps os limit torn ++ [.rename (temporaryName manifestName) manifestName]) ++
        if p.parts limit = [] then [] else [FsStep.unlink p.filename] := by simp [steps,publishedSteps]
  rw [split,applySteps_append,result]
  by_cases one : p.parts limit = []
  · exact ⟨d,by simp [one,applySteps],published⟩
  · exact ⟨_,by simp [one,applySteps,FsStep.apply],p.published_unlink published one⟩

theorem manifestDocument_published (positive : 0 < limit) {d : Dir} (published : Published p os limit d)
    (small : (p.manifest os limit).length ≤ maxManifestBytes) :
    manifestDocument os d = .ok (p.document os limit).sorted := by
  have object : (p.document os limit).sorted.isObj = true := by
    rw [Publication.document,Json.sorted]
    rfl
  simp [manifestDocument,p.stat_manifest published,Nat.not_lt.mpr small,p.readManifest_manifest os positive,object]

/-- The parts that a reader gets, with the bytes they stand for. -/
theorem delivered_published (positive : 0 < limit) {d : Dir} (published : Published p os limit d)
    (small : (p.manifest os limit).length ≤ maxManifestBytes) :
    ∃ parts contents, deliveryArtifacts os d p.filename p.artifact.content.length
        (os.hash.digest p.artifact.content) = .ok parts ∧
      parts.map (partBytes d) = contents.map some ∧
      parts.map ArtifactPart.size = contents.map (fun content => (content.length : Int)) ∧
      contents.flatten = p.artifact.content ∧
      ((∀ content ∈ contents, 1 ≤ content.length ∧ content.length ≤ limit) ∨ contents = [p.artifact.content]) := by
  have delivered := p.deliveryArtifacts_published positive published (p.manifestDocument_published positive published small)
  by_cases one : p.parts limit = []
  · refine ⟨_,[p.artifact.content],delivered.trans (by rw [if_pos one]),?_,rfl,by simp,.inr rfl⟩
    have file : d p.filename = some (.plain (.file p.artifact.content true)) :=
      published.artifact.resolve_right fun gone => gone.2 one
    simp [single,partBytes,at_of_underscore d p.underscore_mem_filename,file]
  · refine ⟨_,p.chunks limit,delivered.trans (by rw [if_neg one]),?_,?_,
      (p.sizes_sum os positive one).2,.inl fun chunk member => ⟨p.chunks_pos positive chunk member,
        p.chunks_le limit chunk member⟩⟩
    · rw [← p.parts_contents,List.map_map,List.map_map]
      refine List.map_congr_left fun part member => ?_
      have visible : underscore ∈ part.1 := by
        rw [p.parts_name member]
        exact p.underscore_mem_partAt _ _
      simp [partBytes,at_of_underscore d visible,published.parts part member]
    · rw [← p.parts_contents,List.map_map,List.map_map]
      rfl

end Publication

/-- A directory under its own name is looked into. -/
theorem recoverFinalized_made {c : Setup} {p : Publication} {spool : Path → Option Dir} {d : Dir}
    (here : spool (p.directory c.pendingRoot) = some d) :
    recoverFinalized c.os c.pendingRoot spool (p.directory c.pendingRoot) p.runUuid.text =
      (recoverDirectory c.os (p.directory c.pendingRoot) d p.runUuid.text).map some := by
  have inside : (p.directory c.pendingRoot).dropLast.dropLast = c.pendingRoot := by
    simp [Publication.directory,pendingDirectoryPath]
  have owned : ownedName p.runUuid.text (pathName (p.directory c.pendingRoot)) = true := by
    simp [Publication.directory,pendingDirectoryPath,pathName,ownedName,underscore]
  rw [recoverFinalized,here]
  simp [inside,owned]

section Returned

variable {c : Setup} {p : Publication} {i : Answer} {s s' : World} {finalized : FinalizedArtifact}
  (quiet : i.fault = none) (returned : (finalizeArtifact c p).alone i s = some (.ok finalized,s'))
include quiet returned

theorem agrees_of_small (small : (p.manifest c.os c.maxFileBytes).length ≤ maxManifestBytes) :
    Agrees c p finalized s' := by
  obtain ⟨rfl,steps⟩ := finalizeArtifact_returned quiet returned
  obtain ⟨d,result,published⟩ := p.published_steps c.os c.maxFileBytes i.torn
  have here : s'.spool (p.directory c.pendingRoot) = some d := steps.trans result
  refine ⟨?_,?_⟩
  · simp only [Publication.finalized]
    rw [recoverFinalized_made here,p.recoverDirectory_published c.maxFileBytes_pos c.pendingRoot published,
      if_neg (Nat.not_lt.mpr small)]
    rfl
  · simp only [Publication.finalized,here,Option.getD_some]
    exact p.delivered_published c.maxFileBytes_pos published small

theorem not_agrees_of_large (large : maxManifestBytes < (p.manifest c.os c.maxFileBytes).length) :
    ¬Agrees c p finalized s' := by
  obtain ⟨rfl,steps⟩ := finalizeArtifact_returned quiet returned
  obtain ⟨d,result,published⟩ := p.published_steps c.os c.maxFileBytes i.torn
  have here : s'.spool (p.directory c.pendingRoot) = some d := steps.trans result
  intro agrees
  have recovered := agrees.recovered
  simp only [Publication.finalized] at recovered
  rw [recoverFinalized_made here,p.recoverDirectory_published c.maxFileBytes_pos c.pendingRoot published,
    if_pos large] at recovered
  cases recovered

end Returned

/-- What `finalize_artifact` has published is read back as it was exactly when its manifest
has at most the mebibyte that the readers accept. -/
theorem publication_agrees (c : Setup) (p : Publication) (i : Answer) (s s' : World) (finalized : FinalizedArtifact)
    (quiet : i.fault = none) (returned : (finalizeArtifact c p).alone i s = some (.ok finalized,s')) :
    Agrees c p finalized s' ↔ (p.manifest c.os c.maxFileBytes).length ≤ maxManifestBytes := by
  constructor
  · intro agrees
    by_contra large
    exact not_agrees_of_large quiet returned (Nat.lt_of_not_le large) agrees
  · exact agrees_of_small quiet returned

theorem publication_agrees_small : ∃ s s' finalized,
    (finalizeArtifact smallSetup smallPublication).alone plainAnswer s = some (.ok finalized,s') ∧
      Agrees smallSetup smallPublication finalized s' :=
  ⟨smallStart.world,_,_,finalizeArtifact_alone rfl rfl rfl,
    (publication_agrees smallSetup smallPublication plainAnswer _ _ _ rfl (finalizeArtifact_alone rfl rfl rfl)).mpr
      (by decide +kernel)⟩

theorem length_le_joinComma {text : Str} {texts : List Str} (member : text ∈ texts) :
    text.length ≤ (joinComma texts).length := by
  induction texts with
  | nil => contradiction
  | cons first rest ih =>
    cases rest with
    | nil =>
      obtain rfl := List.mem_singleton.mp member
      exact le_rfl
    | cons second rest =>
      simp only [joinComma,List.length_append,List.length_cons]
      rcases List.mem_cons.mp member with rfl | later
      · omega
      · have := ih later
        omega

theorem mul_le_joinComma (texts : List Str) {bound : Nat} (each : ∀ text ∈ texts, bound ≤ text.length) :
    texts.length * bound ≤ (joinComma texts).length := by
  induction texts with
  | nil => simp
  | cons first rest ih =>
    have here := each first (by simp)
    have later := ih fun text member => each text (by simp [member])
    cases rest with
    | nil => simpa [joinComma] using here
    | cons second rest =>
      simp only [joinComma,List.length_append,List.length_cons] at later ⊢
      rw [Nat.succ_mul]
      omega

theorem length_le_dump (key : Str) {value : Json} {fields : List (Str × Json)} (member : (key,value) ∈ fields) :
    value.dump.length ≤ (Json.obj fields).dump.length := by
  have written : dumpMember (key,value.dump) ∈ (sortFields (dumpFields fields)).map dumpMember := by
    refine List.mem_map_of_mem ((sortFields_perm _).mem_iff.mpr ?_)
    rw [dumpFields_eq]
    exact List.mem_map_of_mem (f := fun field : Str × Json => (field.1,field.2.dump)) member
  have bound := length_le_joinComma written
  simp only [dumpMember,List.length_append,List.length_cons] at bound
  simp only [Json.dump,List.length_append,List.length_cons]
  omega

/-- A symbolic link that an acquisition has skipped, as its warnings record it. -/
def skippedEntry (n : Nat) : Json :=
  .obj [(str "reason",.str (str "symlink")),(str "entry_type",.str (str "symlink")),
    (str "relative_path",.str (List.replicate 60 97 ++ dumpNat n))]

theorem skippedEntry_length (n : Nat) : 60 ≤ (skippedEntry n).dump.length := by
  have written := length_le_dump (str "relative_path") (show (_,Json.str (List.replicate 60 97 ++ dumpNat n)) ∈
    [(str "reason",.str (str "symlink")),(str "entry_type",.str (str "symlink")),
      (str "relative_path",.str (List.replicate 60 97 ++ dumpNat n))] by simp)
  refine le_trans ?_ written
  simp [Json.dump,dumpStr,escape]

theorem skippedEntry_encodable (n : Nat) : (skippedEntry n).Encodable := by
  have word : StrOk (str "symlink") := strOk_of_ascii (by decide)
  have path : StrOk (List.replicate 60 97 ++ dumpNat n) := by
    apply strOk_of_ascii
    intro c member
    rcases List.mem_append.mp member with fixed | digit
    · have := List.eq_of_mem_replicate fixed
      omega
    · have := dumpNat_digit n c digit
      omega
  simp only [skippedEntry,Json.Encodable,EncodableFields]
  have distinct : [str "reason",str "entry_type",str "relative_path"].Nodup := by decide
  exact ⟨distinct,strOk_of_ascii (by decide),word,strOk_of_ascii (by decide),word,strOk_of_ascii (by decide),path,trivial⟩

/-- The report of an acquisition that has skipped this many links. -/
def crowdedFields (n : Nat) : List (Str × Json) :=
  [(str "kind",.str (str "files")),(str "verified",.bool true),
    (str "skipped_entries",.arr ((List.range n).map skippedEntry))]

theorem crowdedFields_encodable (n : Nat) : (Json.obj (crowdedFields n)).Encodable := by
  have items : EncodableItems ((List.range n).map skippedEntry) := by
    rw [encodableItems_iff]
    rintro _ member
    obtain ⟨k,-,rfl⟩ := List.mem_map.mp member
    exact skippedEntry_encodable k
  simp only [crowdedFields,Json.Encodable,EncodableFields]
  have distinct : [str "kind",str "verified",str "skipped_entries"].Nodup := by decide
  exact ⟨distinct,strOk_of_ascii (by decide),strOk_of_ascii (by decide),strOk_of_ascii (by decide),trivial,
    strOk_of_ascii (by decide),items,trivial⟩

theorem crowdedFields_depth (n : Nat) : (Json.obj (crowdedFields n)).depth ≤ 12 := by
  have items : depthItems ((List.range n).map skippedEntry) ≤ 1 := by
    rw [depthItems_le]
    rintro _ member
    obtain ⟨k,-,rfl⟩ := List.mem_map.mp member
    simp [skippedEntry,Json.depth,depthFields]
  simp only [crowdedFields,Json.depth,depthFields]
  omega

def crowdedMetadata (n : Nat) : Metadata := ⟨crowdedFields n,crowdedFields_encodable n,crowdedFields_depth n⟩

def crowdedPublication (n : Nat) : Publication := { smallPublication with metadata := crowdedMetadata n }

theorem crowded_manifest (n : Nat) :
    n * 60 ≤ ((crowdedPublication n).manifest smallSetup.os smallSetup.maxFileBytes).length := by
  have entries : n * 60 ≤ (Json.arr ((List.range n).map skippedEntry)).dump.length := by
    have bound := mul_le_joinComma (dumpItems ((List.range n).map skippedEntry)) (by
      rw [dumpItems_eq]
      intro text member
      obtain ⟨item,inside,rfl⟩ := List.mem_map.mp member
      obtain ⟨k,-,rfl⟩ := List.mem_map.mp inside
      exact skippedEntry_length k)
    rw [dumpItems_eq,List.length_map,List.length_map,List.length_range,← dumpItems_eq] at bound
    simp only [Json.dump,List.length_append,List.length_cons]
    omega
  refine entries.trans (le_trans (length_le_dump (str "skipped_entries")
    (show _ ∈ crowdedFields n by simp [crowdedFields])) ?_)
  apply length_le_dump (str "metadata")
  simp [Publication.documentFields,crowdedPublication,crowdedMetadata,Metadata.json]

/-- Twenty thousand skipped links are published and can never be read back. -/
theorem publication_unread : ∃ s s' finalized,
    (finalizeArtifact smallSetup (crowdedPublication 20000)).alone plainAnswer s = some (.ok finalized,s') ∧
      ¬Agrees smallSetup (crowdedPublication 20000) finalized s' :=
  ⟨smallStart.world,_,_,finalizeArtifact_alone rfl rfl rfl,
    not_agrees_of_large rfl (finalizeArtifact_alone rfl rfl rfl)
      (lt_of_lt_of_le (by decide) (crowded_manifest 20000))⟩

end BackupTelebot
