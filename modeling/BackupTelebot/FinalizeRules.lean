import BackupTelebot.Finalize
import BackupTelebot.PendingRules
import Mathlib.Data.Nat.Log

/-! What `recover_finalized` finds after any prefix of a publication: nothing, a directory
without a manifest, or exactly the artifact that was being published. -/
namespace BackupTelebot

open PyJson

theorem isSafe_iff {c : Nat} : isSafe c = true ↔ 33 ≤ c ∧ c ≤ 126 ∧ c ≠ 47 := by
  rw [isSafe,decide_eq_true_eq]
  rfl

theorem strOk_of_safe {s : Str} (safe : ∀ c ∈ s, isSafe c = true) : StrOk s :=
  strOk_of_ascii fun c member => (isSafe_iff.mp (safe c member)).2.1.trans (by omega)

theorem nameFault_of_safe {name : Str} (safe : ∀ c ∈ name, isSafe c = true) (short : name.length ≤ 255) :
    nameFault name = none := by
  have encodable : name.all fsEncodable = true := by
    refine List.all_eq_true.mpr fun c member => ?_
    have := isSafe_iff.mp (safe c member)
    simp [fsEncodable,isSurrogate]
    omega
  have bytes : name.map encodedLength = List.replicate name.length 1 := by
    refine List.eq_replicate_iff.mpr ⟨by simp,fun n member => ?_⟩
    obtain ⟨c,here,rfl⟩ := List.mem_map.mp member
    have := isSafe_iff.mp (safe c here)
    rw [encodedLength,if_pos (by omega)]
  simp [nameFault,encodable,bytes,short]

theorem padded_safe (width number : Nat) : ∀ c ∈ str ".part" ++ padded width number, isSafe c = true := by
  intro c member
  rcases List.mem_append.mp member with fixed | digits
  · clear member
    revert c
    decide
  · have := padded_digit width number c digits
    exact isSafe_iff.mpr (by omega)

theorem dumpNat_length_le {n : Nat} (small : n < maxSize) : (dumpNat n).length ≤ 19 := by
  unfold dumpNat
  split
  · simp
  · simp only [List.length_map,List.length_reverse]
    refine (Nat.digits_length_le_iff (by decide) n).mpr ?_
    exact small.trans (by decide)

theorem natOfDigits_zeros (zeros : Nat) (digits : Str) :
    natOfDigits (List.replicate zeros 48 ++ digits) = natOfDigits digits := by
  simp [natOfDigits,Nat.ofDigits_append,Nat.ofDigits_replicate_zero]

theorem padded_injective {width a b : Nat} (same : padded width a = padded width b) : a = b := by
  have value (n : Nat) : natOfDigits (padded width n) = n := by
    rw [padded,natOfDigits_zeros,natOfDigits_dump]
  rw [← value a,same,value]

namespace Publication

variable (p : Publication)

theorem filename_safe : ∀ c ∈ p.filename, isSafe c = true := by
  intro c member
  simp only [filename,artifactFilename,List.mem_append,List.mem_cons] at member
  rcases member with (slug | rfl | stamp) | ext
  · exact isSlugChar_safe (mem_safeSlug slug)
  · decide
  · exact p.stamp.safe c stamp
  · exact p.extensions.safe c ext

theorem filename_length : p.filename.length ≤ 161 := by
  have slug := safeSlug_length p.profileName
  have stamp := p.stamp.short
  have ext := p.extensions.short
  simp only [filename,artifactFilename,List.length_append,List.length_cons]
  omega

theorem underscore_mem_filename : underscore ∈ p.filename := by
  simp [filename,artifactFilename]

theorem filename_ne_of {name : Str} (without : underscore ∉ name) : p.filename ≠ name := by
  intro same
  exact without (same ▸ p.underscore_mem_filename)

theorem chunks_length_lt (limit : Nat) (positive : 0 < limit) : (p.chunks limit).length < maxSize := by
  have fits := p.artifact.fits
  unfold chunks
  simp only
  split
  · simp only [List.length_map,List.length_range]
    have count : (p.artifact.content.length + limit - 1) / limit ≤ p.artifact.content.length := by
      apply Nat.div_le_of_le_mul
      obtain ⟨k,rfl⟩ : ∃ k, limit = k + 1 := ⟨limit - 1,by omega⟩
      obtain ⟨m,size⟩ : ∃ m, p.artifact.content.length = m + 1 := ⟨p.artifact.content.length - 1,by omega⟩
      rw [size]
      have : 0 ≤ k * m := Nat.zero_le _
      have : (k + 1) * (m + 1) = k * m + k + m + 1 := by ring
      omega
    omega
  · simp [maxSize]

/-- The chunks are the artifact, cut at the limit. -/
theorem chunks_flatten {limit : Nat} (large : limit < p.artifact.content.length) (positive : 0 < limit) :
    (p.chunks limit).flatten = p.artifact.content := by
  have upTo (n : Nat) : ((List.range n).map fun i => (p.artifact.content.drop (i * limit)).take limit).flatten =
      p.artifact.content.take (n * limit) := by
    induction n with
    | zero => simp
    | succ n ih =>
      simp only [List.range_succ,List.map_append,List.flatten_append,ih,List.map_cons,List.map_nil,
        List.flatten_cons,List.flatten_nil,List.append_nil]
      rw [Nat.succ_mul,List.take_add]
  simp only [chunks,if_pos large,upTo]
  apply List.take_of_length_le
  have split := Nat.div_add_mod (p.artifact.content.length + limit - 1) limit
  have rest := Nat.mod_lt (p.artifact.content.length + limit - 1) positive
  rw [Nat.mul_comm] at split
  omega

theorem chunks_pos {limit : Nat} (positive : 0 < limit) : ∀ chunk ∈ p.chunks limit, 0 < chunk.length := by
  intro chunk member
  unfold chunks at member
  simp only at member
  split at member
  · obtain ⟨i,inRange,rfl⟩ := List.mem_map.mp member
    have := List.mem_range.mp inRange
    have below : i * limit < p.artifact.content.length := by
      have := (Nat.lt_div_iff_mul_lt positive).mp this
      omega
    simp only [List.length_take,List.length_drop]
    omega
  · simp at member

theorem partAt_safe (limit number : Nat) : ∀ c ∈ p.partAt limit number, isSafe c = true := by
  intro c member
  rw [partAt,partName,List.append_assoc] at member
  rcases List.mem_append.mp member with name | suffix
  · exact p.filename_safe c name
  · exact padded_safe _ _ c suffix

theorem partAt_length {limit number : Nat} (positive : 0 < limit) (small : number < maxSize) :
    (p.partAt limit number).length ≤ 185 := by
  have name := p.filename_length
  have total : (dumpNat (p.chunks limit).length).length ≤ 19 :=
    dumpNat_length_le (p.chunks_length_lt limit positive)
  have digits := dumpNat_length_le small
  have marker : (str ".part").length = 5 := by decide
  simp only [partAt,partName,padded,partWidth,List.length_append,List.length_replicate]
  omega

theorem filename_length_lt_partAt (limit number : Nat) :
    p.filename.length < (p.partAt limit number).length := by
  have marker : (str ".part").length = 5 := by decide
  simp only [partAt,partName,List.length_append]
  omega

theorem underscore_mem_partAt (limit number : Nat) : underscore ∈ p.partAt limit number := by
  simp [partAt,partName,p.underscore_mem_filename]

theorem partAt_injective {limit a b : Nat} (same : p.partAt limit a = p.partAt limit b) : a = b := by
  rw [partAt,partAt,partName,partName] at same
  exact padded_injective (List.append_cancel_left same)

/-- A part ends in a digit, a temporary file does not. -/
theorem partAt_ne_temporary (limit number : Nat) (name : Str) :
    p.partAt limit number ≠ temporaryName name := by
  intro same
  have nonempty : padded (partWidth (p.chunks limit).length) number ≠ [] := by
    obtain ⟨c,text,shape,-⟩ := dumpNat_head number
    simp [padded,shape]
  have digit := padded_digit _ _ _ (List.getLast_mem nonempty)
  have left : (p.partAt limit number).getLast? =
      some ((padded (partWidth (p.chunks limit).length) number).getLast nonempty) := by
    rw [partAt,partName,List.getLast?_append_of_ne_nil _ nonempty,List.getLast?_eq_some_getLast]
  have right : (temporaryName name).getLast? = some 112 := by
    rw [temporaryName,List.getLast?_append_of_ne_nil _ (by decide)]
    decide
  rw [same,right] at left
  have := Option.some.inj left
  omega

theorem numbered_eq (limit number : Nat) (list : List (List Nat)) :
    (p.numbered limit number list).map (·.2.2) = list ∧
      (p.numbered limit number list).map (·.2.1) = List.range' number list.length ∧
      ∀ part ∈ p.numbered limit number list, part.1 = p.partAt limit part.2.1 ∧
        part.2.1 < number + list.length := by
  induction list generalizing number with
  | nil => simp [numbered]
  | cons chunk rest ih =>
    obtain ⟨contents,numbers,names⟩ := ih (number + 1)
    refine ⟨by simp [numbered,contents],by simp [numbered,numbers,List.range'_succ],?_⟩
    intro part member
    rcases List.mem_cons.mp member with rfl | later
    · exact ⟨rfl,by simp⟩
    · have := names part later
      exact ⟨this.1,by simp; omega⟩

theorem parts_contents (limit : Nat) : (p.parts limit).map (·.2.2) = p.chunks limit := (p.numbered_eq limit 1 _).1

theorem parts_length (limit : Nat) : (p.parts limit).length = (p.chunks limit).length := by
  rw [← p.parts_contents,List.length_map]

theorem parts_name {limit : Nat} {part : Str × Nat × List Nat} (member : part ∈ p.parts limit) :
    part.1 = p.partAt limit part.2.1 := ((p.numbered_eq limit 1 _).2.2 part member).1

theorem parts_number_lt {limit : Nat} (positive : 0 < limit) {part : Str × Nat × List Nat}
    (member : part ∈ p.parts limit) : part.2.1 < maxSize := by
  have := ((p.numbered_eq limit 1 _).2.2 part member).2
  have := p.chunks_length_lt limit positive
  omega

theorem parts_names_nodup (limit : Nat) : ((p.parts limit).map (·.1)).Nodup := by
  have numbers := (p.numbered_eq limit 1 (p.chunks limit)).2.1
  have distinct : ((p.parts limit).map (·.2.1)).Nodup := by
    rw [parts,numbers]
    exact List.nodup_range'
  refine List.Nodup.of_map (fun name => name) ?_
  rw [List.map_id']
  have names : (p.parts limit).map (·.1) = ((p.parts limit).map (·.2.1)).map (p.partAt limit) := by
    rw [List.map_map]
    exact List.map_congr_left fun part member => p.parts_name member
  rw [names]
  exact distinct.map fun a b same => p.partAt_injective same

end Publication

theorem applySteps_append (first second : List FsStep) (d : Option Dir) :
    applySteps (first ++ second) d = applySteps second (applySteps first d) := List.foldl_append

@[simp] theorem Dir.put_same (d : Dir) (name : Str) (content : List Nat) :
    d.put name content name = some (.plain (.file content true)) := Function.update_self ..

theorem Dir.put_other (d : Dir) {name other : Str} (content : List Nat) (h : other ≠ name) :
    d.put name content other = d other := Function.update_of_ne h ..

theorem put_put (d : Dir) (name : Str) (a b : List Nat) : (d.put name a).put name b = d.put name b := by
  simp [Dir.put]

theorem applySteps_publish {temporary name : Str} (apart : temporary ≠ name) (content : List Nat)
    (torn : Nat) (d : Dir) : applySteps (publishSteps temporary name content torn) (some d) =
      some (Function.update (d.put name content) temporary none) := by
  simp only [publishSteps,applySteps,List.foldl_cons,List.foldl_nil,FsStep.apply,Option.map_some,put_put]
  congr 1
  funext other
  by_cases atTemporary : other = temporary
  · simp [atTemporary]
  · by_cases atName : other = name
    · simp [atName,Dir.put,apart.symm]
    · simp [atTemporary,atName,Dir.put]

def withParts (d : Dir) (parts : List (Str × Nat × List Nat)) : Dir :=
  parts.foldl (fun d part => Function.update (d.put part.1 part.2.2) (temporaryName part.1) none) d

theorem temporaryName_ne (name : Str) : temporaryName name ≠ name := by
  intro same
  have := congrArg List.length same
  simp only [temporaryName,List.cons_append,List.length_cons,List.length_append] at this
  omega

theorem applySteps_parts (parts : List (Str × Nat × List Nat)) (torn : Nat) (d : Dir) :
    applySteps (parts.flatMap fun part => publishSteps (temporaryName part.1) part.1 part.2.2 torn) (some d) =
      some (withParts d parts) := by
  induction parts generalizing d with
  | nil => rfl
  | cons part rest ih =>
    rw [List.flatMap_cons,applySteps_append,applySteps_publish (temporaryName_ne part.1),ih]
    rfl

theorem withParts_other (parts : List (Str × Nat × List Nat)) (d : Dir) {n : Str}
    (notPart : ∀ part ∈ parts, n ≠ part.1 ∧ n ≠ temporaryName part.1) : withParts d parts n = d n := by
  induction parts generalizing d with
  | nil => rfl
  | cons part rest ih =>
    have here := notPart part (by simp)
    have later := ih (Function.update (d.put part.1 part.2.2) (temporaryName part.1) none)
      (fun other member => notPart other (by simp [member]))
    simp only [withParts,List.foldl_cons] at later ⊢
    rw [later]
    simp [Dir.put,here.1,here.2]

theorem withParts_mem (parts : List (Str × Nat × List Nat)) (d : Dir) (distinct : (parts.map (·.1)).Nodup)
    (visible : ∀ part ∈ parts, ∀ other ∈ parts, part.1 ≠ temporaryName other.1) :
    ∀ part ∈ parts, withParts d parts part.1 = some (.plain (.file part.2.2 true)) := by
  induction parts generalizing d with
  | nil => simp
  | cons first rest ih =>
    intro part member
    simp only [List.map_cons,List.nodup_cons] at distinct
    rcases List.mem_cons.mp member with rfl | later
    · have stays := withParts_other rest (Function.update (d.put part.1 part.2.2) (temporaryName part.1) none)
        (n := part.1) (fun other inside => ⟨fun same => distinct.1 (List.mem_map.mpr ⟨other,inside,same.symm⟩),
          visible part (by simp) other (by simp [inside])⟩)
      simp only [withParts,List.foldl_cons] at stays ⊢
      rw [stays]
      simp [Dir.put,(temporaryName_ne part.1).symm]
    · exact ih _ distinct.2 (fun part inside other here => visible part (by simp [inside]) other (by simp [here]))
        part later

structure Published (p : Publication) (os : Platform) (limit : Nat) (d : Dir) : Prop where
  manifest : d manifestName = some (.plain (.file (p.manifest os limit) true))
  parts : ∀ part ∈ p.parts limit, d part.1 = some (.plain (.file part.2.2 true))
  artifact : d p.filename = some (.plain (.file p.artifact.content true)) ∨
    d p.filename = none ∧ p.parts limit ≠ []

def FsStep.Spares (name : Str) : FsStep → Prop
  | .write written _ => written ≠ name
  | .rename _ target => target ≠ name
  | _ => True

theorem applySteps_spares {name : Str} (steps : List FsStep) (d : Option Dir)
    (spares : ∀ step ∈ steps, step.Spares name) (absent : ∀ found, d = some found → found name = none) :
    ∀ found, applySteps steps d = some found → found name = none := by
  induction steps generalizing d with
  | nil => exact absent
  | cons step rest ih =>
    refine ih (step.apply d) (fun step member => spares step (by simp [member])) ?_
    intro found result
    have here := spares step (by simp)
    cases step with
    | mkdir =>
      obtain rfl := Option.some.inj result
      rfl
    | write written content =>
      obtain ⟨before,rfl,rfl⟩ := Option.map_eq_some_iff.mp result
      simp [Dir.put,Ne.symm here,absent before rfl]
    | rename source target =>
      obtain ⟨before,rfl,rfl⟩ := Option.map_eq_some_iff.mp result
      by_cases same : name = source
      · simp [same]
      · simp [same,Ne.symm here,absent before rfl]
    | unlink removed =>
      obtain ⟨before,rfl,rfl⟩ := Option.map_eq_some_iff.mp result
      by_cases same : name = removed
      · simp [same]
      · simp [same,absent before rfl]

namespace Publication

variable (p : Publication)

theorem unpublishedSteps_spare (os : Platform) (limit torn : Nat) :
    ∀ step ∈ p.unpublishedSteps os limit torn, step.Spares manifestName := by
  have noUnderscore : underscore ∉ manifestName := by decide
  intro step member
  simp only [unpublishedSteps,partSteps,publishSteps,List.cons_append,List.mem_cons,List.mem_append,
    List.mem_flatMap,List.dropLast_cons_cons,List.dropLast_singleton,List.not_mem_nil,or_false] at member
  rcases member with rfl | rfl | ⟨part,inside,member⟩ | rfl | rfl | rfl
  · trivial
  · exact p.filename_ne_of noUnderscore
  · have temporary : temporaryName part.1 ≠ manifestName := by
      intro same
      apply noUnderscore
      rw [← same,temporaryName,p.parts_name inside]
      simp [p.underscore_mem_partAt]
    have own : part.1 ≠ manifestName := by
      intro same
      apply noUnderscore
      rw [← same,p.parts_name inside]
      exact p.underscore_mem_partAt _ _
    rcases member with rfl | rfl | rfl | rfl
    · exact temporary
    · exact temporary
    · exact temporary
    · exact own
  all_goals exact temporaryName_ne manifestName

theorem applySteps_unpublished (os : Platform) (limit torn : Nat) :
    applySteps (p.unpublishedSteps os limit torn) none =
      some ((withParts (Dir.empty.put p.filename p.artifact.content) (p.parts limit)).put
        (temporaryName manifestName) (p.manifest os limit)) := by
  have parts := applySteps_parts (p.parts limit) torn (Dir.empty.put p.filename p.artifact.content)
  simp only [unpublishedSteps,partSteps,applySteps_append]
  change applySteps _ (applySteps _ (some (Dir.empty.put p.filename p.artifact.content))) = _
  rw [parts]
  simp [publishSteps,applySteps,FsStep.apply,put_put]

theorem published_rename (os : Platform) (limit torn : Nat) : ∃ d,
    applySteps (p.unpublishedSteps os limit torn ++ [.rename (temporaryName manifestName) manifestName]) none =
      some d ∧ Published p os limit d ∧ d p.filename = some (.plain (.file p.artifact.content true)) := by
  have noUnderscore : underscore ∉ manifestName ∧ underscore ∉ temporaryName manifestName := by decide
  have notManifest : p.filename ≠ manifestName := p.filename_ne_of noUnderscore.1
  have notTemporary : p.filename ≠ temporaryName manifestName := p.filename_ne_of noUnderscore.2
  have artifact : withParts (Dir.empty.put p.filename p.artifact.content) (p.parts limit) p.filename =
      some (.plain (.file p.artifact.content true)) := by
    rw [withParts_other]
    · simp [Dir.put]
    · intro part member
      have longer := p.filename_length_lt_partAt limit part.2.1
      rw [p.parts_name member]
      refine ⟨fun same => by rw [← same] at longer; omega,fun same => ?_⟩
      have := congrArg List.length same
      simp only [temporaryName,List.cons_append,List.length_cons,List.length_append] at this
      omega
  refine ⟨_,by rw [applySteps_append,p.applySteps_unpublished]; rfl,⟨?_,?_,?_⟩,?_⟩
  · simp [(temporaryName_ne manifestName).symm]
  · intro part member
    have own : part.1 ≠ manifestName := by
      intro same
      apply noUnderscore.1
      rw [← same,p.parts_name member]
      exact p.underscore_mem_partAt _ _
    have temporary : part.1 ≠ temporaryName manifestName := by
      rw [p.parts_name member]
      exact p.partAt_ne_temporary _ _ _
    have placed := withParts_mem (p.parts limit) (Dir.empty.put p.filename p.artifact.content)
      (p.parts_names_nodup limit) (fun part inside other _ => by
        rw [p.parts_name inside]
        exact p.partAt_ne_temporary _ _ _) part member
    simp [own,temporary,Dir.put_other,placed]
  · left
    simp [notManifest,notTemporary,Dir.put_other,artifact]
  · simp [notManifest,notTemporary,Dir.put_other,artifact]

theorem published_unlink {os : Platform} {limit : Nat} {d : Dir} (published : Published p os limit d)
    (several : p.parts limit ≠ []) : Published p os limit (Function.update d p.filename none) := by
  have noUnderscore : underscore ∉ manifestName := by decide
  refine ⟨?_,?_,.inr ⟨by simp,several⟩⟩
  · rw [Function.update_of_ne (p.filename_ne_of noUnderscore).symm]
    exact published.manifest
  · intro part member
    have longer := p.filename_length_lt_partAt limit part.2.1
    rw [Function.update_of_ne]
    · exact published.parts part member
    · intro same
      rw [← p.parts_name member,same] at longer
      omega

/-- After some of the steps there is no directory, or one without a manifest, or the
published artifact. -/
theorem steps_prefix (os : Platform) (limit torn k : Nat) :
    (k = 0 ∧ applySteps ((p.steps os limit torn).take k) none = none) ∨
    (0 < k ∧ k ≤ (p.unpublishedSteps os limit torn).length ∧
      ∃ d, applySteps ((p.steps os limit torn).take k) none = some d ∧ d manifestName = none) ∨
    ((p.unpublishedSteps os limit torn).length < k ∧
      ∃ d, applySteps ((p.steps os limit torn).take k) none = some d ∧ Published p os limit d) := by
  rcases Nat.eq_zero_or_pos k with rfl | positive
  · exact .inl ⟨rfl,rfl⟩
  · right
    by_cases before : k ≤ (p.unpublishedSteps os limit torn).length
    · left
      refine ⟨positive,before,?_⟩
      have taken : (p.steps os limit torn).take k = (p.unpublishedSteps os limit torn).take k := by
        rw [steps,List.take_append_of_le_length before]
      rw [taken]
      have exists_ : ∃ d, applySteps ((p.unpublishedSteps os limit torn).take k) none = some d := by
        obtain ⟨k,rfl⟩ : ∃ n, k = n + 1 := ⟨k - 1,by omega⟩
        rw [unpublishedSteps,List.cons_append,List.cons_append,List.take_succ_cons]
        have keeps : ∀ (steps : List FsStep) (d : Dir), ∃ found, applySteps steps (some d) = some found := by
          intro steps
          induction steps with
          | nil => exact fun d => ⟨d,rfl⟩
          | cons step rest ih =>
            intro d
            cases step <;> exact ih _
        exact keeps _ Dir.empty
      obtain ⟨d,result⟩ := exists_
      refine ⟨d,result,applySteps_spares _ none ?_ (by simp) d result⟩
      intro step member
      exact p.unpublishedSteps_spare os limit torn step (List.mem_of_mem_take member)
    · right
      refine ⟨by omega,?_⟩
      obtain ⟨d,result,published,-⟩ := p.published_rename os limit torn
      obtain ⟨j,rfl⟩ : ∃ j, k = (p.unpublishedSteps os limit torn).length + (j + 1) :=
        ⟨k - (p.unpublishedSteps os limit torn).length - 1,by omega⟩
      have taken : (p.steps os limit torn).take ((p.unpublishedSteps os limit torn).length + (j + 1)) =
          (p.unpublishedSteps os limit torn ++ [.rename (temporaryName manifestName) manifestName]) ++
            (if p.parts limit = [] then [] else [FsStep.unlink p.filename]).take j := by
        rw [steps,List.take_length_add_append,publishedSteps,List.take_succ_cons]
        simp
      rw [taken,applySteps_append,result]
      by_cases one : p.parts limit = []
      · exact ⟨d,by simp [one,applySteps],published⟩
      · cases j with
        | zero => exact ⟨d,by simp [applySteps],published⟩
        | succ j => exact ⟨_,by simp [one,applySteps,FsStep.apply],p.published_unlink published one⟩

theorem hash_ok (os : Platform) (bytes : List Nat) : StrOk (os.hash.digest bytes) :=
  strOk_of_ascii fun c member => (os.hash.hex bytes c member).2.trans (by omega)

theorem size_encodable {n : Nat} (small : n < maxSize) : (Json.int n).Encodable := by
  have := dumpNat_length_le small
  simp only [Json.Encodable,Int.natAbs_natCast,maxStrDigits]
  omega

theorem keys_ok : ∀ key ∈ [str "schema",str "run_uuid",str "filename",str "size_bytes",
    str "original_size_bytes",str "sha256",str "created_at",str "metadata",str "parts",str "number"],
    StrOk key := by
  intro key member
  apply strOk_of_ascii
  revert key
  decide

theorem chunks_size_lt (limit : Nat) : ∀ chunk ∈ p.chunks limit, chunk.length < maxSize := by
  intro chunk member
  have fits := p.artifact.fits
  unfold chunks at member
  simp only at member
  split at member
  · obtain ⟨i,-,rfl⟩ := List.mem_map.mp member
    simp only [List.length_take,List.length_drop]
    omega
  · simp at member

theorem mem_chunks_of_parts {limit : Nat} {part : Str × Nat × List Nat} (member : part ∈ p.parts limit) :
    part.2.2 ∈ p.chunks limit := by
  rw [← p.parts_contents]
  exact List.mem_map_of_mem member

theorem partDocument_encodable (os : Platform) {limit : Nat} (positive : 0 < limit)
    {part : Str × Nat × List Nat} (member : part ∈ p.parts limit) : (partDocument os part).Encodable := by
  have name : StrOk part.1 := by
    rw [p.parts_name member]
    exact strOk_of_safe (p.partAt_safe _ _)
  have number := size_encodable (p.parts_number_lt positive member)
  have size := size_encodable (p.chunks_size_lt limit _ (p.mem_chunks_of_parts member))
  refine ⟨?_,encodableFields_iff.mpr ?_⟩
  · change [str "filename",str "number",str "size_bytes",str "sha256"].Nodup
    decide
  · intro field inside
    simp only [partFieldsOf,List.mem_cons,List.not_mem_nil,or_false] at inside
    rcases inside with rfl | rfl | rfl | rfl
    · exact ⟨keys_ok _ (by simp),name⟩
    · exact ⟨keys_ok _ (by simp),number⟩
    · exact ⟨keys_ok _ (by simp),size⟩
    · exact ⟨keys_ok _ (by simp),hash_ok os _⟩

theorem document_keys (os : Platform) (limit : Nat) : ((p.documentFields os limit).map (·.1)).Nodup := by
  by_cases one : p.parts limit = []
  · simp only [documentFields,if_pos one,List.append_nil]
    change [str "schema",str "run_uuid",str "filename",str "size_bytes",str "original_size_bytes",str "sha256",
      str "created_at",str "metadata"].Nodup
    decide
  · simp only [documentFields,if_neg one]
    change [str "schema",str "run_uuid",str "filename",str "size_bytes",str "original_size_bytes",str "sha256",
      str "created_at",str "metadata",str "parts"].Nodup
    decide

theorem document_encodable (os : Platform) {limit : Nat} (positive : 0 < limit) :
    (p.document os limit).Encodable := by
  refine ⟨p.document_keys os limit,encodableFields_iff.mpr ?_⟩
  intro field inside
  simp only [documentFields,List.mem_append,List.mem_cons,List.not_mem_nil,or_false] at inside
  rcases inside with (rfl | rfl | rfl | rfl | rfl | rfl | rfl | rfl) | parts
  · refine ⟨keys_ok _ (by simp),?_⟩
    split
    · exact size_encodable (n := 1) (by decide)
    · exact size_encodable (n := 2) (by decide)
  · exact ⟨keys_ok _ (by simp),strOk_of_safe p.runUuid.safe⟩
  · exact ⟨keys_ok _ (by simp),strOk_of_safe p.filename_safe⟩
  · exact ⟨keys_ok _ (by simp),size_encodable p.artifact.fits⟩
  · exact ⟨keys_ok _ (by simp),size_encodable p.originalFits⟩
  · exact ⟨keys_ok _ (by simp),hash_ok os _⟩
  · exact ⟨keys_ok _ (by simp),strOk_of_safe p.createdAt.safe⟩
  · exact ⟨keys_ok _ (by simp),p.metadata.encodable⟩
  · split at parts
    · simp at parts
    · simp only [List.mem_singleton] at parts
      subst field
      refine ⟨keys_ok _ (by simp),encodableItems_iff.mpr ?_⟩
      intro item here
      obtain ⟨part,member,rfl⟩ := List.mem_map.mp here
      exact p.partDocument_encodable os positive member

theorem document_depth (os : Platform) (limit : Nat) : (p.document os limit).depth ≤ os.recursion := by
  have enough := os.enough
  have shallow := p.metadata.shallow
  have fields : depthFields (p.documentFields os limit) ≤ 12 := by
    rw [depthFields_le]
    intro field inside
    simp only [documentFields,List.mem_append,List.mem_cons,List.not_mem_nil,or_false] at inside
    rcases inside with (rfl | rfl | rfl | rfl | rfl | rfl | rfl | rfl) | parts
    iterate 7 exact Nat.zero_le _
    · exact shallow
    · split at parts
      · simp at parts
      · simp only [List.mem_singleton] at parts
        subst field
        have items : depthItems ((p.parts limit).map (partDocument os)) ≤ 1 := by
          rw [depthItems_le]
          intro item here
          obtain ⟨part,-,rfl⟩ := List.mem_map.mp here
          simp [partDocument,partFieldsOf,Json.depth,depthFields]
        simp only [Json.depth]
        omega
  rw [document,Json.depth]
  omega

/-- The text of the manifest is read back as the document with its keys in order. -/
theorem readManifest_manifest (os : Platform) {limit : Nat} (positive : 0 < limit) :
    readManifest os (p.manifest os limit) true = .ok (p.document os limit).sorted := by
  have encodable := p.document_encodable os positive
  exact readManifest_ok.mpr ⟨rfl,_,decodeUtf8_ascii _ (dump_ascii _ encodable),
    loads_dump _ _ encodable (p.document_depth os limit)⟩

/-! The fields of the document as recovery looks them up. -/

variable (os : Platform) (limit : Nat)

theorem get_document (key : Str) : (p.document os limit).sorted.get key =
    ((Json.obj (p.documentFields os limit)).get key).map Json.sorted :=
  Json.get_sorted (p.document_keys os limit) key

theorem get_schema : (p.document os limit).sorted.get (str "schema") =
    some (.int (if p.parts limit = [] then 1 else 2)) := by
  rw [get_document]
  exact congrArg some (Json.sorted_int _)

theorem get_runUuid : (p.document os limit).sorted.get (str "run_uuid") = some (.str p.runUuid.text) := by
  rw [get_document]
  exact congrArg some (Json.sorted_str _)

theorem get_filename : (p.document os limit).sorted.get (str "filename") = some (.str p.filename) := by
  rw [get_document]
  exact congrArg some (Json.sorted_str _)

theorem get_sizeBytes : (p.document os limit).sorted.get (str "size_bytes") =
    some (.int p.artifact.content.length) := by
  rw [get_document]
  exact congrArg some (Json.sorted_int _)

theorem get_originalSize : (p.document os limit).sorted.get (str "original_size_bytes") =
    some (.int p.originalSizeBytes) := by
  rw [get_document]
  exact congrArg some (Json.sorted_int _)

theorem get_sha256 : (p.document os limit).sorted.get (str "sha256") =
    some (.str (os.hash.digest p.artifact.content)) := by
  rw [get_document]
  exact congrArg some (Json.sorted_str _)

theorem get_metadata : (p.document os limit).sorted.get (str "metadata") = some p.metadata.json.sorted := by
  rw [get_document]
  rfl

theorem get_parts (several : p.parts limit ≠ []) : (p.document os limit).sorted.get (str "parts") =
    some (.arr ((p.parts limit).map fun part => (partDocument os part).sorted)) := by
  have found : (Json.obj (p.documentFields os limit)).get (str "parts") =
      some (.arr ((p.parts limit).map (partDocument os))) := by
    simp only [documentFields,if_neg several]
    rfl
  rw [get_document,found,Option.map_some,Json.sorted_arr,List.map_map]
  rfl

variable {os limit}

theorem hasSchema_document (n : Int) : hasSchema (p.document os limit).sorted n =
    ((if p.parts limit = [] then 1 else 2) == n) := by
  rw [hasSchema,get_schema]
  rfl

/-- The reader's checks of one part hold of what the writer wrote for it. -/
theorem partFields_document (os : Platform) {part : Str × Nat × List Nat} (positive : 0 < limit) (member : part ∈ p.parts limit) :
    partFields p.filename (partWidth (p.chunks limit).length) part.2.1 (partDocument os part).sorted =
      some ((part.2.2.length : Int),os.hash.digest part.2.2) := by
  have keys : ((partFieldsOf os part).map (·.1)).Nodup := by
    change [str "filename",str "number",str "size_bytes",str "sha256"].Nodup
    decide
  have get (key : Str) : (partDocument os part).sorted.get key =
      ((Json.obj (partFieldsOf os part)).get key).map Json.sorted := Json.get_sorted keys key
  have name := (get (str "filename")).trans (congrArg some (Json.sorted_str _))
  have number := (get (str "number")).trans (congrArg some (Json.sorted_int _))
  have size := (get (str "size_bytes")).trans (congrArg some (Json.sorted_int _))
  have sha256 := (get (str "sha256")).trans (congrArg some (Json.sorted_str _))
  obtain ⟨fields,shape⟩ : ∃ fields, (partDocument os part).sorted = .obj fields :=
    ⟨_,by rw [partDocument,Json.sorted]⟩
  have nonempty := p.chunks_pos positive _ (p.mem_chunks_of_parts member)
  have named := p.parts_name member
  rw [partAt] at named
  rw [shape] at name number size sha256 ⊢
  simp only [Json.get] at name number size sha256
  simp [partFields,name,number,size,sha256,Json.asInt,Json.asStr,eqInt,Json.eqStr,← named,os.hash.length,
    List.length_pos_iff.mp nonempty]

theorem at_of_underscore (d : Dir) {name : Str} (visible : underscore ∈ name) : d.at name = d name := by
  rw [Dir.at,if_neg]
  rintro (rfl | rfl | rfl) <;> revert visible <;> decide

theorem nameFault_filename : nameFault p.filename = none := by
  have := p.filename_length
  exact nameFault_of_safe p.filename_safe (by omega)

theorem nameFault_partAt (positive : 0 < limit) {number : Nat} (small : number < maxSize) :
    nameFault (p.partAt limit number) = none := by
  have := p.partAt_length positive small
  exact nameFault_of_safe (p.partAt_safe limit number) (by omega)

theorem stat_of_fault {d : Dir} {name : Str} (fault : nameFault name = none) :
    d.stat name = Entry.followed (d.at name) := by rw [Dir.stat,fault]

theorem stat_manifest {d : Dir} (published : Published p os limit d) :
    d.stat manifestName = .ok (some (.file (p.manifest os limit) true)) := by
  have at_ : d.at manifestName = d manifestName := if_neg (by decide)
  rw [stat_of_fault (by decide),at_,published.manifest]
  rfl

theorem verifyPending_file (os : Platform) {d : Dir} {name : Str} {content : List Nat} (fault : nameFault name = none)
    (visible : underscore ∈ name) (here : d name = some (.plain (.file content true))) :
    verifyPending os d name content.length (os.hash.digest content) = .ok content := by
  simp [verifyPending,fault,at_of_underscore d visible,here]

/-- The loop over the parts, from any of them on. -/
theorem verifyParts_numbered (os : Platform) (positive : 0 < limit) {d : Dir}
    (placed : ∀ part ∈ p.parts limit, d part.1 = some (.plain (.file part.2.2 true)))
    (number : Nat) (rest : List (List Nat)) (inside : ∀ part ∈ p.numbered limit number rest, part ∈ p.parts limit) :
    verifyParts os d p.filename (partWidth (p.chunks limit).length) number
      ((p.numbered limit number rest).map fun part => (partDocument os part).sorted) =
      .ok ((p.numbered limit number rest).map fun part =>
        ⟨part.1,part.2.1,part.2.2.length,os.hash.digest part.2.2⟩,rest.flatten) := by
  induction rest generalizing number with
  | nil => rfl
  | cons chunk rest ih =>
    have here := inside _ (List.mem_cons_self ..)
    have fields := p.partFields_document os positive here
    have file := placed _ here
    have fault := p.nameFault_partAt positive (p.parts_number_lt positive here)
    have verified := verifyPending_file os fault (p.underscore_mem_partAt limit number) file
    have later := ih (number + 1) (fun part member => inside part (List.mem_cons_of_mem _ member))
    simp only at fields verified
    simp only [numbered,List.map_cons,verifyParts,fields]
    change (verifyPending os d (p.partAt limit number) _ _ >>= _) = _
    rw [verified,except_ok_bind,later]
    rfl

theorem sizes_sum (os : Platform) (positive : 0 < limit) (several : p.parts limit ≠ []) :
    (((p.parts limit).map fun part : Str × Nat × List Nat => (⟨part.1,part.2.1,part.2.2.length,
      os.hash.digest part.2.2⟩ : ArtifactPart)).map ArtifactPart.size).sum = p.artifact.content.length ∧
      (p.chunks limit).flatten = p.artifact.content := by
  have large : limit < p.artifact.content.length := by
    by_contra small
    apply several
    have : p.chunks limit = [] := by rw [chunks]; exact if_neg small
    rw [← List.length_eq_zero_iff,p.parts_length,this]
    rfl
  have joined := p.chunks_flatten large positive
  refine ⟨?_,joined⟩
  have contents : ((p.parts limit).map fun part : Str × Nat × List Nat => (⟨part.1,part.2.1,part.2.2.length,
      os.hash.digest part.2.2⟩ : ArtifactPart)).map ArtifactPart.size =
      (p.chunks limit).map fun chunk => (chunk.length : Int) := by
    rw [← p.parts_contents,List.map_map,List.map_map]
    rfl
  rw [contents,sum_lengths,joined]

theorem deliveryArtifacts_published (positive : 0 < limit) {d : Dir} (published : Published p os limit d)
    (document : manifestDocument os d = .ok (p.document os limit).sorted) :
    deliveryArtifacts os d p.filename p.artifact.content.length (os.hash.digest p.artifact.content) =
      .ok (if p.parts limit = [] then
          single p.filename p.artifact.content.length (os.hash.digest p.artifact.content)
        else (p.parts limit).map fun part => ⟨part.1,part.2.1,part.2.2.length,os.hash.digest part.2.2⟩) := by
  have manifest := p.stat_manifest published
  have seen : unpublished d p.filename = .ok false := by
    have artifact : ∃ found, d.stat p.filename = .ok found := by
      rw [stat_of_fault p.nameFault_filename,at_of_underscore d p.underscore_mem_filename]
      rcases published.artifact with here | ⟨gone,-⟩
      · exact ⟨_,by rw [here]; rfl⟩
      · exact ⟨_,by rw [gone]; rfl⟩
    obtain ⟨found,artifact⟩ := artifact
    cases found <;> simp [unpublished,Dir.exists_,artifact,manifest,Except.map]
  have fields : fieldsMatch (p.document os limit).sorted p.filename p.artifact.content.length
      (os.hash.digest p.artifact.content) = true := by
    simp [fieldsMatch,get_filename,get_sizeBytes,get_sha256,Json.eqStr,eqInt]
  rw [deliveryArtifacts,seen,except_ok_bind,if_neg (by decide),document,except_ok_bind,documentArtifacts,fields]
  by_cases one : p.parts limit = []
  · have file : d p.filename = some (.plain (.file p.artifact.content true)) := by
      rcases published.artifact with here | ⟨-,several⟩
      · exact here
      · exact absurd one several
    simp only [hasSchema_document,if_pos one,verifySingle,
      verifyPending_file os p.nameFault_filename p.underscore_mem_filename file]
    rfl
  · have loop := p.verifyParts_numbered os positive published.parts 1 (p.chunks limit)
      (fun part member => member)
    have whole := p.sizes_sum os positive one
    simp only [hasSchema_document,if_neg one]
    obtain ⟨first,rest,shape⟩ : ∃ first rest, (p.parts limit).map (fun part => (partDocument os part).sorted) =
        first :: rest := List.exists_cons_of_ne_nil (by simpa using one)
    have count : rest.length + 1 = (p.chunks limit).length := by
      have := congrArg List.length shape
      simpa [p.parts_length] using this.symm
    have parts := p.get_parts os limit one
    change verifyParts os d p.filename _ 1 ((p.parts limit).map _) = .ok ((p.parts limit).map _,_) at loop
    rw [shape] at parts loop
    simp only [verifiedParts,parts,count,loop,except_ok_bind,whole.1,whole.2]
    simp

/-- What recovery makes of a directory without a manifest. -/
theorem recoverDirectory_unpublished (directory : Path) {d : Dir} (absent : d manifestName = none) (runUuid : Str) :
    recoverDirectory os directory d runUuid = .error invalidManifest := by
  have at_ : d.at manifestName = d manifestName := if_neg (by decide)
  have manifest : d.stat manifestName = .ok none := by
    rw [stat_of_fault (by decide),at_,absent]
    rfl
  simp [recoverDirectory,manifestDocument,manifest]

/-- Recovery returns the published artifact, unless its manifest is too large to be read. -/
theorem recoverDirectory_published (positive : 0 < limit) (pendingRoot : Path) {d : Dir}
    (published : Published p os limit d) :
    recoverDirectory os (p.directory pendingRoot) d p.runUuid.text =
      if maxManifestBytes < (p.manifest os limit).length then .error invalidManifest
      else .ok (p.finalized os pendingRoot limit,p.metadata.json.sorted) := by
  have manifest := p.stat_manifest published
  by_cases large : maxManifestBytes < (p.manifest os limit).length
  · simp [recoverDirectory,manifestDocument,manifest,large]
  · have document : manifestDocument os d = .ok (p.document os limit).sorted := by
      have object : (p.document os limit).sorted.isObj = true := by
        rw [Publication.document,Json.sorted]
        rfl
      simp [manifestDocument,manifest,large,p.readManifest_manifest os positive,object]
    have known : schemaKnown (p.document os limit).sorted = .ok true := by
      rw [schemaKnown,get_schema]
      by_cases one : p.parts limit = [] <;> simp [one,Json.hashable,eqInt]
    have owner : hasOwner (p.document os limit).sorted p.runUuid.text = true := by
      simp [hasOwner,get_runUuid,Json.eqStr]
    have plain : isFileName p.filename = true := by
      have noSlash : slash ∉ p.filename := fun member => (isSafe_iff.mp (p.filename_safe _ member)).2.2 rfl
      have notDot : p.filename ≠ [dot] := p.filename_ne_of (by decide)
      simp [isFileName,noSlash,notDot]
    have object : p.metadata.json.sorted.isObj = true := by
      rw [Metadata.json,Json.sorted]
      rfl
    have fields : recoveredFields (p.document os limit).sorted = some (p.filename,
        (p.artifact.content.length : Int),os.hash.digest p.artifact.content,p.metadata.json.sorted,
        some (p.originalSizeBytes : Int)) := by
      simp [recoveredFields,originalSize,get_filename,get_sizeBytes,get_sha256,get_metadata,get_originalSize,
        Json.asStr,Json.asInt,plain,object]
    have delivered := p.deliveryArtifacts_published positive published document
    rw [if_neg large,recoverDirectory,document,except_ok_bind,known,except_ok_bind,owner]
    simp only [Bool.not_true,Bool.or_self,Bool.false_eq_true,if_false,fields,delivered,except_ok_bind,
      hasSchema_document,finalized]
    by_cases one : p.parts limit = [] <;> simp [one]

end Publication

end BackupTelebot
