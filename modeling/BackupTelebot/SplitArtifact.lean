import BackupTelebot.FinalizeRules
import BackupTelebot.PythonDict
import Mathlib.Algebra.Order.Floor.Div

/-! The parts of a large artifact as `_split_artifact` writes them, read back with `cat name.part*`.
The file operations themselves do not fail. -/
namespace BackupTelebot.SplitArtifact

open PyJson PyDict

abbrev Files := Dict Str (List ℕ)

def chunkBytes : ℕ := 1048576

/-- The loop that fills one part: what is left of the source, and what was written. -/
def fill (limit : ℕ) (source written : List ℕ) : List ℕ × List ℕ :=
  if written.length < limit then
    let chunk := source.take (min chunkBytes (limit - written.length))
    if chunk = [] then (source,written)
    else fill limit (source.drop (min chunkBytes (limit - written.length))) (written ++ chunk)
  else (source,written)
termination_by source.length
decreasing_by
  rename_i room some_
  rw [List.length_drop]
  have : source ≠ [] := by
    intro empty
    subst empty
    exact some_ List.take_nil
  have := List.length_pos_iff.mpr this
  unfold chunkBytes
  omega

def replace (files : Files) (temporary path : Str) : Files :=
  match files.get temporary with
  | none => files
  | some content => (files.pop temporary).set path content

section Split

variable (hash : Hash) (name : Str) (limit width : ℕ)

def writePart (number : ℕ) (files : Files) (source : List ℕ) : Except Failure (Files × List ℕ × ArtifactPart) :=
  let path := partName name width number
  let temporary := temporaryName path
  if (files.get temporary).isSome then .error (.builtin "FileExistsError")
  else
    let (rest,content) := fill limit source []
    .ok (replace (files.set temporary content) temporary path,rest,⟨path,number,content.length,hash.digest content⟩)

/-- The next parts, as many as are counted, from this number on. -/
def writeParts : ℕ → ℕ → Files → List ℕ → Except Failure (Files × List ArtifactPart)
  | 0, _, files, _ => .ok (files,[])
  | count + 1, number, files, source =>
    match writePart hash name limit width number files source with
    | .error e => .error e
    | .ok (files,source,part) =>
      match writeParts count (number + 1) files source with
      | .error e => .error e
      | .ok (files,parts) => .ok (files,part :: parts)

end Split

def splitArtifact (hash : Hash) (name : Str) (limit : ℕ) (files : Files) : Except Failure (Files × List ArtifactPart) :=
  match files.get name with
  | none => .error (.builtin "FileNotFoundError")
  | some content =>
    let total := (content.length + limit - 1) / limit
    match writeParts hash name limit (partWidth total) total 1 files content with
    | .error e => .error e
    | .ok (files,parts) =>
      if (parts.map ArtifactPart.size).sum ≠ content.length ∨
          (parts.any fun part => decide (part.size ≤ 0) || decide ((limit : ℤ) < part.size)) = true then
        .error (.pipeline "INVALID_MULTIPART")
      else .ok (files,parts)

/-- The names that `start*` stands for, in the order of the shell. -/
def glob (start : Str) (files : Files) : List Str :=
  ((files.entries.map (·.1)).filter fun name => start.isPrefixOf name).insertionSort (· ≤ ·)

def cat (files : Files) (names : List Str) : List ℕ := names.flatMap fun name => (files.get name).getD []

theorem fill_eq (limit : ℕ) (source written : List ℕ) :
    fill limit source written = (source.drop (limit - written.length),written ++ source.take (limit - written.length)) := by
  fun_induction fill limit source written with
  | case1 source written room chunk empty =>
    have none_ : source = [] := by
      rcases List.take_eq_nil_iff.mp empty with zero | none_
      · unfold chunkBytes at zero
        omega
      · exact none_
    simp [none_]
  | case2 source written room chunk some_ ih =>
    have cut : chunk.length = min (min chunkBytes (limit - written.length)) source.length := List.length_take
    rw [ih,List.drop_drop,List.append_assoc,List.length_append,cut]
    by_cases short : source.length ≤ min chunkBytes (limit - written.length)
    · have all : source.length ≤ limit - written.length := short.trans (min_le_right _ _)
      rw [List.drop_of_length_le (by omega),List.drop_of_length_le short,List.drop_of_length_le all]
      simp only [chunk,List.take_of_length_le short,List.take_of_length_le all,List.take_nil,List.append_nil]
    · have rest : limit - (written.length + min (min chunkBytes (limit - written.length)) source.length) =
          limit - written.length - min chunkBytes (limit - written.length) := by omega
      have inside := min_le_right chunkBytes (limit - written.length)
      rw [rest,Nat.add_sub_cancel' inside]
      have joined := List.take_add (l := source) (i := min chunkBytes (limit - written.length))
        (j := limit - written.length - min chunkBytes (limit - written.length))
      rw [Nat.add_sub_cancel' inside] at joined
      rw [joined]
  | case3 source written full =>
    have zero : limit - written.length = 0 := by omega
    simp [zero]

/-- The bytes of a part, counted from zero. -/
def chunkAt (limit : ℕ) (content : List ℕ) (i : ℕ) : List ℕ := (content.drop (i * limit)).take limit

theorem chunkAt_drop (limit : ℕ) (content : List ℕ) (i : ℕ) : chunkAt limit (content.drop limit) i = chunkAt limit content (i + 1) := by
  rw [chunkAt,chunkAt,List.drop_drop]
  congr 2
  rw [Nat.succ_mul]
  omega

theorem chunks_flatten (limit : ℕ) (content : List ℕ) (count : ℕ) :
    ((List.range count).flatMap fun i => chunkAt limit content i) = content.take (count * limit) := by
  induction count with
  | zero => simp
  | succ count ih =>
    rw [List.range_succ,List.flatMap_append,ih,List.flatMap_singleton,chunkAt,Nat.succ_mul,List.take_add]

section Parts

variable {hash : Hash} {name : Str} {limit width number : ℕ} {files : Files} {source : List ℕ}

theorem partName_last (name : Str) (width number : ℕ) : ∃ c, (partName name width number).getLast? = some c ∧ c ≤ 57 := by
  have nonempty : padded width number ≠ [] := by
    obtain ⟨c,text,shape,-⟩ := dumpNat_head number
    simp [padded,shape]
  refine ⟨(padded width number).getLast nonempty,?_,(padded_digit width number _ (List.getLast_mem nonempty)).2⟩
  rw [partName,List.getLast?_append_of_ne_nil _ nonempty,List.getLast?_eq_some_getLast]

/-- A temporary name is no part's name: it ends in a letter. -/
theorem partName_ne_temporary (other : Str) : partName name width number ≠ temporaryName other := by
  intro same
  obtain ⟨c,last,digit⟩ := partName_last name width number
  have right : (temporaryName other).getLast? = some 112 := by
    rw [temporaryName,List.getLast?_append_of_ne_nil _ (by decide)]
    rfl
  rw [same,right] at last
  have := Option.some.inj last
  omega

theorem get_replace {content : List ℕ} {temporary path : Str} (other : Str) :
    (replace (files.set temporary content) temporary path).get other =
      if other = path then some content else if other = temporary then none else files.get other := by
  rw [replace,Dict.get_set_self]
  simp only [Dict.get_set,Dict.get_pop]
  split_ifs <;> rfl

/-- A part takes the next bytes, up to the limit. -/
theorem writePart_eq (free : files.get (temporaryName (partName name width number)) = none) :
    ∃ files', writePart hash name limit width number files source =
        .ok (files',source.drop limit,⟨partName name width number,number,(source.take limit).length,hash.digest (source.take limit)⟩) ∧
      files'.get (partName name width number) = some (source.take limit) ∧
      ∀ other, other ≠ partName name width number → files'.get other = files.get other := by
  refine ⟨replace (files.set (temporaryName (partName name width number)) (source.take limit))
    (temporaryName (partName name width number)) (partName name width number),?_,?_,?_⟩
  · rw [writePart]
    simp only [free,Option.isSome_none,Bool.false_eq_true,if_false,fill_eq,List.length_nil,Nat.sub_zero,List.nil_append]
  · rw [get_replace,if_pos rfl]
  · intro other apart
    rw [get_replace,if_neg apart]
    split_ifs with temporary
    · rw [temporary,free]
    · rfl

theorem partName_injective {a b : ℕ} (same : partName name width a = partName name width b) : a = b :=
  padded_injective (List.append_cancel_left same)

/-- The parts are the chunks of the source, each under its own name, and nothing else changes. -/
theorem writeParts_eq (count : ℕ) : ∀ (number : ℕ) (files : Files) (source : List ℕ),
    (∀ i, files.get (temporaryName (partName name width i)) = none) →
    ∃ files', writeParts hash name limit width count number files source =
        .ok (files',(List.range count).map fun i => ⟨partName name width (number + i),number + i,
          (chunkAt limit source i).length,hash.digest (chunkAt limit source i)⟩) ∧
      (∀ i < count, files'.get (partName name width (number + i)) = some (chunkAt limit source i)) ∧
      ∀ other, (∀ i < count, other ≠ partName name width (number + i)) → files'.get other = files.get other := by
  induction count with
  | zero => exact fun number files source _ => ⟨files,rfl,by simp,fun _ _ => rfl⟩
  | succ count ih =>
    intro number files source free
    obtain ⟨first,written,held,others⟩ := @writePart_eq hash name limit width number files source (free number)
    have free' (i : ℕ) : first.get (temporaryName (partName name width i)) = none := by
      rw [others _ (partName_ne_temporary _).symm,free i]
    obtain ⟨files',rest,holds,same⟩ := ih (number + 1) first (source.drop limit) free'
    have shift (i : ℕ) : number + 1 + i = number + (i + 1) := by omega
    simp only [chunkAt_drop,shift] at rest holds same
    refine ⟨files',?_,?_,?_⟩
    · have here : chunkAt limit source 0 = source.take limit := by simp [chunkAt]
      rw [writeParts,written]
      simp only [rest,List.range_succ_eq_map,List.map_cons,List.map_map,Nat.add_zero,here]
      rfl
    · intro i small
      cases i with
      | zero =>
        rw [Nat.add_zero,same _ fun j _ name_ => by have := partName_injective name_; omega,held,chunkAt,Nat.zero_mul,List.drop_zero]
      | succ i => exact holds i (by omega)
    · intro other apart
      rw [same other fun i small => apart (i + 1) (by omega),others other (apart 0 (by omega))]

end Parts

theorem natOfDigits_cons (c : ℕ) (text : Str) : natOfDigits (c :: text) = (c - 48) * 10 ^ text.length + natOfDigits text := by
  simp [natOfDigits,Nat.ofDigits_append]
  ring

theorem natOfDigits_lt (text : Str) (digits : ∀ c ∈ text, 48 ≤ c ∧ c ≤ 57) : natOfDigits text < 10 ^ text.length := by
  have bound := Nat.ofDigits_lt_base_pow_length (b := 10) (l := text.reverse.map (· - 48)) (by decide) (by
    intro d member
    obtain ⟨c,here,rfl⟩ := List.mem_map.mp member
    have := digits c (List.mem_reverse.mp here)
    omega)
  simpa [natOfDigits] using bound

/-- Among digits of one length the smaller text is the smaller number. -/
theorem natOfDigits_lt_of_lt {a b : Str} (digits : ∀ c ∈ a, 48 ≤ c ∧ c ≤ 57) (digits' : ∀ c ∈ b, 48 ≤ c ∧ c ≤ 57)
    (length : a.length = b.length) (order : a < b) : natOfDigits a < natOfDigits b := by
  induction a generalizing b with
  | nil =>
    obtain rfl := List.length_eq_zero_iff.mp length.symm
    exact absurd order (lt_irrefl _)
  | cons c a ih =>
    cases b with
    | nil => simp at length
    | cons d b =>
      have tail : ∀ c ∈ a, 48 ≤ c ∧ c ≤ 57 := fun c member => digits c (List.mem_cons_of_mem _ member)
      have tail' : ∀ c ∈ b, 48 ≤ c ∧ c ≤ 57 := fun c member => digits' c (List.mem_cons_of_mem _ member)
      have first := digits c List.mem_cons_self
      have same : a.length = b.length := by simpa using length
      rw [natOfDigits_cons,natOfDigits_cons,same]
      rcases List.cons_lt_cons_iff.mp order with less | ⟨rfl,less⟩
      · have low := natOfDigits_lt a tail
        rw [same] at low
        have gap : (c - 48) + 1 ≤ d - 48 := by omega
        calc (c - 48) * 10 ^ b.length + natOfDigits a < (c - 48) * 10 ^ b.length + 10 ^ b.length := by omega
          _ = ((c - 48) + 1) * 10 ^ b.length := by ring
          _ ≤ (d - 48) * 10 ^ b.length := Nat.mul_le_mul_right _ gap
          _ ≤ (d - 48) * 10 ^ b.length + natOfDigits b := Nat.le_add_right _ _
      · exact Nat.add_lt_add_left (ih tail tail' same less) _

theorem natOfDigits_padded (width n : ℕ) : natOfDigits (padded width n) = n := by
  rw [padded,natOfDigits_zeros,natOfDigits_dump]

theorem dumpNat_length_mono {a b : ℕ} (order : a ≤ b) : (dumpNat a).length ≤ (dumpNat b).length := by
  by_cases zero : a = 0
  · subst zero
    obtain ⟨c,text,shape,-⟩ := dumpNat_head b
    rw [shape]
    simp [dumpNat]
  · have zero' : b ≠ 0 := by omega
    simpa [dumpNat,zero,zero'] using Nat.le_length_digits_le 10 a b order

theorem padded_length {width n : ℕ} (fits : (dumpNat n).length ≤ width) : (padded width n).length = width := by
  rw [padded,List.length_append,List.length_replicate]
  omega

theorem append_lt_append {front a b : Str} (order : a < b) : front ++ a < front ++ b := by
  induction front with
  | nil => exact order
  | cons c front ih => exact List.cons_lt_cons_iff.mpr (.inr ⟨rfl,ih⟩)

/-- The padding makes the order of the names the order of the numbers. -/
theorem partName_lt {name : Str} {total a b : ℕ} (order : a < b) (last : b ≤ total) :
    partName name (partWidth total) a < partName name (partWidth total) b := by
  have width {n : ℕ} (small : n ≤ total) : (padded (partWidth total) n).length = partWidth total :=
    padded_length ((dumpNat_length_mono small).trans (le_max_right _ _))
  have digits (n : ℕ) := padded_digit (partWidth total) n
  apply append_lt_append
  rcases lt_trichotomy (padded (partWidth total) a) (padded (partWidth total) b) with less | same | more
  · exact less
  · have := padded_injective same
    omega
  · have := natOfDigits_lt_of_lt (digits b) (digits a) ((width last).trans (width (by omega)).symm) more
    rw [natOfDigits_padded,natOfDigits_padded] at this
    omega

section Glob

variable {name : Str} {content : List ℕ} {total : ℕ} {files : Files}

def partNames (name : Str) (total : ℕ) : List Str := (List.range total).map fun i => partName name (partWidth total) (1 + i)

theorem partNames_sorted (name : Str) (total : ℕ) : (partNames name total).Pairwise (· < ·) := by
  rw [partNames,List.pairwise_map]
  refine List.pairwise_lt_range.imp_of_mem fun {a b} _ inside order => ?_
  have := List.mem_range.mp inside
  exact partName_lt (by omega) (by omega)

theorem partName_prefix (name : Str) (width number : ℕ) : (name ++ str ".part").isPrefixOf (partName name width number) = true :=
  List.isPrefixOf_iff_prefix.mpr (List.prefix_append _ _)

/-- Of the files of the directory the glob names the parts, in their order. -/
theorem glob_parts (parts : ∀ path ∈ partNames name total, files.get path ≠ none)
    (others : ∀ path, path ∉ partNames name total → path ≠ name → files.get path = none) :
    glob (name ++ str ".part") files = partNames name total := by
  have sorted := partNames_sorted name total
  have known (path : Str) : path ∈ files.entries.map (·.1) ↔ files.get path ≠ none := by
    rw [ne_eq,Dict.get_eq_none,not_not]
  have perm : ((files.entries.map (·.1)).filter fun path => (name ++ str ".part").isPrefixOf path).Perm (partNames name total) := by
    rw [List.perm_ext_iff_of_nodup (files.distinct.filter _) (sorted.imp fun order => ne_of_lt order)]
    intro path
    rw [List.mem_filter,known]
    constructor
    · rintro ⟨present,begun⟩
      by_contra missing_
      refine present (others path missing_ fun same => ?_)
      have short := (List.isPrefixOf_iff_prefix.mp begun).length_le
      rw [same,List.length_append] at short
      have : (str ".part").length = 5 := rfl
      omega
    · intro member
      refine ⟨parts path member,?_⟩
      obtain ⟨i,-,rfl⟩ := List.mem_map.mp member
      exact partName_prefix name _ _
  rw [glob]
  refine List.Perm.eq_of_pairwise' (r := (· ≤ ·)) (List.pairwise_insertionSort _ _) (sorted.imp le_of_lt) ?_
  exact (List.perm_insertionSort _ _).trans perm

end Glob

section Sizes

variable {limit : ℕ} {content : List ℕ} {i : ℕ}

theorem chunkAt_length : (chunkAt limit content i).length = min limit (content.length - i * limit) := by
  rw [chunkAt,List.length_take,List.length_drop]

/-- Every part begins inside the artifact. -/
theorem chunk_begins (inside : i < (content.length + limit - 1) / limit) : i * limit < content.length := by
  have positive : 0 < limit := by
    by_contra none_
    simp [Nat.eq_zero_of_not_pos none_] at inside
  have := (Nat.le_div_iff_mul_le positive).mp (Nat.succ_le_of_lt inside)
  rw [Nat.succ_mul] at this
  omega

theorem length_le_total (positive : 0 < limit) : content.length ≤ (content.length + limit - 1) / limit * limit := by
  have := Nat.lt_div_mul_add (a := content.length + limit - 1) positive
  omega

theorem sum_sizes (positive : 0 < limit) :
    ((List.range ((content.length + limit - 1) / limit)).map fun i => ((chunkAt limit content i).length : ℤ)).sum = content.length := by
  have joined := chunks_flatten limit content ((content.length + limit - 1) / limit)
  rw [List.take_of_length_le (length_le_total positive)] at joined
  rw [List.flatMap_def] at joined
  calc ((List.range ((content.length + limit - 1) / limit)).map fun i => ((chunkAt limit content i).length : ℤ)).sum
      = (((List.range ((content.length + limit - 1) / limit)).map fun i => chunkAt limit content i).map
          fun content => (content.length : ℤ)).sum := by rw [List.map_map]; rfl
    _ = content.length := by rw [sum_lengths,joined]

end Sizes

/-- An artifact becomes as many parts as it needs, none empty and none above the limit, each
with its own digest, and the shell's order of the parts joins them again. -/
theorem splitArtifact_lossless (hash : Hash) (name : Str) (limit : ℕ) (content : List ℕ) (positive : 0 < limit) :
    ∃ files parts, splitArtifact hash name limit (Dict.empty.set name content) = .ok (files,parts) ∧
      parts.length = content.length ⌈/⌉ limit ∧
      (∀ part ∈ parts, ∃ bytes, files.get part.path = some bytes ∧ part.size = bytes.length ∧ 1 ≤ bytes.length ∧
        bytes.length ≤ limit ∧ part.checksum = hash.digest bytes) ∧
      glob (name ++ str ".part") files = parts.map ArtifactPart.path ∧
      cat files (glob (name ++ str ".part") files) = content := by
  have alone (other : Str) (apart : other ≠ name) : (Dict.empty.set name content).get other = none := by
    rw [Dict.get_set,if_neg apart,Dict.get_empty]
  have longer (width n : ℕ) : name.length < (partName name width n).length := by
    have : (str ".part").length = 5 := rfl
    simp only [partName,List.length_append]
    omega
  have free (width i : ℕ) : (Dict.empty.set name content).get (temporaryName (partName name width i)) = none := by
    apply alone
    intro same
    have := longer width i
    have := congrArg List.length same
    simp only [temporaryName,List.cons_append,List.length_cons,List.length_append] at this
    omega
  have size {i : ℕ} (inside : i < (content.length + limit - 1) / limit) :
      1 ≤ (chunkAt limit content i).length ∧ (chunkAt limit content i).length ≤ limit := by
    have := chunk_begins inside
    rw [chunkAt_length]
    omega
  obtain ⟨files,written,holds,others⟩ := @writeParts_eq hash name limit (partWidth ((content.length + limit - 1) / limit))
    ((content.length + limit - 1) / limit) 1 (Dict.empty.set name content) content (free _)
  have globbed : glob (name ++ str ".part") files = partNames name ((content.length + limit - 1) / limit) := by
    apply glob_parts
    · intro path member
      obtain ⟨i,inside,rfl⟩ := List.mem_map.mp member
      simp [holds i (List.mem_range.mp inside)]
    · intro path notPart apart
      rw [others path fun i inside same => notPart (List.mem_map.mpr ⟨i,List.mem_range.mpr inside,same.symm⟩),alone path apart]
  have produced : splitArtifact hash name limit (Dict.empty.set name content) = .ok (files,
      (List.range ((content.length + limit - 1) / limit)).map fun i =>
        ⟨partName name (partWidth ((content.length + limit - 1) / limit)) (1 + i),1 + i,(chunkAt limit content i).length,
          hash.digest (chunkAt limit content i)⟩) := by
    rw [splitArtifact,Dict.get_set_self]
    simp only [written,List.map_map]
    rw [if_neg]
    rintro (sum | bad)
    · exact sum (sum_sizes positive)
    · obtain ⟨part,member,wrong⟩ := List.any_eq_true.mp bad
      obtain ⟨i,inside,rfl⟩ := List.mem_map.mp member
      have := size (List.mem_range.mp inside)
      simp only [Bool.or_eq_true,decide_eq_true_eq] at wrong
      omega
  refine ⟨files,_,produced,?_,?_,?_,?_⟩
  · rw [List.length_map,List.length_range,Nat.ceilDiv_eq_add_pred_div]
  · intro part member
    obtain ⟨i,inside,rfl⟩ := List.mem_map.mp member
    have inside := List.mem_range.mp inside
    exact ⟨_,holds i inside,rfl,(size inside).1,(size inside).2,rfl⟩
  · rw [globbed,partNames,List.map_map]
    rfl
  · rw [globbed,cat,partNames,List.flatMap_map]
    calc ((List.range ((content.length + limit - 1) / limit)).flatMap fun i =>
          (files.get (partName name (partWidth ((content.length + limit - 1) / limit)) (1 + i))).getD [])
        = (List.range ((content.length + limit - 1) / limit)).flatMap fun i => chunkAt limit content i := by
          apply List.flatMap_congr
          intro i inside
          rw [holds i (List.mem_range.mp inside),Option.getD_some]
      _ = content.take ((content.length + limit - 1) / limit * limit) := chunks_flatten limit content _
      _ = content := List.take_of_length_le (length_le_total positive)

def zeros : Hash := ⟨fun _ => List.replicate 64 98,by simp,by simp⟩

/-- Five bytes in parts of two. -/
theorem splitArtifact_five : ∃ files parts,
    splitArtifact zeros (str "a") 2 (Dict.empty.set (str "a") [1,2,3,4,5]) = .ok (files,parts) ∧ parts.length = 3 ∧
      cat files (glob (str "a.part") files) = [1,2,3,4,5] := by
  obtain ⟨files,parts,split_,count,-,-,joined⟩ := splitArtifact_lossless zeros (str "a") 2 [1,2,3,4,5] (by decide)
  exact ⟨files,parts,split_,count,joined⟩

end BackupTelebot.SplitArtifact
