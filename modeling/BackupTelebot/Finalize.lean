import BackupTelebot.Pending

/-! Publication of the final artifact (`finalize_artifact`) as the sequence of its
filesystem steps. A temporary file is created empty, then holds some prefix of its
content, then all of it, so that every state a crash can leave is a prefix of the steps. -/
namespace BackupTelebot

open PyJson

/-- A visible ASCII character that separates no path components. -/
def isSafe (c : Nat) : Bool := decide (33 ≤ c ∧ c ≤ 126 ∧ c ≠ slash)

structure SafeText (bound : Nat) where
  text : Str
  safe : ∀ c ∈ text, isSafe c = true
  short : text.length ≤ bound

/-- The characters outside `[^A-Za-z0-9._-]`. -/
def isSlugChar (c : Nat) : Bool :=
  decide (48 ≤ c ∧ c ≤ 57) || decide (65 ≤ c ∧ c ≤ 90) || decide (97 ≤ c ∧ c ≤ 122) || c == 46 || c == 95 ||
    c == 45

/-- `_UNSAFE_NAME.sub("-", value)`: one hyphen for each run of other characters. -/
def subUnsafe : Bool → Str → Str
  | _, [] => []
  | inRun, c :: rest =>
      if isSlugChar c then c :: subUnsafe false rest
      else if inRun then subUnsafe true rest
      else 45 :: subUnsafe true rest

def stripChars (drop : Nat → Bool) (text : Str) : Str :=
  ((text.dropWhile drop).reverse.dropWhile drop).reverse

/-- Surrounding white space would become a hyphen here and be stripped as one. -/
def safeSlug (value : Str) : Str :=
  let slug := (stripChars (fun c => c == 46 || c == 45 || c == 95) (subUnsafe false value)).take 100
  if slug = [] then str "backup" else slug

theorem mem_subUnsafe (inRun : Bool) (value : Str) : ∀ c ∈ subUnsafe inRun value, isSlugChar c = true := by
  induction value generalizing inRun with
  | nil => simp [subUnsafe]
  | cons d rest ih =>
    intro c member
    unfold subUnsafe at member
    split at member
    · rename_i slugChar
      rcases List.mem_cons.mp member with rfl | later
      · exact slugChar
      · exact ih _ c later
    · split at member
      · exact ih _ c member
      · rcases List.mem_cons.mp member with rfl | later
        · rfl
        · exact ih _ c later

theorem mem_stripChars {drop : Nat → Bool} {text : Str} {c : Nat} (member : c ∈ stripChars drop text) :
    c ∈ text := by
  have inner := (List.dropWhile_sublist drop).mem (List.mem_reverse.mp member)
  exact (List.dropWhile_sublist drop).mem (List.mem_reverse.mp inner)

theorem mem_safeSlug {value : Str} {c : Nat} (member : c ∈ safeSlug value) : isSlugChar c = true := by
  unfold safeSlug at member
  simp only at member
  split at member
  · revert c
    decide
  · exact mem_subUnsafe false value c (mem_stripChars (List.mem_of_mem_take member))

theorem safeSlug_length (value : Str) : (safeSlug value).length ≤ 100 := by
  unfold safeSlug
  simp only
  split
  · decide
  · exact List.length_take_le _ _

theorem isSlugChar_safe {c : Nat} (h : isSlugChar c = true) : isSafe c = true := by
  simp only [isSlugChar,Bool.or_eq_true,decide_eq_true_eq,beq_iff_eq] at h
  have notSlash : c ≠ slash := by unfold slash; omega
  exact decide_eq_true ⟨by omega,by omega,notSlash⟩

/-- What an acquisition reports about its source: strings, whole numbers and flags in a
dictionary of small depth. -/
structure Metadata where
  fields : List (Str × Json)
  encodable : (Json.obj fields).Encodable
  shallow : (Json.obj fields).depth ≤ 12

def Metadata.json (metadata : Metadata) : Json := .obj metadata.fields

/-- Python integers that a 64-bit column and a file size hold. -/
def maxSize : Nat := 2 ^ 63

structure Artifact where
  content : List Nat
  fits : content.length < maxSize

structure Publication where
  runUuid : SafeText 36
  profileName : Str
  /-- `local_run_stamp(now, timezone)`. -/
  stamp : SafeText 40
  /-- `now.isoformat()`. -/
  createdAt : SafeText 40
  extensions : SafeText 20
  metadata : Metadata
  artifact : Artifact
  originalSizeBytes : Nat
  originalFits : originalSizeBytes < maxSize

def underscore : Nat := 95

def artifactFilename (profileName stamp extensions : Str) : Str :=
  safeSlug profileName ++ underscore :: stamp ++ extensions

def pendingDirectoryPath (pendingRoot : Path) (profileName runUuid stamp : Str) : Path :=
  pendingRoot ++ [safeSlug profileName,stamp ++ underscore :: runUuid.take 8]

namespace Publication

def filename (p : Publication) : Str := artifactFilename p.profileName p.stamp.text p.extensions.text

def directory (p : Publication) (pendingRoot : Path) : Path :=
  pendingDirectoryPath pendingRoot p.profileName p.runUuid.text p.stamp.text

/-- The contents that `_split_artifact` writes, in order. -/
def chunks (p : Publication) (limit : Nat) : List (List Nat) :=
  let size := p.artifact.content.length
  if limit < size then
    (List.range ((size + limit - 1) / limit)).map fun i => (p.artifact.content.drop (i * limit)).take limit
  else []

def partAt (p : Publication) (limit number : Nat) : Str :=
  partName p.filename (partWidth (p.chunks limit).length) number

def numbered (p : Publication) (limit : Nat) : Nat → List (List Nat) → List (Str × Nat × List Nat)
  | _, [] => []
  | number, chunk :: rest => (p.partAt limit number,number,chunk) :: p.numbered limit (number + 1) rest

def parts (p : Publication) (limit : Nat) : List (Str × Nat × List Nat) := p.numbered limit 1 (p.chunks limit)

def partFieldsOf (os : Platform) (part : Str × Nat × List Nat) : List (Str × Json) :=
  [(str "filename",.str part.1),(str "number",.int part.2.1),
    (str "size_bytes",.int part.2.2.length),(str "sha256",.str (os.hash.digest part.2.2))]

def partDocument (os : Platform) (part : Str × Nat × List Nat) : Json := .obj (partFieldsOf os part)

def documentFields (p : Publication) (os : Platform) (limit : Nat) : List (Str × Json) :=
  [(str "schema",.int (if p.parts limit = [] then 1 else 2)),
    (str "run_uuid",.str p.runUuid.text),
    (str "filename",.str p.filename),
    (str "size_bytes",.int p.artifact.content.length),
    (str "original_size_bytes",.int p.originalSizeBytes),
    (str "sha256",.str (os.hash.digest p.artifact.content)),
    (str "created_at",.str p.createdAt.text),
    (str "metadata",p.metadata.json)] ++
    if p.parts limit = [] then [] else [(str "parts",.arr ((p.parts limit).map (partDocument os)))]

def document (p : Publication) (os : Platform) (limit : Nat) : Json := .obj (p.documentFields os limit)

/-- The bytes of `manifest.json`; the writer escapes everything that is not ASCII. -/
def manifest (p : Publication) (os : Platform) (limit : Nat) : List Nat := (p.document os limit).dump

end Publication

inductive FsStep where
  | mkdir
  | write (name : Str) (content : List Nat)
  | rename (source target : Str)
  | unlink (name : Str)

def Dir.empty : Dir := fun _ => none

def Dir.put (d : Dir) (name : Str) (content : List Nat) : Dir :=
  Function.update d name (some (.plain (.file content true)))

def FsStep.apply : FsStep → Option Dir → Option Dir
  | .mkdir, _ => some Dir.empty
  | .write name content, d => d.map fun d => d.put name content
  | .rename source target, d => d.map fun d => Function.update (Function.update d target (d source)) source none
  | .unlink name, d => d.map fun d => Function.update d name none

def applySteps (steps : List FsStep) (d : Option Dir) : Option Dir :=
  steps.foldl (fun d step => step.apply d) d

/-- A file that appears under its own name only when it is complete. -/
def publishSteps (temporary name : Str) (content : List Nat) (torn : Nat) : List FsStep :=
  [.write temporary [],.write temporary (content.take torn),.write temporary content,.rename temporary name]

def temporaryName (name : Str) : Str := dot :: name ++ str ".tmp"

namespace Publication

def partSteps (p : Publication) (limit torn : Nat) : List FsStep :=
  (p.parts limit).flatMap fun part => publishSteps (temporaryName part.1) part.1 part.2.2 torn

def unpublishedSteps (p : Publication) (os : Platform) (limit torn : Nat) : List FsStep :=
  .mkdir :: .write p.filename p.artifact.content :: p.partSteps limit torn ++
    (publishSteps (temporaryName manifestName) manifestName (p.manifest os limit) torn).dropLast

def publishedSteps (p : Publication) (limit : Nat) : List FsStep :=
  .rename (temporaryName manifestName) manifestName ::
    if p.parts limit = [] then [] else [.unlink p.filename]

/-- All steps of `finalize_artifact`; `torn` is how much of a temporary file its first
write leaves. -/
def steps (p : Publication) (os : Platform) (limit torn : Nat) : List FsStep :=
  p.unpublishedSteps os limit torn ++ p.publishedSteps limit

def finalized (p : Publication) (os : Platform) (pendingRoot : Path) (limit : Nat) : FinalizedArtifact :=
  ⟨p.directory pendingRoot,p.filename,os.hash.digest p.artifact.content,p.artifact.content.length,
    (p.parts limit).map fun part => ⟨part.1,part.2.1,part.2.2.length,os.hash.digest part.2.2⟩,
    some p.originalSizeBytes⟩

end Publication

end BackupTelebot
