import BackupTelebot.Errors
import BackupTelebot.JsonRoundTrip

/-! The pending directory of one run, as `finalize.py` reads it: `verify_pending`,
`delivery_artifacts` and `recover_finalized`. The directory itself is a real directory
of this process; its entries may be anything. -/
namespace BackupTelebot

open PyJson

abbrev Path := List Str

inductive Plain where
  | file (content : List Nat) (readable : Bool)
  | dir
  | special

inductive Target where
  | broken
  | denied
  | plain (target : Plain)

inductive Entry where
  | plain (entry : Plain)
  | link (target : Target)

abbrev Dir := Str → Option Entry

/-- `hashlib.sha256(...).hexdigest()`. -/
structure Hash where
  digest : List Nat → Str
  length : ∀ bytes, (digest bytes).length = 64
  hex : ∀ bytes, ∀ c ∈ digest bytes, 32 ≤ c ∧ c ≤ 126

structure Platform where
  hash : Hash
  /-- How deep `json.loads` may nest before the interpreter's recursion limit. -/
  recursion : Nat
  enough : 16 ≤ recursion

def isSurrogate (c : Nat) : Bool := decide (0xD800 ≤ c ∧ c ≤ 0xDFFF)

/-- `os.fsencode` accepts the surrogates that stand for single bytes. -/
def fsEncodable (c : Nat) : Bool := c ≠ 0 && (!isSurrogate c || decide (0xDC80 ≤ c ∧ c ≤ 0xDCFF))

def encodedLength (c : Nat) : Nat :=
  if c < 0x80 then 1
  else if c < 0x800 then 2
  else if isSurrogate c then 1
  else if c < 0x10000 then 3
  else 4

inductive NameFault where
  | value
  | tooLong
  deriving DecidableEq, Repr

/-- Why a name never reaches the directory: it has no encoding, or more than 255 bytes. -/
def nameFault (name : Str) : Option NameFault :=
  if !name.all fsEncodable then some .value
  else if 255 < (name.map encodedLength).sum then some .tooLong
  else none

def slash : Nat := 47
def dot : Nat := 46

/-- `directory / name` without following a final link; the two dots and the empty name
are directories. -/
def Dir.at (d : Dir) (name : Str) : Option Entry :=
  if name = [] ∨ name = [dot] ∨ name = [dot,dot] then some (.plain .dir) else d name

def Entry.followed : Option Entry → Except Failure (Option Plain)
  | none => .ok none
  | some (.plain entry) => .ok (some entry)
  | some (.link .broken) => .ok none
  | some (.link .denied) => .error (.builtin "PermissionError")
  | some (.link (.plain target)) => .ok (some target)

/-- `path.stat()`, where a missing file is `none`. `Path.exists` and `Path.is_file` take a
name without an encoding for a missing file; a name that is too long they raise. -/
def Dir.stat (d : Dir) (name : Str) : Except Failure (Option Plain) :=
  match nameFault name with
  | some .value => .ok none
  | some .tooLong => .error (.builtin "OSError" .transient)
  | none => Entry.followed (d.at name)

def Dir.exists_ (d : Dir) (name : Str) : Except Failure Bool := (d.stat name).map Option.isSome

def manifestName : Str := str "manifest.json"

structure ArtifactPart where
  path : Str
  number : Nat
  size : Int
  checksum : Str
  deriving DecidableEq, Repr

def missing : Failure := .pipeline "PENDING_ARTIFACT_MISSING"
def mismatch : Failure := .pipeline "PENDING_CHECKSUM_MISMATCH"
def invalidManifest : Failure := .pipeline "INVALID_MANIFEST"
def invalidPath : Failure := .pipeline "INVALID_PENDING_PATH"

/-- `_verify_pending`; returns the bytes it hands to `consume`. Every `OSError` inside is
an artifact that is missing; a name without an encoding is no `OSError`. -/
def verifyPending (os : Platform) (d : Dir) (name : Str) (expectedSize : Int) (expectedSha256 : Str) :
    Except Failure (List Nat) :=
  match nameFault name with
  | some .value => .error (.builtin "ValueError")
  | some .tooLong => .error missing
  | none =>
    match d.at name with
    | some (.plain (.file content readable)) =>
        if (content.length : Int) ≠ expectedSize then .error missing
        else if !readable then .error missing
        else if os.hash.digest content ≠ expectedSha256 then .error mismatch
        else .ok content
    | _ => .error missing

/-- `f"{number:0{width}d}"`. -/
def padded (width number : Nat) : Str :=
  List.replicate (width - (dumpNat number).length) 48 ++ dumpNat number

def partWidth (total : Nat) : Nat := max 3 (dumpNat total).length

def partName (filename : Str) (width number : Nat) : Str := filename ++ str ".part" ++ padded width number

/-- Python's `value == n` for an integer of either sign. -/
def eqInt (value : Json) (n : Int) : Bool :=
  match value with
  | .int v => v == n
  | .bool b => (if b then 1 else 0) == n
  | .float literal =>
      if 0 ≤ n then floatEq literal n.toNat
      else match literal with
        | 45 :: digits => floatEq digits n.natAbs
        | _ => false
  | _ => false

/-- The checks of one entry of `parts` that need no file. -/
def partFields (filename : Str) (width number : Nat) (raw : Json) : Option (Int × Str) :=
  match raw with
  | .obj fields =>
    match (lookup (str "size_bytes") fields).bind Json.asInt, (lookup (str "sha256") fields).bind Json.asStr with
    | some size, some checksum =>
        if (lookup (str "number") fields).any (eqInt · number) ∧
            (lookup (str "filename") fields).any (Json.eqStr · (partName filename width number)) ∧
            0 < size ∧ checksum.length = 64 then
          some (size,checksum)
        else none
    | _, _ => none
  | _ => none

/-- The loop of `_verified_parts`, with the bytes that went into the combined digest. -/
def verifyParts (os : Platform) (d : Dir) (filename : Str) (width : Nat) :
    Nat → List Json → Except Failure (List ArtifactPart × List Nat)
  | _, [] => .ok ([],[])
  | number, raw :: rest =>
    match partFields filename width number raw with
    | none => .error invalidManifest
    | some (size,checksum) => do
      let content ← verifyPending os d (partName filename width number) size checksum
      let (parts,bytes) ← verifyParts os d filename width (number + 1) rest
      .ok (⟨partName filename width number,number,size,checksum⟩ :: parts,content ++ bytes)

def verifiedParts (os : Platform) (d : Dir) (filename : Str) (expectedSize : Int) (expectedSha256 : Str)
    (document : Json) : Except Failure (List ArtifactPart) :=
  match document.get (str "parts") with
  | some (.arr (first :: rest)) => do
      let (parts,bytes) ← verifyParts os d filename (partWidth (rest.length + 1)) 1 (first :: rest)
      if (parts.map ArtifactPart.size).sum ≠ expectedSize ∨ os.hash.digest bytes ≠ expectedSha256 then
        .error mismatch
      else .ok parts
  | _ => .error invalidManifest

def maxManifestBytes : Nat := 1048576

/-- `manifest.read_text` and `json.loads`. Text mode turns carriage returns into line
feeds, which JSON does not tell apart. -/
def readManifest (os : Platform) (content : List Nat) (readable : Bool) : Except Failure Json :=
  if !readable then .error (.builtin "PermissionError")
  else match decodeUtf8 content with
    | .error _ => .error (.builtin "UnicodeDecodeError")
    | .ok text =>
      match loads os.recursion text with
      | .error .recursion => .error (.builtin "RecursionError")
      | .error .digits => .error (.builtin "ValueError")
      | .error _ => .error (.builtin "JSONDecodeError")
      | .ok document => .ok document

/-- The manifest, once it is a regular file of at most 1 MiB. Whatever is not a
dictionary has no method `get`. -/
def manifestDocument (os : Platform) (d : Dir) : Except Failure Json := do
  match ← d.stat manifestName with
  | some (.file content readable) =>
      if maxManifestBytes < content.length then .error invalidManifest
      else
        let document ← readManifest os content readable
        if document.isObj then .ok document else .error (.builtin "AttributeError")
  | _ => .error invalidManifest

def single (filename : Str) (size : Int) (sha256 : Str) : List ArtifactPart := [⟨filename,1,size,sha256⟩]

/-- `artifact.exists() and not manifest.exists()`. -/
def unpublished (d : Dir) (filename : Str) : Except Failure Bool := do
  if ← d.exists_ filename then
    return !(← d.exists_ manifestName)
  else
    return false

def verifySingle (os : Platform) (d : Dir) (filename : Str) (size : Int) (sha256 : Str) :
    Except Failure (List ArtifactPart) := do
  let _ ← verifyPending os d filename size sha256
  return single filename size sha256

def hasSchema (document : Json) (n : Int) : Bool := (document.get (str "schema")).any (eqInt · n)

def fieldsMatch (document : Json) (filename : Str) (size : Int) (sha256 : Str) : Bool :=
  (document.get (str "filename")).any (Json.eqStr · filename) &&
    (document.get (str "size_bytes")).any (eqInt · size) &&
    (document.get (str "sha256")).any (Json.eqStr · sha256)

def documentArtifacts (os : Platform) (d : Dir) (filename : Str) (expectedSize : Int)
    (expectedSha256 : Str) (document : Json) : Except Failure (List ArtifactPart) :=
  if !fieldsMatch document filename expectedSize expectedSha256 then .error invalidManifest
  else if hasSchema document 2 then verifiedParts os d filename expectedSize expectedSha256 document
  else if !hasSchema document 1 then .error invalidManifest
  else verifySingle os d filename expectedSize expectedSha256

/-- `delivery_artifacts`: the single final artifact or its ordered parts. -/
def deliveryArtifacts (os : Platform) (d : Dir) (filename : Str) (expectedSize : Int)
    (expectedSha256 : Str) : Except Failure (List ArtifactPart) := do
  if ← unpublished d filename then
    verifySingle os d filename expectedSize expectedSha256
  else
    let document ← manifestDocument os d
    documentArtifacts os d filename expectedSize expectedSha256 document

structure FinalizedArtifact where
  directory : Path
  artifact : Str
  checksum : Str
  size : Int
  parts : List ArtifactPart
  originalSizeBytes : Option Int
  deriving DecidableEq, Repr

/-- `Path(filename).name == filename`. -/
def isFileName (filename : Str) : Bool := filename ≠ [dot] && !filename.contains slash

/-- The last component of a path; a pending directory has one. -/
def pathName (path : Path) : Str := path.getLast?.getD []

/-- `artifact.name`; an empty file name leaves the directory itself. -/
def FinalizedArtifact.name (finalized : FinalizedArtifact) : Str :=
  if finalized.artifact = [] then pathName finalized.directory else finalized.artifact

def ownedName (runUuid name : Str) : Bool := (95 :: runUuid.take 8).isSuffixOf name

/-- `type(value) is int and value >= 0`, or no value at all. -/
def originalSize (document : Json) : Option (Option Int) :=
  match document.get (str "original_size_bytes") with
  | none | some .null => some none
  | some (.int v) => if 0 ≤ v then some (some v) else none
  | some _ => none

/-- The fields of a manifest that recovery takes over, when their types are right. -/
def recoveredFields (document : Json) : Option (Str × Int × Str × Json × Option Int) := do
  let filename ← (document.get (str "filename")).bind Json.asStr
  let size ← (document.get (str "size_bytes")).bind Json.asInt
  let checksum ← (document.get (str "sha256")).bind Json.asStr
  let metadata ← document.get (str "metadata")
  let original ← originalSize document
  if isFileName filename && metadata.isObj then some (filename,size,checksum,metadata,original) else none

/-- `document.get("schema") in {1, 2}`, which raises for a value without a hash. -/
def schemaKnown (document : Json) : Except Failure Bool :=
  match document.get (str "schema") with
  | none => .ok false
  | some schema => if schema.hashable then .ok (eqInt schema 1 || eqInt schema 2)
      else .error (.builtin "TypeError")

def hasOwner (document : Json) (runUuid : Str) : Bool :=
  (document.get (str "run_uuid")).any (Json.eqStr · runUuid)

/-- `recover_finalized` after the checks of the path. -/
def recoverDirectory (os : Platform) (directory : Path) (d : Dir) (runUuid : Str) :
    Except Failure (FinalizedArtifact × Json) := do
  let document ← manifestDocument os d
  let known ← schemaKnown document
  if !known || !hasOwner document runUuid then
    throw invalidManifest
  match recoveredFields document with
  | none => throw invalidManifest
  | some (filename,size,checksum,metadata,original) =>
    let parts ← deliveryArtifacts os d filename size checksum
    return (⟨directory,filename,checksum,size,if hasSchema document 2 then parts else [],original⟩,metadata)

/-- `recover_finalized`: nothing when the directory does not exist. -/
def recoverFinalized (os : Platform) (pendingRoot : Path) (spool : Path → Option Dir) (directory : Path)
    (runUuid : Str) : Except Failure (Option (FinalizedArtifact × Json)) :=
  match spool directory with
  | none => .ok none
  | some d =>
    if directory.dropLast.dropLast ≠ pendingRoot ∨ !ownedName runUuid (pathName directory) then
      .error invalidPath
    else (recoverDirectory os directory d runUuid).map some

end BackupTelebot
