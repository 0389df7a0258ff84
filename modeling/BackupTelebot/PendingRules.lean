import BackupTelebot.Pending

/-! What verification of a pending directory guarantees, and exactly which directories
make it end in one of its own error codes. -/
namespace BackupTelebot

open PyJson

theorem except_bind_ok {α β : Type} {x : Except Failure α} {f : α → Except Failure β} {value : β} :
    (x >>= f) = .ok value ↔ ∃ a, x = .ok a ∧ f a = .ok value := by
  cases x with
  | error e => simp [bind,Except.bind]
  | ok a => simp [bind,Except.bind]

@[simp] theorem except_ok_bind {α β : Type} (a : α) (f : α → Except Failure β) :
    ((.ok a : Except Failure α) >>= f) = f a := rfl
@[simp] theorem except_error_bind {α β : Type} (e : Failure) (f : α → Except Failure β) :
    ((.error e : Except Failure α) >>= f) = .error e := rfl
@[simp] theorem except_pure {α : Type} (a : α) : (pure a : Except Failure α) = .ok a := rfl
@[simp] theorem except_throw {α : Type} (e : Failure) : (throw e : Except Failure α) = .error e := rfl

def partBytes (d : Dir) (part : ArtifactPart) : Option (List Nat) :=
  match d.at part.path with
  | some (.plain (.file content _)) => some content
  | _ => none

structure Intact (os : Platform) (d : Dir) (size : Int) (sha256 : Str) (parts : List ArtifactPart) : Prop where
  numbered : parts.map ArtifactPart.number = List.range' 1 parts.length
  bytes : ∃ contents : List (List Nat), parts.map (partBytes d) = contents.map some ∧
    (contents.flatten.length : Int) = size ∧ os.hash.digest contents.flatten = sha256 ∧
    parts.map ArtifactPart.size = contents.map fun content => (content.length : Int)

theorem verifyPending_ok {os : Platform} {d : Dir} {name : Str} {size : Int} {sha256 : Str} {content : List Nat}
    (h : verifyPending os d name size sha256 = .ok content) :
    (∃ readable, d.at name = some (.plain (.file content readable))) ∧ (content.length : Int) = size ∧
      os.hash.digest content = sha256 := by
  unfold verifyPending at h
  split at h
  · contradiction
  · contradiction
  · split at h
    · rename_i found readable at_
      split_ifs at h with length unreadable digest
      obtain rfl := Except.ok.inj h
      exact ⟨⟨readable,at_⟩,not_not.mp length,not_not.mp digest⟩
    · contradiction

theorem verifyParts_ok {os : Platform} {d : Dir} {filename : Str} {width number : Nat} {raws : List Json}
    {parts : List ArtifactPart} {bytes : List Nat}
    (h : verifyParts os d filename width number raws = .ok (parts,bytes)) :
    parts.map ArtifactPart.number = List.range' number parts.length ∧
      ∃ contents : List (List Nat), parts.map (partBytes d) = contents.map some ∧ contents.flatten = bytes ∧
        parts.map ArtifactPart.size = contents.map fun content => (content.length : Int) := by
  induction raws generalizing number parts bytes with
  | nil =>
    obtain ⟨rfl,rfl⟩ : [] = parts ∧ [] = bytes := by simpa [verifyParts] using h
    exact ⟨rfl,[],rfl,rfl,rfl⟩
  | cons raw rest ih =>
    unfold verifyParts at h
    split at h
    · contradiction
    · rename_i size checksum fields
      obtain ⟨content,verified,h⟩ := except_bind_ok.mp h
      obtain ⟨⟨later,tail⟩,recursive,h⟩ := except_bind_ok.mp h
      obtain ⟨numbers,contents,read,joined,sizes⟩ := ih recursive
      obtain ⟨⟨readable,at_⟩,length,-⟩ := verifyPending_ok verified
      simp only [Except.ok.injEq,Prod.mk.injEq] at h
      obtain ⟨rfl,rfl⟩ := h
      refine ⟨?_,content :: contents,?_,?_,?_⟩
      · simp [numbers,List.range'_succ]
      · simp [partBytes,at_,read]
      · simp [joined]
      · simp [length,sizes]

theorem sum_lengths (contents : List (List Nat)) :
    (contents.map fun content => (content.length : Int)).sum = (contents.flatten.length : Int) := by
  induction contents with
  | nil => rfl
  | cons content rest ih => simp [ih]

theorem verifiedParts_intact {os : Platform} {d : Dir} {filename : Str} {size : Int} {sha256 : Str}
    {document : Json} {parts : List ArtifactPart}
    (h : verifiedParts os d filename size sha256 document = .ok parts) : Intact os d size sha256 parts := by
  unfold verifiedParts at h
  split at h
  · obtain ⟨⟨found,bytes⟩,verified,h⟩ := except_bind_ok.mp h
    obtain ⟨numbers,contents,read,rfl,sizes⟩ := verifyParts_ok verified
    simp only at h
    split_ifs at h with wrong
    obtain rfl := Except.ok.inj h
    simp only [not_or,not_not] at wrong
    refine ⟨numbers,contents,read,?_,wrong.2,sizes⟩
    rw [← sum_lengths,← sizes]
    exact wrong.1
  · contradiction

theorem verifySingle_intact {os : Platform} {d : Dir} {filename : Str} {size : Int} {sha256 : Str}
    {parts : List ArtifactPart} (h : verifySingle os d filename size sha256 = .ok parts) :
    Intact os d size sha256 parts := by
  obtain ⟨content,verified,h⟩ := except_bind_ok.mp h
  obtain ⟨⟨readable,at_⟩,length,digest⟩ := verifyPending_ok verified
  obtain rfl := Except.ok.inj h
  exact ⟨rfl,[content],by simp [single,partBytes,at_],by simpa using length,by simpa using digest,
    by simp [single,length]⟩

theorem documentArtifacts_intact {os : Platform} {d : Dir} {filename : Str} {size : Int} {sha256 : Str}
    {document : Json} {parts : List ArtifactPart}
    (h : documentArtifacts os d filename size sha256 document = .ok parts) : Intact os d size sha256 parts := by
  unfold documentArtifacts at h
  split_ifs at h
  · exact verifiedParts_intact h
  · exact verifySingle_intact h

theorem deliveryArtifacts_intact {os : Platform} {d : Dir} {filename : Str} {size : Int} {sha256 : Str}
    {parts : List ArtifactPart} (h : deliveryArtifacts os d filename size sha256 = .ok parts) :
    Intact os d size sha256 parts := by
  obtain ⟨fresh,-,h⟩ := except_bind_ok.mp h
  cases fresh with
  | true => exact verifySingle_intact h
  | false =>
    obtain ⟨document,-,h⟩ := except_bind_ok.mp h
    exact documentArtifacts_intact h

def spoolCodes : List String :=
  ["PENDING_ARTIFACT_MISSING","PENDING_CHECKSUM_MISMATCH","INVALID_MANIFEST","INVALID_PENDING_PATH"]

def Coded (e : Failure) : Prop := ∃ code ∈ spoolCodes, e.code = some code

/-- A result, or a refusal with one of the codes. -/
def Settled {α : Type} (result : Except Failure α) : Prop := ∀ e, result = .error e → Coded e

@[simp] theorem settled_ok {α : Type} (a : α) : Settled (.ok a : Except Failure α) := by
  intro e impossible
  contradiction

@[simp] theorem settled_error {α : Type} {e : Failure} : Settled (.error e : Except Failure α) ↔ Coded e := by
  constructor
  · intro settled
    exact settled e rfl
  · rintro coded e ⟨⟩
    exact coded

theorem settled_bind {α β : Type} {x : Except Failure α} {f : α → Except Failure β} :
    Settled (x >>= f) ↔ Settled x ∧ ∀ a, x = .ok a → Settled (f a) := by
  cases x with
  | error e => simp
  | ok a => simp

@[simp] theorem coded_missing : Coded missing := ⟨_,by decide,rfl⟩
@[simp] theorem coded_mismatch : Coded mismatch := ⟨_,by decide,rfl⟩
@[simp] theorem coded_invalidManifest : Coded invalidManifest := ⟨_,by decide,rfl⟩
@[simp] theorem coded_invalidPath : Coded invalidPath := ⟨_,by decide,rfl⟩
@[simp] theorem not_coded_builtin (name : String) (kind : DeliveryErrorKind) :
    ¬Coded (.builtin name kind) := by
  rintro ⟨code,-,impossible⟩
  contradiction

theorem verifyPending_settled {os : Platform} {d : Dir} {name : Str} {size : Int} {sha256 : Str} :
    Settled (verifyPending os d name size sha256) ↔ nameFault name ≠ some .value := by
  unfold verifyPending
  split
  · rename_i fault
    simp [fault]
  · rename_i fault
    simp [fault]
  · rename_i fault
    simp only [fault,ne_eq,reduceCtorEq,not_false_eq_true,iff_true]
    split
    · split_ifs <;> simp
    · simp

theorem padded_digit (width number : Nat) : ∀ c ∈ padded width number, 48 ≤ c ∧ c ≤ 57 := by
  intro c member
  rcases List.mem_append.mp member with zeros | digits
  · obtain rfl := List.eq_of_mem_replicate zeros
    decide
  · exact dumpNat_digit number c digits

theorem partSuffix_encodable (width number : Nat) : (str ".part" ++ padded width number).all fsEncodable = true := by
  rw [List.all_append,Bool.and_eq_true]
  refine ⟨by decide,List.all_eq_true.mpr fun c member => ?_⟩
  have digit := padded_digit width number c member
  simp [fsEncodable,isSurrogate]
  omega

/-- A part has a name the system can encode exactly when its artifact has. -/
theorem nameFault_partName (filename : Str) (width number : Nat) :
    nameFault (partName filename width number) = some .value ↔ nameFault filename = some .value := by
  have value (name : Str) : nameFault name = some .value ↔ name.all fsEncodable = false := by
    unfold nameFault
    split_ifs <;> simp_all
  rw [value,value,partName,List.append_assoc,List.all_append,partSuffix_encodable,Bool.and_true]

theorem verifyParts_settled_of {os : Platform} {d : Dir} {filename : Str} {width number : Nat} {raws : List Json}
    (encodable : nameFault filename ≠ some .value) : Settled (verifyParts os d filename width number raws) := by
  induction raws generalizing number with
  | nil => simp [verifyParts]
  | cons raw rest ih =>
    unfold verifyParts
    split
    · simp
    · refine settled_bind.mpr ⟨?_,fun content _ => settled_bind.mpr ⟨ih,fun _ _ => settled_ok _⟩⟩
      rw [verifyPending_settled,ne_eq,nameFault_partName]
      exact encodable

/-- The manifest passes every check that comes before a file is looked up by name. -/
def Verifies (document : Json) (filename : Str) (size : Int) (sha256 : Str) : Prop :=
  fieldsMatch document filename size sha256 = true ∧
    if hasSchema document 2 then
      ∃ first rest, document.get (str "parts") = some (.arr (first :: rest)) ∧
        partFields filename (partWidth (rest.length + 1)) 1 first ≠ none
    else hasSchema document 1 = true

theorem verifiedParts_settled {os : Platform} {d : Dir} {filename : Str} {size : Int} {sha256 : Str}
    {document : Json} : Settled (verifiedParts os d filename size sha256 document) ↔
      (nameFault filename = some .value → ¬∃ first rest, document.get (str "parts") = some (.arr (first :: rest)) ∧
        partFields filename (partWidth (rest.length + 1)) 1 first ≠ none) := by
  unfold verifiedParts
  split
  · rename_i first rest parts
    have loop : Settled (verifyParts os d filename (partWidth (rest.length + 1)) 1 (first :: rest)) ↔
        (nameFault filename = some .value → partFields filename (partWidth (rest.length + 1)) 1 first = none) := by
      by_cases fault : nameFault filename = some .value
      · unfold verifyParts
        split
        · rename_i none_
          simp [none_]
        · rename_i size checksum fields
          have refused : ¬Settled (verifyPending os d (partName filename (partWidth (rest.length + 1)) 1) size
              checksum) := by
            rw [verifyPending_settled,ne_eq,not_not,nameFault_partName]
            exact fault
          simp [settled_bind,refused,fault,fields]
      · simp [verifyParts_settled_of fault,fault]
    rw [settled_bind,loop]
    constructor
    · rintro ⟨here,-⟩ fault ⟨first',rest',same,fields⟩
      simp only [parts,Option.some.injEq,Json.arr.injEq,List.cons.injEq] at same
      obtain ⟨rfl,rfl⟩ := same
      exact fields (here fault)
    · intro here
      refine ⟨fun fault => not_not.mp fun fields => here fault ⟨first,rest,parts,fields⟩,?_⟩
      rintro ⟨found,bytes⟩ -
      simp only
      split_ifs <;> simp
  · rename_i other
    simp only [settled_error,coded_invalidManifest,true_iff]
    rintro - ⟨first,rest,parts,-⟩
    exact other first rest parts

theorem verifySingle_settled {os : Platform} {d : Dir} {filename : Str} {size : Int} {sha256 : Str} :
    Settled (verifySingle os d filename size sha256) ↔ nameFault filename ≠ some .value := by
  rw [verifySingle,settled_bind,verifyPending_settled]
  simp

theorem documentArtifacts_settled {os : Platform} {d : Dir} {filename : Str} {size : Int} {sha256 : Str}
    {document : Json} : Settled (documentArtifacts os d filename size sha256 document) ↔
      (nameFault filename = some .value → ¬Verifies document filename size sha256) := by
  unfold documentArtifacts Verifies
  by_cases fields : fieldsMatch document filename size sha256 = true
  · by_cases two : hasSchema document 2 = true
    · simp [fields,two,verifiedParts_settled]
    · by_cases one : hasSchema document 1 = true
      · simp [fields,two,one,verifySingle_settled]
      · simp [fields,two,one]
  · simp [fields]

/-- The manifest can be looked at, and if it is a file of at most 1 MiB it can be read and
holds a JSON dictionary in UTF-8. -/
def ManifestReads (os : Platform) (d : Dir) : Prop :=
  match d.stat manifestName with
  | .error _ => False
  | .ok (some (.file content readable)) => content.length ≤ maxManifestBytes → readable = true ∧
      ∃ text document, decodeUtf8 content = .ok text ∧ loads os.recursion text = .ok document ∧
        document.isObj = true
  | .ok _ => True

theorem readManifest_ok {os : Platform} {content : List Nat} {readable : Bool} {document : Json} :
    readManifest os content readable = .ok document ↔
      readable = true ∧ ∃ text, decodeUtf8 content = .ok text ∧ loads os.recursion text = .ok document := by
  unfold readManifest
  cases readable with
  | false => simp
  | true =>
    cases decoded : decodeUtf8 content with
    | error e => simp
    | ok text =>
      cases parsed : loads os.recursion text with
      | error e => cases e <;> simp [parsed]
      | ok found => simp [parsed]

theorem readManifest_settled {os : Platform} {content : List Nat} {readable : Bool} :
    Settled (readManifest os content readable) ↔ ∃ document, readManifest os content readable = .ok document := by
  unfold readManifest
  cases readable with
  | false => simp
  | true =>
    cases decoded : decodeUtf8 content with
    | error e => simp
    | ok text =>
      cases parsed : loads os.recursion text with
      | error e => cases e <;> simp [parsed]
      | ok found => simp [parsed]

theorem stat_settled {d : Dir} {name : Str} : Settled (d.stat name) ↔ ∃ found, d.stat name = .ok found := by
  unfold Dir.stat
  split
  · simp
  · simp
  · unfold Entry.followed
    split <;> simp

theorem manifestDocument_settled {os : Platform} {d : Dir} :
    Settled (manifestDocument os d) ↔ ManifestReads os d := by
  unfold manifestDocument ManifestReads
  rw [settled_bind,stat_settled]
  cases found : d.stat manifestName with
  | error e => simp
  | ok entry =>
    simp only [Except.ok.injEq,exists_eq',true_and,forall_eq']
    split
    · rename_i content readable
      by_cases large : maxManifestBytes < content.length
      · simp [large]
      · simp only [if_neg large,Nat.not_lt.mp large,forall_const]
        rw [settled_bind,readManifest_settled]
        constructor
        · rintro ⟨⟨document,read⟩,after⟩
          obtain ⟨isReadable,text,decoded,parsed⟩ := readManifest_ok.mp read
          refine ⟨isReadable,text,document,decoded,parsed,?_⟩
          by_contra notObject
          simpa [notObject] using after document read
        · rintro ⟨isReadable,text,document,decoded,parsed,object⟩
          have read := readManifest_ok.mpr ⟨isReadable,text,decoded,parsed⟩
          refine ⟨⟨document,read⟩,fun other same => ?_⟩
          obtain rfl := Except.ok.inj (read.symm.trans same)
          simp [object]
    · simp

/-- Everything the verification of a recorded artifact has to read can be read. -/
def DeliveryReads (os : Platform) (d : Dir) (filename : Str) (size : Int) (sha256 : Str) : Prop :=
  ∃ found, d.stat filename = .ok found ∧
    (found.isSome = true ∧ d.stat manifestName = .ok none ∨
      ManifestReads os d ∧ (nameFault filename = some .value →
        ∀ document, manifestDocument os d = .ok document → ¬Verifies document filename size sha256))

theorem nameFault_of_stat {d : Dir} {name : Str} {entry : Plain} (h : d.stat name = .ok (some entry)) :
    nameFault name = none := by
  unfold Dir.stat at h
  split at h
  · simp at h
  · simp at h
  · assumption

theorem deliveryArtifacts_settled {os : Platform} {d : Dir} {filename : Str} {size : Int} {sha256 : Str} :
    Settled (deliveryArtifacts os d filename size sha256) ↔ DeliveryReads os d filename size sha256 := by
  have published : Settled (do
      let document ← manifestDocument os d
      documentArtifacts os d filename size sha256 document) ↔
      ManifestReads os d ∧ (nameFault filename = some .value →
        ∀ document, manifestDocument os d = .ok document → ¬Verifies document filename size sha256) := by
    rw [settled_bind,manifestDocument_settled]
    simp only [documentArtifacts_settled]
    tauto
  unfold deliveryArtifacts DeliveryReads unpublished Dir.exists_
  cases artifact : d.stat filename with
  | error e =>
    have refused := stat_settled.not.mpr (by simp [artifact] : ¬∃ found, d.stat filename = .ok found)
    rw [artifact,settled_error] at refused
    simpa [Except.map] using refused
  | ok found =>
    cases found with
    | none => simpa [Except.map] using published
    | some entry =>
      have encodable := nameFault_of_stat artifact
      cases manifest : d.stat manifestName with
      | error e =>
        have refused := stat_settled.not.mpr (by simp [manifest] : ¬∃ found, d.stat manifestName = .ok found)
        rw [manifest,settled_error] at refused
        simpa [Except.map,ManifestReads,manifest] using refused
      | ok found =>
        cases found with
        | none => simp [Except.map,verifySingle_settled,encodable]
        | some entry => simpa [Except.map,manifest] using published

/-- The directory can be read as far as recovery goes: the schema can be looked up in a
set, and a manifest that claims to be this run's names an artifact that can be read. -/
def RecoveryReads (os : Platform) (d : Dir) (runUuid : Str) : Prop :=
  ManifestReads os d ∧ ∀ document, manifestDocument os d = .ok document →
    ((document.get (str "schema")).all Json.hashable = true ∧
      (schemaKnown document = .ok true → hasOwner document runUuid = true →
        ∀ filename size checksum metadata original,
          recoveredFields document = some (filename,size,checksum,metadata,original) →
            DeliveryReads os d filename size checksum))

theorem schemaKnown_settled {document : Json} :
    Settled (schemaKnown document) ↔ (document.get (str "schema")).all Json.hashable = true := by
  unfold schemaKnown
  cases document.get (str "schema") with
  | none => simp
  | some schema =>
    by_cases hashable : schema.hashable = true
    · simp [hashable]
    · simp [hashable]

theorem recoverDirectory_settled {os : Platform} {directory : Path} {d : Dir} {runUuid : Str} :
    Settled (recoverDirectory os directory d runUuid) ↔ RecoveryReads os d runUuid := by
  unfold recoverDirectory RecoveryReads
  rw [settled_bind,manifestDocument_settled]
  refine and_congr_right fun _ => forall₂_congr fun document _ => ?_
  rw [settled_bind,schemaKnown_settled]
  refine and_congr_right fun _ => ?_
  constructor
  · intro all known owner filename size checksum metadata original fields
    have here := all true known
    simp only [owner,Bool.not_true,Bool.or_self,Bool.false_eq_true,if_false,fields,settled_bind] at here
    exact deliveryArtifacts_settled.mp here.1
  · intro reads known value
    by_cases passes : known = true ∧ hasOwner document runUuid = true
    · obtain ⟨rfl,owner⟩ := passes
      simp only [owner,Bool.not_true,Bool.or_self,Bool.false_eq_true,if_false]
      split
      · simp
      · rename_i fields
        rw [settled_bind]
        exact ⟨deliveryArtifacts_settled.mpr (reads value owner _ _ _ _ _ fields),fun _ _ => by simp⟩
    · have refused : (!known || !hasOwner document runUuid) = true := by
        cases known <;> simp_all
      simp [refused]

end BackupTelebot
