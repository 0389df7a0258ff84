import BackupTelebot.CivilDate
import BackupTelebot.FinalizeRules
import BackupTelebot.IsoTimestamps
import BackupTelebot.OwnedDirectories
import BackupTelebot.ProfileConfig
import BackupTelebot.PythonText
import BackupTelebot.ReachedPaths
import Mathlib.Data.List.TakeWhile

/-! The names that `finalize.py` gives to artifacts and pending directories, for any profile
name, moment and time zone, and the checks that `workspace.py` and `recover_finalized` make
on them later. -/
namespace BackupTelebot.Spool

open PyJson Config Deletion Posix

def safeSlug (value : Str) : Str :=
  let slug := (stripChars (fun c => c == 46 || c == 45 || c == 95) (subUnsafe false (PyText.strip value))).take 100
  if slug = [] then str "backup" else slug

/-- The offset from UTC that a zone has at each instant. All is in microseconds. -/
abbrev Timezone := Int → Int

def dayLength : Int := 86400000000

def fieldsOf (wall offset : Int) : IsoTime.Fields :=
  let date := wall / dayLength
  let time := (wall % dayLength).toNat
  { year := (CivilDate.yearOf date).toNat
    month := CivilDate.monthOf date
    day := (CivilDate.dayOfMonth date).toNat
    hour := time / 3600000000
    minute := time / 60000000 % 60
    second := time / 1000000 % 60
    microsecond := time % 1000000
    utcoffset := some offset }

/-- `now.astimezone(zone)`. -/
def astimezone (now : Int) (zone : Timezone) : Except Failure IsoTime.Fields :=
  let wall := now + zone now
  let year := CivilDate.yearOf (wall / dayLength)
  if 1 ≤ year ∧ year ≤ 9999 then .ok (fieldsOf wall (zone now)) else .error (.builtin "OverflowError")

/-- `%z`: the seconds are written only if there are any. -/
def offsetText (offset : Int) : Str :=
  let size := offset.natAbs
  (if offset < 0 then 45 else 43) :: (IsoTime.digits 2 (size / 3600000000) ++ IsoTime.digits 2 (size / 60000000 % 60) ++
    if size % 60000000 = 0 then []
    else IsoTime.digits 2 (size / 1000000 % 60) ++ IsoTime.fraction (size % 1000000))

/-- `local.strftime("%Y-%m-%d_%H-%M-%S")`. -/
def stampText (f : IsoTime.Fields) : Str :=
  IsoTime.digits 4 f.year ++ 45 :: (IsoTime.digits 2 f.month ++ 45 :: (IsoTime.digits 2 f.day ++ 95 ::
    (IsoTime.digits 2 f.hour ++ 45 :: (IsoTime.digits 2 f.minute ++ 45 :: IsoTime.digits 2 f.second))))

/-- `f"{offset[:3]}-{offset[3:]}" if offset else ""`. -/
def safeOffset (offset : Str) : Str := if offset = [] then [] else offset.take 3 ++ 45 :: offset.drop 3

def localRunStamp (now : Int) (zone : Timezone) : Except Failure Str := do
  let moment ← astimezone now zone
  return stampText moment ++ safeOffset (moment.utcoffset.elim [] offsetText)

def archiveExtension : ArchiveFormat → Str
  | .tar => str ".tar"
  | .zip => str ".zip"
  | .sevenZ => str ".7z"

def algorithmExtension : CompressionAlgorithm → Str
  | .none => []
  | .zstandard => str ".zst"
  | .gzip => str ".gz"
  | .xz => str ".xz"
  | .bzip2 => str ".bz2"
  | .lz4 => str ".lz4"

def encryptionExtension (mode : EncryptionMode) : Str := if mode ≠ .none then str ".age" else []

inductive Extension where
  | archive (kind : ArchiveFormat)
  | compression (kind : CompressionAlgorithm)
  | encryption (mode : EncryptionMode)
  deriving DecidableEq, Repr

def Extension.text : Extension → Str
  | .archive kind => archiveExtension kind
  | .compression kind => algorithmExtension kind
  | .encryption mode => encryptionExtension mode

/-- The runner makes a list of three. -/
def extensionsText (extensions : List Extension) : Str := extensions.flatMap Extension.text

def runExtensions (format : ArchiveFormat) (algorithm : CompressionAlgorithm) (mode : EncryptionMode) : List Extension :=
  [.archive format,.compression algorithm,.encryption mode]

def artifactFilename (profileName : Str) (now : Int) (zone : Timezone) (extensions : Str) : Except Failure Str := do
  let stamp ← localRunStamp now zone
  return safeSlug profileName ++ underscore :: stamp ++ extensions

def pendingDirectoryPath (pendingRoot : PurePosix.Path) (profileName runUuid : Str) (now : Int) (zone : Timezone) :
    Except Failure PurePosix.Path := do
  let stamp ← localRunStamp now zone
  return (pendingRoot.joinpath (safeSlug profileName)).joinpath (stamp ++ underscore :: runUuid.take 8)

section Recovery

variable (h : Host) (fs : FileSystem)

def ownsDirectory (directory : PurePosix.Path) (runUuid : Str) : Except Failure Location := do
  let resolved ← resolve h fs directory
  let root ← resolve h fs h.pendingRoot
  require (resolved.dropLast.dropLast = root && ownedName runUuid (pathName resolved)) invalidPath
  return resolved

/-- `recover_finalized`, without the metadata. -/
def recoverFinalized (directory : PurePosix.Path) (runUuid : Str) : Except Failure (Option FinalizedArtifact) :=
  if !exists_ h fs directory then .ok none
  else do
    let resolved ← ownsDirectory h fs directory runUuid
    let (finalized,_) ← recoverDirectory h.os resolved (directoryAt fs resolved) runUuid
    return some finalized

/-- The retained artifacts are recovered from places that are resolved already. -/
theorem recoverFinalized_absolute (directory : Location) (runUuid : Str) :
    recoverFinalized h fs (absolute directory) runUuid = Deletion.recoverFinalized h fs directory runUuid := by
  unfold recoverFinalized Deletion.recoverFinalized ownsDirectory
  cases exists_ h fs (absolute directory) with
  | false => rfl
  | true => simp [bind_assoc]

end Recovery

structure IsComponent (name : Str) : Prop extends PurePosix.IsName name where
  notParent : name ≠ dotdot

theorem IsComponent.of_head {name : Str} {c : Nat} {rest : Str} (split : name = c :: rest) (notDot : c ≠ 46)
    (noSlash : slash ∉ name) : IsComponent name := by
  subst split
  have head : ∀ rest', c :: rest ≠ 46 :: rest' := fun _ same => notDot (List.cons.inj same).1
  exact ⟨⟨by simp,head [],noSlash⟩,head [46]⟩

theorem isSpace_notSlug {c : Nat} (space : PyText.isSpace c = true) : isSlugChar c = false := by
  by_contra slugChar
  simp only [isSlugChar,PyText.isSpace,Bool.or_eq_true,decide_eq_true_eq,beq_iff_eq,Bool.not_eq_false] at slugChar space
  omega

def isEdge (c : Nat) : Bool := c == 46 || c == 45 || c == 95

theorem subUnsafe_start (inRun : Bool) (value : Str) :
    (subUnsafe inRun value).dropWhile isEdge = (subUnsafe false value).dropWhile isEdge := by
  cases inRun with
  | false => rfl
  | true =>
    cases value with
    | nil => rfl
    | cons c rest => by_cases slugChar : isSlugChar c = true <;> simp [subUnsafe,slugChar,isEdge]

theorem subUnsafe_lead (value : Str) (inRun : Bool) :
    (subUnsafe inRun (value.dropWhile PyText.isSpace)).dropWhile isEdge = (subUnsafe inRun value).dropWhile isEdge := by
  induction value generalizing inRun with
  | nil => rfl
  | cons c rest ih =>
    by_cases space : PyText.isSpace c = true
    · rw [List.dropWhile_cons_of_pos space,ih,subUnsafe_start inRun rest,← subUnsafe_start true rest]
      cases inRun <;> simp [subUnsafe,isSpace_notSlug space,isEdge]
    · rw [List.dropWhile_cons_of_neg space]

/-- What white space at the end adds are hyphens. -/
theorem subUnsafe_trail (value spaces : Str) (all : ∀ c ∈ spaces, PyText.isSpace c = true) (inRun : Bool) :
    ∃ hyphens, (∀ c ∈ hyphens, c = 45) ∧ subUnsafe inRun (value ++ spaces) = subUnsafe inRun value ++ hyphens := by
  induction value generalizing inRun with
  | nil =>
    induction spaces generalizing inRun with
    | nil => exact ⟨[],by simp,by simp [subUnsafe]⟩
    | cons c rest ih =>
      obtain ⟨hyphens,only,same⟩ := ih (fun c member => all c (List.mem_cons_of_mem _ member)) true
      have other := isSpace_notSlug (all c List.mem_cons_self)
      simp only [List.nil_append,subUnsafe] at same ⊢
      cases inRun with
      | true => exact ⟨hyphens,only,by simpa [other] using same⟩
      | false => exact ⟨45 :: hyphens,by simpa using only,by simp [other,same]⟩
  | cons c rest ih =>
    simp only [List.cons_append,subUnsafe]
    split_ifs with slugChar run
    · obtain ⟨hyphens,only,same⟩ := ih false
      exact ⟨hyphens,only,by rw [same]; rfl⟩
    · exact ih true
    · obtain ⟨hyphens,only,same⟩ := ih true
      exact ⟨hyphens,only,by rw [same]; rfl⟩

theorem stripChars_trail {drop : Nat → Bool} {text hyphens : Str} (all : ∀ c ∈ hyphens, drop c = true) :
    stripChars drop (text ++ hyphens) = stripChars drop text := by
  have front : hyphens.dropWhile drop = [] := List.dropWhile_eq_nil_iff.mpr all
  have back : hyphens.reverse.dropWhile drop = [] :=
    List.dropWhile_eq_nil_iff.mpr fun c member => all c (List.mem_reverse.mp member)
  unfold stripChars
  cases kept : text.dropWhile drop with
  | nil => simp [List.dropWhile_append,kept,front]
  | cons c rest =>
    rw [List.dropWhile_append,kept]
    simp [List.dropWhile_append,back]

/-- Stripping white space first makes no difference to the slug. -/
theorem safeSlug_strip (value : Str) : safeSlug value = BackupTelebot.safeSlug value := by
  have split : PyText.strip value ++ ((value.dropWhile PyText.isSpace).reverse.takeWhile PyText.isSpace).reverse =
      value.dropWhile PyText.isSpace := by
    rw [PyText.strip,← List.reverse_append,List.takeWhile_append_dropWhile,List.reverse_reverse]
  obtain ⟨hyphens,only,same⟩ := subUnsafe_trail (PyText.strip value)
    ((value.dropWhile PyText.isSpace).reverse.takeWhile PyText.isSpace).reverse
    (fun c member => List.mem_takeWhile_imp (List.mem_reverse.mp member)) false
  rw [split] at same
  have edges : ∀ c ∈ hyphens, isEdge c = true := fun c member => only c member ▸ rfl
  have stripped : stripChars isEdge (subUnsafe false (PyText.strip value)) = stripChars isEdge (subUnsafe false value) := by
    rw [← stripChars_trail edges,← same]
    unfold stripChars
    rw [subUnsafe_lead]
  unfold safeSlug BackupTelebot.safeSlug
  change (let slug := (stripChars isEdge _).take 100; if slug = [] then _ else slug) = _
  rw [stripped]
  rfl

theorem stripChars_head {drop : Nat → Bool} {text : Str} {c : Nat} {rest : Str}
    (split : stripChars drop text = c :: rest) : drop c = false := by
  have begun : stripChars drop text <+: text.dropWhile drop := by
    rw [← List.reverse_suffix,stripChars,List.reverse_reverse]
    exact List.dropWhile_suffix drop
  rw [split] at begun
  obtain ⟨more,whole⟩ := begun
  exact @PyText.head_dropWhile drop text c (by rw [← whole]; rfl)

/-- A slug begins with a letter or a digit. -/
theorem safeSlug_head (value : Str) : ∃ c rest, safeSlug value = c :: rest ∧ isEdge c = false := by
  rw [safeSlug_strip]
  unfold BackupTelebot.safeSlug
  change ∃ c rest, (let slug := (stripChars isEdge _).take 100; if slug = [] then _ else slug) = c :: rest ∧ _
  simp only
  split_ifs with empty
  · exact ⟨98,str "ackup",by decide,by decide⟩
  · cases slug : stripChars isEdge (subUnsafe false value) with
    | nil => simp [slug] at empty
    | cons c rest => exact ⟨c,rest.take 99,by simp,stripChars_head slug⟩

theorem safeSlug_isComponent (value : Str) : IsComponent (safeSlug value) := by
  obtain ⟨c,rest,split,inner⟩ := safeSlug_head value
  apply IsComponent.of_head split
  · rintro rfl
    simp [isEdge] at inner
  · intro member
    have slugChar := mem_safeSlug (safeSlug_strip value ▸ member)
    exact absurd slugChar (by decide)

def Clean (text : Str) : Prop := ∀ c ∈ text, isSafe c = true

theorem Clean.noSlash {text : Str} (clean : Clean text) : slash ∉ text := fun member =>
  absurd (clean slash member) (by decide)

theorem Clean.append {first second : Str} (before : Clean first) (behind : Clean second) : Clean (first ++ second) :=
  List.forall_mem_append.mpr ⟨before,behind⟩

theorem Clean.cons {c : Nat} {rest : Str} (first : isSafe c = true) (behind : Clean rest) : Clean (c :: rest) :=
  List.forall_mem_cons.mpr ⟨first,behind⟩

theorem clean_nil : Clean [] := by simp [Clean]

theorem Clean.take {text : Str} (clean : Clean text) (n : Nat) : Clean (text.take n) := fun c member =>
  clean c (List.mem_of_mem_take member)

theorem Clean.drop {text : Str} (clean : Clean text) (n : Nat) : Clean (text.drop n) := fun c member =>
  clean c (List.mem_of_mem_drop member)

theorem Clean.encodable {text : Str} (clean : Clean text) : text.all fsEncodable = true := by
  rw [List.all_eq_true]
  intro c member
  have safe := clean c member
  simp only [isSafe,decide_eq_true_eq] at safe
  have notSurrogate : isSurrogate c = false := decide_eq_false (by omega)
  have nonzero : c ≠ 0 := by omega
  simp [fsEncodable,notSurrogate,nonzero]

theorem digits_clean (width n : Nat) : Clean (IsoTime.digits width n) := by
  induction width generalizing n with
  | zero => exact clean_nil
  | succ width ih =>
    have digit : 48 + n % 10 ≠ slash := by unfold slash; omega
    exact (ih _).append (Clean.cons (decide_eq_true ⟨by omega,by omega,digit⟩) clean_nil)

theorem digits_head (width n : Nat) : ∃ c rest, IsoTime.digits (width + 1) n = c :: rest ∧ c ≠ 46 := by
  induction width generalizing n with
  | zero => exact ⟨48 + n % 10,[],rfl,by omega⟩
  | succ width ih =>
    obtain ⟨c,rest,split,notDot⟩ := ih (n / 10)
    exact ⟨c,rest ++ [48 + n % 10],by rw [IsoTime.digits,split,List.cons_append],notDot⟩

theorem offsetText_clean (offset : Int) : Clean (offsetText offset) := by
  have fraction (n : Nat) : Clean (IsoTime.fraction n) := by
    unfold IsoTime.fraction
    split_ifs
    · exact clean_nil
    · exact Clean.cons (by decide) (digits_clean 6 n)
  unfold offsetText
  apply Clean.cons
  · split_ifs <;> decide
  · apply ((digits_clean 2 _).append (digits_clean 2 _)).append
    split_ifs
    · exact clean_nil
    · exact (digits_clean 2 _).append (fraction _)

theorem safeOffset_clean {offset : Str} (clean : Clean offset) : Clean (safeOffset offset) := by
  unfold safeOffset
  split_ifs
  · exact clean_nil
  · exact (clean.take 3).append (Clean.cons (by decide) (clean.drop 3))

theorem stampText_clean (f : IsoTime.Fields) : Clean (stampText f) := by
  have hyphen : isSafe 45 = true := by decide
  have underscored : isSafe 95 = true := by decide
  have two (n : Nat) : Clean (IsoTime.digits 2 n) := digits_clean 2 n
  exact (digits_clean 4 f.year).append (((two f.month).append (((two f.day).append (((two f.hour).append
    (((two f.minute).append ((two f.second).cons hyphen)).cons hyphen)).cons underscored)).cons hyphen)).cons hyphen)

/-- A stamp begins with the year. -/
theorem localRunStamp_clean {now : Int} {zone : Timezone} {stamp : Str} (made : localRunStamp now zone = .ok stamp) :
    Clean stamp ∧ ∃ c rest, stamp = c :: rest ∧ c ≠ 46 := by
  obtain ⟨moment,_,same⟩ := bind_eq_ok.mp made
  obtain rfl := pure_eq_ok.mp same
  constructor
  · apply (stampText_clean moment).append (safeOffset_clean _)
    cases moment.utcoffset with
    | none => exact clean_nil
    | some offset => exact offsetText_clean offset
  · obtain ⟨c,rest,split,notDot⟩ := digits_head 3 moment.year
    rw [stampText,split]
    exact ⟨c,_,rfl,notDot⟩

theorem extensionsText_clean (extensions : List Extension) : Clean (extensionsText extensions) := by
  have each : ∀ extension : Extension, ∀ c ∈ extension.text, isSafe c = true := by
    intro extension
    cases extension with
    | archive kind => cases kind <;> decide
    | compression kind => cases kind <;> decide
    | encryption mode => cases mode <;> decide
  intro c member
  obtain ⟨extension,_,inside⟩ := List.mem_flatMap.mp member
  exact each extension c inside

theorem canonicalUuid_clean {runUuid : Str} (canonical : isCanonicalUuid runUuid = true) : Clean runUuid := by
  intro c member
  simp only [isCanonicalUuid,Bool.and_eq_true,List.all_eq_true] at canonical
  obtain ⟨i,here⟩ : ∃ i, (c,i) ∈ runUuid.zipIdx := by
    rw [← List.zipIdx_map_fst 0 runUuid] at member
    obtain ⟨pair,inside,rfl⟩ := List.mem_map.mp member
    exact ⟨pair.2,inside⟩
  have allowed := canonical.2 _ here
  simp only at allowed
  unfold isSafe slash
  split_ifs at allowed
  · have hyphen : c = 45 := by simpa using allowed
    exact decide_eq_true (by omega)
  · simp only [isLowerHex,Bool.or_eq_true,decide_eq_true_eq] at allowed
    exact decide_eq_true (by omega)

theorem safeSlug_clean (value : Str) : Clean (safeSlug value) := fun _ member =>
  isSlugChar_safe (mem_safeSlug (safeSlug_strip value ▸ member))

/-- The name of an artifact is no name that stands beside it in its directory. -/
structure ArtifactName (filename : Str) : Prop extends IsComponent filename where
  isFileName : isFileName filename = true
  notManifest : filename ≠ manifestName
  notPart : ∀ width number, filename ≠ partName filename width number
  notTemporary : ∀ name, filename ≠ temporaryName name

theorem artifactFilename_spec {profileName : Str} {now : Int} {zone : Timezone} {extensions : List Extension}
    {filename : Str} (made : artifactFilename profileName now zone (extensionsText extensions) = .ok filename) :
    ArtifactName filename := by
  obtain ⟨stamp,stamped,same⟩ := bind_eq_ok.mp made
  obtain rfl := pure_eq_ok.mp same
  obtain ⟨c,rest,split,inner⟩ := safeSlug_head profileName
  have notDot : c ≠ 46 := by
    rintro rfl
    simp [isEdge] at inner
  have head : safeSlug profileName ++ underscore :: stamp ++ extensionsText extensions =
      c :: (rest ++ underscore :: stamp ++ extensionsText extensions) := by rw [split]; rfl
  have clean : Clean (safeSlug profileName ++ underscore :: stamp ++ extensionsText extensions) :=
    ((safeSlug_clean profileName).append ((localRunStamp_clean stamped).1.cons (by decide))).append
      (extensionsText_clean extensions)
  have component := IsComponent.of_head head notDot clean.noSlash
  constructor
  · exact component
  · have notDot : safeSlug profileName ++ underscore :: stamp ++ extensionsText extensions ≠ [dot] := component.notDot
    simpa [isFileName] using And.intro notDot clean.noSlash
  · intro manifest
    have inside : underscore ∈ manifestName := by
      rw [← manifest]
      simp
    exact absurd inside (by decide)
  · intro width number part
    have longer := congrArg List.length part
    simp [partName,str] at longer
  · intro name temporary
    rw [head,temporaryName] at temporary
    exact notDot (List.cons.inj temporary).1

def OwnDirectory (seen : Except Errno Object) : Prop := seen = .ok .dir ∨ seen = .error .noEntry

/-- What `finalize_artifact` makes sure of: the root is a directory, and no link stands where
the profile's and the run's belong. -/
structure Ready (h : Host) (fs : FileSystem) (profileName : Str) (path : PurePosix.Path) : Prop where
  working : fs.entry (start h h.pendingRoot) = some .dir
  encoded : encodable h.pendingRoot = true
  root : fs.status true (start h h.pendingRoot) h.pendingRoot.names = .ok .dir
  profile : OwnDirectory (lstat h fs (h.pendingRoot.joinpath (safeSlug profileName)))
  run : OwnDirectory (lstat h fs path)

def within (h : Host) (turns : Nat) : Host := { h with turns }

theorem joinpath_component (p : PurePosix.Path) {name : Str} (component : IsComponent name) :
    p.joinpath name = ⟨p.root,p.names ++ [name]⟩ := p.joinpath_name component.toIsName

variable {h : Host} {fs : FileSystem} {profileName runUuid : Str} {now : Int} {zone : Timezone} {path : PurePosix.Path}

theorem pendingDirectoryPath_spec (canonical : isCanonicalUuid runUuid = true)
    (made : pendingDirectoryPath h.pendingRoot profileName runUuid now zone = .ok path) :
    ∃ name, IsComponent name ∧ Clean name ∧ ownedName runUuid name = true ∧
      path = ⟨h.pendingRoot.root,h.pendingRoot.names ++ [safeSlug profileName,name]⟩ := by
  obtain ⟨stamp,stamped,same⟩ := bind_eq_ok.mp made
  obtain ⟨clean,c,rest,split,notDot⟩ := localRunStamp_clean stamped
  have whole : Clean (stamp ++ underscore :: runUuid.take 8) :=
    clean.append (((canonicalUuid_clean canonical).take 8).cons (by decide))
  have component : IsComponent (stamp ++ underscore :: runUuid.take 8) :=
    IsComponent.of_head (by rw [split]; rfl) notDot whole.noSlash
  refine ⟨_,component,whole,List.isSuffixOf_iff_suffix.mpr (List.suffix_append _ _),?_⟩
  rw [← pure_eq_ok.mp same,joinpath_component _ (safeSlug_isComponent profileName),joinpath_component _ component]
  simp

/-- No link stands on the way from the root to the run's directory. -/
theorem Ready.unlinked {place : Location} {left : Nat} {name : Str}
    (ready : Ready h fs profileName ⟨h.pendingRoot.root,h.pendingRoot.names ++ [safeSlug profileName,name]⟩)
    (walked : fs.walk true FileSystem.maxLinks (start h h.pendingRoot) h.pendingRoot.names = .ok (place,left))
    (dir : fs.entry place = some .dir) (proper : name ≠ dotdot) : fs.Unlinked place [safeSlug profileName,name] := by
  have component := safeSlug_isComponent profileName
  have profile := ready.profile
  rw [joinpath_component _ component] at profile
  change OwnDirectory (fs.status false (start h h.pendingRoot) (h.pendingRoot.names ++ [safeSlug profileName])) at profile
  have run : OwnDirectory (fs.status false (start h h.pendingRoot)
      (h.pendingRoot.names ++ [safeSlug profileName] ++ [name])) := by
    rw [List.append_assoc]
    exact ready.run
  rw [FileSystem.status_below walked dir component.notParent] at profile
  refine ⟨component.notParent,?_,proper,?_,trivial⟩
  · intro target link
    simp [link,OwnDirectory] at profile
  · intro target link
    have above := (fs.entry_above link).1
    have walked' : fs.walk true FileSystem.maxLinks (start h h.pendingRoot)
        (h.pendingRoot.names ++ [safeSlug profileName]) = .ok (place ++ [safeSlug profileName],left) := by
      rw [FileSystem.walk_append (.inr rfl),walked]
      simp only [Except.bind]
      rw [FileSystem.walk_plain above (by simp),FileSystem.walk_nil]
    rw [FileSystem.status_below walked' above proper,link] at run
    simp [OwnDirectory] at run

theorem resolve_eq {turns : Nat} {path : PurePosix.Path} {place : Location} (encoded : encodable path = true)
    (working : fs.entry (start h path) = some .dir)
    (resolved : fs.realpath turns (start h path) path.names = some place) :
    resolve (within h turns) fs path = .ok place := by
  have there : fs.realpath (within h turns).turns (start (within h turns) path) path.names = some place := resolved
  have here : fs.entry (start (within h turns) path) = some .dir := working
  simp [resolve,encoded,here,there]

theorem Ready.resolves (ready : Ready h fs profileName path) (canonical : isCanonicalUuid runUuid = true)
    (made : pendingDirectoryPath h.pendingRoot profileName runUuid now zone = .ok path) :
    ∃ place name enough, ownedName runUuid name = true ∧ encodable path = true ∧ ∀ turns, enough ≤ turns →
      resolve (within h turns) fs h.pendingRoot = .ok place ∧
        resolve (within h turns) fs path = .ok (place ++ [safeSlug profileName,name]) := by
  obtain ⟨name,component,clean,owned,rfl⟩ := pendingDirectoryPath_spec canonical made
  obtain ⟨place,left,walked,dir⟩ : ∃ place left, fs.walk true FileSystem.maxLinks (start h h.pendingRoot)
      h.pendingRoot.names = .ok (place,left) ∧ fs.entry place = some .dir := by
    have seen := ready.root
    unfold FileSystem.status at seen
    cases walk : fs.walk true FileSystem.maxLinks (start h h.pendingRoot) h.pendingRoot.names with
    | error e => simp [walk] at seen
    | ok reached =>
      cases found : fs.entry reached.1 with
      | none => simp [walk,found] at seen
      | some object => exact ⟨reached.1,reached.2,rfl,by simpa [walk,found] using seen⟩
  have settled := FileSystem.settled_dir ready.working
  obtain ⟨first,root⟩ := FileSystem.realpath_walk settled walked (show fs.Unlinked place [] from trivial)
  obtain ⟨second,below⟩ := FileSystem.realpath_walk settled walked (ready.unlinked walked dir component.notParent)
  have encoded : encodable ⟨h.pendingRoot.root,h.pendingRoot.names ++ [safeSlug profileName,name]⟩ = true := by
    have first := ready.encoded
    unfold encodable at first ⊢
    simp [List.all_append,first,(safeSlug_clean profileName).encodable,clean.encodable]
  refine ⟨place,name,max first second,owned,encoded,fun turns enough => ⟨?_,?_⟩⟩
  · exact resolve_eq ready.encoded ready.working (by simpa using root turns (by omega))
  · exact resolve_eq encoded ready.working (below turns (by omega))

/-- Both checks let the run's own directory pass, and name the same place. -/
theorem Ready.accepted (ready : Ready h fs profileName path) (canonical : isCanonicalUuid runUuid = true)
    (made : pendingDirectoryPath h.pendingRoot profileName runUuid now zone = .ok path) :
    ∃ directory enough, ∀ turns, enough ≤ turns →
      validateOwnedDirectory (within h turns) fs h.pendingRoot path runUuid = .ok directory ∧
        ownsDirectory (within h turns) fs path runUuid = .ok directory := by
  obtain ⟨place,name,enough,owned,encoded,resolves⟩ := ready.resolves canonical made
  have last : pathName (place ++ [safeSlug profileName,name]) = name := by
    simp [pathName,List.getLast?_append]
  have above : (place ++ [safeSlug profileName,name]).dropLast = place ++ [safeSlug profileName] := by
    rw [← List.singleton_append,← List.append_assoc,List.dropLast_concat]
  refine ⟨place ++ [safeSlug profileName,name],enough,fun turns more => ?_⟩
  obtain ⟨root,resolved⟩ := resolves turns more
  have slug : pathName (place ++ [safeSlug profileName]) ≠ [] := by
    simpa [pathName,List.getLast?_append] using (safeSlug_isComponent profileName).nonempty
  have check : checkDirectory (within h turns) fs path = .ok () := by
    have seen : OwnDirectory (lstat (within h turns) fs path) := ready.run
    rcases seen with dir | missing
    · simp [checkDirectory,encoded,dir]
    · simp [checkDirectory,encoded,missing]
  have uuid : canonicalUuid runUuid = .ok runUuid := if_pos canonical
  constructor
  · simp [validateOwnedDirectory,check,root,resolved,uuid,last,above,owned,slug,require,pure,Except.pure,bind,Except.bind]
  · have same : (within h turns).pendingRoot = h.pendingRoot := rfl
    simp [ownsDirectory,same,root,resolved,last,above,owned,require,pure,Except.pure,bind,Except.bind]

/-- Every generated name passes the checks made on it later, whatever the profile is called and
wherever its moment falls in the zone's years. -/
theorem generated_names_accepted (h : Host) (fs : FileSystem) (profileName runUuid : Str) (now : Int) (zone : Timezone)
    (extensions : List Extension) (canonical : isCanonicalUuid runUuid = true) (moment : IsoTime.Fields)
    (moved : astimezone now zone = .ok moment) :
    IsComponent (safeSlug profileName) ∧
      (∃ filename, artifactFilename profileName now zone (extensionsText extensions) = .ok filename ∧
        ArtifactName filename) ∧
      ∃ path, pendingDirectoryPath h.pendingRoot profileName runUuid now zone = .ok path ∧
        (Ready h fs profileName path → ∃ directory enough, ∀ turns, enough ≤ turns →
          validateOwnedDirectory (within h turns) fs h.pendingRoot path runUuid = .ok directory ∧
            ownsDirectory (within h turns) fs path runUuid = .ok directory) := by
  obtain ⟨stamp,stamped⟩ : ∃ stamp, localRunStamp now zone = .ok stamp := by
    rw [localRunStamp,moved]
    exact ⟨_,rfl⟩
  have named : artifactFilename profileName now zone (extensionsText extensions) =
      .ok (safeSlug profileName ++ underscore :: stamp ++ extensionsText extensions) := by
    rw [artifactFilename,stamped]
    rfl
  have placed : pendingDirectoryPath h.pendingRoot profileName runUuid now zone =
      .ok ((h.pendingRoot.joinpath (safeSlug profileName)).joinpath (stamp ++ underscore :: runUuid.take 8)) := by
    rw [pendingDirectoryPath,stamped]
    rfl
  exact ⟨safeSlug_isComponent profileName,⟨_,named,artifactFilename_spec named⟩,_,placed,
    fun ready => ready.accepted canonical placed⟩

def linkedSpool : FileSystem where
  objects := [([str "srv"],.dir),([str "srv",str "spool"],.link (str "/data")),([str "data"],.dir),
    ([str "data",str "B-ro"],.dir)]
  nested := by decide

theorem naughts_length (_bytes : List Nat) : (List.replicate 64 48).length = 64 := List.length_replicate

theorem naughts_printable (_bytes : List Nat) (c : Nat) (member : c ∈ List.replicate 64 48) : 32 ≤ c ∧ c ≤ 126 := by
  rw [List.eq_of_mem_replicate member]
  omega

def linkedHost : Host where
  os := ⟨⟨fun _ => List.replicate 64 48,naughts_length,naughts_printable⟩,1000,by decide⟩
  cwd := [str "srv"]
  pendingRoot := ⟨.relative,[str "spool"]⟩
  workRoot := ⟨.relative,[str "work"]⟩
  failedArtifactRetentionSeconds := 3600
  turns := 100
  left := fun _ _ => false

def linkedPath : PurePosix.Path := ⟨.relative,[str "spool",str "B-ro",str "2023-11-14_22-13-20+03-30_0f8fad5b"]⟩

/-- A quarter past ten in the evening, in Tehran. -/
theorem generated_names_accepted_linked : ∃ directory enough, ∀ turns, enough ≤ turns →
    validateOwnedDirectory (within linkedHost turns) linkedSpool linkedHost.pendingRoot linkedPath
        (str "0f8fad5b-d9cb-469f-a165-70867728950e") = .ok directory ∧
      ownsDirectory (within linkedHost turns) linkedSpool linkedPath
        (str "0f8fad5b-d9cb-469f-a165-70867728950e") = .ok directory := by
  have accepted := generated_names_accepted linkedHost linkedSpool (str " ../B,ro. ")
    (str "0f8fad5b-d9cb-469f-a165-70867728950e") 63835584200000000 (fun _ => 12600000000)
    (runExtensions .tar .zstandard .agePassphrase) (by decide) ⟨2023,11,14,22,13,20,0,some 12600000000⟩ (by decide)
  obtain ⟨path,made,owned⟩ := accepted.2.2
  have here : pendingDirectoryPath linkedHost.pendingRoot (str " ../B,ro. ")
      (str "0f8fad5b-d9cb-469f-a165-70867728950e") 63835584200000000 (fun _ => 12600000000) = .ok linkedPath := by
    decide
  obtain rfl : linkedPath = path := by
    rw [here] at made
    exact Except.ok.inj made
  exact owned ⟨by decide,by decide,rfl,.inl rfl,.inr rfl⟩

end BackupTelebot.Spool
