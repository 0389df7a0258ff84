import BackupTelebot.LocalSourcePaths

/-! Whether the bot's check of a local path and the worker's mapping mean the same path.
Both directions come down to which mapping is the deepest one. -/
namespace BackupTelebot.Config

open PyJson PurePosix

structure Sound (p : PurePosix.Path) : Prop where
  normal : p.Normal
  absolute : p.isAbsolute = true

theorem sourcePath_ok {configuredRoot : Bool} {value : Str} {path : PurePosix.Path}
    (read : sourcePath configuredRoot value = .ok path) : path = parse (PyText.strip value) ∧ Sound path := by
  unfold sourcePath at read
  cases checked : validateAbsolutePath value with
  | error e => simp [checked] at read
  | ok clean =>
    obtain ⟨⟨first,_⟩,rfl⟩ := validateAbsolutePath_ok.mp checked
    have absolute := isAbsolute_parse.mpr first
    have back := parse_text (parse_normal (PyText.strip value)) absolute
    simp only [checked,back] at read
    split at read
    · simp at read
    · obtain rfl := Except.ok.inj read
      exact ⟨rfl,parse_normal _,absolute⟩

theorem Sound.extend {p : PurePosix.Path} (sound : Sound p) {names : List Str} (all : ∀ name ∈ names, IsName name) :
    Sound (p.extend names) := by
  constructor
  · intro name member
    rcases List.mem_append.mp member with here | here
    · exact sound.normal name here
    · exact all name here
  · exact sound.absolute

theorem Sound.below {p : PurePosix.Path} (sound : Sound p) (root : PurePosix.Path) :
    ∀ name ∈ p.below root, IsName name := fun name member => sound.normal name (List.mem_of_mem_drop member)

theorem Sound.text_inj {p q : PurePosix.Path} (p_sound : Sound p) (q_sound : Sound q) : p.text = q.text ↔ p = q :=
  ⟨text_injective p_sound.normal q_sound.normal p_sound.absolute q_sound.absolute,fun same => same ▸ rfl⟩

namespace Configuration

structure Sound (c : Configuration) : Prop where
  mappings : ∀ mapping ∈ c.mappings, Config.Sound mapping.1 ∧ Config.Sound mapping.2
  hosts : (c.mappings.map (·.1)).Nodup
  containers : (c.mappings.map (·.2)).Nodup

end Configuration

theorem mapM_ok {α β ε : Type} {f : α → Except ε β} {P : β → Prop} (each : ∀ a b, f a = .ok b → P b) {list : List α}
    {results : List β} (all : list.mapM f = .ok results) : ∀ b ∈ results, P b := by
  induction list generalizing results with
  | nil =>
    obtain rfl : [] = results := by simpa using all
    simp
  | cons a rest ih =>
    simp only [List.mapM_cons,bind_eq_ok,pure_eq_ok] at all
    obtain ⟨b,first,others,later,rfl⟩ := all
    intro b' member
    rcases List.mem_cons.mp member with rfl | member
    · exact each a b' first
    · exact ih later b' member

theorem configuration_sound {m : LocalSourcePathMapper} {c : Configuration} (configured : m.configuration = .ok c) :
    c.Sound := by
  simp only [LocalSourcePathMapper.configuration,bind_eq_ok,refuse_eq_ok,exists_const,pure_eq_ok,
    Bool.not_eq_false',decide_eq_true_eq] at configured
  obtain ⟨identity,_,denied,_,mappings,read,hosts,containers,rfl⟩ := configured
  refine ⟨mapM_ok ?_ read,hosts,containers⟩
  intro mapping pair accepted
  simp only [mappingPaths,bind_eq_ok,pure_eq_ok] at accepted
  obtain ⟨host,hostRead,container,containerRead,rfl⟩ := accepted
  exact ⟨(sourcePath_ok hostRead).2,(sourcePath_ok containerRead).2⟩

theorem hostMatch_some {c : Configuration} {p : PurePosix.Path} {mapping : PurePosix.Path × PurePosix.Path}
    (found : c.hostMatch p = some mapping) : mapping ∈ c.mappings ∧ p.within mapping.1 = true ∧
      ∀ other ∈ c.mappings, p.within other.1 = true → other.1.names.length ≤ mapping.1.names.length := by
  have inside := List.mem_filter.mp (List.argmax_mem found)
  exact ⟨inside.1,inside.2,fun other member within =>
    List.le_of_mem_argmax (f := fun m : PurePosix.Path × PurePosix.Path => m.1.names.length)
      (List.mem_filter.mpr ⟨member,within⟩) found⟩

theorem containerMatch_some {c : Configuration} {p : PurePosix.Path} {mapping : PurePosix.Path × PurePosix.Path}
    (found : c.containerMatch p = some mapping) : mapping ∈ c.mappings ∧ p.within mapping.2 = true ∧
      ∀ other ∈ c.mappings, p.within other.2 = true → other.2.names.length ≤ mapping.2.names.length := by
  have inside := List.mem_filter.mp (List.argmax_mem found)
  exact ⟨inside.1,inside.2,fun other member within =>
    List.le_of_mem_argmax (f := fun m : PurePosix.Path × PurePosix.Path => m.2.names.length)
      (List.mem_filter.mpr ⟨member,within⟩) found⟩

theorem hostMatch_none {c : Configuration} {p : PurePosix.Path} (missing : c.hostMatch p = none) :
    ∀ mapping ∈ c.mappings, p.within mapping.1 = false := by
  have empty := List.argmax_eq_none.mp missing
  intro mapping member
  simpa using List.filter_eq_nil_iff.mp empty mapping member

theorem containerMatch_none {c : Configuration} {p : PurePosix.Path} (missing : c.containerMatch p = none) :
    ∀ mapping ∈ c.mappings, p.within mapping.2 = false := by
  have empty := List.argmax_eq_none.mp missing
  intro mapping member
  simpa using List.filter_eq_nil_iff.mp empty mapping member

theorem hostMatch_exists {c : Configuration} {p : PurePosix.Path} {mapping : PurePosix.Path × PurePosix.Path}
    (member : mapping ∈ c.mappings) (within : p.within mapping.1 = true) : ∃ deepest, c.hostMatch p = some deepest := by
  cases found : c.hostMatch p with
  | none => simp [hostMatch_none found mapping member] at within
  | some deepest => exact ⟨deepest,rfl⟩

theorem mapping_eq_of_host {c : Configuration} (sound : c.Sound) {a b : PurePosix.Path × PurePosix.Path}
    (a_member : a ∈ c.mappings) (b_member : b ∈ c.mappings) (same : a.1 = b.1) : a = b :=
  List.inj_on_of_nodup_map sound.hosts a_member b_member same

theorem hostSide_sound {c : Configuration} (sound : c.Sound) {p : PurePosix.Path} (p_sound : Sound p) :
    Sound (c.hostSide p) := by
  unfold Configuration.hostSide
  split
  · rename_i host container _ found
    exact (sound.mappings _ (containerMatch_some found).1).1.extend (p_sound.below container)
  · exact p_sound

theorem containerSide_sound {c : Configuration} (sound : c.Sound) {p : PurePosix.Path} (p_sound : Sound p) :
    Sound (c.containerSide p) := by
  unfold Configuration.containerSide
  split
  · rename_i host container found
    exact (sound.mappings _ (hostMatch_some found).1).2.extend (p_sound.below host)
  · exact p_sound

section Functions

variable {m : LocalSourcePathMapper} {c : Configuration}

theorem canonicalHostPath_ok (configured : m.configuration = .ok c) {value q : Str} :
    m.canonicalHostPath value = .ok q ↔ ∃ p, sourcePath false value = .ok p ∧ c.isDenied (c.hostSide p) = false ∧
      c.isApproved (c.hostSide p) = true ∧ q = (c.hostSide p).text := by
  simp only [LocalSourcePathMapper.canonicalHostPath,configured,bind_eq_ok,refuse_eq_ok,pure_eq_ok,exists_const,
    Except.ok.injEq,exists_eq_left',Bool.not_eq_false',eq_comm (b := q)]

theorem containerPath_ok (configured : m.configuration = .ok c) {value t : Str} :
    m.containerPath value = .ok t ↔ ∃ p, sourcePath false value = .ok p ∧ c.isDenied (c.hostSide p) = false ∧
      c.isApproved (c.hostSide p) = true ∧ c.isDenied (c.containerSide (c.hostSide p)) = false ∧
      t = (c.containerSide (c.hostSide p)).text := by
  have sound := configuration_sound configured
  simp only [LocalSourcePathMapper.containerPath,configured,bind_eq_ok,refuse_eq_ok,pure_eq_ok,exists_const,
    Except.ok.injEq,exists_eq_left',canonicalHostPath_ok configured,eq_comm (b := t)]
  constructor
  · rintro ⟨q,⟨p,read,allowed,approved,rfl⟩,rest⟩
    have host := hostSide_sound sound (sourcePath_ok read).2
    rw [parse_text host.normal host.absolute] at rest
    exact ⟨p,read,allowed,approved,rest⟩
  · rintro ⟨p,read,allowed,approved,rest⟩
    have host := hostSide_sound sound (sourcePath_ok read).2
    exact ⟨_,⟨p,read,allowed,approved,rfl⟩,by rwa [parse_text host.normal host.absolute]⟩

theorem validateContainerPath_ok (configured : m.configuration = .ok c) {value r : Str} :
    m.validateContainerPath value = .ok r ↔
      ∃ p, sourcePath false value = .ok p ∧ c.confines p = true ∧ r = p.text := by
  simp only [LocalSourcePathMapper.validateContainerPath,configured,bind_eq_ok,refuse_eq_ok,pure_eq_ok,exists_const,
    Except.ok.injEq,exists_eq_left',Configuration.confines,Bool.and_eq_true,Bool.not_eq_true',Bool.not_eq_false',
    eq_comm (b := r),and_assoc]

end Functions

namespace Configuration

def Leads (c : Configuration) (p target : PurePosix.Path) : Prop :=
  c.isDenied (c.hostSide p) = false ∧ c.isApproved (c.hostSide p) = true ∧ c.containerSide (c.hostSide p) = target

/-- Below a mapped host root the deepest one is mapped to itself. Otherwise, below a
container root, the host path behind the deepest one is not denied, lies under no deeper
host root, and is read again as itself or at least leads back. -/
def Returns (c : Configuration) (p : PurePosix.Path) : Prop :=
  match c.hostMatch p, c.containerMatch p with
  | some mapping,_ => mapping.2 = mapping.1
  | none,none => True
  | none,some mapping =>
      c.isDenied (mapping.1.extend (p.below mapping.2)) = false ∧
        c.hostMatch (mapping.1.extend (p.below mapping.2)) = some mapping ∧
        ∃ again, sourcePath false (mapping.1.extend (p.below mapping.2)).text = .ok again ∧
          (again = mapping.1.extend (p.below mapping.2) ∨ c.Leads again p)

/-- The path that is opened is read again as itself, or as one that the container's namespace
contains; without a mapping, it is below an identity root apart from all mapped host roots. -/
def Stays (c : Configuration) (p : PurePosix.Path) : Prop :=
  match c.hostMatch (c.hostSide p) with
  | some mapping =>
      ∃ again, sourcePath false (mapping.2.extend ((c.hostSide p).below mapping.1)).text = .ok again ∧
        (again = mapping.2.extend ((c.hostSide p).below mapping.1) ∨ c.confines again = true)
  | none => ∃ again, sourcePath false p.text = .ok again ∧
      (again = p ∧ (∃ root ∈ c.identity, c.isApart root = true ∧ p.within root = true) ∨
        again ≠ p ∧ c.confines again = true)

end Configuration

/-- Behind a container root, the mappings lead back exactly if no deeper host root is met. -/
theorem containerSide_back {c : Configuration} (sound : c.Sound) {p : PurePosix.Path}
    {mapping : PurePosix.Path × PurePosix.Path} (found : c.containerMatch p = some mapping) :
    c.containerSide (mapping.1.extend (p.below mapping.2)) = p ↔
      c.hostMatch (mapping.1.extend (p.below mapping.2)) = some mapping := by
  obtain ⟨member,within,deepest⟩ := containerMatch_some found
  have whole := extend_below within
  constructor
  · intro back
    obtain ⟨other,found'⟩ := hostMatch_exists member (extend_within mapping.1 (p.below mapping.2))
    obtain ⟨member',within',deepest'⟩ := hostMatch_some found'
    have deeper := deepest' mapping member (extend_within _ _)
    simp only [Configuration.containerSide,found'] at back
    -- what a deeper host root adds, its container root would add as well
    have shallow : other.2.names.length ≤ mapping.2.names.length := by
      apply deepest other member'
      rw [← back]
      exact extend_within _ _
    have depth := congrArg (fun path : PurePosix.Path => path.names.length) back
    have depth' := congrArg (fun path : PurePosix.Path => path.names.length) whole
    have inside := (within_iff.mp within').2.length_le
    simp only [PurePosix.Path.extend,PurePosix.Path.below,List.length_append,List.length_drop] at depth depth' inside
    have same : other.1 = mapping.1 := eq_of_within within' (extend_within _ _) (by omega)
    rw [found',mapping_eq_of_host sound member' member same]
  · intro found'
    simp only [Configuration.containerSide,found',below_extend]
    exact whole

/-- A path that the worker's namespace contains is approved on the host's side. -/
theorem approved_of_confines {c : Configuration} {p : PurePosix.Path} (confined : c.confines p = true) :
    c.isApproved (c.hostSide p) = true := by
  simp only [Configuration.confines,Configuration.containerRoots,Bool.and_eq_true,List.any_eq_true,List.mem_append,
    List.mem_filter,List.mem_map] at confined
  obtain ⟨_,root,origin,within⟩ := confined
  simp only [Configuration.isApproved,Bool.or_eq_true,List.any_eq_true]
  unfold Configuration.hostSide
  split
  · rename_i host container _ found
    obtain ⟨member,_,_⟩ := containerMatch_some found
    exact .inr ⟨(host,container),member,extend_within _ _⟩
  · rename_i other
    rcases origin with ⟨member,_⟩ | ⟨mapping,member,rfl⟩
    · exact .inl ⟨root,member,within⟩
    · cases found : c.hostMatch p with
      | some deepest =>
        obtain ⟨member',within',_⟩ := hostMatch_some found
        exact .inr ⟨deepest,member',within'⟩
      | none =>
        cases found' : c.containerMatch p with
        | none => simp [containerMatch_none found' mapping member] at within
        | some deepest => exact absurd found' (other deepest.1 deepest.2 found)

section Paths

variable {m : LocalSourcePathMapper} {c : Configuration} {p : PurePosix.Path}

/-- What the claim about one accepted path says of its parsed form. -/
theorem agrees_iff (configured : m.configuration = .ok c) (p_sound : Sound p) (read : sourcePath false p.text = .ok p)
    (confined : c.confines p = true) :
    (m.containerPath p.text = .ok p.text ∧
        ∃ q, m.canonicalHostPath p.text = .ok q ∧ m.containerPath q = .ok p.text) ↔
      c.isDenied (c.hostSide p) = false ∧ c.containerSide (c.hostSide p) = p ∧
        ∃ again, sourcePath false (c.hostSide p).text = .ok again ∧ c.Leads again p := by
  have sound := configuration_sound configured
  have approved := approved_of_confines confined
  have allowed : c.isDenied p = false := by
    simp only [Configuration.confines,Bool.and_eq_true,Bool.not_eq_true'] at confined
    exact confined.1
  have reaches : ∀ p', Sound p' → (p.text = (c.containerSide p').text ↔ c.containerSide p' = p) := by
    intro p' p'_sound
    rw [Sound.text_inj p_sound (containerSide_sound sound p'_sound),eq_comm]
  simp only [containerPath_ok configured,canonicalHostPath_ok configured,read,Except.ok.injEq,exists_eq_left',approved,
    true_and,reaches _ (hostSide_sound sound p_sound)]
  constructor
  · rintro ⟨⟨host,_,back⟩,_,⟨_,rfl⟩,again,read',host',approved',_,text⟩
    exact ⟨host,back,again,read',host',approved',(reaches _ (hostSide_sound sound (sourcePath_ok read').2)).mp text⟩
  · rintro ⟨host,back,again,read',host',approved',back'⟩
    have text := (reaches _ (hostSide_sound sound (sourcePath_ok read').2)).mpr back'
    exact ⟨⟨host,by rwa [back],back⟩,_,⟨host,rfl⟩,again,read',host',approved',by rwa [back'],text⟩

theorem returns_iff (configured : m.configuration = .ok c) (p_sound : Sound p) (read : sourcePath false p.text = .ok p)
    (confined : c.confines p = true) :
    (m.containerPath p.text = .ok p.text ∧
        ∃ q, m.canonicalHostPath p.text = .ok q ∧ m.containerPath q = .ok p.text) ↔ c.Returns p := by
  have sound := configuration_sound configured
  have approved := approved_of_confines confined
  have allowed : c.isDenied p = false := by
    simp only [Configuration.confines,Bool.and_eq_true,Bool.not_eq_true'] at confined
    exact confined.1
  rw [agrees_iff configured p_sound read confined]
  unfold Configuration.Returns
  cases found : c.hostMatch p with
  | some mapping =>
    have whole := extend_below (hostMatch_some found).2.1
    have stays : c.hostSide p = p := by simp [Configuration.hostSide,found]
    have moved : c.containerSide p = mapping.2.extend (p.below mapping.1) := by simp [Configuration.containerSide,found]
    rw [stays] at approved ⊢
    constructor
    · rintro ⟨_,back,_⟩
      rw [moved] at back
      exact extend_left_cancel (back.trans whole.symm)
    · intro same
      have back : c.containerSide p = p := by rw [moved,same,whole]
      exact ⟨allowed,back,p,read,by rwa [stays],by rwa [stays],by rwa [stays]⟩
  | none =>
    cases found' : c.containerMatch p with
    | none =>
      have stays : c.hostSide p = p := by simp [Configuration.hostSide,found,found']
      have back : c.containerSide p = p := by simp [Configuration.containerSide,found]
      rw [stays] at approved ⊢
      exact iff_of_true ⟨allowed,back,p,read,by rwa [stays],by rwa [stays],by rwa [stays]⟩ trivial
    | some mapping =>
      have reversed : c.hostSide p = mapping.1.extend (p.below mapping.2) := by
        simp [Configuration.hostSide,found,found']
      rw [reversed] at approved ⊢
      rw [containerSide_back sound found']
      constructor
      · rintro ⟨host,deepest,again,read',leads⟩
        exact ⟨host,deepest,again,read',.inr leads⟩
      · rintro ⟨host,deepest,again,read',rfl | leads⟩
        · have stays : c.hostSide (mapping.1.extend (p.below mapping.2)) = mapping.1.extend (p.below mapping.2) := by
            simp [Configuration.hostSide,deepest]
          have back := (containerSide_back sound found').mpr deepest
          exact ⟨host,deepest,_,read',by rwa [stays],by rwa [stays],by rwa [stays]⟩
        · exact ⟨host,deepest,again,read',leads⟩

/-- Which results of the mapping the bot's check accepts. -/
theorem stays_iff (configured : m.configuration = .ok c) (p_sound : Sound p) (host : c.isDenied (c.hostSide p) = false)
    (approved : c.isApproved (c.hostSide p) = true) (inside : c.isDenied (c.containerSide (c.hostSide p)) = false) :
    (∃ r, m.validateContainerPath (c.containerSide (c.hostSide p)).text = .ok r) ↔ c.Stays p := by
  simp only [validateContainerPath_ok configured]
  unfold Configuration.Stays
  cases found : c.hostMatch (c.hostSide p) with
  | some mapping =>
    have moved : c.containerSide (c.hostSide p) = mapping.2.extend ((c.hostSide p).below mapping.1) := by
      simp [Configuration.containerSide,found]
    rw [moved] at inside ⊢
    constructor
    · rintro ⟨_,again,read,confined,rfl⟩
      exact ⟨again,read,.inr confined⟩
    · rintro ⟨again,read,rfl | confined⟩
      · have contained : c.confines (mapping.2.extend ((c.hostSide p).below mapping.1)) = true := by
          simp only [Configuration.confines,inside,Bool.not_false,Bool.true_and,List.any_eq_true,
            Configuration.containerRoots,List.mem_append,List.mem_map]
          exact ⟨mapping.2,.inr ⟨mapping,(hostMatch_some found).1,rfl⟩,extend_within _ _⟩
        exact ⟨_,_,read,contained,rfl⟩
      · exact ⟨_,again,read,confined,rfl⟩
  | none =>
    have moved : c.containerSide (c.hostSide p) = c.hostSide p := by simp [Configuration.containerSide,found]
    -- nothing was reversed, since that would have led below a host root
    have unmapped : c.hostMatch p = none ∧ c.containerMatch p = none := by
      cases hosts : c.hostMatch p with
      | some mapping => simp [Configuration.hostSide,hosts] at found
      | none =>
        cases containers : c.containerMatch p with
        | none => exact ⟨rfl,rfl⟩
        | some mapping =>
          obtain ⟨deepest,found'⟩ := hostMatch_exists (containerMatch_some containers).1 (extend_within mapping.1 _)
          simp only [Configuration.hostSide,hosts,containers] at found
          rw [found] at found'
          cases found'
    have stays : c.hostSide p = p := by simp [Configuration.hostSide,unmapped]
    rw [moved,stays] at inside ⊢
    have confined : c.confines p = true ↔ ∃ root ∈ c.identity, c.isApart root = true ∧ p.within root = true := by
      simp only [Configuration.confines,inside,Bool.not_false,Bool.true_and,List.any_eq_true,Configuration.containerRoots,
        List.mem_append,List.mem_filter,List.mem_map]
      constructor
      · rintro ⟨root,⟨member,apart⟩ | ⟨mapping,member,rfl⟩,within⟩
        · exact ⟨root,member,apart,within⟩
        · simp [containerMatch_none unmapped.2 mapping member] at within
      · rintro ⟨root,member,apart,within⟩
        exact ⟨root,.inl ⟨member,apart⟩,within⟩
    rw [← confined]
    constructor
    · rintro ⟨_,again,read,contained,rfl⟩
      by_cases same : again = p
      · exact ⟨again,read,.inl ⟨same,same ▸ contained⟩⟩
      · exact ⟨again,read,.inr ⟨same,contained⟩⟩
    · rintro ⟨again,read,⟨rfl,contained⟩ | ⟨_,contained⟩⟩
      · exact ⟨_,again,read,contained,rfl⟩
      · exact ⟨_,again,read,contained,rfl⟩

end Paths

/-- Where the bot's check and the worker's mapping agree, for every accepted configuration:
on a path that the check takes as it is, and on what the mapping makes of any value. -/
theorem pathCheck_agrees_iff {m : LocalSourcePathMapper} {c : Configuration} (configured : m.configuration = .ok c) :
    (∀ value, m.validateContainerPath value = .ok value →
      ((m.containerPath value = .ok value ∧
        ∃ q, m.canonicalHostPath value = .ok q ∧ m.containerPath q = .ok value) ↔ c.Returns (parse value))) ∧
    ∀ value result, m.containerPath value = .ok result →
      ((∃ r, m.validateContainerPath result = .ok r) ↔ c.Stays (parse (PyText.strip value))) := by
  constructor
  · intro value accepted
    obtain ⟨p,read,confined,rfl⟩ := (validateContainerPath_ok configured).mp accepted
    have p_sound := (sourcePath_ok read).2
    rw [parse_text p_sound.normal p_sound.absolute]
    exact returns_iff configured p_sound read confined
  · intro value result mapped
    obtain ⟨p,read,host,approved,inside,rfl⟩ := (containerPath_ok configured).mp mapped
    obtain ⟨rfl,p_sound⟩ := sourcePath_ok read
    exact stays_iff configured p_sound host approved inside

/-- A container root below a mapped host root, and an identity root above one. -/
theorem pathCheck_disagrees :
    (∃ (m : LocalSourcePathMapper) (value : Str), m.configuration.isOk = true ∧
      m.validateContainerPath value = .ok value ∧ m.containerPath value = .ok (str "/mnt/host/etc/nginx") ∧
      value ≠ str "/mnt/host/etc/nginx") ∧
    ∃ (m : LocalSourcePathMapper) (value result : Str), m.configuration.isOk = true ∧ m.containerPath value = .ok result ∧
      ¬∃ r, m.validateContainerPath result = .ok r := by
  constructor
  · exact ⟨⟨[],[],[(str "/host",str "/mnt/host"),(str "/etc",str "/host/etc")]⟩,str "/host/etc/nginx",by decide +kernel⟩
  · refine ⟨⟨[str "/srv"],[],[(str "/srv/app",str "/mnt/app")]⟩,str "/srv/data",str "/srv/data",by decide +kernel,
      by decide +kernel,?_⟩
    have refused : (LocalSourcePathMapper.mk [str "/srv"] [] [(str "/srv/app",str "/mnt/app")]).validateContainerPath
        (str "/srv/data") = .error ⟨"container_escape","local source escapes its configured container root"⟩ := by
      decide +kernel
    rw [refused]
    rintro ⟨_,accepted⟩
    cases accepted

def etcMapper : LocalSourcePathMapper := ⟨[str "/srv/backups"],[str "/proc"],[(str "/etc",str "/host/etc")]⟩

def etcConfiguration : Configuration :=
  ⟨[parse (str "/srv/backups")],[parse (str "/proc")],[(parse (str "/etc"),parse (str "/host/etc"))]⟩

theorem etcMapper_configuration : etcMapper.configuration = .ok etcConfiguration := rfl

theorem etc_returns : etcConfiguration.Returns (parse (str "/host/etc/nginx")) := by
  have host : etcConfiguration.hostMatch (parse (str "/host/etc/nginx")) = none := by decide +kernel
  have container : etcConfiguration.containerMatch (parse (str "/host/etc/nginx")) =
      some (parse (str "/etc"),parse (str "/host/etc")) := by decide +kernel
  simp only [Configuration.Returns,host,container]
  exact ⟨by decide +kernel,by decide +kernel,_,rfl,.inl (by decide +kernel)⟩

theorem etc_stays : etcConfiguration.Stays (parse (PyText.strip (str "/etc/nginx"))) := by
  have host : etcConfiguration.hostMatch (etcConfiguration.hostSide (parse (PyText.strip (str "/etc/nginx")))) =
      some (parse (str "/etc"),parse (str "/host/etc")) := by decide +kernel
  simp only [Configuration.Stays,host]
  exact ⟨_,rfl,.inl (by decide +kernel)⟩

theorem pathCheck_agrees_iff_etc :
    (etcMapper.containerPath (str "/host/etc/nginx") = .ok (str "/host/etc/nginx") ∧
      ∃ q, etcMapper.canonicalHostPath (str "/host/etc/nginx") = .ok q ∧
        etcMapper.containerPath q = .ok (str "/host/etc/nginx")) ∧
    ∃ r, etcMapper.validateContainerPath (str "/host/etc/nginx") = .ok r :=
  ⟨((pathCheck_agrees_iff etcMapper_configuration).1 _ (by decide +kernel)).mpr etc_returns,
    ((pathCheck_agrees_iff etcMapper_configuration).2 (str "/etc/nginx") _ (by decide +kernel)).mpr etc_stays⟩

end BackupTelebot.Config
