import BackupTelebot.PathAgreement
import BackupTelebot.TrimmedPaths

/-! Whether a path that a profile keeps is kept again. The canonical host path is checked like
any other value when the profile is saved once more: it is stripped, measured, and reversed if
it lies under a mount target. -/
namespace BackupTelebot.Config

open PyJson PurePosix

/-- What a check leaves open after white space at the end has been set aside. -/
structure Clean (p : PurePosix.Path) : Prop extends Sound p where
  level : p.climbs = false
  noNul : ∀ name ∈ p.names, 0 ∉ name

theorem sourcePath_clean {configuredRoot : Bool} {value : Str} {p : PurePosix.Path}
    (read : sourcePath configuredRoot value = .ok p) : Clean p ∧ p.text.length ≤ 1024 := by
  obtain ⟨rfl,sound⟩ := sourcePath_ok read
  unfold sourcePath at read
  cases checked : validateAbsolutePath value with
  | error e => simp [checked] at read
  | ok clean =>
    obtain ⟨⟨_,level,noNul,short⟩,_⟩ := validateAbsolutePath_ok.mp checked
    have fewer := text_parse_sublist sound.absolute
    exact ⟨⟨sound,level,fun name among here => noNul (fewer.subset (mem_text_of_name among here))⟩,fewer.length_le.trans short⟩

/-- The text of a path is read as what its stripped text is. -/
theorem sourcePath_text {p again : PurePosix.Path} (p_clean : Clean p) (short : (PyText.strip p.text).length ≤ 1024)
    (read : parse (PyText.strip p.text) = again) (level : again.climbs = false) : sourcePath false p.text = .ok again := by
  have first : (PyText.strip p.text).head? = some PurePosix.slash := by
    obtain ⟨root,list⟩ := p
    have absolute : root ≠ .relative := by simpa [PurePosix.Path.isAbsolute] using p_clean.absolute
    cases blank : endsBlank (PurePosix.Path.text ⟨root,list⟩) with
    | false => rw [strip_text_eq_self p_clean.absolute blank,head_text p_clean.absolute]
    | true =>
      obtain ⟨before,last,same⟩ := exists_concat p_clean.absolute blank
      rw [same] at p_clean ⊢
      rw [← isAbsolute_parse,parse_trimmed p_clean.normal absolute]
      simpa [PurePosix.Path.isAbsolute] using absolute
  have accepted : validateAbsolutePath p.text = .ok again.text := by
    rw [validateAbsolutePath_ok,read]
    refine ⟨⟨first,level,fun here => ?_,short⟩,rfl⟩
    rcases mem_text ((PyText.strip_sublist _).subset here) with slash | dot | ⟨name,among,inside⟩
    · cases slash
    · cases dot
    · exact p_clean.noNul name among inside
  have back : parse again.text = again := by
    rw [← read]
    exact parse_text (parse_normal _) (isAbsolute_parse.mpr first)
  simp [sourcePath,accepted,back]

theorem sourcePath_solid {p : PurePosix.Path} (p_clean : Clean p) (solid : endsBlank p.text = false)
    (short : p.text.length ≤ 1024) : sourcePath false p.text = .ok p := by
  have whole := strip_text_eq_self p_clean.absolute solid
  apply sourcePath_text p_clean
  · rwa [whole]
  · rw [whole,parse_text p_clean.normal p_clean.absolute]
  · exact p_clean.level

namespace Configuration

/-- The text of what lies at some names under a root. -/
def lengthAt (root : PurePosix.Path) (below : List Str) : ℕ :=
  root.text.length + (if root.names = [] then 0 else 1) + (join below).length

/-- The check of the canonical path reads that path again. Under a mount target with no mapped
host root above, the path that the target stands for has to be short enough. White space at
the end is in order only for a host root that is mounted at its own stripped text. -/
def Kept (c : Configuration) (p : PurePosix.Path) : Prop :=
  match c.hostMatch p, c.containerMatch p with
  | none,some (host,container) =>
      if p = container then endsBlank host.text = false ∨ container = parse (PyText.strip host.text)
      else endsBlank p.text = false ∧ lengthAt host (p.below container) ≤ 1024
  | _,_ => endsBlank p.text = false ∨
      (p,parse (PyText.strip p.text)) ∈ c.mappings ∧ c.hostMatch (parse (PyText.strip p.text)) = none

end Configuration

theorem length_extend {root : PurePosix.Path} {below : List Str} (absolute : root.isAbsolute = true) (some_ : below ≠ []) :
    (root.extend below).text.length = Configuration.lengthAt root below := by
  obtain ⟨kind,list⟩ := root
  have rooted : kind ≠ .relative := by simpa [PurePosix.Path.isAbsolute] using absolute
  have parts : (join (list ++ below)).length = (join list).length + (if list = [] then 0 else 1) + (join below).length := by
    clear absolute
    induction list with
    | nil => simp
    | cons first rest ih =>
      cases rest with
      | nil =>
        obtain ⟨next,others,rfl⟩ := List.exists_cons_of_ne_nil some_
        simp only [List.singleton_append,join_cons_cons,join_singleton,List.length_append,List.length_cons,
          List.cons_ne_nil,if_false]
        omega
      | cons second others =>
        rw [List.cons_append,List.cons_append,join_cons_cons,← List.cons_append,List.length_append,List.length_cons,ih,
          join_cons_cons,List.length_append,List.length_cons,if_neg (by simp),if_neg (by simp)]
        omega
  simp only [PurePosix.Path.text,PurePosix.Path.extend,Configuration.lengthAt,rooted,false_and,if_false,List.length_append,
    parts]
  omega

theorem mappings_clean {m : LocalSourcePathMapper} {c : Configuration} (configured : m.configuration = .ok c) :
    ∀ mapping ∈ c.mappings, (Clean mapping.1 ∧ mapping.1.text.length ≤ 1024) ∧
      Clean mapping.2 ∧ mapping.2.text.length ≤ 1024 := by
  simp only [LocalSourcePathMapper.configuration,bind_eq_ok,refuse_eq_ok,exists_const,pure_eq_ok] at configured
  obtain ⟨identity,_,denied,_,mappings,read,_,_,rfl⟩ := configured
  refine mapM_ok ?_ read
  intro mapping pair accepted
  simp only [mappingPaths,bind_eq_ok,pure_eq_ok] at accepted
  obtain ⟨host,hostRead,container,containerRead,rfl⟩ := accepted
  exact ⟨sourcePath_clean hostRead,sourcePath_clean containerRead⟩

theorem Clean.extend_below {p root : PurePosix.Path} (p_clean : Clean p) (root_clean : Clean root) (target : PurePosix.Path) :
    Clean (root.extend (p.below target)) where
  toSound := root_clean.toSound.extend (p_clean.toSound.below target)
  level := by
    have below : [PurePosix.dot,PurePosix.dot] ∉ p.below target := fun here => by
      have climbs := p_clean.level
      simp only [PurePosix.Path.climbs,List.contains_eq_mem,decide_eq_false_iff_not] at climbs
      exact climbs (List.mem_of_mem_drop here)
    have above := root_clean.level
    simp only [PurePosix.Path.climbs,List.contains_eq_mem,decide_eq_false_iff_not] at above ⊢
    intro here
    rcases List.mem_append.mp here with first | later
    · exact above first
    · exact below later
  noNul := by
    intro name among
    rcases List.mem_append.mp among with first | later
    · exact root_clean.noNul name first
    · exact p_clean.noNul name (List.mem_of_mem_drop later)

/-- A path on the host's side is not reversed any more. -/
theorem hostSide_hostSide (c : Configuration) (p : PurePosix.Path) : c.hostSide (c.hostSide p) = c.hostSide p := by
  cases host : c.hostMatch p with
  | some mapping => simp [Configuration.hostSide,host]
  | none =>
    cases target : c.containerMatch p with
    | none => simp [Configuration.hostSide,host,target]
    | some mapping =>
      have moved : c.hostSide p = mapping.1.extend (p.below mapping.2) := by simp [Configuration.hostSide,host,target]
      obtain ⟨deepest,found⟩ := hostMatch_exists (containerMatch_some target).1 (extend_within mapping.1 (p.below mapping.2))
      rw [moved]
      simp [Configuration.hostSide,found]

section Kept

variable {m : LocalSourcePathMapper} {c : Configuration}

/-- The canonical path is a fixed point exactly if it is read as a path with the same host side. -/
theorem canonical_again_iff (configured : m.configuration = .ok c) {value q : Str} (accepted : m.canonicalHostPath value = .ok q) :
    m.canonicalHostPath q = .ok q ↔ ∃ p again, sourcePath false value = .ok p ∧ q = (c.hostSide p).text ∧
      sourcePath false (c.hostSide p).text = .ok again ∧ c.hostSide again = c.hostSide p := by
  have sound := configuration_sound configured
  obtain ⟨p,read,allowed,approved,rfl⟩ := (canonicalHostPath_ok configured).mp accepted
  rw [canonicalHostPath_ok configured]
  have p_sound := hostSide_sound sound (sourcePath_ok read).2
  constructor
  · rintro ⟨again,read',_,_,same⟩
    have again_sound := hostSide_sound sound (sourcePath_ok read').2
    exact ⟨p,again,read,rfl,read',((Sound.text_inj p_sound again_sound).mp same).symm⟩
  · rintro ⟨p',again,read',_,readAgain,same⟩
    obtain rfl : p' = p := Except.ok.inj (read'.symm.trans read)
    exact ⟨again,readAgain,by rwa [same],by rwa [same],by rw [same]⟩

/-- Trimming the end of a path does not lead out of a directory above it. -/
theorem trimmed_within {w root : PurePosix.Path} (w_sound : Sound w) (blank : endsBlank w.text = true)
    (inside : w.within root = true) (above : root.names.length < w.names.length) :
    (parse (PyText.strip w.text)).within root = true := by
  obtain ⟨before,last,shape⟩ := exists_concat w_sound.absolute blank
  have rooted : w.root ≠ .relative := by simpa [PurePosix.Path.isAbsolute] using w_sound.absolute
  have trimmed : parse (PyText.strip w.text) = ⟨w.root,before ++ names (trimEnd last)⟩ := by
    rw [shape]
    exact parse_trimmed (shape ▸ w_sound.normal) rooted
  have list : w.names = before ++ [last] := congrArg PurePosix.Path.names shape
  obtain ⟨roots,first⟩ := within_iff.mp inside
  have short : root.names.length ≤ before.length := by
    rw [list,List.length_append,List.length_singleton] at above
    omega
  have lead : root.names <+: before :=
    List.prefix_of_prefix_length_le (list ▸ first) (List.prefix_append before [last]) short
  rw [trimmed,within_iff]
  exact ⟨roots,lead.trans (List.prefix_append _ _)⟩

/-- Read again after white space at its end was trimmed, a host side comes back only if it is
a host root mounted at what it was trimmed to. -/
theorem trimmed_back {w again : PurePosix.Path} (w_sound : Sound w) (blank : endsBlank w.text = true)
    (read : parse (PyText.strip w.text) = again) (back : c.hostSide again = w) :
    (w,again) ∈ c.mappings ∧ c.hostMatch again = none := by
  have changed : again ≠ w := by
    rintro rfl
    have shorter := (text_parse_sublist (read.symm ▸ w_sound.absolute)).length_le
    rw [read,strip_text w_sound.absolute] at shorter
    exact absurd (length_trimEnd_lt blank) (not_lt.mpr shorter)
  cases host : c.hostMatch again with
  | some mapping => exact absurd (by simpa [Configuration.hostSide,host] using back) changed
  | none =>
    cases target : c.containerMatch again with
    | none => exact absurd (by simpa [Configuration.hostSide,host,target] using back) changed
    | some mapping =>
      obtain ⟨member,within,_⟩ := containerMatch_some target
      have moved : mapping.1.extend (again.below mapping.2) = w := by simpa [Configuration.hostSide,host,target] using back
      have whole := extend_below within
      cases rest : again.below mapping.2 with
      | nil =>
        rw [rest] at moved whole
        have hostRoot : mapping.1 = w := by simpa [PurePosix.Path.extend] using moved
        have containerRoot : mapping.2 = again := by simpa [PurePosix.Path.extend] using whole
        exact ⟨by rwa [← hostRoot,← containerRoot],rfl⟩
      | cons first others =>
        have inside : w.within mapping.1 = true := moved ▸ extend_within mapping.1 _
        have deeper : mapping.1.names.length < w.names.length := by
          rw [← moved,rest]
          simp [PurePosix.Path.extend]
        have above := trimmed_within w_sound blank inside deeper
        rw [read,hostMatch_none host mapping member] at above
        cases above

/-- A host root with no host root above its mount target is what the target stands for. -/
theorem hostSide_target (sound : c.Sound) {w target : PurePosix.Path} (member : (w,target) ∈ c.mappings)
    (free : c.hostMatch target = none) : c.hostSide target = w := by
  have self : target.within target = true := within_iff.mpr ⟨rfl,List.prefix_refl _⟩
  cases found : c.containerMatch target with
  | none => simp [containerMatch_none found _ member] at self
  | some mapping =>
    obtain ⟨member',within,deepest⟩ := containerMatch_some found
    have depth := le_antisymm (within_iff.mp within).2.length_le (deepest _ member self)
    have same : mapping.2 = target := eq_of_within within self depth
    obtain rfl : mapping = (w,target) := List.inj_on_of_nodup_map sound.containers member' member same
    have nothing : target.below target = [] := by simp [PurePosix.Path.below]
    simp [Configuration.hostSide,free,found,nothing,PurePosix.Path.extend]

/-- Whether a clean path is read back from its text with itself on the host's side. -/
theorem reread_iff (configured : m.configuration = .ok c) {w : PurePosix.Path} (w_clean : Clean w)
    (stays : c.hostSide w = w) :
    (∃ again, sourcePath false w.text = .ok again ∧ c.hostSide again = w) ↔
      (endsBlank w.text = false ∧ w.text.length ≤ 1024) ∨
      ((w,parse (PyText.strip w.text)) ∈ c.mappings ∧ c.hostMatch (parse (PyText.strip w.text)) = none) := by
  have sound := configuration_sound configured
  constructor
  · rintro ⟨again,read,back⟩
    cases blank : endsBlank w.text with
    | false =>
      unfold sourcePath at read
      cases checked : validateAbsolutePath w.text with
      | error e => simp [checked] at read
      | ok text =>
        have short := (validateAbsolutePath_ok.mp checked).1.2.2.2
        rw [strip_text_eq_self w_clean.absolute blank] at short
        exact .inl ⟨rfl,short⟩
    | true =>
      have same := (sourcePath_ok read).1
      rw [← same]
      exact .inr (trimmed_back w_clean.toSound blank same.symm back)
  · rintro (⟨solid,short⟩ | ⟨member,free⟩)
    · exact ⟨w,sourcePath_solid w_clean solid short,stays⟩
    · obtain ⟨⟨_,short⟩,target,_⟩ := mappings_clean configured _ member
      have fewer := (PyText.strip_sublist w.text).length_le
      exact ⟨_,sourcePath_text w_clean (fewer.trans short) rfl target.level,hostSide_target sound member free⟩

theorem endsBlank_extend {root p : PurePosix.Path} {below : List Str} (p_sound : Sound p)
    (below_p : ∃ before, p.names = before ++ below) (some_ : below ≠ []) :
    endsBlank (root.extend below).text = endsBlank p.text := by
  obtain ⟨before,names⟩ := below_p
  obtain ⟨front,last,rfl⟩ := (List.eq_nil_or_concat' below).resolve_left some_
  have name : IsName last := p_sound.normal last (by rw [names]; simp)
  have ends : ∀ {kind : Root} (list : List Str), endsBlank (PurePosix.Path.text ⟨kind,list ++ [last]⟩) = endsBlank last := by
    intro kind list
    rw [text_concat,endsBlank,endsBlank,List.getLast?_append_of_ne_nil _ name.nonempty]
  have first : root.extend (front ++ [last]) = ⟨root.root,(root.names ++ front) ++ [last]⟩ := by simp [PurePosix.Path.extend]
  have second : p = ⟨p.root,(before ++ front) ++ [last]⟩ := by
    obtain ⟨kind,list⟩ := p
    obtain rfl : list = before ++ (front ++ [last]) := names
    simp
  rw [first,second,ends,ends]

theorem kept_iff (configured : m.configuration = .ok c) {p : PurePosix.Path} (p_clean : Clean p)
    (short : p.text.length ≤ 1024) :
    (∃ again, sourcePath false (c.hostSide p).text = .ok again ∧ c.hostSide again = c.hostSide p) ↔ c.Kept p := by
  have sound := configuration_sound configured
  have unmoved : c.hostSide p = p → ((∃ again, sourcePath false (c.hostSide p).text = .ok again ∧
      c.hostSide again = c.hostSide p) ↔ endsBlank p.text = false ∨
      (p,parse (PyText.strip p.text)) ∈ c.mappings ∧ c.hostMatch (parse (PyText.strip p.text)) = none) := by
    intro stays
    rw [stays,reread_iff configured p_clean stays]
    simp [short]
  cases host : c.hostMatch p with
  | some mapping =>
    rw [unmoved (by simp [Configuration.hostSide,host])]
    simp [Configuration.Kept,host]
  | none =>
    cases target : c.containerMatch p with
    | none =>
      rw [unmoved (by simp [Configuration.hostSide,host,target])]
      simp [Configuration.Kept,host,target]
    | some mapping =>
      obtain ⟨root,container⟩ := mapping
      obtain ⟨member,within,_⟩ := containerMatch_some target
      obtain ⟨⟨root_clean,root_short⟩,_⟩ := mappings_clean configured _ member
      have moved : c.hostSide p = root.extend (p.below container) := by simp [Configuration.hostSide,host,target]
      have stays : c.hostSide (root.extend (p.below container)) = root.extend (p.below container) :=
        moved ▸ hostSide_hostSide c p
      have whole : container.extend (p.below container) = p := extend_below within
      rw [moved,reread_iff configured (p_clean.extend_below root_clean container) stays]
      simp only [Configuration.Kept,host,target]
      by_cases same : p = container
      · subst same
        have nothing : p.below p = [] := by simp [PurePosix.Path.below]
        have self : root.extend [] = root := by simp [PurePosix.Path.extend]
        rw [if_pos rfl,nothing,self]
        simp only [root_short,and_true]
        apply or_congr_right
        constructor
        · rintro ⟨member',_⟩
          exact congrArg Prod.snd (List.inj_on_of_nodup_map sound.hosts member member' rfl)
        · intro trimmed
          rw [← trimmed]
          exact ⟨member,host⟩
      · have some_ : p.below container ≠ [] := by
          intro nothing
          rw [nothing] at whole
          exact same (by simpa [PurePosix.Path.extend] using whole.symm)
        have names : p.names = container.names ++ p.below container := (congrArg PurePosix.Path.names whole).symm
        rw [if_neg same,endsBlank_extend p_clean.toSound ⟨_,names⟩ some_,
          length_extend root_clean.absolute some_]
        refine or_iff_left ?_
        -- the host root above would also be above what the trimmed path is
        rintro ⟨member',free⟩
        have here := extend_within root (p.below container)
        have deeper : root.names.length < (root.extend (p.below container)).names.length := by
          have positive := List.length_pos_iff.mpr some_
          simp only [PurePosix.Path.extend,List.length_append]
          omega
        have sound' : Sound (root.extend (p.below container)) := (p_clean.extend_below root_clean container).toSound
        cases blank : endsBlank (root.extend (p.below container)).text with
        | true =>
          have above := trimmed_within sound' blank here deeper
          rw [hostMatch_none free _ member] at above
          cases above
        | false =>
          rw [strip_text_eq_self sound'.absolute blank,parse_text sound'.normal sound'.absolute] at free
          rw [hostMatch_none free _ member] at here
          cases here

def SameOutcome (a b : Except LocalSourcePathError Str) : Prop := a.mapError (·.reason) = b.mapError (·.reason)

/-- Where a canonical path is kept when it is saved again, for every accepted configuration
and every path that is accepted. -/
theorem canonical_kept_iff (configured : m.configuration = .ok c) {value q : Str} (accepted : m.canonicalHostPath value = .ok q) :
    (m.canonicalHostPath q = .ok q ∧ SameOutcome (m.containerPath value) (m.containerPath q)) ↔
      c.Kept (parse (PyText.strip value)) := by
  have again := canonical_again_iff configured accepted
  obtain ⟨p,read,_,_,here⟩ := (canonicalHostPath_ok configured).mp accepted
  obtain ⟨p_clean,short⟩ := sourcePath_clean read
  rw [← (sourcePath_ok read).1,← kept_iff configured p_clean short]
  constructor
  · rintro ⟨fixed,_⟩
    obtain ⟨p',again',read',_,back⟩ := again.mp fixed
    obtain rfl : p' = p := Except.ok.inj (read'.symm.trans read)
    exact ⟨again',back⟩
  · rintro ⟨again',back⟩
    have fixed := again.mpr ⟨p,again',read,here,back⟩
    refine ⟨fixed,?_⟩
    simp only [SameOutcome,LocalSourcePathMapper.containerPath,accepted,fixed]

theorem etc_kept : etcConfiguration.Kept (parse (PyText.strip (str "/host/etc/nginx/"))) := by
  have host : etcConfiguration.hostMatch (parse (PyText.strip (str "/host/etc/nginx/"))) = none := by decide +kernel
  have container : etcConfiguration.containerMatch (parse (PyText.strip (str "/host/etc/nginx/"))) =
      some (parse (str "/etc"),parse (str "/host/etc")) := by decide +kernel
  simp only [Configuration.Kept,host,container]
  decide +kernel

theorem canonical_kept_iff_etc : etcMapper.canonicalHostPath (str "/etc/nginx") = .ok (str "/etc/nginx") ∧
    SameOutcome (etcMapper.containerPath (str "/host/etc/nginx/")) (etcMapper.containerPath (str "/etc/nginx")) :=
  (canonical_kept_iff etcMapper_configuration (by decide +kernel)).mpr etc_kept

/-- A slash keeps the white space before it from the first `strip`, but not from the second. -/
theorem canonical_moves : (⟨[str "/srv"],[],[]⟩ : LocalSourcePathMapper).configuration.isOk = true ∧
    (⟨[str "/srv"],[],[]⟩ : LocalSourcePathMapper).canonicalHostPath (str "/srv/data /") = .ok (str "/srv/data ") ∧
    (⟨[str "/srv"],[],[]⟩ : LocalSourcePathMapper).canonicalHostPath (str "/srv/data ") = .ok (str "/srv/data") ∧
    (⟨[str "/srv"],[],[]⟩ : LocalSourcePathMapper).containerPath (str "/srv/data /") = .ok (str "/srv/data ") ∧
    (⟨[str "/srv"],[],[]⟩ : LocalSourcePathMapper).containerPath (str "/srv/data ") = .ok (str "/srv/data") ∧
    str "/srv/data " ≠ str "/srv/data" := by decide +kernel

end Kept

end BackupTelebot.Config
