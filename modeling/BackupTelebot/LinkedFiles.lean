import BackupTelebot.PurePaths

/-! File systems with symbolic links: how the kernel walks a path, and how `os.path.realpath`
does. A place is named by the directories above it, links apart. Every directory may be
searched. -/
namespace Posix

abbrev Name := List Nat
abbrev Location := List Name

def dotdot : Name := [46,46]

inductive Object where
  | file (content : List Nat) (readable : Bool)
  | dir
  | special
  | link (target : PurePosix.Text)
  deriving DecidableEq

/-- What a list of objects says about a place. The root needs no entry. -/
def find (objects : List (Location × Object)) (place : Location) : Option Object :=
  if place = [] then some .dir else (objects.find? fun object => object.1 = place).map (·.2)

structure FileSystem where
  objects : List (Location × Object)
  /-- Everything lies in a directory and under a name of its own. -/
  nested : ∀ object ∈ objects, object.1 ≠ [] ∧ find objects object.1.dropLast = some .dir ∧
    object.1.getLast? ≠ some dotdot

inductive Errno where
  | noEntry
  | notDirectory
  | loop
  deriving DecidableEq

namespace FileSystem

variable (fs : FileSystem)

def entry (place : Location) : Option Object := find fs.objects place

@[simp] theorem entry_root : fs.entry [] = some .dir := rfl

theorem mem_of_entry {place : Location} {object : Object} (found : fs.entry place = some object) (below : place ≠ []) :
    (place,object) ∈ fs.objects := by
  simp only [entry,find,if_neg below,Option.map_eq_some_iff] at found
  obtain ⟨pair,first,rfl⟩ := found
  obtain rfl : pair.1 = place := by simpa using List.find?_some first
  exact List.mem_of_find?_eq_some first

theorem entry_above {place : Location} {name : Name} {object : Object} (found : fs.entry (place ++ [name]) = some object) :
    fs.entry place = some .dir ∧ name ≠ dotdot := by
  obtain ⟨_,above,proper⟩ := fs.nested _ (fs.mem_of_entry found (by simp))
  simp only [List.dropLast_concat,List.getLast?_concat,ne_eq,Option.some.injEq] at above proper
  exact ⟨above,proper⟩

def origin (place : Location) (target : PurePosix.Text) : Location :=
  if (PurePosix.parse target).isAbsolute then [] else place

/-- Name after name, as far as the first link that is followed; the last one only is if asked. -/
def walkNames (follow : Bool) (links : Nat) (onLink : Location → List Name → Except Errno (Location × Nat)) :
    Location → List Name → Except Errno (Location × Nat)
  | place, [] => .ok (place,links)
  | place, name :: rest =>
    if fs.entry place ≠ some .dir then .error .notDirectory
    else if name = dotdot then walkNames follow links onLink place.dropLast rest
    else match fs.entry (place ++ [name]) with
      | none => .error .noEntry
      | some (.link target) =>
          if rest = [] ∧ follow = false then .ok (place ++ [name],links)
          else onLink (origin place target) ((PurePosix.parse target).names ++ rest)
      | some _ => walkNames follow links onLink (place ++ [name]) rest

/-- The place that a path leads to from another one, and how many more links may be followed. -/
def walk (follow : Bool) : Nat → Location → List Name → Except Errno (Location × Nat)
  | 0 => fs.walkNames follow 0 fun _ _ => .error .loop
  | links + 1 => fs.walkNames follow (links + 1) (walk follow links)

/-- `MAXSYMLINKS`. -/
def maxLinks : Nat := 40

/-- `os.lstat`, and `os.stat` where the last link is followed too. -/
def status (follow : Bool) (start : Location) (names : List Name) : Except Errno Object :=
  match fs.walk follow maxLinks start names with
  | .error e => .error e
  | .ok (place,_) =>
    match fs.entry place with
    | some object => .ok object
    | none => .error .noEntry

variable {fs}

@[simp] theorem walk_nil (follow : Bool) (links : Nat) (place : Location) :
    fs.walk follow links place [] = .ok (place,links) := by
  cases links <;> rfl

/-- One name more. -/
theorem walk_cons (follow : Bool) (links : Nat) (place : Location) (name : Name) (rest : List Name) :
    fs.walk follow links place (name :: rest) =
      if fs.entry place ≠ some .dir then .error .notDirectory
      else if name = dotdot then fs.walk follow links place.dropLast rest
      else match fs.entry (place ++ [name]) with
        | none => .error .noEntry
        | some (.link target) =>
            if rest = [] ∧ follow = false then .ok (place ++ [name],links)
            else match links with
              | 0 => .error .loop
              | links + 1 => fs.walk follow links (origin place target) ((PurePosix.parse target).names ++ rest)
        | some _ => fs.walk follow links (place ++ [name]) rest := by
  cases links with
  | zero => rw [walk,walkNames]
  | succ links => rw [walk,walkNames]

section Cases

variable {follow : Bool} {links : Nat} {place : Location} {name : Name} {rest : List Name} {target : PurePosix.Text}

theorem walk_outside (outside : fs.entry place ≠ some .dir) :
    fs.walk follow links place (name :: rest) = .error .notDirectory := by
  rw [walk_cons,if_pos outside]

theorem walk_up (inside : fs.entry place = some .dir) :
    fs.walk follow links place (dotdot :: rest) = fs.walk follow links place.dropLast rest := by
  rw [walk_cons,if_neg (not_not.mpr inside),if_pos rfl]

theorem walk_missing (inside : fs.entry place = some .dir) (proper : name ≠ dotdot)
    (missing : fs.entry (place ++ [name]) = none) : fs.walk follow links place (name :: rest) = .error .noEntry := by
  rw [walk_cons,if_neg (not_not.mpr inside),if_neg proper,missing]

theorem walk_plain {object : Object} (found : fs.entry (place ++ [name]) = some object)
    (noLink : ∀ target, object ≠ .link target) :
    fs.walk follow links place (name :: rest) = fs.walk follow links (place ++ [name]) rest := by
  obtain ⟨inside,proper⟩ := fs.entry_above found
  rw [walk_cons,if_neg (not_not.mpr inside),if_neg proper,found]
  cases object with
  | link target => exact absurd rfl (noLink target)
  | _ => rfl

theorem walk_lastLink (found : fs.entry (place ++ [name]) = some (.link target)) :
    fs.walk false links place [name] = .ok (place ++ [name],links) := by
  obtain ⟨inside,proper⟩ := fs.entry_above found
  rw [walk_cons,if_neg (not_not.mpr inside),if_neg proper,found]
  rfl

theorem walk_link_zero (found : fs.entry (place ++ [name]) = some (.link target)) (on : rest ≠ [] ∨ follow = true) :
    fs.walk follow 0 place (name :: rest) = .error .loop := by
  obtain ⟨inside,proper⟩ := fs.entry_above found
  have followed : ¬(rest = [] ∧ follow = false) := by
    rcases on with more | always
    · simp [more]
    · simp [always]
  rw [walk_cons,if_neg (not_not.mpr inside),if_neg proper,found]
  exact if_neg followed

theorem walk_link (found : fs.entry (place ++ [name]) = some (.link target)) (on : rest ≠ [] ∨ follow = true) :
    fs.walk follow (links + 1) place (name :: rest) =
      fs.walk follow links (origin place target) ((PurePosix.parse target).names ++ rest) := by
  obtain ⟨inside,proper⟩ := fs.entry_above found
  have followed : ¬(rest = [] ∧ follow = false) := by
    rcases on with more | always
    · simp [more]
    · simp [always]
  rw [walk_cons,if_neg (not_not.mpr inside),if_neg proper,found]
  exact if_neg followed

/-- What a name can be at a place. -/
theorem name_cases (fs : FileSystem) (place : Location) (name : Name) :
    fs.entry place ≠ some .dir ∨ fs.entry place = some .dir ∧
      (name = dotdot ∨ name ≠ dotdot ∧ fs.entry (place ++ [name]) = none ∨
        (∃ object, fs.entry (place ++ [name]) = some object ∧ ∀ target, object ≠ .link target) ∨
        ∃ target, fs.entry (place ++ [name]) = some (.link target)) := by
  by_cases inside : fs.entry place = some .dir
  · refine .inr ⟨inside,?_⟩
    cases found : fs.entry (place ++ [name]) with
    | none =>
      by_cases up : name = dotdot
      · exact .inl up
      · exact .inr (.inl ⟨up,rfl⟩)
    | some object =>
      cases object with
      | link target => exact .inr (.inr (.inr ⟨target,rfl⟩))
      | file content readable => exact .inr (.inr (.inl ⟨_,rfl,by simp⟩))
      | dir => exact .inr (.inr (.inl ⟨_,rfl,by simp⟩))
      | special => exact .inr (.inr (.inl ⟨_,rfl,by simp⟩))
  · exact .inl inside

end Cases

/-- A path is walked piece by piece. Links in front of the last piece are always followed. -/
theorem walk_append {follow : Bool} {later : List Name} (on : later ≠ [] ∨ follow = true) (links : Nat) (place : Location)
    (first : List Name) : fs.walk follow links place (first ++ later) =
      (fs.walk true links place first).bind fun mid => fs.walk follow mid.2 mid.1 later := by
  induction links using Nat.strongRecOn generalizing place first with
  | ind links outer =>
    induction first generalizing place with
    | nil => simp [Except.bind]
    | cons name rest ih =>
      have on' : rest ++ later ≠ [] ∨ follow = true := by
        rcases on with more | always
        · exact .inl (by simp [more])
        · exact .inr always
      rw [List.cons_append]
      rcases fs.name_cases place name with outside | ⟨inside,rfl | ⟨proper,missing⟩ | ⟨object,found,noLink⟩ | ⟨target,found⟩⟩
      · rw [walk_outside outside,walk_outside outside]
        rfl
      · rw [walk_up inside,walk_up inside,ih]
      · rw [walk_missing inside proper missing,walk_missing inside proper missing]
        rfl
      · rw [walk_plain found noLink,walk_plain found noLink,ih]
      · cases links with
        | zero =>
          rw [walk_link_zero found on',walk_link_zero found (.inr rfl)]
          rfl
        | succ links =>
          rw [walk_link found on',walk_link found (.inr rfl),← List.append_assoc,outer links (Nat.lt_succ_self links)]

/-- No walk gains links. -/
theorem walk_links_le {links rest : Nat} {start place : Location} {names : List Name}
    (walked : fs.walk true links start names = .ok (place,rest)) : rest ≤ links := by
  induction links using Nat.strongRecOn generalizing start names with
  | ind links outer =>
    induction names generalizing start with
    | nil =>
      simp only [walk_nil,Except.ok.injEq,Prod.mk.injEq] at walked
      exact walked.2.ge
    | cons name names ih =>
      rcases fs.name_cases start name with outside | ⟨inside,rfl | ⟨proper,missing⟩ | ⟨object,found,noLink⟩ | ⟨target,found⟩⟩
      · rw [walk_outside outside] at walked
        simp at walked
      · exact ih (by rwa [walk_up inside] at walked)
      · rw [walk_missing inside proper missing] at walked
        simp at walked
      · exact ih (by rwa [walk_plain found noLink] at walked)
      · cases links with
        | zero =>
          rw [walk_link_zero found (.inr rfl)] at walked
          simp at walked
        | succ links =>
          rw [walk_link found (.inr rfl)] at walked
          exact (outer links (Nat.lt_succ_self links) walked).trans (Nat.le_succ links)

/-- A directory is reached under its own name. -/
theorem walk_dir {place : Location} (dir : fs.entry place = some .dir) (follow : Bool) (links : Nat) :
    fs.walk follow links [] place = .ok (place,links) := by
  induction place using List.reverseRecOn generalizing follow with
  | nil => exact walk_nil follow links []
  | append_singleton above name ih =>
    obtain ⟨inside,_⟩ := fs.entry_above dir
    rw [walk_append (.inl (by simp)),ih inside]
    simp only [Except.bind]
    rw [walk_plain dir (by simp),walk_nil]

/-- What is still to be read: a name, or the mark behind the names of a link's target. -/
inductive Part where
  | name (name : Name)
  | resolved (link : Location)
  deriving DecidableEq

structure Walker where
  path : Location
  rest : List Part
  /-- The links met so far; those still being resolved have no path yet. -/
  seen : List (Location × Option Location)
  deriving DecidableEq

def seenAs (seen : List (Location × Option Location)) (link : Location) : Option (Option Location) :=
  (seen.find? fun pair => pair.1 = link).map (·.2)

variable (fs) in
/-- One turn of the loop. What cannot be looked at is kept as it is, and so is a link that is
met again while it is being resolved. -/
def turn (w : Walker) : Walker :=
  match w.rest with
  | [] => w
  | .resolved link :: rest => ⟨w.path,rest,(link,some w.path) :: w.seen⟩
  | .name name :: rest =>
    if name = dotdot then ⟨w.path.dropLast,rest,w.seen⟩
    else match fs.status false [] (w.path ++ [name]) with
      | .ok (.link target) =>
        match seenAs w.seen (w.path ++ [name]) with
        | some (some path) => ⟨path,rest,w.seen⟩
        | some none => ⟨w.path ++ [name],rest,w.seen⟩
        | none => ⟨origin w.path target,
            (PurePosix.parse target).names.map .name ++ .resolved (w.path ++ [name]) :: rest,
            (w.path ++ [name],none) :: w.seen⟩
      | _ => ⟨w.path ++ [name],rest,w.seen⟩

variable (fs) in
def turns : Nat → Walker → Option Location
  | 0, w => if w.rest = [] then some w.path else none
  | count + 1, w => if w.rest = [] then some w.path else turns count (fs.turn w)

variable (fs) in
def realpath (count : Nat) (start : Location) (names : List Name) : Option Location :=
  fs.turns count ⟨start,names.map .name,[]⟩

variable (fs) in
/-- Wherever the kernel comes under this name or a name above it, it comes to that very place. -/
def Settled (path : Location) : Prop :=
  ∀ above, above <+: path → ∀ links place rest, fs.walk true links [] above = .ok (place,rest) → place = above

theorem Settled.here {path : Location} (settled : fs.Settled path) {links rest : Nat} {place : Location}
    (walked : fs.walk true links [] path = .ok (place,rest)) : place = path :=
  settled path List.prefix_rfl links place rest walked

theorem settled_root : fs.Settled [] := by
  intro above begun links place rest walked
  obtain rfl := List.prefix_nil.mp begun
  simp only [walk_nil,Except.ok.injEq,Prod.mk.injEq] at walked
  exact walked.1.symm

theorem Settled.concat {path : Location} {name : Name} (settled : fs.Settled path)
    (last : ∀ links place rest, fs.walk true links path [name] = .ok (place,rest) → place = path ++ [name]) :
    fs.Settled (path ++ [name]) := by
  intro above begun links place rest walked
  rcases List.prefix_concat_iff.mp begun with rfl | before
  · rw [walk_append (.inr rfl)] at walked
    cases first : fs.walk true links [] path with
    | error e => simp [first,Except.bind] at walked
    | ok mid =>
      obtain rfl : mid.1 = path := settled.here first
      rw [first] at walked
      exact last mid.2 place rest walked
  · exact settled above before links place rest walked

theorem Settled.dropLast {path : Location} (settled : fs.Settled path) : fs.Settled path.dropLast :=
  fun above begun => settled above (begun.trans path.dropLast_prefix)

theorem settled_dir {place : Location} (dir : fs.entry place = some .dir) : fs.Settled place := by
  induction place using List.reverseRecOn with
  | nil => exact settled_root
  | append_singleton above name ih =>
    apply (ih (fs.entry_above dir).1).concat
    intro links place rest walked
    rw [walk_plain dir (by simp),walk_nil] at walked
    simp only [Except.ok.injEq,Prod.mk.injEq] at walked
    exact walked.1.symm

/-- Behind a settled path `lstat` sees what lies there. -/
theorem Settled.status_link {path : Location} {name : Name} (settled : fs.Settled path) (proper : name ≠ dotdot)
    {target : PurePosix.Text} :
    fs.status false [] (path ++ [name]) = .ok (.link target) ↔ fs.entry (path ++ [name]) = some (.link target) := by
  constructor
  · intro seen
    rw [status,walk_append (.inl (by simp))] at seen
    cases first : fs.walk true maxLinks [] path with
    | error e => simp [first,Except.bind] at seen
    | ok mid =>
      obtain rfl : mid.1 = path := settled.here first
      rw [first] at seen
      simp only [Except.bind] at seen
      rcases fs.name_cases mid.1 name with outside | ⟨inside,up | ⟨_,missing⟩ | ⟨object,found,noLink⟩ | ⟨target',found⟩⟩
      · simp [walk_outside outside] at seen
      · exact absurd up proper
      · simp [walk_missing inside proper missing] at seen
      · simp only [walk_plain found noLink,walk_nil,found,Except.ok.injEq] at seen
        exact absurd seen (noLink target)
      · simp only [walk_lastLink found,found,Except.ok.injEq] at seen
        rw [found,seen]
  · intro found
    have inside := (fs.entry_above found).1
    rw [status,walk_append (.inl (by simp)),walk_dir inside]
    simp only [Except.bind]
    rw [walk_lastLink found]
    simp only [found]

/-- The names in front of a mark, other marks apart. -/
inductive Before : List Part → List Name → Location → Prop
  | here {link : Location} {rest : List Part} : Before (.resolved link :: rest) [] link
  | name {name : Name} {rest : List Part} {names : List Name} {link : Location} (later : Before rest names link) :
      Before (.name name :: rest) (name :: names) link
  | mark {other link : Location} {rest : List Part} {names : List Name} (later : Before rest names link) :
      Before (.resolved other :: rest) names link

variable (fs) in
def Leads (link path : Location) (names : List Name) : Prop :=
  ∀ above name, link = above ++ [name] → ∀ links place rest, fs.walk true links above [name] = .ok (place,rest) →
    ∃ fewer, fewer < links ∧ fs.walk true fewer path names = .ok (place,rest)

variable (fs) in
structure Sound (w : Walker) : Prop where
  path : fs.Settled w.path
  known : ∀ link path, seenAs w.seen link = some (some path) → fs.Settled path ∧
    ∀ above name, link = above ++ [name] → ∀ links place rest, fs.walk true links above [name] = .ok (place,rest) →
      place = path
  owed : ∀ names link, Before w.rest names link → fs.Leads link w.path names
  marked : ∀ link, seenAs w.seen link = some none → ∃ names, Before w.rest names link

/-- A name is read, and the kernel comes by the new path as well. -/
theorem Sound.advance {path path' : Location} {name : Name} {rest : List Part} {seen : List (Location × Option Location)}
    (sound : fs.Sound ⟨path,.name name :: rest,seen⟩) (settled : fs.Settled path')
    (goes : ∀ links names place left, fs.walk true links path (name :: names) = .ok (place,left) →
      ∃ fewer, fewer ≤ links ∧ fs.walk true fewer path' names = .ok (place,left)) : fs.Sound ⟨path',rest,seen⟩ where
  path := settled
  known := sound.known
  owed names link before := by
    intro above last same links place left walked
    obtain ⟨fewer,less,here⟩ := sound.owed (name :: names) link (.name before) above last same links place left walked
    obtain ⟨fewer',less',there⟩ := goes fewer names place left here
    exact ⟨fewer',by omega,there⟩
  marked link unresolved := by
    obtain ⟨names,before⟩ := sound.marked link unresolved
    cases before with
    | name later => exact ⟨_,later⟩

theorem walk_cons_split {links : Nat} {path place : Location} {name : Name} {names : List Name} {left : Nat}
    (walked : fs.walk true links path (name :: names) = .ok (place,left)) :
    ∃ mid fewer, fs.walk true links path [name] = .ok (mid,fewer) ∧ fewer ≤ links ∧
      fs.walk true fewer mid names = .ok (place,left) := by
  rw [← List.singleton_append,walk_append (.inr rfl)] at walked
  cases first : fs.walk true links path [name] with
  | error e => simp [first,Except.bind] at walked
  | ok mid =>
    rw [first] at walked
    exact ⟨mid.1,mid.2,rfl,walk_links_le first,walked⟩

/-- A link that is met again on the way through it is never passed. -/
theorem Sound.stuck {path : Location} {name : Name} {rest : List Part} {seen : List (Location × Option Location)}
    (sound : fs.Sound ⟨path,.name name :: rest,seen⟩) (unresolved : seenAs seen (path ++ [name]) = some none)
    (links : Nat) : ∀ place left, fs.walk true links path [name] ≠ .ok (place,left) := by
  obtain ⟨names,before⟩ := sound.marked _ unresolved
  cases before with
  | name later =>
    induction links using Nat.strongRecOn with
    | ind links ih =>
      intro place left walked
      obtain ⟨fewer,less,again⟩ := sound.owed _ _ (.name later) path name rfl links place left walked
      obtain ⟨mid,left',first,_,_⟩ := walk_cons_split again
      exact ih fewer less mid left' first

theorem seenAs_cons (link other : Location) (path : Option Location) (seen : List (Location × Option Location)) :
    seenAs ((other,path) :: seen) link = if other = link then some path else seenAs seen link := by
  by_cases same : other = link <;> simp [seenAs,same]

theorem before_target {names : List Name} {link other : Location} {rest : List Part} {names' : List Name} :
    Before (names.map .name ++ .resolved other :: rest) names' link ↔
      link = other ∧ names' = names ∨ ∃ later, Before rest later link ∧ names' = names ++ later := by
  induction names generalizing names' with
  | nil =>
    constructor
    · intro before
      cases before with
      | here => exact .inl ⟨rfl,rfl⟩
      | mark later => exact .inr ⟨names',later,rfl⟩
    · rintro (⟨rfl,rfl⟩ | ⟨later,before,rfl⟩)
      · exact .here
      · exact .mark before
  | cons name names ih =>
    constructor
    · intro before
      cases before with
      | name later =>
        rcases ih.mp later with ⟨rfl,rfl⟩ | ⟨more,before,rfl⟩
        · exact .inl ⟨rfl,rfl⟩
        · exact .inr ⟨more,before,rfl⟩
    · rintro (⟨rfl,rfl⟩ | ⟨later,before,rfl⟩)
      · exact .name (ih.mpr (.inl ⟨rfl,rfl⟩))
      · exact .name (ih.mpr (.inr ⟨later,before,rfl⟩))

/-- The names of a link's target take the link's place. -/
theorem Sound.enter {path : Location} {name : Name} {rest : List Part} {seen : List (Location × Option Location)}
    {target : PurePosix.Text} (sound : fs.Sound ⟨path,.name name :: rest,seen⟩)
    (found : fs.entry (path ++ [name]) = some (.link target)) :
    fs.Sound ⟨origin path target,(PurePosix.parse target).names.map .name ++ .resolved (path ++ [name]) :: rest,
      (path ++ [name],none) :: seen⟩ where
  path := by
    unfold origin
    split
    · exact settled_root
    · exact sound.path
  known link path' known := by
    rw [seenAs_cons] at known
    split_ifs at known with same
    · simp at known
    · exact sound.known link path' known
  owed names link before := by
    intro above last same links place left walked
    have through {links : Nat} {more : List Name} (walked : fs.walk true links path (name :: more) = .ok (place,left)) :
        ∃ fewer, fewer < links ∧
          fs.walk true fewer (origin path target) ((PurePosix.parse target).names ++ more) = .ok (place,left) := by
      cases links with
      | zero =>
        rw [walk_link_zero found (.inr rfl)] at walked
        simp at walked
      | succ links => exact ⟨links,Nat.lt_succ_self links,by rwa [walk_link found (.inr rfl)] at walked⟩
    rcases before_target.mp before with ⟨rfl,rfl⟩ | ⟨later,behind,rfl⟩
    · obtain ⟨rfl,same⟩ := List.append_inj' same rfl
      obtain rfl : name = last := by simpa using same
      simpa using through walked
    · obtain ⟨fewer,less,here⟩ := sound.owed (name :: later) link (.name behind) above last same links place left walked
      obtain ⟨fewer',less',there⟩ := through here
      exact ⟨fewer',by omega,there⟩
  marked link unresolved := by
    rw [seenAs_cons] at unresolved
    split_ifs at unresolved with same
    · exact ⟨_,before_target.mpr (.inl ⟨same.symm,rfl⟩)⟩
    · obtain ⟨names,before⟩ := sound.marked link unresolved
      cases before with
      | name later => exact ⟨_,before_target.mpr (.inr ⟨_,later,rfl⟩)⟩

/-- Behind the mark the link is known. -/
theorem Sound.leave {path link : Location} {rest : List Part} {seen : List (Location × Option Location)}
    (sound : fs.Sound ⟨path,.resolved link :: rest,seen⟩) : fs.Sound ⟨path,rest,(link,some path) :: seen⟩ where
  path := sound.path
  known other path' known := by
    rw [seenAs_cons] at known
    split_ifs at known with same
    · obtain rfl : path = path' := by simpa using known
      refine ⟨sound.path,fun above name split links place left walked => ?_⟩
      obtain ⟨fewer,_,here⟩ := sound.owed [] link .here above name (same.trans split) links place left walked
      simp only [walk_nil,Except.ok.injEq,Prod.mk.injEq] at here
      exact here.1.symm
    · exact sound.known other path' known
  owed names other before := sound.owed names other (.mark before)
  marked other unresolved := by
    rw [seenAs_cons] at unresolved
    split_ifs at unresolved with same
    · simp at unresolved
    · obtain ⟨names,before⟩ := sound.marked other unresolved
      cases before with
      | here => exact absurd rfl same
      | mark later => exact ⟨names,later⟩

theorem Sound.turn {w : Walker} (sound : fs.Sound w) : fs.Sound (fs.turn w) := by
  obtain ⟨path,rest,seen⟩ := w
  cases rest with
  | nil => exact sound
  | cons part rest =>
    cases part with
    | resolved link => exact sound.leave
    | name name =>
      have settled : fs.Settled path := sound.path
      by_cases up : name = dotdot
      · subst up
        simp only [FileSystem.turn,if_true]
        apply sound.advance settled.dropLast
        intro links names place left walked
        by_cases inside : fs.entry path = some .dir
        · exact ⟨links,le_rfl,by rwa [walk_up inside] at walked⟩
        · rw [walk_outside inside] at walked
          simp at walked
      · by_cases isLink : ∃ target, fs.entry (path ++ [name]) = some (.link target)
        · obtain ⟨target,found⟩ := isLink
          simp only [FileSystem.turn,if_neg up,(settled.status_link up).mpr found]
          cases known : seenAs seen (path ++ [name]) with
          | none => exact sound.enter found
          | some resolved =>
            cases resolved with
            | some path' =>
              obtain ⟨settled',same⟩ := sound.known (path ++ [name]) path' known
              apply sound.advance settled'
              intro links names place left walked
              obtain ⟨mid,fewer,first,less,later⟩ := walk_cons_split walked
              obtain rfl := same path name rfl links mid fewer first
              exact ⟨fewer,less,later⟩
            | none =>
              have stuck := sound.stuck known
              apply sound.advance
              · exact settled.concat fun links place left walked => absurd walked (stuck links place left)
              · intro links names place left walked
                obtain ⟨mid,fewer,first,_,_⟩ := walk_cons_split walked
                exact absurd first (stuck links mid fewer)
        · have next : fs.turn ⟨path,.name name :: rest,seen⟩ = ⟨path ++ [name],rest,seen⟩ := by
            simp only [FileSystem.turn,if_neg up]
            split
            · rename_i target link
              exact absurd ⟨target,(settled.status_link up).mp link⟩ isLink
            · rfl
          have goes {links : Nat} {names : List Name} {place : Location} {left : Nat}
              (walked : fs.walk true links path (name :: names) = .ok (place,left)) :
              fs.walk true links (path ++ [name]) names = .ok (place,left) := by
            rcases fs.name_cases path name with outside | ⟨inside,up' | ⟨_,missing⟩ | ⟨object,found,noLink⟩ | link⟩
            · simp [walk_outside outside] at walked
            · exact absurd up' up
            · simp [walk_missing inside up missing] at walked
            · rwa [walk_plain found noLink] at walked
            · exact absurd link isLink
          rw [next]
          apply sound.advance
          · apply settled.concat
            intro links place left walked
            have there := goes walked
            simp only [walk_nil,Except.ok.injEq,Prod.mk.injEq] at there
            exact there.1.symm
          · intro links names place left walked
            exact ⟨links,le_rfl,goes walked⟩

theorem Sound.turns {w : Walker} (sound : fs.Sound w) {count : Nat} {path : Location}
    (resolved : fs.turns count w = some path) : fs.Settled path := by
  induction count generalizing w with
  | zero =>
    simp only [FileSystem.turns] at resolved
    split_ifs at resolved
    exact Option.some.inj resolved ▸ sound.path
  | succ count ih =>
    simp only [FileSystem.turns] at resolved
    split_ifs at resolved
    · exact Option.some.inj resolved ▸ sound.path
    · exact ih sound.turn resolved

theorem not_before_names {names names' : List Name} {link : Location} : ¬Before (names.map .name) names' link := by
  induction names generalizing names' with
  | nil => nofun
  | cons name names ih =>
    intro before
    cases before with
    | name later => exact ih later

/-- At the beginning nothing is owed. -/
theorem Settled.sound {start : Location} (settled : fs.Settled start) (names : List Name) :
    fs.Sound ⟨start,names.map .name,[]⟩ := by
  constructor
  · exact settled
  · intro link path known
    simp [seenAs] at known
  · intro names link before
    exact absurd before not_before_names
  · intro link unresolved
    simp [seenAs] at unresolved

/-- What is left when a removal of everything from a place down leaves some of it: an object
stays with everything above it. -/
def stays (place : Location) (left : Location → Bool) (object : Location) : Bool :=
  object.inits.all fun above => !place.isPrefixOf above || left above

theorem stays_dropLast {place object : Location} {left : Location → Bool} (kept : stays place left object = true) :
    stays place left object.dropLast = true := by
  simp only [stays,List.all_eq_true,List.mem_inits] at kept ⊢
  exact fun above begun => kept above (begun.trans object.dropLast_prefix)

theorem find_filter (objects : List (Location × Object)) (keep : Location → Bool) {place : Location} (below : place ≠ []) :
    find (objects.filter fun object => keep object.1) place = if keep place then find objects place else none := by
  simp only [find,if_neg below]
  induction objects with
  | nil => simp
  | cons object rest ih =>
    by_cases kept : keep object.1 = true
    · rw [List.filter_cons,if_pos kept]
      by_cases here : object.1 = place
      · simp [here,here ▸ kept]
      · simpa [here] using ih
    · rw [List.filter_cons,if_neg kept,ih]
      by_cases here : object.1 = place
      · simp [here ▸ kept]
      · simp [here]

variable (fs) in
def prune (place : Location) (left : Location → Bool) : FileSystem where
  objects := fs.objects.filter fun object => stays place left object.1
  nested object member := by
    obtain ⟨member,kept⟩ := List.mem_filter.mp member
    obtain ⟨below,above,proper⟩ := fs.nested object member
    refine ⟨below,?_,proper⟩
    by_cases top : object.1.dropLast = []
    · simp [find,top]
    · rw [find_filter _ _ top,if_pos (stays_dropLast kept)]
      exact above

variable (fs) in
/-- `shutil.rmtree` of an absolute path, with what a refusal in the middle leaves. -/
def rmtree (left : Location → Bool) (path : Location) : FileSystem × Bool :=
  match fs.walk false maxLinks [] path with
  | .error _ => (fs,false)
  | .ok (place,_) =>
    if fs.entry place = some .dir then (fs.prune place left,!left place) else (fs,false)

variable (fs) in
/-- `rmdir`, where a refusal is no matter. -/
def rmdir (path : Location) : FileSystem :=
  match fs.walk false maxLinks [] path with
  | .error _ => fs
  | .ok (place,_) =>
    if fs.entry place = some .dir ∧ ∀ object ∈ fs.objects, place <+: object.1 → object.1 = place then
      fs.prune place fun _ => false
    else fs

end FileSystem

end Posix
