import BackupTelebot.LinkedFiles

/-! What the kernel can reach, `os.path.realpath` resolves: its loop comes to an end, and at
the same place. Names that lie below it and are no links, or do not exist, are kept. -/
namespace Posix.FileSystem

variable {fs : FileSystem}

def ahead : List Part → List Name
  | [] => []
  | .name name :: rest => name :: ahead rest
  | .resolved _ :: rest => ahead rest

@[simp] theorem ahead_append (front back : List Part) : ahead (front ++ back) = ahead front ++ ahead back := by
  induction front with
  | nil => rfl
  | cons part front ih => cases part <;> simp [ahead,ih]

@[simp] theorem ahead_names (names : List Name) : ahead (names.map .name) = names := by
  induction names with
  | nil => rfl
  | cons name names ih => simp [ahead,ih]

theorem turns_succ (count : Nat) (w : Walker) : fs.turns (count + 1) w = fs.turns count (fs.turn w) := by
  obtain ⟨path,rest,seen⟩ := w
  cases rest with
  | nil => cases count <;> simp [turns,turn]
  | cons part rest => simp [turns]

theorem turns_add (first more : Nat) (w : Walker) : fs.turns (first + more) w = fs.turns more (fs.turn^[first] w) := by
  induction first generalizing w with
  | zero => simp
  | succ first ih => rw [Nat.succ_add,turns_succ,ih,Function.iterate_succ_apply]

theorem turns_done (count : Nat) (path : Location) (seen : List (Location × Option Location)) :
    fs.turns count ⟨path,[],seen⟩ = some path := by
  cases count <;> simp [turns]

theorem Sound.iterate {w : Walker} (sound : fs.Sound w) (count : Nat) : fs.Sound (fs.turn^[count] w) := by
  induction count generalizing w with
  | zero => exact sound
  | succ count ih =>
    rw [Function.iterate_succ_apply]
    exact ih sound.turn

/-- What is no link is kept. -/
theorem Sound.keeps {path : Location} {name : Name} {rest : List Part} {seen : List (Location × Option Location)}
    (sound : fs.Sound ⟨path,.name name :: rest,seen⟩) (proper : name ≠ dotdot)
    (noLink : ∀ target, fs.entry (path ++ [name]) ≠ some (.link target)) :
    fs.turn ⟨path,.name name :: rest,seen⟩ = ⟨path ++ [name],rest,seen⟩ := by
  have settled : fs.Settled path := sound.path
  simp only [FileSystem.turn,if_neg proper]
  split
  · rename_i target link
    exact absurd ((settled.status_link proper).mp link) (noLink target)
  · rfl

/-- A name that the kernel passes is read in one turn, or is a link whose target comes next. -/
theorem Sound.follows {path place : Location} {name : Name} {rest : List Part} {seen : List (Location × Option Location)}
    (sound : fs.Sound ⟨path,.name name :: rest,seen⟩) {links left : Nat} {names : List Name}
    (walked : fs.walk true links path (name :: names) = .ok (place,left)) :
    (∃ path' fewer, fewer ≤ links ∧ fs.turn ⟨path,.name name :: rest,seen⟩ = ⟨path',rest,seen⟩ ∧
      fs.walk true fewer path' names = .ok (place,left)) ∨
    (∃ path' names' link seen' fewer, fewer < links ∧
      fs.turn ⟨path,.name name :: rest,seen⟩ = ⟨path',names'.map .name ++ .resolved link :: rest,seen'⟩ ∧
      fs.walk true fewer path' (names' ++ names) = .ok (place,left)) := by
  have settled : fs.Settled path := sound.path
  rcases fs.name_cases path name with outside | ⟨inside,up | ⟨proper,missing⟩ | ⟨object,found,noLink⟩ | ⟨target,found⟩⟩
  · simp [walk_outside outside] at walked
  · subst up
    left
    refine ⟨path.dropLast,links,le_rfl,?_,?_⟩
    · simp [FileSystem.turn]
    · rwa [walk_up inside] at walked
  · simp [walk_missing inside proper missing] at walked
  · left
    have proper := (fs.entry_above found).2
    refine ⟨path ++ [name],links,le_rfl,sound.keeps proper fun target link => ?_,?_⟩
    · rw [found] at link
      exact noLink target (Option.some.inj link)
    · rwa [walk_plain found noLink] at walked
  · have proper := (fs.entry_above found).2
    cases known : seenAs seen (path ++ [name]) with
    | none =>
      right
      cases links with
      | zero =>
        rw [walk_link_zero found (.inr rfl)] at walked
        simp at walked
      | succ links =>
        refine ⟨origin path target,(PurePosix.parse target).names,path ++ [name],(path ++ [name],none) :: seen,links,
          Nat.lt_succ_self links,?_,?_⟩
        · simp only [FileSystem.turn,if_neg proper,(settled.status_link proper).mpr found,known]
        · rwa [walk_link found (.inr rfl)] at walked
    | some resolved =>
      obtain ⟨mid,fewer,first,less,later⟩ := walk_cons_split walked
      cases resolved with
      | none => exact absurd first (sound.stuck known links mid fewer)
      | some path' =>
        left
        obtain rfl := (sound.known _ path' known).2 path name rfl links mid fewer first
        refine ⟨mid,fewer,less,?_,later⟩
        simp only [FileSystem.turn,if_neg proper,(settled.status_link proper).mpr found,known]

/-- By induction on the links the kernel may still follow, and then on what is to be read. -/
theorem along_below (bound : Nat) {back : List Part} {place : Location} {left : Nat} {front : List Part}
    {links : Nat} {path : Location} {seen : List (Location × Option Location)} (below : links < bound)
    (sound : fs.Sound ⟨path,front ++ back,seen⟩) (walked : fs.walk true links path (ahead front) = .ok (place,left)) :
    ∃ count seen', fs.turn^[count] ⟨path,front ++ back,seen⟩ = ⟨place,back,seen'⟩ := by
  induction bound generalizing links path front seen with
  | zero => omega
  | succ bound fewerLinks =>
    induction front generalizing links path seen with
    | nil =>
      simp only [ahead,walk_nil,Except.ok.injEq,Prod.mk.injEq] at walked
      exact ⟨0,seen,by simp [walked.1]⟩
    | cons part front ih =>
      -- One turn, and then as many as the rest takes.
      have after {w : Walker} (next : fs.turn ⟨path,part :: front ++ back,seen⟩ = w)
          (more : fs.Sound w → ∃ count seen', fs.turn^[count] w = ⟨place,back,seen'⟩) :
          ∃ count seen', fs.turn^[count] ⟨path,part :: front ++ back,seen⟩ = ⟨place,back,seen'⟩ := by
        obtain ⟨count,seen',arrived⟩ := more (next ▸ sound.turn)
        exact ⟨count + 1,seen',by rw [Function.iterate_succ_apply,next,arrived]⟩
      cases part with
      | resolved link => exact after rfl fun sound => ih below sound walked
      | name name =>
        rcases sound.follows walked with ⟨path',fewer,less,next,later⟩ | ⟨path',names',link,seen',fewer,less,next,later⟩
        · exact after next fun sound => ih (by omega) sound later
        · have parts : names'.map Part.name ++ .resolved link :: (front ++ back) =
              (names'.map Part.name ++ .resolved link :: front) ++ back := by simp
          have target : ahead (names'.map Part.name ++ .resolved link :: front) = names' ++ ahead front := by simp [ahead]
          apply after (next.trans (congrArg (Walker.mk path' · seen') parts))
          exact fun sound => fewerLinks (by omega) sound (target ▸ later)

/-- A path that the kernel walks is resolved to where it leads, and the names behind it are
read from there. -/
theorem Settled.along {links left : Nat} {start place : Location} {names : List Name} (settled : fs.Settled start)
    (walked : fs.walk true links start names = .ok (place,left)) (behind : List Name) :
    ∃ count seen, fs.turn^[count] ⟨start,(names ++ behind).map .name,[]⟩ = ⟨place,behind.map .name,seen⟩ := by
  have sound := settled.sound (names ++ behind)
  rw [List.map_append] at sound ⊢
  exact along_below (links + 1) (Nat.lt_succ_self links) sound (by rwa [ahead_names])

variable (fs) in
/-- None of these names, each below the one before, is a link. -/
def Unlinked : Location → List Name → Prop
  | _, [] => True
  | place, name :: rest =>
      name ≠ dotdot ∧ (∀ target, fs.entry (place ++ [name]) ≠ some (.link target)) ∧ Unlinked (place ++ [name]) rest

theorem Sound.unlinked {names : List Name} {place : Location} {seen : List (Location × Option Location)}
    (sound : fs.Sound ⟨place,names.map .name,seen⟩) (unlinked : fs.Unlinked place names) :
    fs.turn^[names.length] ⟨place,names.map .name,seen⟩ = ⟨place ++ names,[],seen⟩ := by
  induction names generalizing place with
  | nil => simp
  | cons name names ih =>
    obtain ⟨proper,noLink,later⟩ := unlinked
    have next : fs.turn ⟨place,(name :: names).map .name,seen⟩ = ⟨place ++ [name],names.map .name,seen⟩ :=
      sound.keeps proper noLink
    rw [List.length_cons,Function.iterate_succ_apply,next,ih (next ▸ sound.turn) later,List.append_assoc]
    rfl

/-- What lies below a directory that the kernel reaches, its own link apart. -/
theorem status_below {left : Nat} {start place : Location} {names : List Name}
    (walked : fs.walk true maxLinks start names = .ok (place,left)) (dir : fs.entry place = some .dir) {name : Name}
    (proper : name ≠ dotdot) :
    fs.status false start (names ++ [name]) = match fs.entry (place ++ [name]) with
      | some object => .ok object
      | none => .error .noEntry := by
  rw [status,walk_append (.inl (by simp)),walked]
  simp only [Except.bind]
  rcases fs.name_cases place name with outside | ⟨_,up | ⟨_,missing⟩ | ⟨object,found,noLink⟩ | ⟨target,found⟩⟩
  · exact absurd dir outside
  · exact absurd up proper
  · simp [walk_missing dir proper missing,missing]
  · simp [walk_plain found noLink,found]
  · simp [walk_lastLink found,found]

/-- Given the turns it takes, `realpath` arrives where the kernel does, and keeps what is
asked for below. -/
theorem realpath_walk {links left : Nat} {start place : Location} {names : List Name} (settled : fs.Settled start)
    (walked : fs.walk true links start names = .ok (place,left)) {behind : List Name}
    (unlinked : fs.Unlinked place behind) :
    ∃ enough, ∀ count, enough ≤ count → fs.realpath count start (names ++ behind) = some (place ++ behind) := by
  obtain ⟨first,seen,arrived⟩ := settled.along walked behind
  have sound : fs.Sound ⟨place,behind.map .name,seen⟩ := arrived ▸ (settled.sound (names ++ behind)).iterate first
  refine ⟨first + behind.length,fun count enough => ?_⟩
  obtain ⟨more,rfl⟩ := Nat.exists_eq_add_of_le enough
  rw [realpath,Nat.add_assoc,turns_add,arrived,turns_add,sound.unlinked unlinked,turns_done]

end Posix.FileSystem
