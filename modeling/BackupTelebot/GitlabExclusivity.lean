import BackupTelebot.GitlabSources

/-! One profile for each GitLab: the check of a source excludes a second profile wherever
the texts that it compares are written alike, and nobody takes the source of a creation
between its check and the lock of the settings. -/
namespace BackupTelebot.Gitlab

open PyJson Interleave Transactions Config

theorem SameSource.symm {a b : GitLabSource} (same : SameSource a b) : SameSource b a := by
  obtain ⟨here,_,_,_⟩ := a
  obtain ⟨there,_,_,_⟩ := b
  cases here <;> cases there
  · exact Eq.symm same
  · exact same
  · exact same
  · exact ⟨same.1.symm,same.2.symm⟩

def Contents.Unmanaged (c : Contents) (excluded : Option ProfileId) (g : GitLabSource) : Prop :=
  ∀ p g', excluded ≠ some p → c.Manages p g' → ¬SameSource g' g

def Shrinks (a b : Contents) : Prop := ∀ p g, b.Manages p g → a.Manages p g

theorem Shrinks.trans {a b c : Contents} (first : Shrinks a b) (second : Shrinks b c) : Shrinks a c :=
  fun p g h => first p g (second p g h)

theorem Shrinks.exclusive {a b : Contents} (shrinks : Shrinks a b) (exclusive : Exclusive a) : Exclusive b :=
  fun p q g g' other h h' => exclusive p q g g' other (shrinks p g h) (shrinks q g' h')

theorem Shrinks.unmanaged {a b : Contents} (shrinks : Shrinks a b) {excluded : Option ProfileId} {g : GitLabSource}
    (free : a.Unmanaged excluded g) : b.Unmanaged excluded g := fun p g' other h => free p g' other (shrinks p g' h)

theorem manages_change {c : Contents} {p q : ProfileId} {f : Row → Row} (keeps : ∀ row, (f row).id = row.id)
    {g : GitLabSource} (managed : (c.change p f).Manages q g) : q ≠ p ∧ c.Manages q g ∨
      q = p ∧ ∃ row ∈ c.profiles, row.id = p ∧ (f row).archived = false ∧ (f row).gitlab = some g := by
  obtain ⟨row,member,same,live,gitlab⟩ := managed
  obtain ⟨before,there,rfl⟩ := List.mem_map.mp member
  by_cases here : before.id = p
  · rw [if_pos here] at same live gitlab
    rw [keeps] at same
    exact .inr ⟨same.symm.trans here,before,there,here,live,gitlab⟩
  · rw [if_neg here] at same live gitlab
    exact .inl ⟨fun at_ => here (same.trans at_),before,there,same,live,gitlab⟩

theorem shrinks_setNone (c : Contents) (p : ProfileId) : Shrinks c (c.setGitlab p none) := by
  intro q g managed
  rcases manages_change (f := fun row => { row with gitlab := none }) (fun _ => rfl) managed with
    ⟨-,kept⟩ | ⟨-,row,-,-,-,absent⟩
  · exact kept
  · cases absent

theorem shrinks_archive (c : Contents) (p : ProfileId) (loaded : Bool) : Shrinks c (c.archive p loaded) := by
  intro q g managed
  rcases manages_change (f := fun row => { row with archived := true, gitlab := if loaded then none else row.gitlab })
    (fun _ => rfl) managed with ⟨-,kept⟩ | ⟨-,row,-,-,live,-⟩
  · exact kept
  · cases live

theorem shrinks_addProfile (c : Contents) (p : ProfileId) : Shrinks c (c.addProfile p) := by
  rintro q g ⟨row,member,same,live,gitlab⟩
  rcases List.mem_append.mp member with before | new
  · exact ⟨row,before,same,live,gitlab⟩
  · obtain rfl := List.mem_singleton.mp new
    cases gitlab

theorem exclusive_setGitlab {c : Contents} {p : ProfileId} {g : GitLabSource} (exclusive : Exclusive c)
    (free : c.Unmanaged (some p) g) : Exclusive (c.setGitlab p (some g)) := by
  have only {q : ProfileId} {g' : GitLabSource} (managed : (c.setGitlab p (some g)).Manages q g') :
      q ≠ p ∧ c.Manages q g' ∨ q = p ∧ g' = g := by
    rcases manages_change (f := fun row => { row with gitlab := some g }) (fun _ => rfl) managed with
      kept | ⟨here,row,-,-,-,gitlab⟩
    · exact .inl kept
    · exact .inr ⟨here,(Option.some.inj gitlab).symm⟩
  intro q r g₁ g₂ other first second same
  rcases only first with ⟨away,kept⟩ | ⟨rfl,rfl⟩
  · rcases only second with ⟨away',kept'⟩ | ⟨rfl,rfl⟩
    · exact exclusive q r g₁ g₂ other kept kept' same
    · exact free q g₁ (fun at_ => away (Option.some.inj at_).symm) kept same
  · rcases only second with ⟨away',kept'⟩ | ⟨rfl,rfl⟩
    · exact free r g₂ (fun at_ => away' (Option.some.inj at_).symm) kept' same.symm
    · exact other rfl

/-- Every other profile with the source has it under the texts that are typed in. -/
def Spelled (c : Contents) (config : GitLabConfig) (excluded : Option ProfileId) : Prop :=
  ∀ p g, excluded ≠ some p → c.Manages p g → SameSource g (gitlabSource config) → matchesRow config g = true

def Takes (s : Control) (t : Nat) (g : GitLabSource) : Prop :=
  ∃ p g', (s.sees t).Manages p g' ∧ ¬s.db.contents.Manages p g' ∧ SameSource g' g

/-- A check meets every profile with the source under the texts that it compares, and a
commit takes no source for which a creation has passed its check and waits for the lock. -/
def Careful (s : System) (a : Act) : Prop :=
  ∀ t i, a = .perform t i →
    (∀ config excluded, s.sys.pointOf t = some (.checkRoot config excluded) → Spelled s.contents config excluded) ∧
    (s.sys.pointOf t = some .commit → ∀ u g, u ≠ t → s.sys.pointOf u = some .settings →
      s.control.checked u = some g → ¬Takes s.control t g)

/-- A check that finds nothing leaves nobody with the source. -/
theorem unmanaged_of_check {c : Contents} {config : GitLabConfig} {excluded : Option ProfileId}
    (spelled : Spelled c config excluded) (none_ : c.managed config excluded = false) :
    c.Unmanaged excluded (gitlabSource config) := by
  intro p g other managed same
  have matched := spelled p g other managed same
  obtain ⟨row,member,rfl,live,gitlab⟩ := managed
  simp only [Contents.managed,List.any_eq_false] at none_
  apply none_ row member
  simp only [live,gitlab,Option.any_some,matched,Bool.not_false,Bool.and_self,Bool.true_and]
  cases excluded with
  | none => rfl
  | some q => simpa using fun at_ : q = row.id => other (congrArg some at_)

/-- What the others leave alone: under the lock of the settings nothing is taken, and while
a creation waits for that lock its source is not. -/
structure Rely (t : Nat) (point : Point) (a b : Control) : Prop where
  draft : b.db.draft t = a.db.draft t
  checked : b.checked t = a.checked t
  holder : a.db.holder .settings = some t → b.db.holder .settings = some t
  locked : a.db.holder .settings = some t → Shrinks a.db.contents b.db.contents
  waits : point = .settings → ∀ g, a.checked t = some g → a.db.contents.Unmanaged none g → b.db.contents.Unmanaged none g

structure Guar (t : Nat) (point : Point) (a b : Control) : Prop where
  exclusive : Exclusive a.db.contents → Exclusive b.db.contents
  draft : ∀ u, u ≠ t → b.db.draft u = a.db.draft u
  checked : ∀ u, u ≠ t → b.checked u = a.checked u
  holder : ∀ u, u ≠ t → a.db.holder .settings = some u → b.db.holder .settings = some u
  contents : b.db.contents = a.db.contents ∨ point = .commit ∧ b.db.contents = a.sees t ∧
    (a.db.holder .settings = some t ∨ Shrinks a.db.contents b.db.contents)

def contract (t : Nat) : Contract Point Reply Control Failure where
  rely := Rely t
  guar := Guar t
  allowed := fun point _ s => ∀ config excluded, point = .checkRoot config excluded →
    Spelled s.db.contents config excluded
  raises := fun _ _ _ => True
  known := fun _ _ _ => True
  refl := fun _ _ => ⟨rfl,rfl,id,fun _ _ _ h => h,fun _ _ _ h => h⟩
  trans := by
    intro point a b c first second
    refine ⟨second.draft.trans first.draft,second.checked.trans first.checked,fun h => second.holder (first.holder h),
      fun h => (first.locked h).trans (second.locked (first.holder h)),fun at_ g asked free => ?_⟩
    exact second.waits at_ g (first.checked.trans asked) (first.waits at_ g asked free)

section Rules

variable {t : Nat} {α : Type}

theorem stmt_spec {P : Control → Prop} {Q : α → Control → Prop} {point : Point} {guard : Control → Bool}
    {effect : Control → Control} {result : Control → Except Failure α}
    (stable : ∀ a b, Rely t point a b → P a → P b)
    (step : ∀ s, P s → guard s = true → (∀ config excluded, point = .checkRoot config excluded →
        Spelled s.db.contents config excluded) →
      Guar t point s (effect s) ∧ ∀ value, result s = .ok value → Q value (effect s)) :
    Keeps (contract t) P Q (stmt point guard effect result) := by
  have same : stmt point guard effect result = Prog.statement id point guard (fun _ => effect) fun _ => result := by
    simp only [stmt,Prog.statement,Prog.act.injEq,true_and,and_true]
    funext i s
    cases i <;> rfl
  rw [same]
  exact Keeps.statement stable fun s _ => step s

/-- A step that commits nothing. -/
theorem Guar.quiet {point : Point} {a b : Control} (contents : b.db.contents = a.db.contents)
    (draft : ∀ u, u ≠ t → b.db.draft u = a.db.draft u) (checked : ∀ u, u ≠ t → b.checked u = a.checked u)
    (holder : ∀ u, u ≠ t → a.db.holder .settings = some u → b.db.holder .settings = some u) : Guar t point a b :=
  ⟨fun exclusive => contents ▸ exclusive,draft,checked,holder,.inl contents⟩

theorem Guar.refl (point : Point) (a : Control) : Guar t point a a :=
  .quiet rfl (fun _ _ => rfl) (fun _ _ => rfl) fun _ _ h => h

theorem ask_spec {P : Control → Prop} {point : Point} {result : Control → Except Failure α}
    (stable : ∀ a b, Rely t point a b → P a → P b) : Keeps (contract t) P (fun _ => P) (ask point result) :=
  stmt_spec stable fun s here _ _ => ⟨.refl point s,fun _ _ => here⟩

/-- A lock never takes another session's. -/
theorem lock_guar {point : Point} {s : Control} {k : Key} (open_ : s.db.free t k = true) :
    Guar t point s { s with db := s.db.lock t k } := by
  refine .quiet rfl (fun _ _ => rfl) (fun _ _ => rfl) fun u other held => ?_
  by_cases same : k = .settings
  · subst same
    rcases Db.free_iff.mp open_ with none_ | mine
    · rw [held] at none_
      cases none_
    · rw [held] at mine
      exact absurd (Option.some.inj mine) other
  · simpa [Db.lock,Ne.symm same] using held

theorem write_guar {point : Point} (s : Control) (f : Contents → Contents) :
    Guar t point s { s with db := s.db.write t f } :=
  .quiet rfl (fun _ other => Function.update_of_ne other _ _) (fun _ _ => rfl) fun _ _ h => h

/-- A commit that keeps the sources exclusive, and takes one only under the lock. -/
theorem commit_guar {s : Control} (exclusive : Exclusive s.db.contents → Exclusive (s.sees t))
    (may : s.db.holder .settings = some t ∨ Shrinks s.db.contents (s.sees t)) :
    Guar t .commit s { s with db := s.db.commit t } := by
  refine ⟨exclusive,fun u other => Function.update_of_ne other _ _,fun _ _ => rfl,fun u other held => ?_,.inr ⟨rfl,rfl,may⟩⟩
  simp only [Db.commit,Db.release]
  rw [if_neg (by rw [held]; exact fun same => other (Option.some.inj same)),held]

theorem rollback_guar {point : Point} (s : Control) : Guar t point s { s with db := s.db.rollback t } := by
  refine .quiet rfl (fun u other => Function.update_of_ne other _ _) (fun _ _ => rfl) fun u other held => ?_
  simp only [Db.rollback,Db.release]
  rw [if_neg (by rw [held]; exact fun same => other (Option.some.inj same)),held]

def Untouched (t : Nat) (s : Control) : Prop := s.db.draft t = id

/-- The session has the settings locked and written what it has, and nobody else has the
source. -/
def Holding (t : Nat) (draft : Contents → Contents) (excluded : Option ProfileId) (g : GitLabSource) (s : Control) : Prop :=
  s.db.holder .settings = some t ∧ s.db.draft t = draft ∧ s.db.contents.Unmanaged excluded g

def Locking (t : Nat) (draft : Contents → Contents) (s : Control) : Prop :=
  s.db.holder .settings = some t ∧ s.db.draft t = draft

theorem untouched_stable {point : Point} {a b : Control} (rely : Rely t point a b) (here : Untouched t a) :
    Untouched t b := rely.draft.trans here

theorem locking_stable {draft : Contents → Contents} {point : Point} {a b : Control} (rely : Rely t point a b)
    (here : Locking t draft a) : Locking t draft b := ⟨rely.holder here.1,rely.draft.trans here.2⟩

theorem holding_stable {draft : Contents → Contents} {excluded : Option ProfileId} {g : GitLabSource} {point : Point}
    {a b : Control} (rely : Rely t point a b) (here : Holding t draft excluded g a) : Holding t draft excluded g b :=
  ⟨rely.holder here.1,rely.draft.trans here.2.1,(rely.locked here.1).unmanaged here.2.2⟩

theorem lock_holder (db : Db Contents Key Empty) : (db.lock t .settings).holder .settings = some t := by
  simp [Db.lock]

theorem requireServer_spec {P : Control → Prop} (stable : ∀ point a b, Rely t point a b → P a → P b)
    (config : GitLabConfig) : Keeps (contract t) P (fun _ => P) (requireServer t config) := by
  unfold requireServer
  split
  · exact Keeps.pure fun _ here => here
  · exact ask_spec (stable .loadServer)

theorem write_spec {P Q : Control → Prop} {point : Point} {f : Contents → Contents}
    (stable : ∀ a b, Rely t point a b → P a → P b)
    (written : ∀ s, P s → Q { s with db := s.db.write t f }) : Keeps (contract t) P (fun _ => Q) (write point t f) :=
  stmt_spec stable fun s here _ _ => ⟨write_guar s f,fun _ _ => written s here⟩

theorem draft_write (db : Db Contents Key Empty) (f : Contents → Contents) :
    (db.write t f).draft t = f ∘ db.draft t := Function.update_self ..

/-- The last statement of a session that holds the settings. -/
theorem commit_spec {P : Control → Prop} {draft : Contents → Contents} (stable : ∀ a b, Rely t .commit a b → P a → P b)
    (written : ∀ s, P s → s.db.draft t = draft)
    (exclusive : ∀ s, P s → Exclusive s.db.contents → Exclusive (draft s.db.contents))
    (may : ∀ s, P s → s.db.holder .settings = some t ∨ Shrinks s.db.contents (draft s.db.contents)) :
    Keeps (contract t) P (fun _ _ => True) (commit t) := by
  apply stmt_spec stable
  intro s here _ _
  have sees : s.sees t = draft s.db.contents := by rw [Control.sees,Db.sees,written s here]
  refine ⟨commit_guar ?_ ?_,fun _ _ => trivial⟩
  · rw [sees]
    exact exclusive s here
  · rw [sees]
    exact may s here

def created (id : ProfileId) (g : GitLabSource) : Contents → Contents := fun c => (c.addProfile id).setGitlab id (some g)

theorem create_spec (config : GitLabConfig) : Keeps (contract t) (Untouched t) (fun _ _ => True) (createGitlabProfile t config) := by
  unfold createGitlabProfile
  split
  · exact Keeps.throw _
  apply (requireServer_spec (fun _ _ _ => untouched_stable) config).bind
  intro _
  -- nobody takes the source while the creation waits for the lock
  apply Keeps.bind (M := fun _ s => Untouched t s ∧ s.checked t = some (gitlabSource config) ∧
    s.db.contents.Unmanaged none (gitlabSource config))
  · apply stmt_spec fun _ _ => untouched_stable
    intro s here _ spelled
    refine ⟨.quiet rfl (fun _ _ => rfl) (fun u other => Function.update_of_ne other _ _) fun _ _ h => h,?_⟩
    intro value returned
    have sees : s.sees t = s.db.contents := by rw [Control.sees,Db.sees,here]; rfl
    cases found : s.db.contents.managed config none with
    | true => rw [sees,found] at returned; cases returned
    | false => exact ⟨here,Function.update_self ..,unmanaged_of_check (spelled config none rfl) found⟩
  intro _
  apply Keeps.bind (M := fun _ => Holding t id none (gitlabSource config))
  · apply stmt_spec
    · intro a b rely here
      exact ⟨untouched_stable rely here.1,rely.checked.trans here.2.1,rely.waits rfl _ here.2.1 here.2.2⟩
    · intro s here open_ _
      exact ⟨lock_guar open_,fun _ _ => ⟨lock_holder s.db,here.1,here.2.2⟩⟩
  intro _
  apply Keeps.bind (M := fun id => Holding t (fun c => c.addProfile id) none (gitlabSource config))
  · apply stmt_spec fun _ _ => holding_stable
    intro s here _ _
    refine ⟨.quiet rfl (fun _ other => Function.update_of_ne other _ _) (fun _ _ => rfl) fun _ _ h => h,?_⟩
    intro id returned
    obtain rfl := Except.ok.inj returned
    exact ⟨here.1,by rw [draft_write,here.2.1]; rfl,here.2.2⟩
  intro id
  apply Keeps.bind (M := fun _ => Holding t (created id (gitlabSource config)) none (gitlabSource config))
  · apply write_spec fun _ _ => holding_stable
    intro s here
    exact ⟨here.1,by rw [draft_write,here.2.1]; rfl,here.2.2⟩
  intro _
  apply commit_spec (fun _ _ => holding_stable) (fun s here => here.2.1)
  · intro s here exclusive
    have shrinks := shrinks_addProfile s.db.contents id
    apply exclusive_setGitlab (shrinks.exclusive exclusive)
    exact fun p g _ managed => here.2.2 p g (by simp) (shrinks p g managed)
  · exact fun s here => .inl here.1

theorem update_spec (p : ProfileId) (gitlab : Option GitLabConfig) :
    Keeps (contract t) (Untouched t) (fun _ _ => True) (updateConfiguration t p gitlab) := by
  apply Keeps.bind (M := fun _ => Locking t id)
  · exact stmt_spec (fun _ _ => untouched_stable) fun s here open_ _ =>
      ⟨lock_guar open_,fun _ _ => ⟨lock_holder s.db,here⟩⟩
  intro _
  apply (ask_spec fun _ _ => locking_stable).bind
  intro _
  apply Keeps.bind (M := fun _ => Locking t id)
  · apply stmt_spec fun _ _ => locking_stable
    intro s here open_ _
    split
    · refine ⟨lock_guar open_,fun _ _ => ⟨?_,here.2⟩⟩
      simpa [Db.lock] using here.1
    · exact ⟨.refl _ s,fun _ _ => here⟩
  intro _
  -- from the check on, under the lock, nobody else gets the source
  let free (s : Control) : Prop := ∀ config ∈ gitlab, s.db.contents.Unmanaged (some p) (gitlabSource config)
  have stable {draft : Contents → Contents} (point : Point) (a b : Control) (rely : Rely t point a b)
      (here : Locking t draft a ∧ free a) : Locking t draft b ∧ free b :=
    ⟨locking_stable rely here.1,fun config given => (rely.locked here.1.1).unmanaged (here.2 config given)⟩
  apply Keeps.bind (M := fun _ s => Locking t id s ∧ free s)
  · cases gitlab with
    | none => exact Keeps.pure fun s here => ⟨here,by simp [free]⟩
    | some config =>
      unfold checkGitlab
      dsimp only
      split
      · exact Keeps.throw _
      apply (requireServer_spec (fun _ _ _ => locking_stable) config).bind
      intro _
      apply stmt_spec fun _ _ => locking_stable
      intro s here _ spelled
      refine ⟨.quiet rfl (fun _ _ => rfl) (fun u other => Function.update_of_ne other _ _) fun _ _ h => h,?_⟩
      intro value returned
      have sees : s.sees t = s.db.contents := by rw [Control.sees,Db.sees,here.2]; rfl
      cases found : s.db.contents.managed config (some p) with
      | true => rw [sees,found] at returned; cases returned
      | false =>
        refine ⟨here,fun config' given => ?_⟩
        obtain rfl := Option.some.inj given
        exact unmanaged_of_check (spelled config (some p) rfl) found
  intro _
  apply Keeps.bind (M := fun _ s => Locking t (fun c => c.setGitlab p none) s ∧ free s)
  · exact write_spec (stable .flush) fun s here => ⟨⟨here.1.1,by rw [draft_write,here.1.2]; rfl⟩,here.2⟩
  intro _
  apply Keeps.bind (M := fun _ s => Locking t (fun c => (c.setGitlab p none).setGitlab p (gitlab.map gitlabSource)) s ∧ free s)
  · exact write_spec (stable .flush) fun s here => ⟨⟨here.1.1,by rw [draft_write,here.1.2]; rfl⟩,here.2⟩
  intro _
  apply commit_spec (stable .commit) (fun s here => here.1.2)
  · intro s here exclusive
    have shrinks := shrinks_setNone s.db.contents p
    cases given : gitlab with
    | none => exact (shrinks_setNone _ p).exclusive (shrinks.exclusive exclusive)
    | some config => exact exclusive_setGitlab (shrinks.exclusive exclusive) (shrinks.unmanaged (here.2 config given))
  · exact fun s here => .inl here.1.1

theorem delete_spec (p : ProfileId) : Keeps (contract t) (Untouched t) (fun _ _ => True) (delete t p) := by
  unfold delete
  apply (ask_spec fun _ _ => untouched_stable).bind
  intro _
  apply Keeps.bind (M := fun _ => Untouched t)
  · exact stmt_spec (fun _ _ => untouched_stable) fun s here _ _ => ⟨.refl _ s,fun _ _ => here⟩
  intro loaded
  apply Keeps.bind (M := fun _ s => s.db.draft t = fun c => c.archive p loaded)
  · apply stmt_spec fun _ _ => untouched_stable
    intro s here open_ _
    refine ⟨?_,fun _ _ => by rw [draft_write]; exact congrArg (_ ∘ ·) here⟩
    have locked : Guar t .flush s { s with db := s.db.lock t (.profile p) } := lock_guar open_
    exact ⟨locked.exclusive,fun u other => Function.update_of_ne other _ _,locked.checked,locked.holder,.inl rfl⟩
  intro _
  apply commit_spec (fun _ _ rely here => rely.draft.trans here) (fun s here => here)
  · exact fun s _ exclusive => (shrinks_archive s.db.contents p loaded).exclusive exclusive
  · exact fun s _ => .inr (shrinks_archive s.db.contents p loaded)

theorem program_holds (job : Job) {s : Control} (untouched : Untouched t s) :
    Holds (contract t) (fun _ _ => True) (job.program t) s := by
  have body : Keeps (contract t) (Untouched t) (fun _ _ => True) (job.body t) := by
    cases job with
    | create config => exact create_spec config
    | update p gitlab => exact update_spec p gitlab
    | delete p => exact delete_spec p
  apply body.handled ?_ untouched
  exact stmt_spec (fun _ _ _ h => h) fun s _ _ _ => ⟨rollback_guar s,fun _ _ => trivial⟩

end Rules

/-- What one session may do the others can rely on, if a commit takes nothing that they
have asked for. -/
theorem rely_of_guar {t u : Nat} {point at_ : Point} {a b : Control} (guar : Guar t point a b) (other : u ≠ t)
    (careful : point = .commit → ∀ g, at_ = .settings → a.checked u = some g → ¬Takes a t g) : Rely u at_ a b where
  draft := guar.draft u other
  checked := guar.checked u other
  holder := guar.holder u other
  locked := by
    intro held
    rcases guar.contents with same | ⟨-,same,mine | shrinks⟩
    · rw [same]
      exact fun _ _ managed => managed
    · rw [held] at mine
      exact absurd (Option.some.inj mine) other
    · exact shrinks
  waits := by
    intro settings g asked free
    rcases guar.contents with same | ⟨commits,same,-⟩
    · rw [same]
      exact free
    · rw [same]
      intro p g' _ managed
      by_cases before : a.db.contents.Manages p g'
      · exact free p g' (by simp) before
      · exact fun source => careful commits g settings asked ⟨p,g',managed,before,source⟩

def discipline : sessions.Discipline Careful where
  contract := fun t _ => contract t
  inv := fun s => Exclusive s.db.contents
  untouched := Untouched
  raises := fun _ _ _ _ _ => trivial
  known := fun _ _ _ _ _ => trivial
  program := fun t job s _ untouched => program_holds job untouched
  allowed := by
    intro s t i point job careful waits _ config excluded same
    subst same
    exact (careful t i rfl).1 config excluded waits
  performed := by
    intro s t i point job after careful waits _ inv guar
    refine ⟨guar.exclusive inv,fun u other => ⟨(guar.draft u other).trans,fun at_ _ waiting _ => ?_⟩⟩
    exact rely_of_guar guar other (fun same g at_settings asked => by
      subst same
      subst at_settings
      exact (careful t i rfl).2 waits u g other waiting asked)
  lost := by
    intro s t inv
    have guar : Guar t .rollback s.sys.shared (sessions.rollback t s.sys.shared) := rollback_guar s.sys.shared
    refine ⟨guar.exclusive inv,fun u other => ⟨(guar.draft u other).trans,fun at_ _ _ _ => ?_⟩⟩
    exact rely_of_guar guar other (fun same => nomatch same)

/-- In every run whose steps are all careful no two profiles ever manage one source. -/
theorem gitlab_exclusive {s : System} (run : Reached Careful s) : Exclusive s.contents := by
  have start : ∀ s, Initial s → discipline.Coherent s := by
    rintro s ⟨contents,serial,exclusive,rfl⟩
    exact Sessions.Discipline.coherent_fresh exclusive fun _ => rfl
  exact (Sessions.Discipline.coherent_of_runs start run).inv

instance (a b : GitLabSource) : Decidable (SameSource a b) :=
  match a with
  | ⟨.localHost,_,c,_⟩ =>
    match b with
    | ⟨.localHost,_,c',_⟩ => inferInstanceAs (Decidable (c = c'))
    | ⟨.remoteServer,_,_,_⟩ => inferInstanceAs (Decidable False)
  | ⟨.remoteServer,r,_,p⟩ =>
    match b with
    | ⟨.localHost,_,_,_⟩ => inferInstanceAs (Decidable False)
    | ⟨.remoteServer,r',_,p'⟩ => inferInstanceAs (Decidable (r = r' ∧ p.map PurePosix.parse = p'.map PurePosix.parse))

def Row.live (row : Row) (test : GitLabSource → Bool) : Bool := !row.archived && row.gitlab.any test

theorem Row.live_iff {row : Row} {test : GitLabSource → Bool} : row.live test = true ↔
    ∃ g, row.archived = false ∧ row.gitlab = some g ∧ test g = true := by
  simp [Row.live,Option.any_eq_true]

def duplicated (c : Contents) : Bool :=
  c.profiles.any fun row => c.profiles.any fun other =>
    row.id ≠ other.id && row.live fun g => other.live fun g' => SameSource g g'

theorem not_exclusive_of_duplicated {c : Contents} (h : duplicated c = true) : ¬Exclusive c := by
  simp only [duplicated,List.any_eq_true,Bool.and_eq_true,decide_eq_true_eq,Row.live_iff] at h
  obtain ⟨row,member,other,member',apart,g,live,gitlab,g',live',gitlab',same⟩ := h
  intro exclusive
  exact exclusive row.id other.id g g' apart ⟨row,member,rfl,live,gitlab⟩ ⟨other,member',rfl,live',gitlab'⟩ same

/-- What `Careful` asks of one step, evaluated; of the commits it passes those that take no
source at all. -/
def careful (s : System) : Act → Bool
  | .perform t _ =>
    match s.sys.pointOf t with
    | some (.checkRoot config excluded) => s.contents.profiles.all fun row =>
        !(row.live fun g => SameSource g (gitlabSource config) && !matchesRow config g) || excluded = some row.id
    | some .commit => (s.control.sees t).profiles.all fun row =>
        !(row.live fun _ => true) || s.contents.profiles.contains row
    | _ => true
  | _ => true

theorem careful_of_test (s : System) (a : Act) (h : careful s a = true) : Careful s a := by
  rintro t i rfl
  constructor
  · intro config excluded waits p g other managed same
    obtain ⟨row,member,rfl,live,gitlab⟩ := managed
    simp only [careful,waits,List.all_eq_true] at h
    by_contra unmatched
    have found : (row.live fun g => SameSource g (gitlabSource config) && !matchesRow config g) = true :=
      Row.live_iff.mpr ⟨g,live,gitlab,by simp [same,unmatched]⟩
    have here := h row member
    rw [found] at here
    exact other (by simpa using here)
  · intro waits u g _ _ _ takes
    obtain ⟨p,g',⟨row,member,rfl,live,gitlab⟩,new,-⟩ := takes
    simp only [careful,waits,List.all_eq_true] at h
    have here := h row member
    rw [Row.live_iff.mpr ⟨g',live,gitlab,rfl⟩] at here
    exact new ⟨row,by simpa using here,rfl,live,gitlab⟩

def localGitlab (containerName : String) : GitLabConfig := ⟨.localHost,str containerName,none,none⟩

def remoteGitlab (backupPath : String) : GitLabConfig := ⟨.remoteServer,str "gitlab",some (str backupPath),some 3⟩

def oneGitlab : Contents := ⟨[⟨0,false,some (gitlabSource (localGitlab "gitlab"))⟩],fun id => if id = 3 then some true else none⟩

theorem oneGitlab_exclusive : Exclusive oneGitlab := by
  rintro p q g g' other ⟨row,member,rfl,-⟩ ⟨row',member',rfl,-⟩
  obtain rfl := List.mem_singleton.mp member
  obtain rfl := List.mem_singleton.mp member'
  exact absurd rfl other

theorem oneGitlab_initial : Initial (fresh oneGitlab 1) := ⟨oneGitlab,1,oneGitlab_exclusive,rfl⟩

def performs (t n : Nat) : List Act := List.replicate n (.perform t none)

/-- The profile is deleted, and another one given its source, which is not committed yet. -/
theorem gitlab_exclusive_small : ∃ s : System, Reached Careful s ∧ duplicated (s.control.sees 1) = false ∧
    (s.control.sees 1).profiles.length = 2 ∧ Exclusive s.contents := by
  obtain ⟨s,reached,passed⟩ := Runs.exists_of_checked sessions.step
    ([.start 0 (.delete 0)] ++ performs 0 4 ++ [.start 1 (.create (localGitlab "gitlab"))] ++ performs 1 4)
    (fun (s : System) => !duplicated (s.control.sees 1) && (s.control.sees 1).profiles.length = 2)
    careful_of_test oneGitlab_initial (by decide +kernel)
  simp only [Bool.and_eq_true,Bool.not_eq_true',decide_eq_true_eq] at passed
  exact ⟨s,reached,passed.1,passed.2,gitlab_exclusive reached⟩

def together : List Act :=
  [.start 0 (.create (localGitlab "second")),.start 1 (.create (localGitlab "second"))] ++ performs 0 1 ++
    performs 1 1 ++ performs 0 4 ++ performs 1 4

def typedWithBlank : List Act := .start 0 (.create (localGitlab "gitlab ")) :: performs 0 5

def writtenOtherwise : List Act :=
  [.start 0 (.create (remoteGitlab "/srv/gitlab"))] ++ performs 0 6 ++
    [.start 1 (.create (remoteGitlab "/srv//gitlab"))] ++ performs 1 6

def Duplicates (steps : List Act) : Prop :=
  ∃ s : System, Runs.follow sessions.step steps (fresh oneGitlab 1) = some s ∧ Reached (fun _ _ => True) s ∧
    ¬Exclusive s.contents

theorem duplicates_of_found {steps : List Act} (found : (Runs.follow sessions.step steps (fresh oneGitlab 1)).any
    (fun s => duplicated s.sys.shared.db.contents) = true) : Duplicates steps := by
  obtain ⟨s,done,passed⟩ := (Option.any_eq_true _ _).mp found
  have free : Runs.Permitted sessions.step (fun _ _ => True) steps (fresh oneGitlab 1) :=
    Runs.permitted_of_forall (fun _ _ => trivial) steps _
  exact ⟨s,done,Runs.of_follow (.start oneGitlab_initial) free done,not_exclusive_of_duplicated passed⟩

theorem gitlab_duplicated : Duplicates together ∧ Duplicates typedWithBlank ∧ Duplicates writtenOtherwise := by
  constructor
  · exact duplicates_of_found (by decide +kernel)
  constructor
  · exact duplicates_of_found (by decide +kernel)
  · exact duplicates_of_found (by decide +kernel)

end BackupTelebot.Gitlab
