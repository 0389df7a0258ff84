import BackupTelebot.QueueRules

/-! Every session of the control database keeps its contract, and so does every system of
them: a tick moves a cursor only with a run of the slot in hand, an edit writes only to
rows that it has locked. -/
namespace BackupTelebot.Queue

open PyJson Interleave Transactions

variable {κ : Type} {fresh : Prop} {t : Nat} {job : Job κ}

section Tick

variable {calendar : Calendar κ} {now : Time} {timezone : Str}

theorem scanProfiles_spec (order : List ProfileId) (distinct : order.Nodup) :
    Spec fresh t job (fun s => Quiet t s ∧ ∀ q ∈ order, s.held t q = none) True
      (fun profiles s => ∀ p row, (p,row) ∈ profiles → Loaded t p row s) (scanProfiles t order) := by
  induction order with
  | nil => exact Spec.pure fun s _ p row member => by cases member
  | cons p rest ih =>
    obtain ⟨absent,distinct⟩ := List.nodup_cons.mp distinct
    refine Spec.bind (M := fun found s => (Quiet t s ∧ ∀ q ∈ rest, s.held t q = none) ∧
      ∀ row, found = some row → Loaded t p row s) (Spec.stmt ?_ fun i s sane here open_ _ => ?_) ?_
    · rintro a b rely ⟨quiet,unheld⟩
      refine ⟨grows_quiet.stable _ _ rely quiet,fun q member => ?_⟩
      rw [rely.held]
      exact unheld q member
    · obtain ⟨quiet,unheld⟩ := here
      cases found : (s.sees t).profile p with
      | none =>
        refine ⟨.refl s,fun _ => ⟨.refl t s,fun value returned => ⟨⟨quiet,fun q member => ?_⟩,fun row some_ => ?_⟩⟩⟩
        · exact unheld q (List.mem_cons_of_mem _ member)
        · simp [← Except.ok.inj returned] at some_
      | some row =>
        have progress : Progress t s ((s.lockRow t p).remember t p row) :=
          lockRow_remember_progress (.inl (unheld p List.mem_cons_self))
        refine ⟨lockRow_remember_guar row open_,fun _ => ⟨progress,fun value returned => ?_⟩⟩
        refine ⟨⟨grows_quiet _ _ progress quiet,fun q member => ?_⟩,fun row' some_ => ?_⟩
        · have other : q ≠ p := fun same => absent (same ▸ member)
          simp only [Control.remember,Function.update_self,Function.update_of_ne other,(lockRow_fields s t p).2.2.2.2.2.1]
          exact unheld q (List.mem_cons_of_mem _ member)
        · obtain rfl := Option.some.inj ((Except.ok.inj returned).trans some_)
          refine ⟨⟨lockRow_locked (by simp [found]),?_⟩,?_⟩
          · refine (congrArg (fun c => c.profile p) (lockRow_fields s t p).1).trans ?_
            rw [← quiet.sees]
            exact found
          · simp [Control.remember]
    intro found
    refine Spec.bind (Spec.frame (R := fun s => ∀ row, found = some row → Loaded t p row s) ?_ (ih distinct)) fun others => ?_
    · exact fun _ _ progress h row some_ => grows_loaded p row _ _ progress (h row some_)
    · refine Spec.pure fun s here q row member => ?_
      rcases List.mem_append.mp member with first | later
      · cases found with
        | none => cases first
        | some row' =>
          obtain ⟨⟨rfl,-⟩,rfl⟩ : (row' = row ∧ row.scheduled = true) ∧ p = q := by simpa using first
          exact here.2 row' rfl
      · exact here.1 q row later

/-- Why a cursor may be moved: the session has locked the profile, and if a slot was due, a
run of it is in sight. -/
def Movable (now : Time) (t : Nat) (p : ProfileId) (row : BackupProfile κ) (s : Control κ) : Prop :=
  Loaded t p row s ∧ ∀ due, row.nextScheduledAt = some due → due ≤ now ∧ Slotted t p due s

theorem grows_movable (p : ProfileId) (row : BackupProfile κ) : Grows t (Movable now t p row) :=
  Grows.and (grows_loaded p row) fun _ _ progress h due is =>
    ⟨(h due is).1,grows_slotted p due _ _ progress (h due is).2⟩

theorem visit_spec (p : ProfileId) (profile : BackupProfile κ) :
    Spec fresh t job (fun s => Quiet t s ∧ Loaded t p profile s) True
      (fun result s => ∀ c, result.2 = some c → Movable now t p profile s)
      (visit calendar t now timezone p profile) := by
  unfold visit
  split
  · rename_i idle
    apply Spec.ite
    · exact fun _ => Spec.pure fun s _ c moved => by cases moved
    · intro _
      split
      · exact Spec.throw _
      · refine Spec.pure fun s here c _ => ⟨here.2,fun due is => ?_⟩
        rw [idle] at is
        cases is
  · rename_i due cursor
    apply Spec.ite
    · intro reached
      have loaded := grows_loaded (t := t) p profile
      have queued := Spec.frame loaded (enqueue_spec (fun h : false = true => by cases h) p .scheduled (some due) :
        Spec fresh t job _ _ _ _)
      refine Spec.bind (M := fun _ s => Movable now t p profile s) (Spec.after (Q := fun _ s =>
        Found t p .scheduled (some due) s ∧ Loaded t p profile s) ?_ fun _ s h => ?_) ?_
      · intro s sane here
        refine Holds.mono ?_ (queued s sane ⟨⟨here.1,.inr (.inr ⟨profile,here.2⟩)⟩,here.2⟩)
        rintro (e | value) s' h
        · trivial
        · exact ⟨h.1,fun _ => h.2 rfl⟩
      · refine ⟨h.2,fun due' is => ?_⟩
        obtain rfl := Option.some.inj (cursor.symm.trans is)
        exact ⟨reached,h.1 due rfl rfl⟩
      intro result
      apply Spec.ite
      · exact fun _ => Spec.pure fun s here c _ => here
      · intro _
        split
        · exact Spec.throw _
        · exact Spec.pure fun s here c _ => here
    · exact fun _ => Spec.pure fun s _ c moved => by cases moved

theorem visitAll_spec (profiles : List (ProfileId × BackupProfile κ)) :
    Spec fresh t job (fun s => Quiet t s ∧ ∀ p row, (p,row) ∈ profiles → Loaded t p row s) True
      (fun result s => ∀ p c, (p,c) ∈ result.2 → ∃ row, Movable now t p row s)
      (visitAll calendar t now timezone profiles) := by
  induction profiles with
  | nil => exact Spec.pure fun s _ p c member => by cases member
  | cons entry rest ih =>
    obtain ⟨p,profile⟩ := entry
    have later : Grows t fun s : Control κ => Quiet t s ∧ ∀ q row, (q,row) ∈ rest → Loaded t q row s :=
      Grows.and grows_quiet fun a b progress h q row member => grows_loaded q row _ _ progress (h q row member)
    refine Spec.bind ((Spec.frame later (visit_spec p profile)).before fun s here => ?_) ?_
    · exact ⟨⟨here.1,here.2 p profile List.mem_cons_self⟩,here.1,fun q row member =>
        here.2 q row (List.mem_cons_of_mem _ member)⟩
    rintro ⟨result,cursor⟩
    have moved : Grows t fun s => ∀ c, cursor = some c → Movable now t p profile s :=
      fun a b progress h c is => grows_movable p profile _ _ progress (h c is)
    refine Spec.bind ((Spec.frame moved ih).before fun s here => ⟨here.2,here.1⟩) ?_
    rintro ⟨results,cursors⟩
    refine Spec.pure fun s here q c member => ?_
    rcases List.mem_append.mp member with first | others
    · cases cursor with
      | none => cases first
      | some c' =>
        obtain ⟨rfl,rfl⟩ := Prod.mk.inj (List.mem_singleton.mp first)
        exact ⟨profile,here.2 c rfl⟩
    · exact here.1 q c others

theorem setCursors_profile (c : Contents κ) (cursors : List (ProfileId × Option Time)) (p : ProfileId) :
    (c.setCursors cursors).profile p = match cursors.lookup p with
      | some cursor => (c.profile p).map fun row => { row with nextScheduledAt := cursor }
      | none => c.profile p := rfl

/-- A cursor changes in the commit of a tick only where the tick has assigned one. -/
theorem setCursors_same {cursors : List (ProfileId × Option Time)} {k : Key} (c : Contents κ)
    (untouched : ∀ p cursor, k = .profile p → (p,cursor) ∉ cursors) : Contents.Same k c (c.setCursors cursors) := by
  cases k with
  | settings => rfl
  | server id => rfl
  | profile p =>
    refine ⟨?_,rfl,rfl⟩
    rw [setCursors_profile]
    cases assigned : cursors.lookup p with
    | none => rfl
    | some cursor =>
      obtain ⟨before,after,rfl,-⟩ := List.lookup_eq_some_iff.mp assigned
      exact absurd (List.mem_append_right _ List.mem_cons_self) (untouched p cursor rfl)

theorem tick_spec (this : ∀ now' timezone', job = .tick now' timezone' → now' = now) :
    Spec fresh t job (fun s => Quiet t s ∧ ∀ q, s.held t q = none) False (fun _ _ => True)
      (tick calendar t now timezone) := by
  have start : Stable t fun s : Control κ => Quiet t s ∧ ∀ q, s.held t q = none := by
    rintro a b rely ⟨quiet,unheld⟩
    refine ⟨grows_quiet.stable _ _ rely quiet,fun q => ?_⟩
    rw [rely.held]
    exact unheld q
  refine Spec.bind (M := fun _ s => Quiet t s ∧ ∀ q, s.held t q = none)
    (Spec.stmt start fun i s sane here open_ _ => ?_) fun stored => ?_
  · have guar : Guar fresh t job s { s with db := s.db.lock t .settings } :=
      .local (moves_lock open_) (fun _ _ => rfl) rfl rfl rfl rfl rfl
    exact ⟨guar,fun _ => ⟨.locking rfl rfl (fun _ => lock_holder) rfl rfl rfl rfl fun _ _ h => h,fun _ _ => here⟩⟩
  refine Spec.bind (M := fun order s => order.Nodup ∧ Quiet t s ∧ ∀ q, s.held t q = none)
    (Spec.stmt start fun i s sane here _ _ => ?_) fun order => ?_
  · refine ⟨.refl s,fun _ => ⟨.refl t s,fun value returned => ⟨?_,here⟩⟩⟩
    obtain rfl := Except.ok.inj returned
    exact i.distinct
  apply Spec.given
  intro distinct
  have quiet := grows_quiet (κ := κ) (t := t)
  refine Spec.bind ((Spec.frame quiet (scanProfiles_spec order distinct)).before fun s here =>
    ⟨⟨here.1,fun q _ => here.2 q⟩,here.1⟩) fun profiles => ?_
  refine Spec.bind ((Spec.frame quiet (visitAll_spec profiles)).before fun s here => ⟨⟨here.2,here.1⟩,here.2⟩) ?_
  rintro ⟨results,cursors⟩
  refine Spec.bind_closed (M := fun _ _ => True) (Spec.stmt ?_ fun i s sane here _ _ => ⟨?_,False.elim⟩)
    fun _ => Spec.pure fun _ _ => trivial
  · rintro a b rely ⟨movable,quiet⟩
    refine ⟨fun p c member => ?_,grows_quiet.stable _ _ rely quiet⟩
    obtain ⟨row,h⟩ := movable p c member
    exact ⟨row,(grows_movable p row).stable _ _ rely h⟩
  · obtain ⟨movable,quiet⟩ := here
    have written : Guar fresh t job s { s with db := s.db.write t (·.setCursors cursors) } := by
      refine .local (write_moves fun k c unlocked => setCursors_same c ?_) (fun _ _ => rfl) rfl rfl rfl rfl rfl
      rintro p cursor rfl member
      obtain ⟨row,h⟩ := movable p cursor member
      exact unlocked h.1.1.1
    have sane' := written.sane sane
    have committed : Guar fresh t job _ _ := commit_guar sane' ?_
    · exact ⟨fun u other => (written.others u other).trans (committed.others u other),
        fun before => committed.sane (written.sane before),
        fun here snapshots => committed.snapshots here (written.snapshots here snapshots),committed.moved,fun _ h => .inl h⟩
    · intro now' timezone' same p before after due was cursor is moved
      obtain rfl := this now' timezone' same
      have contents : ((s.db.write t (·.setCursors cursors)).commit t).contents = s.db.contents.setCursors cursors := by
        simp only [Db.commit,Db.sees,Db.write,Function.update_self,Function.comp,show s.db.draft t = id from quiet,id]
      rw [show ({ s with db := s.db.write t (·.setCursors cursors) } : Control κ).db.contents = s.db.contents from rfl] at was
      dsimp only at is
      rw [contents] at is
      rw [setCursors_profile] at is
      cases assigned : cursors.lookup p with
      | none =>
        rw [assigned] at is
        obtain rfl := Option.some.inj (was.symm.trans is)
        exact absurd cursor moved
      | some c =>
        obtain ⟨front,back,rfl,-⟩ := List.lookup_eq_some_iff.mp assigned
        obtain ⟨row,loaded,slots⟩ := movable p c (List.mem_append_right _ List.mem_cons_self)
        obtain rfl : row = before := Option.some.inj (loaded.1.2.symm.trans was)
        obtain ⟨reached,slotted⟩ := slots due cursor
        refine ⟨reached,?_⟩
        rcases slotted with ⟨run,member,fills⟩ | ⟨run,own,fills⟩
        · exact ⟨run,Db.mem_table.mpr (.inl member),fills,.inl member⟩
        · refine ⟨run,Db.mem_table.mpr (.inr own),fills,.inr ⟨own,?_⟩⟩
          have fair := sane.fair t run own
          rw [(Run.fills_iff.mp fills).1] at fair
          exact fair

end Tick

/-- An object enters the identity map of the session. -/
theorem remember_guar (s : Control κ) (p : ProfileId) (row : BackupProfile κ) : Guar fresh t job s (s.remember t p row) :=
  .local (moves_refl s) (fun _ other => Function.update_of_ne other _ _) rfl rfl rfl rfl rfl

theorem remember_progress {s : Control κ} {p : ProfileId} {row : BackupProfile κ}
    (known : s.held t p = none ∨ s.held t p = some row) : Progress t s (s.remember t p row) := by
  refine .locking rfl rfl (fun _ h => h) rfl rfl rfl rfl fun q other here => ?_
  simp only [Control.remember,Function.update_self,Function.update_apply]
  split
  · rename_i same
    subst same
    rcases known with none_ | known
    · simp [here] at none_
    · exact known.symm.trans here ▸ rfl
  · exact here

section Edits

variable {calendar : Calendar κ} (notTick : ∀ now timezone, job ≠ .tick now timezone)
include notTick

theorem enqueueManual_spec (p : ProfileId) :
    Spec fresh t job (fun s => Quiet t s ∧ Loadable t job p s) False (fun _ _ => True) (enqueueManual t p) := by
  refine Spec.bind_closed (M := fun _ _ => True) (enqueue_spec (fun _ : true = true => notTick) p .manual none).close
    fun result => ?_
  exact Spec.bind_closed (commit_spec notTick fun _ _ _ h => h) fun _ => Spec.pure fun _ _ => trivial

theorem retryFailed_spec (id : RunId) (same : job = .retry id) :
    Spec fresh t job (Quiet t) False (fun _ _ => True) (retryFailed t id) := by
  have quiet := grows_quiet (κ := κ) (t := t)
  refine Spec.bind (M := fun _ => Quiet t) (Spec.ask quiet.stable fun s _ here _ _ => here) fun run => ?_
  refine Spec.bind (M := fun _ => Quiet t) (Spec.stmt quiet.stable fun i s sane here _ _ => ?_) fun _ => ?_
  · cases found : (s.sees t).profile run.profileId with
    | none => exact ⟨.refl s,fun _ => ⟨.refl t s,fun _ _ => here⟩⟩
    | some row => exact ⟨remember_guar s _ _,fun _ => ⟨remember_progress (identity_known s t _ row),fun _ _ => here⟩⟩
  refine Spec.bind (M := fun _ => Quiet t) (Spec.ask quiet.stable fun s _ here _ _ => here) fun status => ?_
  apply Spec.ite
  · exact fun _ => Spec.throw _
  · intro _
    refine Spec.bind_closed ((enqueueManual_spec notTick run.profileId).before fun s here => ⟨here,.inl ⟨id,same⟩⟩)
      fun result => ?_
    apply Spec.ite
    · exact fun _ => Spec.pure fun _ _ => trivial
    · exact fun _ => Spec.throw _

omit notTick in
theorem flush_spec {P : Control κ → Prop} (stable : Stable t P) {change : Contents κ → Contents κ}
    (locked : ∀ s, P s → ∀ k c, s.db.holder k ≠ some t → Contents.Same k c (change c)) :
    Spec fresh t job P False (fun _ _ => True) (flush t change) :=
  Spec.stmt stable fun _ s _ here _ _ =>
    ⟨.local (write_moves (locked s here)) (fun _ _ => rfl) rfl rfl rfl rfl rfl,False.elim⟩

/-- An edit ends by flushing what it has locked. -/
theorem flushCommit_spec {P : Control κ → Prop} (stable : Stable t P) {change : Contents κ → Contents κ}
    (locked : ∀ s, P s → ∀ k c, s.db.holder k ≠ some t → Contents.Same k c (change c)) :
    Spec fresh t job P False (fun _ _ => True) (do flush t change; commit t) :=
  Spec.bind_closed (flush_spec stable locked) fun _ => commit_spec notTick fun _ _ _ h => h

omit notTick in
theorem lockSettings_spec : Spec fresh t job (fun _ => True) True (fun _ _ => True) (lockSettings (κ := κ) t) := by
  refine Spec.stmt (fun _ _ _ h => h) fun i s sane here open_ _ => ?_
  have guar : Guar fresh t job s { s with db := s.db.lock t .settings } :=
    .local (moves_lock open_) (fun _ _ => rfl) rfl rfl rfl rfl rfl
  exact ⟨guar,fun _ => ⟨.locking rfl rfl (fun _ => lock_holder) rfl rfl rfl rfl fun _ _ h => h,fun _ _ => trivial⟩⟩

omit notTick in
theorem active_spec (p : ProfileId) : Spec fresh t job (fun _ => True) True (fun _ _ => True) (active (κ := κ) t p) := by
  refine Spec.stmt (fun _ _ _ h => h) fun i s sane here open_ _ => ?_
  cases (s.sees t).profile p with
  | none => exact ⟨.refl s,fun _ => ⟨.refl t s,fun _ _ => trivial⟩⟩
  | some row => exact ⟨remember_guar s p _,fun _ => ⟨remember_progress (identity_known s t p row),fun _ _ => trivial⟩⟩

omit notTick in
theorem lockRow_step {s : Control κ} {p : ProfileId} (open_ : s.db.free t (.profile p) = true) :
    Guar fresh t job s (s.lockRow t p) ∧ Progress t s (s.lockRow t p) := by
  obtain ⟨contents,rows,inserted,history,draft,held,saw⟩ := lockRow_fields s t p
  refine ⟨.local (moves_lockRow open_) (fun u _ => by rw [held]) saw contents rows inserted history,?_⟩
  exact .locking draft contents (fun k => lockRow_holder p) rows inserted saw history fun q row h => by rw [held]; exact h

omit notTick in
/-- The write fence of a profile. -/
theorem reserve_spec (p : ProfileId) :
    Spec fresh t job (fun _ => True) True (fun _ s => Owns t (.profile p) s) (reserve (κ := κ) t p) := by
  refine Spec.stmt (fun _ _ _ h => h) fun i s sane here open_ _ => ?_
  obtain ⟨guar,progress⟩ : Guar fresh t job s (s.lockRow t p) ∧ Progress t s (s.lockRow t p) := lockRow_step open_
  refine ⟨guar,fun _ => ⟨progress,fun value returned => ?_⟩⟩
  split at returned
  · exact lockRow_locked (by assumption)
  · cases returned

omit notTick in
/-- What changes one profile and the assignments leaves the rows of all other locks alone. -/
theorem same_elsewhere {p : ProfileId} {c c' : Contents κ} (timezone : c'.backupTimezone = c.backupTimezone)
    (server : c'.server = c.server) (profile : ∀ q, q ≠ p → c'.profile q = c.profile q)
    (source : ∀ q, q ≠ p → c'.source q = c.source q) (paths : ∀ q, q ≠ p → c'.paths q = c.paths q) {k : Key}
    (other : k ≠ .profile p) : Contents.Same k c c' := by
  cases k with
  | settings => exact timezone
  | server id => exact congrFun server id
  | profile q =>
    have apart : q ≠ p := fun same => other (congrArg Key.profile same)
    exact ⟨profile q apart,source q apart,paths q apart⟩

omit notTick in
theorem not_owned {p : ProfileId} {k : Key} {s : Control κ} (owned : Owns t (.profile p) s) (unlocked : s.db.holder k ≠ some t) :
    k ≠ .profile p := fun same => unlocked (same ▸ owned)

theorem updateConfiguration_spec (p : ProfileId) (u : ConfigurationUpdate κ) :
    Spec fresh t job (fun _ => True) False (fun _ _ => True) (updateConfiguration calendar t p u) := by
  refine Spec.bind lockSettings_spec fun timezone => ?_
  refine Spec.bind (active_spec p) fun profile => ?_
  refine Spec.bind (reserve_spec p) fun _ => ?_
  have owned := grows_owns (κ := κ) (t := t) (.profile p)
  refine Spec.bind (M := fun _ => Owns t (.profile p)) (Spec.stmt owned.stable fun i s sane here _ _ =>
    ⟨.refl s,fun _ => ⟨.refl t s,fun _ _ => here⟩⟩) ?_
  rintro ⟨old,now⟩
  dsimp only
  split
  · exact Spec.throw _
  · refine flushCommit_spec notTick owned.stable fun s here k c unlocked => ?_
    refine same_elsewhere ?_ ?_ (fun q apart => ?_) (fun q apart => ?_) (fun q apart => ?_) (not_owned here unlocked)
    · rfl
    · rfl
    · exact Function.update_of_ne apart _ _
    · exact Function.update_of_ne apart _ _
    · exact Function.update_of_ne apart _ _

theorem edit_spec (p : ProfileId) (columns : κ → κ) (enabled : Option Bool) :
    Spec fresh t job (fun _ => True) False (fun _ _ => True) (edit calendar t p columns enabled) := by
  refine Spec.bind lockSettings_spec fun timezone => ?_
  refine Spec.bind (active_spec p) fun profile => ?_
  refine Spec.bind (reserve_spec p) fun _ => ?_
  have owned := grows_owns (κ := κ) (t := t) (.profile p)
  refine Spec.bind (M := fun _ => Owns t (.profile p)) (Spec.stmt owned.stable fun i s sane here _ _ =>
    ⟨.refl s,fun _ => ⟨.refl t s,fun _ _ => here⟩⟩) ?_
  rintro ⟨profile,now⟩
  dsimp only
  split
  · exact Spec.throw _
  · refine flushCommit_spec notTick owned.stable fun s here k c unlocked => ?_
    refine same_elsewhere ?_ ?_ (fun q apart => ?_) (fun q apart => ?_) (fun q apart => ?_) (not_owned here unlocked)
    · rfl
    · rfl
    · exact Function.update_of_ne apart _ _
    · rfl
    · rfl

theorem assignAdmins_spec (p : ProfileId) (admins : List AdminId) :
    Spec fresh t job (fun _ => True) False (fun _ _ => True) (assignAdmins (κ := κ) t p admins) := by
  refine Spec.bind (active_spec p) fun profile => ?_
  refine Spec.bind (reserve_spec p) fun _ => ?_
  refine flushCommit_spec notTick (grows_owns (.profile p)).stable fun s here k c unlocked => ?_
  refine same_elsewhere ?_ ?_ (fun q apart => ?_) (fun q apart => ?_) (fun q apart => ?_) (not_owned here unlocked)
  all_goals rfl

omit notTick in
theorem reserveAll_spec (profiles : List ProfileId) :
    Spec fresh t job (fun _ => True) True (fun _ _ => True) (reserveAll (κ := κ) t profiles) := by
  induction profiles with
  | nil => exact Spec.pure fun _ _ => trivial
  | cons p rest ih =>
    refine Spec.bind (M := fun _ _ => True) (Spec.stmt (fun _ _ _ h => h) fun i s sane here open_ _ => ?_) fun _ => ih
    obtain ⟨guar,progress⟩ : Guar fresh t job s (s.lockRow t p) ∧ Progress t s (s.lockRow t p) := lockRow_step open_
    exact ⟨guar,fun _ => ⟨progress,fun _ _ => trivial⟩⟩

theorem assign_spec (admin : AdminId) (profiles : List ProfileId) :
    Spec fresh t job (fun _ => True) False (fun _ _ => True) (assign (κ := κ) t admin profiles) := by
  have always : Stable t fun _ : Control κ => True := fun _ _ _ h => h
  refine Spec.bind (M := fun _ _ => True) (Spec.ask always fun _ _ _ _ _ => trivial) fun previous => ?_
  refine Spec.bind (M := fun _ _ => True) (Spec.stmt always fun i s sane here _ _ =>
    ⟨.refl s,fun _ => ⟨.refl t s,fun _ _ => trivial⟩⟩) fun order => ?_
  refine Spec.bind (reserveAll_spec _) fun _ => ?_
  refine flushCommit_spec notTick always fun s _ k c _ => ?_
  cases k with
  | settings => rfl
  | server id => rfl
  | profile p => exact ⟨rfl,rfl,rfl⟩

theorem updateServer_spec (id : ServerId) (change : κ → κ) :
    Spec fresh t job (Quiet t) False (fun _ _ => True) (updateServer t id change) := by
  refine Spec.bind (lockServer_spec id) fun server => ?_
  refine (flushCommit_spec notTick (grows_owns (.server id)).stable fun s here k c unlocked => ?_).before fun s here => here.1
  cases k with
  | settings => rfl
  | profile p => exact ⟨rfl,rfl,rfl⟩
  | server id' =>
    refine Function.update_of_ne (fun same => unlocked ?_) _ _
    exact same ▸ here

end Edits

theorem Run.moved_lasts (run : Run κ) (id : RunId) (status : RunStatus) : Run.Lasts run (run.moved id status) := by
  unfold Run.moved
  split
  · exact ⟨rfl,rfl,rfl,rfl,rfl⟩
  · exact .refl run

section Amend

variable {s : Control κ} {id : RunId} {status : RunStatus}
variable (unique : (s.db.amend (·.moved id status)).Unique Clash)
include unique

/-- A run that moves on disturbs no session. -/
theorem amend_rely (u : Nat) : Rely u s { s with db := s.db.amend (·.moved id status) } := by
  refine ⟨⟨rfl,rfl,fun _ h => h,fun k _ => ?_,fun run member => ?_,fun _ h => h⟩,rfl,rfl,?_⟩
  · exact (Contents.same_equivalence k).refl _
  · exact ⟨run.moved id status,List.mem_map_of_mem member,run.moved_lasts id status⟩
  · exact fun sane => ⟨⟨sane.valid.disciplined,unique,sane.valid.recorded⟩,sane.fair⟩

theorem amend_guar : Guar fresh t job s { s with db := s.db.amend (·.moved id status) } := by
  refine ⟨fun u _ => amend_rely unique u,(amend_rely unique t).sane,fun _ snapshots run member config snapshot => ?_,
    fun _ _ _ p before after due was cursor is moved => ?_,fun _ h => .inl h⟩
  · rcases List.mem_append.mp member with committed | open_
    · obtain ⟨before,there,rfl⟩ := List.mem_map.mp committed
      have lasts := before.moved_lasts id status
      rw [lasts.snapshot] at snapshot
      rw [lasts.profileId]
      exact snapshots before (List.mem_append_left _ there) config snapshot
    · exact snapshots run (List.mem_append_right _ open_) config snapshot
  · rw [show (s.db.amend (·.moved id status)).contents = s.db.contents from rfl,was] at is
    exact absurd (Option.some.inj is ▸ cursor) moved

end Amend

section System

variable {calendar : Calendar κ}

def Untouched (t : Nat) (s : Control κ) : Prop := Quiet t s ∧ ∀ q, s.held t q = none

theorem body_spec (job : Job κ) : Spec fresh t job (Untouched t) False (fun _ _ => True) (job.body calendar t) := by
  cases job with
  | tick now timezone =>
    refine Spec.bind_closed (tick_spec fun now' timezone' same => ?_) fun _ => Spec.pure fun _ _ => trivial
    cases same
    rfl
  | manual p =>
    refine Spec.bind_closed ((enqueueManual_spec (by simp) p).before fun s here => ⟨here.1,.inr (.inl (here.2 p))⟩)
      fun _ => Spec.pure fun _ _ => trivial
  | retry run => exact (retryFailed_spec (by simp) run rfl).before fun _ here => here.1
  | updateConfiguration p u => exact (updateConfiguration_spec (by simp) p u).before fun _ _ => trivial
  | edit p columns enabled => exact (edit_spec (by simp) p columns enabled).before fun _ _ => trivial
  | assignAdmins p admins => exact (assignAdmins_spec (by simp) p admins).before fun _ _ => trivial
  | assign admin profiles => exact (assign_spec (by simp) admin profiles).before fun _ _ => trivial
  | updateServer id change => exact (updateServer_spec (by simp) id change).before fun _ here => here.1

/-- A session keeps its contract from its start, also where an exception ends it. -/
theorem program_holds (job : Job κ) {s : Control κ} (sane : Sane s) (untouched : Untouched t s) :
    Holds (sessionContract fresh t job) (fun _ _ => True) (job.program calendar t) s := by
  refine Holds.handle (Holds.mono ?_ (body_spec job s sane untouched))
  rintro (e | value) s' _
  · refine fun s'' _ => ⟨fun _ i _ _ => ⟨rollback_guar,?_⟩,fun _ _ => trivial⟩
    dsimp only
    cases i.fault with
    | none => trivial
    | some _ => trivial
  · trivial

def contractOf (fresh : Prop) (t : Nat) : Option (Job κ) → Contract Point Reply (Control κ) Failure
  | some job => sessionContract fresh t job
  | none => .idle

/-- Sessions keep their contracts, and whoever has not started has left no trace. -/
structure Coherent (fresh : Prop) (s : System κ) : Prop where
  sane : Sane s.control
  snapshots : fresh → Snapshotted s.control
  unused : ∀ t, s.job t = none → s.sys.task t = none ∧ Untouched t s.control
  sound : Interleave.Sound (fun t => contractOf fresh t (s.job t)) (fun _ _ _ => True) s.sys

def RetriesUptodate (s : System κ) (a : Act κ) : Prop :=
  ∀ t i id p, a = .perform t i → s.job t = some (.retry id) → s.sys.pointOf t = some (.lockProfile p) →
    s.control.held t p = s.db.contents.profile p

theorem Untouched.rely {a b : Control κ} (untouched : Untouched t a) (rely : Rely t a b) : Untouched t b := by
  refine ⟨grows_quiet.stable _ _ rely untouched.1,fun q => ?_⟩
  rw [rely.held]
  exact untouched.2 q

namespace Coherent

variable {s s' : System κ}

theorem fresh_system (contents : Contents κ) : Coherent fresh (System.fresh contents) := by
  refine ⟨⟨⟨fun t k c _ => ?_,List.Pairwise.nil,List.mem_singleton_self _⟩,fun _ _ member => ?_⟩,fun _ run member => ?_,
    fun t _ => ⟨rfl,rfl,fun _ => rfl⟩,fun t p point task => ?_⟩
  · exact (Contents.same_equivalence k).refl c
  · cases member
  · cases member
  · cases task

theorem perform (coherent : Coherent fresh s) {i : Reply} (ok : fresh → RetriesUptodate s (.perform t i))
    (h : System.step calendar s (.perform t i) = some s') :
    Coherent fresh s' ∧ ∃ job, s.job t = some job ∧ Guar fresh t job s.control s'.control := by
  obtain ⟨sys,advanced,rfl⟩ := Option.map_eq_some_iff.mp h
  obtain ⟨point,_,_,_,_,task,-⟩ := Sys.advance_cases advanced
  have waits : s.sys.pointOf t = some point := by simp [Interleave.Sound.pointOf_eq task,Prog.point]
  obtain ⟨job,started⟩ : ∃ job, s.job t = some job := by
    refine Option.ne_none_iff_exists'.mp fun none_ => ?_
    rw [(coherent.unused t none_).1] at task
    cases task
  have step := Interleave.Sound.advance coherent.sound advanced waits
    (by
      rw [started]
      intro here id p same at_
      subst same
      exact ok here t i id p rfl started (waits.trans (congrArg some at_)))
    (by
      rw [started]
      trivial)
  obtain ⟨guar,sound,-⟩ := step
  rw [started] at guar
  have guar : Guar fresh t job s.control sys.shared := guar
  refine ⟨⟨guar.sane coherent.sane,fun here => guar.snapshots here (coherent.snapshots here),fun u none_ => ?_,sound ?_⟩,
    job,started,guar⟩
  · have other : u ≠ t := by
      rintro rfl
      rw [started] at none_
      cases none_
    obtain ⟨idle,untouched⟩ := coherent.unused u none_
    obtain ⟨_,_,_,_,_,_,_,rfl⟩ := Sys.advance_cases advanced
    exact ⟨(Function.update_of_ne other _ _).trans idle,untouched.rely (guar.others u other)⟩
  · intro u at_ other _
    change (contractOf fresh u (s.job u)).rely at_ s.sys.shared sys.shared
    cases s.job u with
    | none => trivial
    | some _ => exact guar.others u other

/-- A change beside the sessions that are running. -/
theorem outside (coherent : Coherent fresh s) {after : Control κ} (rely : ∀ u, (s.sys.pointOf u).isSome ∨ s.job u = none →
    Rely u s.control after) (sane : Sane after) (snapshots : fresh → Snapshotted after) :
    Coherent fresh { s with sys := { s.sys with shared := after } } := by
  refine ⟨sane,snapshots,fun u none_ => ?_,Interleave.Sound.outside coherent.sound after fun u point waits => ?_⟩
  · obtain ⟨idle,untouched⟩ := coherent.unused u none_
    exact ⟨idle,untouched.rely (rely u (.inr none_))⟩
  · cases s.job u with
    | none => trivial
    | some _ => exact rely u (.inl (by simp [waits]))

theorem other (coherent : Coherent fresh s) {a : Act κ} (performs : ∀ t i, a ≠ .perform t i)
    (h : System.step calendar s a = some s') : Coherent fresh s' := by
  cases a with
  | perform t i => exact absurd rfl (performs t i)
  | fails t e =>
    obtain ⟨sys,interrupted,rfl⟩ := Option.map_eq_some_iff.mp h
    obtain ⟨point,_,_,_,_,task,same⟩ := Sys.interrupt_cases interrupted
    have waits : s.sys.pointOf t = some point := by simp [Interleave.Sound.pointOf_eq task,Prog.point]
    have step := Interleave.Sound.interrupt coherent.sound interrupted waits (by cases s.job t <;> trivial)
    have shared : sys.shared = s.sys.shared := step.1
    refine ⟨?_,?_,fun u none_ => ?_,step.2.1⟩
    · simpa only [System.control,shared] using coherent.sane
    · simpa only [System.control,shared] using coherent.snapshots
    · obtain ⟨idle,untouched⟩ := coherent.unused u none_
      have other : u ≠ t := by
        rintro rfl
        rw [idle] at task
        cases task
      subst same
      exact ⟨(Function.update_of_ne other _ _).trans idle,untouched⟩
  | crash t =>
    obtain rfl := Option.some.inj h
    refine ⟨coherent.sane,coherent.snapshots,fun u none_ => ?_,Interleave.Sound.kill coherent.sound t⟩
    obtain ⟨idle,untouched⟩ := coherent.unused u none_
    refine ⟨?_,untouched⟩
    simp only [Sys.kill,Function.update_apply]
    split
    · rfl
    · exact idle
  | lost t =>
    simp only [System.step] at h
    split_ifs at h with gone
    obtain rfl := Option.some.inj h
    simp only [Bool.and_eq_true,Option.isNone_iff_eq_none] at gone
    have guar : Guar fresh t (.manual 0) s.control { s.control with db := s.db.rollback t } := rollback_guar
    refine coherent.outside (fun u alive => ?_) (guar.sane coherent.sane)
      fun here => guar.snapshots here (coherent.snapshots here)
    apply guar.others
    rintro rfl
    rcases alive with running | none_
    · simp [gone.2] at running
    · simp [none_] at gone
  | start t job =>
    simp only [System.step] at h
    split_ifs at h with unused
    obtain rfl := Option.some.inj h
    simp only [Bool.and_eq_true,Option.isNone_iff_eq_none] at unused
    refine ⟨coherent.sane,coherent.snapshots,fun u none_ => ?_,Interleave.Sound.spawn (fun u q point task waits => ?_) ?_⟩
    · have other : u ≠ t := by
        rintro rfl
        simp at none_
      simp only [Function.update_of_ne other] at none_
      obtain ⟨idle,untouched⟩ := coherent.unused u none_
      exact ⟨(Function.update_of_ne other _ _).trans idle,untouched⟩
    · have other : u ≠ t := by
        rintro rfl
        simp [unused.1] at task
      simp only [Function.update_of_ne other]
      exact coherent.sound u q point task waits
    · simp only [Function.update_self]
      exact program_holds job coherent.sane (coherent.unused t unused.2).2
  | progress id status =>
    simp only [System.step] at h
    split_ifs at h with unique
    obtain rfl := Option.some.inj h
    have guar : Guar fresh 0 (.manual 0) s.control { s.control with db := s.db.amend (·.moved id status) } := amend_guar unique
    refine coherent.outside (fun u _ => amend_rely unique u) (guar.sane coherent.sane) fun here => ?_
    exact guar.snapshots here (coherent.snapshots here)

end Coherent

theorem coherent_of_reached {allowed : System κ → Act κ → Prop} (fine : fresh → ∀ s a, allowed s a → RetriesUptodate s a)
    {s : System κ} (run : Reached calendar allowed s) : Coherent fresh s := by
  induction run with
  | start initial =>
    obtain ⟨contents,rfl⟩ := initial
    exact .fresh_system contents
  | @next s s' a run ok h ih =>
    by_cases performs : ∃ t i, a = .perform t i
    · obtain ⟨t,i,rfl⟩ := performs
      exact (ih.perform (fun here => fine here s _ ok) h).1
    · exact ih.other (fun t i same => performs ⟨t,i,same⟩) h

end System

end BackupTelebot.Queue
