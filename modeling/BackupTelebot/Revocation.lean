import BackupTelebot.BuildFootprints
import BackupTelebot.RowSteps

/-! Revocation. An attempt asks the database who its recipients are, and asks once more
about an administrator when it reaches him. What it then sends, it sends on these answers. -/
namespace BackupTelebot

open Interleave

def World.Admin (s : World) (admin : AdminId) : Prop :=
  ∃ user ∈ s.users, user.id = admin ∧ user.role = .admin ∧ user.available = true

def World.Superadmin (s : World) (admin : AdminId) : Prop :=
  ∃ user ∈ s.users, user.id = admin ∧ user.role = .superadmin ∧ user.available = true

/-- The states in which the queries of an attempt were answered: who is assigned, which of
them are administrators, who is a superadmin, and whether the administrator that the loop
has reached may still be served. -/
structure Seen where
  assigned : Option World
  admins : Option World
  superadmins : Option World
  asked : Option World

def Seen.nothing : Seen := ⟨none,none,none,none⟩

/-- Every iteration of the loop begins at a boundary, before it asks. -/
def Seen.note (point : Point) (s : World) (seen : Seen) : Seen :=
  match point with
  | .liveAssigned => { seen with assigned := some s }
  | .assignedAdmins => { seen with admins := some s }
  | .superadmins => { seen with superadmins := some s }
  | .fence => { seen with asked := none }
  | .authorize => { seen with asked := some s }
  | _ => seen

/-- The recipient was an administrator with access when the attempt selected its recipients. -/
def SelectedAdmin (c : Setup) (seen : Seen) (admin : AdminId) : Prop :=
  (∀ ids, c.snapshotAdmins = some ids → admin ∈ ids) ∧
    (∃ s, seen.assigned = some s ∧ admin ∈ s.access) ∧ ∃ s, seen.admins = some s ∧ s.Admin admin

def SelectedSuperadmin (seen : Seen) (admin : AdminId) : Prop := ∃ s, seen.superadmins = some s ∧ s.Superadmin admin

/-- The recipient was entitled when he was selected, and an administrator also when the
attempt had reached him. -/
def Cleared (c : Setup) (seen : Seen) (admin : AdminId) : Prop :=
  SelectedSuperadmin seen admin ∨
    SelectedAdmin c seen admin ∧ ∃ s, seen.asked = some s ∧ admin ∈ s.access ∧ s.Admin admin

section Attempt

variable {α β : Type} {c : Setup}

def SendSafe (c : Setup) (point : Point) (s s' : World) (seen : Seen) : Prop :=
  point = .send ∨ point = .sendResult →
    ∀ admin part, s'.uploads = s.uploads ++ [.sent admin part] → Cleared c seen admin

abbrev Watched (c : Setup) (post : Except Exc α → Seen → Prop) (p : Proc α) (seen : Seen) : Prop :=
  Prog.Obeys Seen.note (SendSafe c) post p seen

def Chosen (c : Setup) (users : List User) (seen : Seen) : Prop :=
  ∀ user ∈ users,
    (user.role = .superadmin → SelectedSuperadmin seen user.id) ∧
    (user.role = .admin → SelectedAdmin c seen user.id)

def Returns (inv : Seen → Prop) (ok : α → Seen → Prop) : Except Exc α → Seen → Prop
  | .ok value, seen => inv seen ∧ ok value seen
  | .error _, seen => inv seen

theorem Returns.mono {inv weaker : Seen → Prop} {ok : α → Seen → Prop} {result : Except Exc α} {seen : Seen}
    (h : ∀ seen, inv seen → weaker seen) (returns : Returns inv ok result seen) : Returns weaker ok result seen := by
  cases result with
  | error e => exact h seen returns
  | ok value => exact ⟨h seen returns.1,returns.2⟩

namespace Watched

variable {inv : Seen → Prop} {seen : Seen}

theorem bind {F : α → Seen → Prop} {last : β → Seen → Prop} {p : Proc α} {body : α → Proc β}
    (start : Watched c (Returns inv F) p seen)
    (next : ∀ value seen, inv seen → F value seen → Watched c (Returns inv last) (body value) seen) :
    Watched c (Returns inv last) (p >>= body) seen :=
  Prog.Obeys.bind start (fun value seen h => next value seen h.1 h.2) fun _ _ h => h

/-- What is left of an operation that has been performed. -/
theorem after_op {inv : Seen → Prop} {seen : Seen} {fault : Option Exc} {result : Except Exc α} (kept : inv seen) :
    Watched c (Returns inv fun _ _ => True) (.ret (match fault with
      | some e => .error e
      | none => result)) seen := by
  change Returns inv _ _ _
  split
  · exact kept
  · cases result with
    | error e => exact kept
    | ok value => exact ⟨kept,trivial⟩

/-- An operation that is no upload. -/
theorem op {ok : α → Seen → Prop} {point : Point} {effect : Answer → World → World}
    {result : Answer → World → Except Exc α} (silent : point ≠ .send ∧ point ≠ .sendResult)
    (before : inv seen) (kept : ∀ s, inv (seen.note point s))
    (results : ∀ i s value, result i s = .ok value → ok value (seen.note point s)) :
    Watched c (Returns inv ok) (BackupTelebot.op point effect result) seen := by
  refine ⟨fun s i _ => ⟨?_,?_⟩,fun _ => before⟩
  · rintro (same | same)
    · exact absurd same silent.1
    · exact absurd same silent.2
  · change Returns inv ok _ _
    split
    · exact kept s
    · cases returned : result i s with
      | error e => exact kept s
      | ok value => exact ⟨kept s,results i s value returned⟩

theorem look {R : α → Seen → Prop} {point : Point} {result : World → Except Exc α}
    (silent : point ≠ .send ∧ point ≠ .sendResult) (before : inv seen) (kept : ∀ s, inv (seen.note point s))
    (results : ∀ s value, result s = .ok value → R value (seen.note point s)) :
    Watched c (Returns inv R) (BackupTelebot.look point result) seen :=
  op silent before kept fun _ s value => results s value

def Plain (point : Point) : Prop :=
  point ∉ [.liveAssigned,.assignedAdmins,.superadmins,.fence,.authorize,.send,.sendResult]

instance : DecidablePred Plain := fun point => inferInstanceAs (Decidable (point ∉ _))

theorem note_plain {point : Point} (plain : Plain point) (s : World) (seen : Seen) : seen.note point s = seen := by
  cases point <;> first | rfl | exact absurd plain (by decide)

theorem plain {point : Point} {effect : Answer → World → World} {result : Answer → World → Except Exc α}
    (plain : Plain point) (before : inv seen) :
    Watched c (Returns inv fun _ _ => True) (BackupTelebot.op point effect result) seen := by
  refine op ⟨?_,?_⟩ before (fun s => by rw [note_plain plain]; exact before) fun _ _ _ _ => trivial
  · rintro rfl
    exact absurd plain (by decide)
  · rintro rfl
    exact absurd plain (by decide)

theorem pure {ok : α → Seen → Prop} {value : α} (before : inv seen) (h : ok value seen) :
    Watched c (Returns inv ok) (Pure.pure value : Proc α) seen := ⟨before,h⟩

theorem throw {ok : α → Seen → Prop} {e : Exc} (before : inv seen) :
    Watched c (Returns inv ok) (MonadExcept.throw e : Proc α) seen := before

end Watched

variable {users : List User} {seen : Seen} {admin : AdminId}

theorem Chosen.fence (chosen : Chosen c users seen) (s : World) : Chosen c users (seen.note .fence s) := chosen

theorem Chosen.authorize (chosen : Chosen c users seen) (s : World) : Chosen c users (seen.note .authorize s) := chosen

/-- Someone was cleared, and stays so until the loop goes on to the next recipient. -/
def Serving (c : Setup) (users : List User) (admin : AdminId) (seen : Seen) : Prop :=
  Chosen c users seen ∧ Cleared c seen admin

theorem sendFile_watched (part : Nat) (serving : Serving c users admin seen) :
    Watched c (Returns (Serving c users admin) fun _ _ => True) (sendFile admin part) seen := by
  apply Prog.Obeys.handle (Q := Returns (Serving c users admin) fun _ _ => True)
  · apply Watched.bind (F := fun _ _ => True)
    · refine ⟨fun s i _ => ⟨fun _ other number same => ?_,Watched.after_op serving⟩,fun _ => serving⟩
      have same : Upload.sent admin part = .sent other number := by simpa using same
      cases same
      exact serving.2
    · rintro _ seen serving -
      apply Watched.bind (F := fun _ _ => True)
      · refine ⟨fun s i _ => ⟨fun _ other number same => ?_,Watched.after_op serving⟩,fun _ => serving⟩
        simp at same
      · exact fun _ _ serving _ => Watched.pure serving trivial
  · exact fun _ _ h => h
  · intro e seen serving
    cases e with
    | cancelled => exact serving
    | failure f => exact ⟨serving,trivial⟩

theorem sendParts_watched (owner : Option Owner) (parts : List ArtifactPart) (session : Session)
    (delivery : BackupDelivery) (serving : Serving c users admin seen) :
    Watched c (Returns (Serving c users admin) fun _ _ => True) (sendParts c owner admin parts session delivery) seen := by
  induction parts generalizing session delivery seen with
  | nil => exact Watched.pure serving trivial
  | cons artifact rest ih =>
    apply Watched.bind (Watched.plain (by decide) serving)
    rintro ⟨session,delivery⟩ seen serving -
    apply Watched.bind (sendFile_watched artifact.number serving)
    rintro (e | ⟨messageId,fileId⟩) seen serving -
    · exact Watched.plain (by decide) serving
    · apply Watched.bind (Watched.plain (by decide) serving)
      rintro ⟨session,delivery⟩ seen serving -
      exact ih session delivery serving

/-- A superadmin is served on the word of the selection, an administrator on his query. -/
theorem authorize_watched (chosen : Chosen c users seen) :
    Watched c (Returns (Chosen c users) fun authorized seen => authorized = true → Cleared c seen admin)
      (authorize users admin) seen := by
  unfold authorize
  split
  · exact Watched.pure chosen (by simp)
  · rename_i user found
    have same : user.id = admin := by simpa using List.find?_some found
    have selected := chosen user (List.mem_of_find?_eq_some found)
    split
    · rename_i superadmin
      exact Watched.pure chosen fun _ => .inl (same ▸ selected.1 superadmin)
    · rename_i other
      have administrator : user.role = .admin := by
        cases role : user.role with
        | superadmin => exact absurd role other
        | admin => rfl
      apply Watched.look (by decide) chosen (fun s => chosen.authorize s)
      intro s value returned authorized
      obtain rfl := Except.ok.inj returned
      simp only [Bool.and_eq_true,List.contains_iff_mem,List.any_eq_true,decide_eq_true_eq] at authorized
      obtain ⟨access,served,member,⟨id,role⟩,available⟩ := authorized
      exact .inr ⟨same ▸ selected.2 administrator,s,rfl,access,served,member,id,role,available⟩

theorem serve_watched (owner : Option Owner) (artifacts : List ArtifactPart) (admin : AdminId) (session : Session)
    (chosen : Chosen c users seen) :
    Watched c (Returns (Chosen c users) fun _ _ => True) (serve c ⟨owner,artifacts,users⟩ admin session) seen := by
  apply Watched.bind (Watched.look (R := fun _ _ => True) (by decide) chosen (fun s => chosen.fence s) fun _ _ _ => trivial)
  rintro ⟨run,now⟩ seen chosen -
  dsimp only
  split
  · exact Watched.pure chosen trivial
  · rename_i delivery _
    have written {point : Point} (assigned : Time → BackupDelivery) (plain : Watched.Plain point) {seen : Seen}
        (chosen : Chosen c users seen) (session : Session) (delivery : BackupDelivery) :
        Watched c (Returns (Chosen c users) fun _ _ => True)
          (commitDelivery point session delivery assigned >>= fun found => Pure.pure found.1) seen :=
      Watched.bind (Watched.plain plain chosen) fun found seen chosen _ => Watched.pure chosen trivial
    apply Prog.Obeys.ite (fun _ => Watched.pure chosen trivial)
    intro _
    apply Prog.Obeys.ite (fun _ => written _ (by decide) chosen _ _)
    intro _
    apply Watched.bind (authorize_watched chosen)
    intro authorized seen chosen cleared
    cases authorized with
    | false => exact written _ (by decide) chosen _ _
    | true =>
      have parts := sendParts_watched owner (artifacts.drop (delivery.nextPart - 1)) ⟨run,session.deliveries⟩ delivery
        (⟨chosen,cleared rfl⟩ : Serving c users admin seen)
      apply Watched.bind (parts.mono fun result seen h => Returns.mono (fun _ serving => serving.1) h)
      rintro ⟨session,delivery⟩ seen chosen -
      apply Prog.Obeys.ite
      · exact fun _ => written _ (by decide) chosen _ _
      · exact fun _ => Watched.pure chosen trivial

theorem serveAll_watched (owner : Option Owner) (artifacts : List ArtifactPart) (admins : List AdminId)
    (session : Session) (chosen : Chosen c users seen) :
    Watched c (Returns (Chosen c users) fun _ _ => True) (serveAll c ⟨owner,artifacts,users⟩ admins session) seen := by
  induction admins generalizing session seen with
  | nil => exact Watched.pure chosen trivial
  | cons admin rest ih =>
    apply Watched.bind (serve_watched owner artifacts admin session chosen)
    exact fun session seen chosen _ => ih session chosen

theorem selectUsers_watched (seen : Seen) :
    Watched c (Returns (fun _ => True) (Chosen c)) (selectUsers c) seen := by
  apply Watched.bind (Watched.look (R := fun live seen => ∃ s, seen.assigned = some s ∧ s.access = live) (by decide) trivial
    (fun _ => trivial) fun s value returned => ⟨s,rfl,Except.ok.inj returned⟩)
  rintro live seen - ⟨s₁,assigned,rfl⟩
  apply Watched.bind (F := fun admins seen => ∀ user ∈ admins, user.role = .admin ∧ SelectedAdmin c seen user.id)
  · apply Watched.look (by decide) trivial (fun _ => trivial)
    intro s₂ value returned user member
    obtain rfl := Except.ok.inj returned
    simp only [List.mem_filter,Bool.and_eq_true,List.contains_iff_mem,decide_eq_true_eq] at member
    obtain ⟨present,⟨listed,role⟩,available⟩ := member
    refine ⟨role,?_,⟨s₁,assigned,?_⟩,s₂,rfl,user,present,rfl,role,available⟩
    · intro ids snapshot
      rw [snapshot] at listed
      simpa using (List.mem_filter.mp listed).2
    · split at listed
      · exact List.mem_of_mem_filter listed
      · exact listed
  · intro admins seen _ selected
    apply Watched.bind (F := fun superadmins seen => (∀ user ∈ admins, user.role = .admin ∧ SelectedAdmin c seen user.id) ∧
      ∀ user ∈ superadmins, user.role = .superadmin ∧ SelectedSuperadmin seen user.id)
    · apply Watched.look (by decide) trivial (fun _ => trivial)
      intro s₃ value returned
      obtain rfl := Except.ok.inj returned
      refine ⟨selected,fun user member => ?_⟩
      simp only [List.mem_filter,Bool.and_eq_true,decide_eq_true_eq] at member
      obtain ⟨present,role,available⟩ := member
      exact ⟨role,s₃,rfl,user,present,rfl,role,available⟩
    · rintro superadmins seen - ⟨fromAdmins,fromSuperadmins⟩
      refine Watched.pure trivial fun user member => ?_
      rcases List.mem_append.mp member with here | here
      · obtain ⟨role,h⟩ := fromAdmins user here
        exact ⟨fun other => by simp [role] at other,fun _ => h⟩
      · obtain ⟨role,h⟩ := fromSuperadmins user (List.mem_of_mem_filter here)
        exact ⟨fun _ => h,fun other => by simp [role] at other⟩

theorem removeDelivered_watched (run : Orm) (chosen : Chosen c users seen) :
    Watched c (Returns (Chosen c users) fun _ _ => True) (removeDelivered c run) seen := by
  unfold removeDelivered
  split
  · exact Watched.throw chosen
  · apply Watched.bind (Watched.plain (by decide) chosen)
    intro _ seen chosen _
    apply Watched.bind (Watched.plain (by decide) chosen)
    exact fun _ _ chosen _ => Watched.pure chosen trivial

/-- An ownership check of the attempt. -/
theorem fence_watched {owner : Option Owner} {run : Orm} {inv : Seen → Prop} (before : inv seen)
    (kept : ∀ s, inv (seen.note .fence s)) :
    Watched c (Returns inv fun _ _ => True) (boundary .fence owner run) seen :=
  Watched.look (by decide) before kept fun _ _ _ => trivial

theorem attempt_watched (run : Orm) (seen : Seen) :
    Watched c (Returns (fun _ => True) fun _ _ => True) (attempt c run) seen := by
  apply Watched.bind (fence_watched trivial fun _ => trivial)
  rintro ⟨run',now⟩ seen - -
  dsimp only
  split
  · exact Watched.throw trivial
  · apply Watched.bind (Watched.plain (by decide) trivial)
    intro artifacts seen _ _
    apply Watched.bind (selectUsers_watched seen)
    intro users seen _ chosen
    apply Prog.Obeys.mono (Q := Returns (Chosen c users) fun _ _ => True)
    · apply Watched.bind (Watched.plain (by decide) chosen)
      intro loaded seen chosen _
      apply Watched.bind (Watched.plain (by decide) chosen)
      intro deliveries seen chosen _
      apply Watched.bind (fence_watched chosen chosen.fence)
      rintro ⟨run,now⟩ seen chosen -
      apply Watched.bind (serveAll_watched _ _ _ _ chosen)
      intro session seen chosen _
      apply Watched.bind (Watched.plain (by decide) chosen)
      rintro (_ | status | _) seen chosen -
      · exact Watched.pure chosen trivial
      · apply Watched.bind (Watched.plain (by decide) chosen)
        intro run seen chosen _
        apply Prog.Obeys.ite
        · exact fun _ => Watched.pure chosen trivial
        · exact fun _ => removeDelivered_watched run chosen
      · apply Watched.bind (fence_watched chosen chosen.fence)
        exact fun _ _ chosen _ => Watched.throw chosen
    · exact fun result seen h => Returns.mono (fun _ _ => trivial) h

end Attempt

/-- Where nothing is sent, anything may be seen. -/
theorem watched_of_within {α : Type} {c : Setup} {p : Proc α} {Q : α → Prop} (within : p.Within (· ∉ attemptPoints) Q)
    (seen : Seen) : Watched c (Returns (fun _ => True) fun value _ => Q value) p seen := by
  apply (Prog.Obeys.within (I := fun _ => True) within ?_ (fun _ _ _ _ _ => trivial) trivial).mono
  · intro result seen h
    cases result with
    | error e => trivial
    | ok value => exact ⟨trivial,h.2 value rfl⟩
  · rintro point s s' seen outside (rfl | rfl)
    · exact absurd (by decide) outside
    · exact absurd (by decide) outside

theorem execute_watched (c : Setup) (owner : Owner) (t : Nat) (seen : Seen) :
    Watched c (fun _ _ => True) (execute c owner t) seen := by
  apply Prog.Obeys.handle (Q := Returns (fun _ => True) fun _ _ => True)
  · apply Watched.bind (F := fun _ _ => True) (Watched.plain (by decide) trivial)
    rintro ⟨run,now⟩ seen - -
    apply Prog.Obeys.ite (fun _ => Watched.throw trivial)
    intro _
    apply Prog.Obeys.ite (fun _ => attempt_watched run seen)
    intro _
    apply Prog.Obeys.ite (fun _ => Watched.throw trivial)
    intro _
    apply Watched.bind (watched_of_within (build_within run now) seen)
    exact fun run seen _ _ => attempt_watched run seen
  · exact fun _ _ _ => trivial
  · exact fun e seen _ => (watched_of_within (handleException_within t e) seen).mono fun _ _ _ => trivial

structure Observed where
  system : System
  seen : Nat → Seen

namespace Observed

/-- The notes after a step: only the task that performs takes one. -/
def after (o : Observed) : Act → Nat → Seen
  | .perform t _ =>
    match o.system.pointOf t with
    | some point => Function.update o.seen t ((o.seen t).note point o.system.world)
    | none => o.seen
  | _ => o.seen

def step (c : Setup) (o : Observed) (a : Act) : Option Observed :=
  (System.step c o.system a).map fun system => ⟨system,o.after a⟩

def Initial (o : Observed) : Prop := System.Initial o.system ∧ o.seen = fun _ => .nothing

def Careful (c : Setup) (o : Observed) : Prop :=
  ∀ t e p, o.system.execution t = some e → o.system.sys.task t = some p → Watched c (fun _ _ => True) p (o.seen t)

variable {c : Setup} {o o' : Observed} {a : Act}

theorem system_step (h : step c o a = some o') : System.step c o.system a = some o'.system ∧ o'.seen = o.after a := by
  obtain ⟨system,taken,rfl⟩ := Option.map_eq_some_iff.mp h
  exact ⟨taken,rfl⟩

theorem system_reached (run : Runs Initial (step c) (fun _ _ => True) o) : Reached c (fun _ _ => True) o.system := by
  induction run with
  | start initial => exact .start initial.1
  | next _ _ h ih => exact .next ih trivial (system_step h).1

theorem after_other (other : ∀ t i, a ≠ .perform t i) : o.after a = o.seen := by
  cases a with
  | perform t i => exact absurd rfl (other t i)
  | _ => rfl

theorem careful_step (careful : Careful c o) (h : step c o a = some o') : Careful c o' := by
  obtain ⟨taken,seen⟩ := system_step h
  obtain ⟨s',seen'⟩ := o'
  obtain rfl : seen' = o.after a := seen
  intro u e p executes task
  dsimp only at taken executes task ⊢
  have started (t : Nat) (owner : Owner) (other : ∀ t i, a ≠ .perform t i) (eq : s' = o.system.start c t owner) :
      Watched c (fun _ _ => True) p (o.after a u) := by
    rw [after_other other]
    subst eq
    by_cases same : u = t
    · subst u
      simp only [System.start,Function.update_self,Option.some.injEq] at task
      exact task ▸ execute_watched c owner t _
    · simp only [System.start,Function.update_of_ne same] at executes task
      exact careful u e p executes task
  cases System.step_cases taken with
  | @performed t i sys advanced =>
    obtain ⟨point,guard,effect,next,raised,waits,open_,rfl⟩ := Sys.advance_cases advanced
    have at_ : o.system.pointOf t = some point := by simp [System.pointOf,Sys.pointOf,waits,Prog.point]
    simp only [after,at_]
    by_cases same : u = t
    · subst u
      simp only [Function.update_self,Option.some.injEq] at task ⊢
      exact task ▸ ((careful t e _ executes waits).1 _ i open_).2
    · simp only [Function.update_of_ne same] at task ⊢
      exact careful u e p executes task
  | @raised _ t f _ _ which interrupted sys_ executions =>
    obtain ⟨point,guard,effect,next,raised,waits,rfl⟩ := Sys.interrupt_cases interrupted
    have other : ∀ t i, a ≠ .perform t i := by
      rintro _ _ rfl
      simp at which
    rw [after_other other]
    rw [executions] at executes
    rw [sys_] at task
    by_cases same : u = t
    · subst u
      simp only [Function.update_self,Option.some.injEq] at task
      exact task ▸ (careful t e _ executes waits).2 f
    · simp only [Function.update_of_ne same] at task
      exact careful u e p executes task
  | claimed => exact started _ _ (by simp) rfl
  | cancelClaimed => exact started _ _ (by simp) rfl
  | @requested t r unused =>
    rw [after_other (by simp)]
    by_cases same : u = t
    · simp [same,(System.unused_iff.mp unused).2] at executes
    · simp only [Sys.spawn,Function.update_of_ne same] at task
      exact careful u e p executes task
  | @crashed t =>
    rw [after_other (by simp)]
    by_cases same : u = t
    · simp [Sys.kill,same] at task
    · simp only [Sys.kill,Function.update_of_ne same] at task
      exact careful u e p executes task
  | beside other tasks executions change =>
    rw [after_other other]
    exact careful u e p (executions ▸ executes) (tasks ▸ task)

theorem careful_of_reached (run : Runs Initial (step c) (fun _ _ => True) o) : Careful c o := by
  refine run.invariant ?_ fun _ _ _ careful _ h => careful_step careful h
  rintro o ⟨⟨now,users,access,same | same⟩,-⟩ t e p executes _
  · simp [same,System.quiet] at executes
  · simp [same,System.quiet] at executes

end Observed

/-- Whoever is sent a part was entitled when the attempt selected its recipients, and an
administrator also by the query that the attempt made when it had reached him. So nothing
is sent to a recipient whose revocation was committed before that. -/
theorem revocation_stopsDelivery (c : Setup) (o o' : Observed) (a : Act) (admin : AdminId) (part : Nat)
    (run : Runs Observed.Initial (Observed.step c) (fun _ _ => True) o) (h : Observed.step c o a = some o')
    (sent : o'.system.world.uploads = o.system.world.uploads ++ [.sent admin part]) :
    ∃ t i, a = .perform t i ∧ Cleared c (o.seen t) admin := by
  obtain ⟨taken,-⟩ := Observed.system_step h
  have changed (same : o'.system.world.uploads = o.system.world.uploads) : False := by
    rw [same] at sent
    simpa using congrArg List.length sent
  by_cases performs : ∃ t i, a = .perform t i
  · obtain ⟨t,i,rfl⟩ := performs
    obtain ⟨point,waits,row,request⟩ := rowStep_of_perform (Observed.system_reached run) taken
    have uploads : point = .send ∨ point = .sendResult := by
      by_contra silent
      push Not at silent
      exact changed (row.uploads silent.1 silent.2)
    cases executes : o.system.execution t with
    | none =>
      have member := request executes
      rcases uploads with rfl | rfl <;> exact absurd member (by decide)
    | some e =>
      obtain ⟨sys,advanced,eq⟩ := Option.map_eq_some_iff.mp taken
      obtain ⟨at_,guard,effect,next,raised,task,open_,rfl⟩ := Sys.advance_cases advanced
      obtain rfl : at_ = point := by simpa [System.pointOf,Sys.pointOf,task,Prog.point] using waits
      have safe := ((Observed.careful_of_reached run t e _ executes task).1 _ i open_).1
      refine ⟨t,i,rfl,safe uploads admin part ?_⟩
      rw [← eq] at sent
      exact sent
  · push Not at performs
    rcases System.world_cases taken performs with ⟨-,same | change⟩ | ⟨t,owner,-,started⟩
    · exact absurd (congrArg World.uploads same) changed
    · exact absurd change.apart.uploads changed
    · rw [started] at changed
      exact absurd rfl changed

def assignedStart : System := .quiet (.fresh (.enqueued 0) 0 [⟨1,.admin,true,false⟩] [1])

theorem assignedStart_initial : System.Initial assignedStart := ⟨0,_,_,.inl rfl⟩

theorem revocation_stopsDelivery_small :
    ∃ o o', Observed.step smallSetup o (.perform 0 plainAnswer) = some o' ∧
      ∃ t i, .perform 0 plainAnswer = Act.perform t i ∧ Cleared smallSetup (o.seen t) 1 := by
  obtain ⟨o,run,passed⟩ := Runs.exists_of_follow (Observed.step smallSetup) (.claim 0 7 true :: performs 0 50)
    (fun o : Observed => (Observed.step smallSetup o (.perform 0 plainAnswer)).any fun o' : Observed =>
      decide (o'.system.world.uploads = o.system.world.uploads ++ [Upload.sent 1 1]))
    (show Observed.Initial ⟨assignedStart,fun _ => .nothing⟩ from ⟨assignedStart_initial,rfl⟩) (by decide +kernel)
  obtain ⟨o',taken,sent⟩ := (Option.any_eq_true _ _).mp passed
  exact ⟨o,o',taken,revocation_stopsDelivery smallSetup o o' _ 1 1 run taken (of_decide_eq_true sent)⟩

/-- The administrator is disabled and unassigned while his first part is being sent. -/
def revokedMeanwhile : List Act :=
  .claim 0 7 true :: performs 0 51 ++ [.setUsers [⟨1,.admin,false,false⟩],.setAccess []]

/-- No acknowledgement is recorded when the revocation is committed, and the next part is
sent all the same. -/
theorem revocation_overlooked :
    ∃ s s', Reached smallSetup (fun _ _ => True) s ∧ System.follow smallSetup (performs 0 4) s = some s' ∧
      s.world.users = [⟨1,.admin,false,false⟩] ∧ s.world.access = [] ∧
      (∀ delivery ∈ s.world.deliveries, delivery.nextPart = 1) ∧
      s.world.uploads = [.sent 1 1] ∧ .sent 1 2 ∈ s'.world.uploads := by
  obtain ⟨s,run,passed⟩ := Runs.exists_of_follow (System.step smallSetup) revokedMeanwhile
    (fun s : System => decide (s.world.users = [⟨1,.admin,false,false⟩] ∧ s.world.access = [] ∧
        (∀ delivery ∈ s.world.deliveries, delivery.nextPart = 1) ∧ s.world.uploads = [.sent 1 1]) &&
      (System.follow smallSetup (performs 0 4) s).any fun s' : System => decide (Upload.sent 1 2 ∈ s'.world.uploads))
    assignedStart_initial (by decide +kernel)
  simp only [Bool.and_eq_true,decide_eq_true_eq,Option.any_eq_true] at passed
  obtain ⟨⟨users,access,recorded,uploads⟩,s',later,sent⟩ := passed
  exact ⟨s,s',run,later,users,access,recorded,uploads,sent⟩

end BackupTelebot
