import BackupTelebot.TransportRules

/-! The worker logs in with the bot token only while its session has never been verified.
The marker beside the session file is the only record of that: whatever interrupts a call
between the verification and its removal leaves it to permit another login. -/
namespace BackupTelebot.Telegram

open Interleave

def State.permits (s : State) (o : Options) : Bool := if o.sessionPath then s.marker else s.bootstrapPending

/-- The session is verified, and its permission to log in anew not yet withdrawn. -/
def State.unaccepted (s : State) (o : Options) : Bool := s.verified && s.permits o

structure State.Keyed (s : State) : Prop where
  connected : s.connected = true → s.authKey = true
  verified : s.verified = true → s.authKey = true

/-- Nothing interrupts the call or the process from the verification to the removal of the
marker, and nobody cancels a call that has found the session revoked. -/
def Uninterrupted (o : Options) (m : Machine) : Act → Prop
  | .perform r => m.pointOf 0 = some .secure → m.shared.unaccepted o = true → r.fault = none
  | .raises e => m.shared.unaccepted o = false ∧ (e = .cancelled → m.shared.refused = false)
  | .restart _ => m.shared.unaccepted o = false
  | _ => True

namespace Outside

variable {s s' : State}

theorem unaccepted (out : Outside s s') (o : Options) : s'.unaccepted o = s.unaccepted o := by
  obtain ⟨f,falls,rfl⟩ := out
  rfl

theorem refused (out : Outside s s') : s'.refused = s.refused := by
  obtain ⟨f,falls,rfl⟩ := out
  rfl

theorem verified (out : Outside s s') : s'.verified = s.verified := by
  obtain ⟨f,falls,rfl⟩ := out
  rfl

theorem keyed (out : Outside s s') (keyed : s.Keyed) : s'.Keyed := by
  have falls := out.connected
  obtain ⟨f,_,rfl⟩ := out
  exact ⟨fun here => keyed.connected (falls here),keyed.verified⟩

end Outside

namespace Bootstrap

def contract (o : Options) : Contract Point Reply State Exc where
  rely := fun _ => Outside
  guar := fun point s s' => s'.Keyed ∧ (point = .signIn → s.verified = false)
  allowed := fun point r s => point = .secure → s.unaccepted o = true → r.fault = none
  raises := fun point e s => point.accepts e = true ∧ s.unaccepted o = false ∧ (e = .cancelled → s.refused = false)
  known := fun _ s _ => s.Keyed
  refl := fun _ => Outside.refl
  trans := Outside.trans

/-- No verified session may be signed in, and whether this call has found it revoked. -/
def Settled (o : Options) (refused : Bool) (s : State) : Prop := s.unaccepted o = false ∧ s.refused = refused

/-- A revoked session ends the call with the error that says so. -/
def Ends (o : Options) (result : Except Exc α) (s : State) : Prop :=
  s.unaccepted o = false ∧ (s.refused = true → result = .error authorizationError)

/-- The same, of a call of which it is known whether it has found the session revoked. -/
def Leaves (o : Options) (refused : Bool) (result : Except Exc α) (s : State) : Prop :=
  Settled o refused s ∧ (refused = true → result = .error authorizationError)

variable {o : Options} {refused : Bool} {s s' : State}

theorem Leaves.ends {result : Except Exc α} (left : Leaves o refused result s) : Ends o result s :=
  ⟨left.1.1,fun revoked => left.2 (left.1.2.symm.trans revoked)⟩

theorem Settled.leaves (settled : Settled o false s) (result : Except Exc α) : Leaves o false result s :=
  ⟨settled,fun revoked => by cases revoked⟩

theorem Settled.ends (settled : Settled o false s) (result : Except Exc α) : Ends o result s :=
  ⟨settled.1,fun revoked => by rw [settled.2] at revoked; cases revoked⟩

theorem Settled.outside (settled : Settled o refused s) (out : Outside s s') : Settled o refused s' :=
  ⟨(out.unaccepted o).trans settled.1,out.refused.trans settled.2⟩

/-- One action other than the login. -/
theorem holds_atomic {post : Except Exc α → State → Prop} {point : Point} {guard : State → Bool}
    {effect : Reply → State → State} {result : Reply → State → Except Exc α} (elsewhere : point ≠ .signIn)
    (performs : ∀ s', Outside s s' → s'.Keyed → ∀ r,
      (point = .secure → s'.unaccepted o = true → r.fault = none) →
      (effect r s').Keyed ∧ post (result r s') (effect r s'))
    (raises : ∀ s' e, Outside s s' → point.accepts e = true → s'.unaccepted o = false →
      (e = .cancelled → s'.refused = false) → post (.error e) s') :
    Holds (contract o) post (Prog.atomic point guard effect result) s := by
  apply Holds.atomic_iff.mpr
  intro s' out
  constructor
  · intro _ r allowed keyed
    obtain ⟨keyed',here⟩ := performs s' out keyed r allowed
    exact ⟨⟨keyed',fun there => absurd there elsewhere⟩,here⟩
  · intro e raised
    exact raises s' e out raised.1 raised.2.1 raised.2.2

/-- One piece of code between two awaits, and the rest of the call. -/
theorem holds_sync {post : Except Exc β → State → Prop} {point : Point} {effect : State → State}
    {value : State → α} {body : α → Call β} (elsewhere : point ≠ .signIn)
    (uninterrupted : ∀ e, point.accepts e = false)
    (performs : ∀ s', Outside s s' → s'.Keyed →
      (effect s').Keyed ∧ Holds (contract o) post (body (value s')) (effect s')) :
    Holds (contract o) post (sync point effect (fun s => .ok (value s)) >>= body) s := by
  apply Holds.bind
  apply holds_atomic elsewhere
  · exact fun s' out keyed _ _ => performs s' out keyed
  · intro s' e _ accepted
    rw [uninterrupted e] at accepted
    cases accepted

theorem holds_look {post : Except Exc β → State → Prop} {point : Point} {value : State → α} {body : α → Call β}
    (elsewhere : point ≠ .signIn) (uninterrupted : ∀ e, point.accepts e = false)
    (performs : ∀ s', Outside s s' → Holds (contract o) post (body (value s')) s') :
    Holds (contract o) post (sync point id (fun s => .ok (value s)) >>= body) s :=
  holds_sync elsewhere uninterrupted fun s' out keyed => ⟨keyed,performs s' out⟩

theorem startClosing_keeps (s : State) : s.startClosing.connected = s.connected ∧
    s.startClosing.authKey = s.authKey ∧ s.startClosing.verified = s.verified ∧
    s.startClosing.unaccepted o = s.unaccepted o ∧ s.startClosing.refused = s.refused := by
  unfold State.startClosing
  split
  · rename_i client given
    split
    · exact ⟨rfl,rfl,rfl,rfl,rfl⟩
    · refine ⟨?_,rfl,rfl,rfl,rfl⟩
      simp [State.connected,given]
  · exact ⟨rfl,rfl,rfl,rfl,rfl⟩

theorem discardClient_keeps (s : State) : (s.discardClient.connected = true → s.connected = true) ∧
    s.discardClient.authKey = s.authKey ∧ s.discardClient.verified = s.verified ∧
    s.discardClient.unaccepted o = s.unaccepted o ∧ s.discardClient.refused = s.refused := by
  unfold State.discardClient
  split
  · split
    · exact ⟨fun here => Bool.noConfusion here,rfl,rfl,rfl,rfl⟩
    · exact ⟨fun here => here,rfl,rfl,rfl,rfl⟩
  · exact ⟨fun here => here,rfl,rfl,rfl,rfl⟩

/-- Retiring leaves the session alone. It raises its own error, or the cancellation. -/
def Retires (o : Options) (refused : Bool) (result : Except Exc Unit) (s : State) : Prop :=
  Settled o refused s ∧ (result = .ok () ∨ result = .error transportError ∨ refused = false)

theorem holds_awaitClosing (settled : Settled o refused s) :
    Holds (contract o) (Retires o refused) awaitClosing s := by
  intro s' out
  have here := settled.outside out
  constructor
  · intro _ r _ keyed
    obtain ⟨connected,authKey,verified,unaccepted,same⟩ := discardClient_keeps (o := o) s'
    refine ⟨⟨⟨?_,?_⟩,fun there => by cases there⟩,?_,?_⟩
    · rw [authKey]
      exact fun now => keyed.connected (connected now)
    · rw [verified,authKey]
      exact keyed.verified
    · rw [Settled,unaccepted,same]
      exact here
    · split
      · exact .inl rfl
      · exact .inr (.inl rfl)
  · intro e raised
    refine ⟨here,?_⟩
    by_cases cancelled : e = .cancelled
    · exact .inr (.inr (here.2.symm.trans (raised.2.2 cancelled)))
    · rw [if_neg cancelled]
      exact .inr (.inl rfl)

theorem holds_retire (settled : Settled o refused s) : Holds (contract o) (Retires o refused) retire s := by
  apply holds_sync (by decide) (fun _ => rfl)
  intro s' out keyed
  obtain ⟨connected,authKey,verified,unaccepted,same⟩ := startClosing_keeps (o := o) s'
  have settled' : Settled o refused s'.startClosing := by
    rw [Settled,unaccepted,same]
    exact settled.outside out
  refine ⟨⟨?_,?_⟩,?_⟩
  · rw [connected,authKey]
    exact keyed.connected
  · rw [verified,authKey]
    exact keyed.verified
  · split
    · exact holds_awaitClosing settled'
    · exact ⟨settled',.inl rfl⟩

theorem holds_retireSuppressed (settled : Settled o refused s) :
    Holds (contract o) (fun result s => Settled o refused s ∧ (result = .ok () ∨ refused = false))
      retireSuppressed s := by
  apply Holds.handle
  apply (holds_retire settled).mono
  intro result s' retires
  obtain ⟨settled',cases_⟩ := retires
  cases result with
  | ok value => exact ⟨settled',.inl rfl⟩
  | error e =>
    by_cases suppressed : e = transportError
    · simp only [Recovers,if_pos suppressed]
      exact ⟨settled',.inl rfl⟩
    · simp only [Recovers,if_neg suppressed]
      refine ⟨settled',.inr ?_⟩
      rcases cases_ with returned | own | calm
      · cases returned
      · exact absurd (Except.error.inj own) suppressed
      · exact calm

/-- A handler that retires the client keeps the error that says the session was revoked. -/
theorem holds_rethrow {e : Exc} (settled : Settled o refused s)
    (revoked : refused = true → e = authorizationError) :
    Holds (contract o) (Leaves o refused) (retireSuppressed >>= fun _ => throw e : Call α) s := by
  apply (holds_retireSuppressed settled).seq
  · intro _ s' left
    exact ⟨left.1,fun here => congrArg Except.error (revoked here)⟩
  · intro e' s' left
    obtain ⟨settled',returned | calm⟩ := left
    · cases returned
    · subst calm
      exact settled'.leaves _

theorem holds_createClient (settled : Settled o false s) :
    Holds (contract o) (fun _ s => Settled o false s) (createClient o) s := by
  apply holds_look (by decide) (fun _ => rfl)
  intro s' out
  have here := settled.outside out
  split
  · exact here
  · split
    · exact here
    · apply holds_atomic (by decide)
      · intro s'' out' keyed r _
        have here' := here.outside out'
        exact ⟨⟨fun now => Bool.noConfusion now,keyed.verified⟩,here'⟩
      · exact fun s'' e out' _ _ _ => here.outside out'

theorem bootstrap_keeps (o : Options) (s : State) : (s.bootstrap o).connected = s.connected ∧
    (s.bootstrap o).authKey = s.authKey ∧ (s.bootstrap o).verified = s.verified ∧
    (s.bootstrap o).refused = s.refused ∧ (s.bootstrap o).permits o = (s.permits o || !s.authKey) := by
  unfold State.bootstrap State.permits
  split
  · exact ⟨rfl,rfl,rfl,rfl,rfl⟩
  · exact ⟨rfl,rfl,rfl,rfl,rfl⟩

/-- Only a session that was never verified may be logged in. -/
def Grants (o : Options) (result : Except Exc Bool) (s : State) : Prop :=
  Settled o false s ∧ (result = .ok true → s.verified = false)

theorem holds_mayBootstrap (settled : Settled o false s) :
    Holds (contract o) (Grants o) (mayBootstrap o) s := by
  apply holds_atomic (by decide)
  · intro s' out keyed r _
    obtain ⟨connected,authKey,verified,refused,permits⟩ := bootstrap_keeps o s'
    have here := settled.outside out
    have unaccepted : (s'.bootstrap o).unaccepted o = false := by
      rw [State.unaccepted,verified,permits]
      cases known : s'.verified with
      | false => rfl
      | true =>
        have same := here.1
        rw [State.unaccepted,known] at same
        rw [keyed.verified known]
        simpa using same
    refine ⟨⟨?_,?_⟩,⟨unaccepted,refused.trans here.2⟩,?_⟩
    · rw [connected,authKey]
      exact keyed.connected
    · rw [verified,authKey]
      exact keyed.verified
    · intro granted
      have permitted : (s'.bootstrap o).permits o = true := by
        cases fault : r.fault with
        | some e => simp [fault] at granted
        | none => simpa [fault,State.permits] using granted
      rw [State.unaccepted,permitted] at unaccepted
      simpa using unaccepted
  · exact fun s' e out _ _ _ => ⟨settled.outside out,fun granted => by cases granted⟩

theorem holds_connect {verified : Bool} (settled : Settled o false s) (here : s.verified = verified) :
    Holds (contract o) (fun _ s => Settled o false s ∧ s.verified = verified) connect s := by
  apply Holds.bind
  apply holds_atomic (by decide)
  · intro s' out keyed r _
    have settled' : Settled o false s' := settled.outside out
    have same : s'.verified = verified := out.verified.trans here
    refine ⟨⟨?_,?_⟩,?_⟩
    · intro now
      cases given : s'.client with
      | none => simp [State.connected,given] at now
      | some client =>
        have connected : r.connected = true := by simpa [State.connected,given] using now
        simp [connected]
    · intro known
      simp [keyed.verified known]
    · cases r.fault with
      | some e => exact ⟨settled',same⟩
      | none =>
        apply holds_look (by decide) (fun _ => rfl)
        intro s'' out'
        have left : Settled o false s'' := ⟨(out'.unaccepted o).trans settled'.1,out'.refused.trans settled'.2⟩
        split
        · exact ⟨left,out'.verified.trans same⟩
        · exact ⟨left,out'.verified.trans same⟩
  · exact fun s' e out _ _ _ => ⟨settled.outside out,out.verified.trans here⟩

theorem holds_establish (settled : Settled o false s) : Holds (contract o) (Grants o) (establish o) s := by
  apply holds_look (by decide) (fun _ => rfl)
  intro s' out
  have here := settled.outside out
  split
  · exact ⟨here,fun granted => by cases granted⟩
  · apply (holds_mayBootstrap here).seq
    · intro emptySession s'' left
      apply (holds_connect left.1 rfl).seq
      · intro _ s''' left'
        refine ⟨left'.1,fun granted => left'.2.trans (left.2 ?_)⟩
        rw [← granted]
      · exact fun e s''' left' => ⟨left'.1,fun granted => by cases granted⟩
    · exact fun e s'' left => ⟨left.1,fun granted => by cases granted⟩

/-- What an answer says. An unauthorized one reveals the revocation of a verified session. -/
def Answered (o : Options) (verified : Bool) (result : Except Exc Bool) (s : State) : Prop :=
  (result = .ok false → Settled o verified s ∧ s.verified = verified) ∧
    (result = .ok true → s.refused = false) ∧ ∀ e, result = .error e → Settled o false s

theorem holds_isAuthorized {verified : Bool} (settled : Settled o false s) (here : s.verified = verified) :
    Holds (contract o) (Answered o verified) isAuthorized s := by
  apply holds_atomic (by decide)
  · intro s' out keyed r _
    have settled' := settled.outside out
    have same : s'.verified = verified := out.verified.trans here
    refine ⟨⟨keyed.connected,?_⟩,?_,?_,fun e raised => by cases raised⟩
    · intro known
      rcases Bool.or_eq_true_iff.mp known with before | now
      · exact keyed.verified before
      · exact (Bool.and_eq_true_iff.mp now).2
    · intro denied
      have unauthorized : (r.authorized && s'.authKey) = false := Except.ok.inj denied
      have unaccepted := settled'.1
      rw [State.unaccepted] at unaccepted
      refine ⟨⟨?_,?_⟩,?_⟩
      · simp only [State.unaccepted,unauthorized,Bool.or_false]
        exact unaccepted
      · simp [unauthorized,settled'.2,same]
      · simp [unauthorized,same]
    · intro accepted
      have authorized : (r.authorized && s'.authKey) = true := Except.ok.inj accepted
      simp [authorized,settled'.2]
  · intro s' e out _ _ _
    refine ⟨?_,?_,fun _ _ => settled.outside out⟩
    · intro raised
      cases raised
    · intro raised
      cases raised

theorem holds_acceptSession (calm : s.refused = false) : Holds (contract o) (Ends o) (acceptSession o) s := by
  have ends {s : State} (unaccepted : s.unaccepted o = false) (calm : s.refused = false)
      (result : Except Exc Unit) : Ends o result s := Settled.ends ⟨unaccepted,calm⟩ result
  apply holds_sync (by decide) (fun _ => rfl)
  intro s' out keyed
  have calm' : s'.refused = false := out.refused.trans calm
  refine ⟨⟨keyed.connected,keyed.verified⟩,?_⟩
  cases file : o.sessionPath with
  | false =>
    have unaccepted : State.unaccepted { s' with authorized := true, bootstrapPending := false } o = false := by
      simp [State.unaccepted,State.permits,file]
    exact ends unaccepted calm' _
  | true =>
    apply Holds.bind
    apply holds_atomic (by decide)
    · intro s'' out' keyed' r unfaulted
      have calm'' : s''.refused = false := out'.refused.trans calm'
      refine ⟨keyed',?_⟩
      cases fault : r.fault with
      | some e =>
        cases unaccepted : s''.unaccepted o with
        | false => exact ends unaccepted calm'' _
        | true =>
          rw [fault] at unfaulted
          cases unfaulted rfl unaccepted
      | none =>
        apply holds_atomic (by decide)
        · intro s3 out3 keyed3 r' _
          have unaccepted : State.unaccepted { s3 with marker := false } o = false := by
            simp [State.unaccepted,State.permits,file]
          have calm3 := out3.refused.trans calm''
          exact ⟨⟨keyed3.connected,keyed3.verified⟩,ends unaccepted calm3 _⟩
        · exact fun s3 e out3 _ unaccepted _ => ends unaccepted (out3.refused.trans calm'') _
    · exact fun s'' e out' _ unaccepted _ => ends unaccepted (out'.refused.trans calm') _

theorem holds_verifyClient (settled : Settled o false s) : Holds (contract o) (Ends o) (verifyClient o) s := by
  apply (holds_createClient settled).seq _ fun e s' left => left.ends _
  intro _ s1 settled1
  apply (holds_establish settled1).seq _ fun e s' left => left.1.ends _
  intro emptySession s2 left2
  apply (holds_isAuthorized left2.1 rfl).seq _ fun e s' left => (left.2.2 e rfl).ends _
  intro authorized s3 left3
  cases authorized with
  | true => exact holds_acceptSession (left3.2.1 rfl)
  | false =>
    obtain ⟨settled3,verified⟩ := left3.1 rfl
    cases granted : emptySession && o.token with
    | false =>
      simp only [Bool.false_eq_true,if_false]
      exact ⟨settled3.1,fun _ => rfl⟩
    | true =>
      -- The permission was given, so the session was never verified, and nothing is revoked.
      have first : s2.verified = false := left2.2 (by rw [(Bool.and_eq_true_iff.mp granted).1])
      rw [first] at settled3 verified
      simp only [Bool.false_eq_true,if_false,if_true]
      apply Holds.bind
      apply Holds.atomic_iff.mpr
      intro s4 out
      have settled4 := settled3.outside out
      have never : s4.verified = false := out.verified.trans verified
      constructor
      · intro _ r _ keyed
        refine ⟨⟨keyed,fun _ => never⟩,?_⟩
        cases r.fault with
        | some e => exact settled4.ends _
        | none =>
          apply (holds_isAuthorized settled4 never).seq _ fun e s' left => (left.2.2 e rfl).ends _
          intro authorized s5 left5
          cases authorized with
          | true => exact holds_acceptSession (left5.2.1 rfl)
          | false => exact (left5.1 rfl).1.ends _
      · exact fun e _ => settled4.ends _

theorem holds_ensureReady (settled : Settled o false s) : Holds (contract o) (Ends o) (ensureReady o) s := by
  apply holds_look (by decide) (fun _ => rfl)
  intro s1 out1
  have settled1 := settled.outside out1
  split
  · exact settled1.ends _
  · apply holds_look (by decide) (fun _ => rfl)
    intro s2 out2
    have settled2 := settled1.outside out2
    split
    · apply (holds_retire settled2).seq
      · exact fun _ s3 left => holds_verifyClient left.1
      · exact fun e s3 left => left.1.ends _
    · exact holds_verifyClient settled2

theorem Ends.settled {result : Except Exc α} (ends : Ends o result s) : Settled o s.refused s := ⟨ends.1,rfl⟩

theorem Ends.returned {value : α} (ends : Ends o (.ok value) s) : Settled o false s := by
  refine ⟨ends.1,?_⟩
  cases revoked : s.refused with
  | false => rfl
  | true => cases ends.2 revoked

theorem Ends.raised {e : Exc} (ends : Ends o (.error e : Except Exc α) s) (revoked : s.refused = true) :
    e = authorizationError := Except.error.inj (ends.2 revoked)

theorem holds_sendFailed {e : Exc} (settled : Settled o refused s)
    (revoked : refused = true → e = authorizationError) :
    Holds (contract o) (Leaves o refused) (sendFailed o e) s := by
  apply holds_look (by decide) (fun _ => rfl)
  intro s' out
  have settled' := settled.outside out
  split
  · exact holds_rethrow settled' revoked
  · exact ⟨settled',fun here => congrArg Except.error (revoked here)⟩

theorem holds_upload (settled : Settled o false s) : Holds (contract o) (Leaves o false) (upload o) s := by
  have failed {s : State} (settled : Settled o false s) (e : Exc) (sending : Bool) :
      Holds (contract o) (Leaves o false) (do
        if sending then await .cancelSend (fun _ s => s) (fun _ => .ok ())
        sendFailed o e : Call Unit) s := by
    cases sending with
    | false => exact holds_sendFailed settled fun there => by cases there
    | true =>
      apply Holds.bind
      apply holds_atomic (by decide)
      · intro s' out keyed r _
        refine ⟨keyed,?_⟩
        cases r.fault with
        | some e' => exact (settled.outside out).leaves _
        | none => exact holds_sendFailed (settled.outside out) fun there => by cases there
      · exact fun s' e' out _ _ _ => (settled.outside out).leaves _
  apply Holds.bind
  intro s' out
  have settled' := settled.outside out
  refine ⟨fun _ r _ keyed => ⟨⟨keyed,fun there => by cases there⟩,?_⟩,fun e _ => failed settled' e true⟩
  dsimp only
  cases r.ended with
  | none => exact settled'.leaves _
  | some e => exact failed settled' e r.sending

theorem holds_stopWatch (settled : Settled o false s) :
    Holds (contract o) (Leaves o false) (await .stopWatch (fun _ s => s) fun _ => .ok () : Call Unit) s := by
  apply holds_atomic (by decide)
  · exact fun s' out keyed r _ => ⟨keyed,(settled.outside out).leaves _⟩
  · exact fun s' e out _ _ _ => (settled.outside out).leaves _

theorem holds_send (settled : Settled o false s) : Holds (contract o) (Leaves o false)
    (finally_ (upload o) (await .stopWatch (fun _ s => s) fun _ => .ok ())) s := by
  apply Holds.seq (M := Leaves o false)
  · apply Holds.handle
    apply (holds_upload settled).mono
    intro result s' left
    cases result with
    | ok value => exact left
    | error e =>
      apply (holds_stopWatch left.1).seq
      · exact fun _ s'' left' => left'.1.leaves _
      · exact fun e' s'' left' => left'
  · intro _ s' left
    apply (holds_stopWatch left.1).seq
    · exact fun _ s'' left' => left'
    · exact fun e' s'' left' => left'
  · exact fun e s' left => left

theorem holds_program (k : Kind) (settled : Settled o false s) :
    Holds (contract o) (Ends o) (k.program o) s := by
  cases k with
  | prepare =>
    apply Holds.handle
    apply (holds_ensureReady settled).mono
    intro result s' ends
    cases result with
    | ok value => exact ends
    | error e => exact (holds_rethrow ends.settled ends.raised).mono fun _ _ left => left.ends
  | sendFile =>
    apply Holds.seq (M := Ends o)
    · apply Holds.handle
      apply (holds_ensureReady settled).mono
      intro result s' ends
      cases result with
      | ok value => exact ends
      | error e => exact (holds_sendFailed ends.settled ends.raised).mono fun _ _ left => left.ends
    · exact fun _ s' ends => (holds_send ends.returned).mono fun _ _ left => left.ends
    · exact fun e s' ends => ⟨ends.1,fun revoked => congrArg Except.error (ends.raised revoked)⟩
  | close =>
    apply holds_sync (by decide) (fun _ => rfl)
    intro s' out keyed
    have settled' := settled.outside out
    refine ⟨⟨keyed.connected,keyed.verified⟩,?_⟩
    have settled'' : Settled o false { s' with closed := true } := settled'
    apply (holds_retire settled'').mono
    exact fun result s'' left => left.1.ends _

theorem opened_keyed {given : Option Client} (known : s.verified = true → s.authKey = true)
    (accepts : o.accepts s given = true) : (s.opened given).Keyed := by
  refine ⟨?_,known⟩
  intro connected
  cases given with
  | none => cases connected
  | some client =>
    have open_ : client.connected = true := connected
    have fits := (Bool.and_eq_true_iff.mp accepts).2
    simp only [Option.all_some,Bool.and_eq_true,decide_eq_true_eq,Bool.or_eq_true,Bool.not_eq_true'] at fits
    rcases fits.2 with unconnected | keyed
    · rw [open_] at unconnected
      cases unconnected
    · exact keyed

theorem opened_unaccepted {given : Option Client} (calm : s.unaccepted o = false) :
    (s.opened given).unaccepted o = false := by
  simp only [State.unaccepted,State.permits,State.opened] at calm ⊢
  cases file : o.sessionPath with
  | true => simpa [file] using calm
  | false => simp

def discipline (o : Options) : Discipline o (Uninterrupted o) where
  contract := contract o
  always := State.Keyed
  between := fun s => s.unaccepted o = false
  ends := Ends o
  opens := by
    intro s given fresh accepts
    refine ⟨opened_keyed (fun known => ?_) accepts,opened_unaccepted ?_⟩
    · rw [fresh] at known
      cases known
    · simp [State.unaccepted,fresh]
  reopens := fun calm keyed _ accepts => ⟨opened_keyed keyed.verified accepts,opened_unaccepted calm⟩
  calls := fun k keyed calm => ⟨⟨keyed.connected,keyed.verified⟩,holds_program k ⟨calm,rfl⟩⟩
  settles := fun ends => ends.1
  performs := by
    intro m r point allowed waits secure
    subst secure
    exact allowed waits
  guards := fun guar _ => guar.1
  learns := fun keyed => keyed
  interrupts := fun allowed _ accepts => ⟨accepts,allowed⟩
  outside := by
    intro s s' out
    refine ⟨out.keyed,fun calm => (out.unaccepted o).trans calm,?_,fun _ => out⟩
    exact fun result ends => ⟨(out.unaccepted o).trans ends.1,fun revoked => ends.2 (out.refused.symm.trans revoked)⟩

end Bootstrap

/-- While nothing interrupts the acceptance of a verified session, the bot token is used
only for a session that was never verified, and every call that finds a verified session
revoked says so. -/
theorem revocation_isNeverMasked (o : Options) (m : Machine) (run : Machine.Reached o (Uninterrupted o) m) :
    (∀ r m', m.pointOf 0 = some .signIn → m.step o (.perform r) = some m' → m.shared.verified = false) ∧
    ∀ result, m.task 0 = some (.ret result) → m.shared.refused = true → result = .error authorizationError := by
  have kept := Discipline.kept_of_reached (D := Bootstrap.discipline o) run
  constructor
  · intro r m' waits taken
    have may : Uninterrupted o m (.perform r) := by
      intro secure
      rw [waits] at secure
      cases secure
    exact ((kept.perform may taken).2 _ waits).2 rfl
  · exact fun result ended revoked => (kept.ended result ended).2 revoked

def Act.plain : Act → Bool
  | .raises _ | .restart _ => false
  | .perform r => r.fault.isNone
  | _ => true

theorem permitted_of_plain {o : Options} {steps : List Act} (plain : ∀ a ∈ steps, a.plain = true) (m : Machine) :
    Runs.Permitted (Machine.step o) (Uninterrupted o) steps m := by
  induction steps generalizing m with
  | nil => trivial
  | cons a rest ih =>
    refine ⟨?_,fun m' _ => ih (fun b member => plain b (List.mem_cons_of_mem a member)) m'⟩
    have here := plain a List.mem_cons_self
    cases a with
    | perform r => exact fun _ _ => Option.isNone_iff_eq_none.mp here
    | raises e => cases here
    | restart given => cases here
    | call k => trivial
    | drops => trivial
    | backgroundError => trivial
    | disconnected normally => trivial

def deniedReply : Reply := { plainReply with authorized := false }

def verifiedSession : List Act :=
  .call .prepare :: List.replicate 8 (.perform plainReply) ++
    [.perform deniedReply,.perform plainReply,.perform plainReply]

def revokedSession : List Act :=
  verifiedSession ++ List.replicate 3 (.perform plainReply) ++ [.call .sendFile] ++
    List.replicate 4 (.perform plainReply) ++ [.perform deniedReply,.perform plainReply]

theorem revocation_isNeverMasked_small : ∃ m, Machine.Reached workerOptions (Uninterrupted workerOptions) m ∧
    m.shared.verified = true ∧ ∃ result, m.task 0 = some (.ret result) ∧ result = .error authorizationError := by
  have ran : (Runs.follow (Machine.step workerOptions) revokedSession newTransport).any fun m =>
      m.shared.verified && m.shared.refused && m.idle && (m.task 0).isSome := by decide +kernel
  obtain ⟨m,done,passed⟩ := (Option.any_eq_true _ _).mp ran
  simp only [Bool.and_eq_true] at passed
  obtain ⟨⟨⟨verified,refused⟩,idle⟩,called⟩ := passed
  have run : Machine.Reached workerOptions (Uninterrupted workerOptions) m :=
    Runs.of_follow (.start newTransport_initial) (permitted_of_plain (by decide +kernel) _) done
  obtain ⟨p,given⟩ := Option.isSome_iff_exists.mp called
  cases p with
  | act => simp [Machine.idle,Sys.pointOf,given,Prog.point] at idle
  | ret result =>
    exact ⟨m,run,verified,result,given,(revocation_isNeverMasked workerOptions m run).2 result given refused⟩

/-- The process ends before the marker is removed. The session is revoked afterwards. -/
def crashedSession : List Act :=
  verifiedSession ++ [.perform plainReply,.restart none,.call .prepare] ++
    List.replicate 8 (.perform plainReply) ++ [.perform deniedReply]

/-- The next call logs the revoked session in anew. -/
theorem revocation_isMasked : ∃ m m', Machine.Reached workerOptions (fun _ _ => True) m ∧
    m.pointOf 0 = some .signIn ∧ m.step workerOptions (.perform plainReply) = some m' ∧
    m.shared.verified = true ∧ m.shared.refused = true := by
  obtain ⟨m,run,passed⟩ := Runs.exists_of_follow (Machine.step workerOptions) crashedSession
    (fun m => m.pointOf 0 = some .signIn && (m.step workerOptions (.perform plainReply)).isSome &&
      m.shared.verified && m.shared.refused) newTransport_initial (by decide +kernel)
  simp only [Bool.and_eq_true,decide_eq_true_eq] at passed
  obtain ⟨⟨⟨waits,taken⟩,verified⟩,refused⟩ := passed
  obtain ⟨m',stepped⟩ := Option.isSome_iff_exists.mp taken
  exact ⟨m,m',run,waits,stepped,verified,refused⟩

end BackupTelebot.Telegram
