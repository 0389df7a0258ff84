import Mathlib.Algebra.Order.Group.Unbundled.Int
import Mathlib.Tactic.SplitIfs

/-! Time zones as the Python `zoneinfo` module reads them: offsets that change at given
instants. A wall time that a gap skips or that is repeated has two readings, and `fold`
tells which is meant. Times are in microseconds, instants in UTC. -/
namespace ZoneInfo

def day : Int := 86400000000

/-- From `instant` on the offset from UTC is `offset`. -/
structure Transition where
  instant : Int
  offset : Int
deriving DecidableEq, Repr

def turn (before after : Int) : Int := max before after - min before after

/-- The clock is turned by a day at most, and not again before both turns are over. -/
def Spaced : Int → List Transition → Prop
  | _, [] => True
  | offset, x :: rest => turn offset x.offset ≤ day ∧
      (∀ y ∈ rest.head?, turn offset x.offset + turn x.offset y.offset < y.instant - x.instant) ∧
      Spaced x.offset rest

structure Zone where
  initial : Int
  transitions : List Transition
  spaced : Spaced initial transitions

/-- What is in force at an instant: the offset, by how far it was turned back, and since
when. -/
structure Regime where
  offset : Int
  back : Int
  since : Int

def regime (now : Regime) : List Transition → Int → Regime
  | [], _ => now
  | x :: rest, t => if x.instant ≤ t then regime ⟨x.offset,now.offset - x.offset,x.instant⟩ rest t else now

/-- A wall time with its `fold`, which is set in the second pass of a repeated interval. -/
structure Local where
  wall : Int
  fold : Bool
deriving DecidableEq, Repr

def Regime.secondPass (now : Regime) (t : Int) : Bool := t - now.since < now.back

namespace Zone

def regime (z : Zone) (t : Int) : Regime := ZoneInfo.regime ⟨z.initial,0,t⟩ z.transitions t

def fromutc (z : Zone) (t : Int) : Local := ⟨t + (z.regime t).offset,(z.regime t).secondPass t⟩

/-- The wall time at which the interval ends that is being repeated, if one is. -/
def repeatedUntil (z : Zone) (t : Int) : Option Int :=
  if (z.regime t).secondPass t then some ((z.regime t).since + (z.regime t).offset + (z.regime t).back) else none

end Zone

/-- `ZoneInfo.utcoffset` of a wall time: without `fold` a transition is seen at the end of
the gap or of the repeated interval, with it at the beginning. -/
def wallOffset (fold : Bool) : Int → List Transition → Int → Int
  | offset, [], _ => offset
  | offset, x :: rest, w =>
      if x.instant + (if fold then min offset x.offset else max offset x.offset) ≤ w then
        wallOffset fold x.offset rest w
      else offset

/-- The instant of a wall time: `astimezone(UTC)`. -/
def Zone.utc (z : Zone) (l : Local) : Int := l.wall - wallOffset l.fold z.initial z.transitions l.wall

def SkipsIn : Int → List Transition → Int → Prop
  | _, [], _ => False
  | offset, x :: rest, w => (x.instant + offset ≤ w ∧ w < x.instant + x.offset) ∨ SkipsIn x.offset rest w

def Zone.Skips (z : Zone) (w : Int) : Prop := SkipsIn z.initial z.transitions w

/-- A passed transition lies before the wall time of any later instant, unless it is the
one in force: then perhaps only its beginning does. -/
theorem passed {o t : Int} {x : Transition} {rest : List Transition} (spaced : Spaced o (x :: rest)) (past : x.instant ≤ t) :
    x.instant + max o x.offset ≤ t + (regime ⟨x.offset,o - x.offset,x.instant⟩ rest t).offset ∨
      regime ⟨x.offset,o - x.offset,x.instant⟩ rest t = ⟨x.offset,o - x.offset,x.instant⟩ ∧
        ∀ y ∈ rest.head?, t < y.instant := by
  induction rest generalizing o x with
  | nil => exact .inr ⟨rfl,by simp⟩
  | cons y rest ih =>
    obtain ⟨_,apart,later⟩ := spaced
    have apart := apart y rfl
    by_cases next : y.instant ≤ t
    · have same : regime ⟨x.offset,o - x.offset,x.instant⟩ (y :: rest) t =
          regime ⟨y.offset,x.offset - y.offset,y.instant⟩ rest t := by simp [regime,next]
      left
      rw [same]
      simp only [turn] at apart
      rcases ih later next with above | ⟨here,_⟩
      · omega
      · rw [here]
        dsimp only
        omega
    · refine .inr ⟨by simp [regime,next],fun z member => ?_⟩
      obtain rfl := Option.some.inj member
      omega

/-- A later wall time in the reading of the first pass is a later instant, where nothing
is being repeated. -/
theorem wallOffset_first {o t w : Int} {list : List Transition} (spaced : Spaced o list)
    (coming : ∀ x ∈ list.head?, t < x.instant) (later : t + o < w) : t < w - wallOffset false o list w := by
  induction list generalizing o t with
  | nil =>
    simp only [wallOffset]
    omega
  | cons x rest ih =>
    obtain ⟨_,apart,spaced⟩ := spaced
    have coming := coming x rfl
    simp only [wallOffset,Bool.false_eq_true,if_false]
    split_ifs with seen
    · have := ih (t := x.instant - 1) spaced (fun y member => by
        have := apart y member
        simp only [turn] at this
        omega) (by omega)
      omega
    · omega

/-- The same for the reading of the second pass, where the next turn is far enough. -/
theorem wallOffset_second {o t w : Int} {list : List Transition} (spaced : Spaced o list)
    (coming : ∀ x ∈ list.head?, t + turn o x.offset < x.instant) (later : t + o < w) :
    t < w - wallOffset true o list w := by
  induction list generalizing o t with
  | nil =>
    simp only [wallOffset]
    omega
  | cons x rest ih =>
    obtain ⟨_,apart,spaced⟩ := spaced
    have coming := coming x rfl
    simp only [turn] at coming
    simp only [wallOffset,if_true]
    split_ifs with seen
    · have := ih (t := x.instant - turn o x.offset - 1) spaced (fun y member => by
        have := apart y member
        simp only [turn] at this ⊢
        omega) (by simp only [turn]; omega)
      simp only [turn] at this
      omega
    · omega

theorem secondPass_back {now : Regime} {t : Int} (second : now.secondPass t = true) (since : now.since ≤ t) :
    0 < now.back ∧ t < now.since + now.back := by
  simp only [Regime.secondPass,decide_eq_true_eq] at second
  omega

section Later

variable {o t w : Int} {back since : Int} {list : List Transition}

/-- Outside the second pass, a later wall time is a later instant. -/
theorem later_first (spaced : Spaced o list) (first : (regime ⟨o,back,since⟩ list t).secondPass t = false)
    (later : t + (regime ⟨o,back,since⟩ list t).offset < w) : t < w - wallOffset false o list w := by
  induction list generalizing o back since with
  | nil => exact wallOffset_first spaced (by simp) later
  | cons x rest ih =>
    by_cases past : x.instant ≤ t
    · simp only [regime,if_pos past] at first later
      have seen : x.instant + max o x.offset ≤ w := by
        rcases passed spaced past with above | ⟨here,_⟩
        · omega
        · rw [here] at first later
          simp only [Regime.secondPass,decide_eq_false_iff_not] at first
          dsimp only at later
          omega
      simp only [wallOffset,Bool.false_eq_true,if_false,if_pos seen]
      exact ih spaced.2.2 first later
    · simp only [regime,if_neg past] at later
      refine wallOffset_first spaced (fun y member => ?_) later
      obtain rfl := Option.some.inj member
      omega

/-- In the second pass, a later wall time in the reading of the second pass is a later
instant. -/
theorem later_second (spaced : Spaced o list) (near : back ≤ 0 ∨ ∀ x ∈ list.head?, since + back + turn o x.offset < x.instant)
    (second : (regime ⟨o,back,since⟩ list t).secondPass t = true) (started : since ≤ t)
    (later : t + (regime ⟨o,back,since⟩ list t).offset < w) : t < w - wallOffset true o list w := by
  induction list generalizing o back since with
  | nil => exact wallOffset_second spaced (by simp) later
  | cons x rest ih =>
    by_cases past : x.instant ≤ t
    · simp only [regime,if_pos past] at second later
      have seen : x.instant + min o x.offset ≤ w := by
        rcases passed spaced past with above | ⟨here,_⟩
        · omega
        · rw [here] at later
          dsimp only at later
          omega
      simp only [wallOffset,if_true,if_pos seen]
      obtain ⟨_,apart,spaced⟩ := spaced
      refine ih spaced ?_ second past later
      right
      intro y member
      have := apart y member
      simp only [turn] at this ⊢
      omega
    · simp only [regime,if_neg past] at second later
      obtain ⟨positive,soon⟩ := secondPass_back second started
      dsimp only at positive soon
      refine wallOffset_second spaced (fun y member => ?_) later
      rcases near with none | near
      · omega
      · have := near y member
        omega

/-- In the second pass, the reading of the first pass is an earlier instant up to the end
of the repeated interval, and a later one from there on. -/
theorem later_reset (spaced : Spaced o list) (second : (regime ⟨o,back,since⟩ list t).secondPass t = true)
    (entered : back ≤ 0 ∨ since + o + back ≤ w) (started : since ≤ t)
    (later : t + (regime ⟨o,back,since⟩ list t).offset < w) :
    t < w - wallOffset false o list w ↔
      (regime ⟨o,back,since⟩ list t).since + (regime ⟨o,back,since⟩ list t).offset +
        (regime ⟨o,back,since⟩ list t).back ≤ w := by
  induction list generalizing o back since with
  | nil =>
    have := secondPass_back second started
    simp only [regime] at this later ⊢
    have above : t < w - wallOffset false o [] w := wallOffset_first spaced (by simp) later
    constructor
    · intro _
      omega
    · intro _
      exact above
  | cons x rest ih =>
    by_cases past : x.instant ≤ t
    · simp only [regime,if_pos past] at second later ⊢
      simp only [wallOffset,Bool.false_eq_true,if_false]
      split_ifs with seen
      · exact ih spaced.2.2 second (.inr (by omega)) past later
      · -- Only the last transition can be unseen, and it is the one being repeated.
        rcases passed spaced past with above | ⟨here,_⟩
        · omega
        · have := secondPass_back second (by rw [here]; exact past)
          rw [here] at this later ⊢
          dsimp only at this later ⊢
          omega
    · simp only [regime,if_neg past] at second later ⊢
      have := secondPass_back second started
      have above := wallOffset_first spaced (w := w) (fun y member => by
        obtain rfl := Option.some.inj member
        omega) later
      dsimp only at this
      constructor
      · intro _
        omega
      · intro _
        exact above

end Later

/-- A wall time that no gap skips is the wall time of its instant in either reading. -/
theorem regime_of_wallOffset {o w back since : Int} {fold : Bool} {list : List Transition} (spaced : Spaced o list)
    (exists_ : ¬ SkipsIn o list w) :
    (regime ⟨o,back,since⟩ list (w - wallOffset fold o list w)).offset = wallOffset fold o list w := by
  induction list generalizing o back since with
  | nil => rfl
  | cons x rest ih =>
    obtain ⟨_,apart,spaced⟩ := spaced
    simp only [SkipsIn,not_or,not_and,not_lt] at exists_
    obtain ⟨gap,later⟩ := exists_
    simp only [wallOffset]
    by_cases seen : x.instant + (if fold then min o x.offset else max o x.offset) ≤ w
    · simp only [if_pos seen]
      have reached : x.instant ≤ w - wallOffset fold x.offset rest w := by
        cases fold with
        | false =>
          simp only [Bool.false_eq_true,if_false] at seen
          have := wallOffset_first (t := x.instant - 1) (w := w) spaced (fun y member => by
            have := apart y member
            simp only [turn] at this
            omega) (by omega)
          omega
        | true =>
          simp only [if_true] at seen
          have := wallOffset_second (t := x.instant - 1) (w := w) spaced (fun y member => by
            have := apart y member
            simp only [turn] at this ⊢
            omega) (by omega)
          omega
      simp only [regime,if_pos reached]
      exact ih spaced later
    · simp only [if_neg seen]
      have before : ¬ x.instant ≤ w - o := by
        cases fold with
        | false =>
          simp only [Bool.false_eq_true,if_false] at seen
          omega
        | true =>
          simp only [if_true] at seen
          omega
      simp only [regime,if_neg before]

/-- The repeated interval has begun by the wall time, and is no longer than a day. -/
theorem repeated_bounds {o t back since : Int} {list : List Transition} (spaced : Spaced o list) (short : back ≤ day)
    (started : since ≤ t) :
    (regime ⟨o,back,since⟩ list t).since ≤ t ∧ (regime ⟨o,back,since⟩ list t).back ≤ day := by
  induction list generalizing o back since with
  | nil => exact ⟨started,short⟩
  | cons x rest ih =>
    obtain ⟨bounded,_,spaced⟩ := spaced
    by_cases past : x.instant ≤ t
    · simp only [regime,if_pos past]
      refine ih spaced ?_ past
      simp only [turn] at bounded
      omega
    · simp only [regime,if_neg past]
      exact ⟨started,short⟩

namespace Zone

variable {z : Zone} {t w : Int}

/-- Where nothing is being repeated, a later wall time is a later instant. -/
theorem utc_first (first : (z.fromutc t).fold = false) (later : (z.fromutc t).wall < w) : t < z.utc ⟨w,false⟩ :=
  later_first z.spaced first later

/-- In the second pass, so is a later wall time that is read in the second pass. -/
theorem utc_second (second : (z.fromutc t).fold = true) (later : (z.fromutc t).wall < w) : t < z.utc ⟨w,true⟩ :=
  later_second z.spaced (.inl le_rfl) second le_rfl later

/-- A later wall time that keeps the `fold` is a later instant. -/
theorem utc_kept (later : (z.fromutc t).wall < w) : t < z.utc ⟨w,(z.fromutc t).fold⟩ := by
  cases fold : (z.fromutc t).fold with
  | false => exact utc_first fold later
  | true => exact utc_second fold later

/-- A later wall time without `fold` is a later instant exactly if it does not lie in the
interval that is being repeated. -/
theorem utc_reset (later : (z.fromutc t).wall < w) :
    t < z.utc ⟨w,false⟩ ↔ ∀ until_, z.repeatedUntil t = some until_ → until_ ≤ w := by
  cases fold : (z.fromutc t).fold with
  | false =>
    have none : z.repeatedUntil t = none := by
      have : (z.regime t).secondPass t = false := fold
      simp [repeatedUntil,this]
    simp [none,utc_first fold later]
  | true =>
    have some_ : z.repeatedUntil t = some ((z.regime t).since + (z.regime t).offset + (z.regime t).back) := by
      have : (z.regime t).secondPass t = true := fold
      simp [repeatedUntil,this]
    have := later_reset z.spaced fold (.inl le_rfl) le_rfl later
    simp only [some_,Option.some.injEq,forall_eq']
    exact this

/-- A wall time that exists is the one of its instant. -/
theorem fromutc_utc (exists_ : ¬ z.Skips w) (fold : Bool) : (z.fromutc (z.utc ⟨w,fold⟩)).wall = w := by
  have same : (z.regime (z.utc ⟨w,fold⟩)).offset = wallOffset fold z.initial z.transitions w :=
    regime_of_wallOffset z.spaced exists_
  have shape : (z.fromutc (z.utc ⟨w,fold⟩)).wall = z.utc ⟨w,fold⟩ + (z.regime (z.utc ⟨w,fold⟩)).offset := rfl
  have value : z.utc ⟨w,fold⟩ = w - wallOffset fold z.initial z.transitions w := rfl
  rw [shape,same,value]
  omega

/-- What is being repeated ends within a day. -/
theorem repeatedUntil_le {until_ : Int} (repeats : z.repeatedUntil t = some until_) :
    until_ ≤ (z.fromutc t).wall + day := by
  have bounds := @repeated_bounds z.initial t 0 t z.transitions z.spaced (by decide) le_rfl
  unfold repeatedUntil at repeats
  split_ifs at repeats with second
  obtain rfl := Option.some.inj repeats
  simp only [fromutc]
  simp only [regime] at bounds ⊢
  omega

end Zone

end ZoneInfo
