import BackupTelebot.NextScheduled
import BackupTelebot.StorableRows

/-! When the next scheduled time lies ahead. The chosen wall time always does, and it is the
first that the schedule names; its instant does unless the addition of days has dropped the
`fold` of a wall time that is still being repeated. -/
namespace BackupTelebot.Scheduling

open PyJson Config Queue ZoneInfo CivilDate

/-- A time that `isTime` accepts is read. -/
theorem digitValue_decimal {c : Nat} (decimal : PyText.isDecimal c = true) :
    ∃ v, digitValue c = some v ∧ 0 ≤ v ∧ v ≤ 9 := by
  unfold digitValue
  cases found : PyText.decimalZeros.find? fun first => decide (first ≤ c ∧ c ≤ first + 9) with
  | none =>
    rw [List.find?_eq_none] at found
    obtain ⟨first,member,inside⟩ := List.any_eq_true.mp decimal
    exact absurd inside (found first member)
  | some first =>
    have inside := List.find?_some found
    simp only [decide_eq_true_eq] at inside
    refine ⟨c - first,rfl,?_⟩
    omega

theorem digitValue_ascii {c : Nat} (digit : 48 ≤ c ∧ c ≤ 57) : digitValue c = some (c - 48 : Int) := by
  have first : (PyText.decimalZeros.find? fun first => decide (first ≤ c ∧ c ≤ first + 9)) = some 48 := by
    rw [PyText.decimalZeros,List.find?_cons_of_pos]
    simpa using digit
  rw [digitValue,first]
  rfl

theorem readInt_pair {a b : Nat} {u v : Int} (tens : digitValue a = some u) (ones : digitValue b = some v) :
    readInt [a,b] = some (10 * u + v) := by
  simp [readInt,tens,ones]

theorem splitOn_time {h h' m m' : Nat} (first : h ≠ 58) (second : h' ≠ 58) (third : m ≠ 58) (fourth : m' ≠ 58) :
    [h,h',58,m,m'].splitOn 58 = [[h,h'],[m,m']] := by
  simp [List.splitOn_cons_eq_if_modifyHead,first,second,third,fourth]

theorem clockTime_isTime {text : Str} (time : isTime text = true) :
    ∃ hour minute, clockTime text = some (hour,minute) ∧ 0 ≤ hour ∧ hour ≤ 23 ∧ 0 ≤ minute ∧ minute ≤ 59 := by
  unfold isTime at time
  split at time
  · rename_i h h' colon m m'
    simp only [Bool.and_eq_true,Bool.or_eq_true,beq_iff_eq,decide_eq_true_eq] at time
    obtain ⟨⟨⟨hours,rfl⟩,tens⟩,ones⟩ := time
    have noColon : ∀ c, PyText.isDecimal c = true → c ≠ 58 := by
      intro c decimal colon
      subst colon
      exact absurd decimal (by decide)
    obtain ⟨v,ones',bounds⟩ := digitValue_decimal ones
    have tens' := digitValue_ascii (c := m) (by omega)
    obtain ⟨u,w,hour,hour',small,plain⟩ : ∃ u w, digitValue h = some u ∧ digitValue h' = some w ∧
        (0 ≤ 10 * u + w ∧ 10 * u + w ≤ 23) ∧ h ≠ 58 ∧ h' ≠ 58 := by
      rcases hours with ⟨one,decimal⟩ | ⟨two,range⟩
      · obtain ⟨w,value,range⟩ := digitValue_decimal decimal
        refine ⟨h - 48,w,digitValue_ascii (by omega),value,by omega,by omega,noColon h' decimal⟩
      · refine ⟨h - 48,h' - 48,digitValue_ascii (by omega),digitValue_ascii (by omega),by omega,by omega,by omega⟩
    have parts := splitOn_time plain.1 plain.2 (by omega : m ≠ 58) (noColon m' ones)
    refine ⟨10 * u + w,10 * (m - 48) + v,?_,by omega⟩
    simp only [clockTime,parts,readInt_pair hour hour',readInt_pair tens' ones']
    rfl
  · simp at time

def IsClock (time : Int × Int) : Prop := 0 ≤ time.1 ∧ time.1 ≤ 23 ∧ 0 ≤ time.2 ∧ time.2 ≤ 59

theorem onDay_bounds {time : Int × Int} (clock : IsClock time) (d : Int) :
    d * day ≤ onDay d time ∧ onDay d time < d * day + day := by
  obtain ⟨h,h',m,m'⟩ := clock
  simp only [onDay,day,hour,minute]
  omega

theorem onDay_add (d k : Int) (time : Int × Int) : onDay (d + k) time = onDay d time + k * day := by
  simp only [onDay,day]
  omega

theorem onDay_mono {a b : Int} (earlier : a ≤ b) (time : Int × Int) : onDay a time ≤ onDay b time := by
  simp only [onDay,day]
  omega

theorem onDay_day {time : Int × Int} (clock : IsClock time) (d : Int) : onDay d time / day = d := by
  have := onDay_bounds clock d
  simp only [day] at this ⊢
  omega

/-- The wall times after `wall` on the days with a property. -/
def Ahead (wall : Int) (time : Int × Int) (P : Int → Prop) : Set Int := {w | (∃ d, P d ∧ w = onDay d time) ∧ wall < w}

theorem least_of_day {wall : Int} {time : Int × Int} {P : Int → Prop} {d : Int} (named : P d) (later : wall < onDay d time)
    (earlier : ∀ d', P d' → d' < d → onDay d' time ≤ wall) : IsLeast (Ahead wall time P) (onDay d time) := by
  constructor
  · exact ⟨⟨d,named,rfl⟩,later⟩
  · rintro w ⟨⟨d',named',rfl⟩,later'⟩
    by_cases before : d' < d
    · have := earlier d' named' before
      omega
    · exact onDay_mono (by omega) time

section Next

variable {time : Int × Int} {now : Local}

/-- A day before today is over. -/
theorem onDay_past (clock : IsClock time) {d wall : Int} (past : d < wall / day) : onDay d time ≤ wall := by
  have := onDay_bounds clock d
  simp only [day] at this past
  omega

theorem daily_eq (now : Local) (time : Int × Int) : daily now time =
    if onDay (now.wall / day) time ≤ now.wall then ⟨onDay (now.wall / day + 1) time,false⟩
    else ⟨onDay (now.wall / day) time,now.fold⟩ := by
  have tomorrow := onDay_add (now.wall / day) 1 time
  rw [Int.one_mul] at tomorrow
  rw [tomorrow]
  rfl

theorem daily_least (clock : IsClock time) : IsLeast (Ahead now.wall time fun _ => True) (daily now time).wall := by
  have today := onDay_bounds clock (now.wall / day)
  rw [daily_eq]
  split_ifs with gone
  · apply least_of_day trivial
    · rw [onDay_add]
      simp only [day] at today ⊢
      omega
    · intro d _ before
      have := onDay_mono (by omega : d ≤ now.wall / day) time
      omega
  · apply least_of_day trivial
    · omega
    · intro d _ before
      exact onDay_past clock before

/-- The days until the weekday, today included. -/
def daysUntil (now : Local) (weekday : Int) : Int := (weekday - CivilDate.weekday (now.wall / day)) % 7

theorem weekly_eq (now : Local) (time : Int × Int) (weekday : Int) : weekly now time weekday =
    if onDay (now.wall / day + daysUntil now weekday) time ≤ now.wall then
      ⟨onDay (now.wall / day + daysUntil now weekday + 7) time,false⟩
    else ⟨onDay (now.wall / day + daysUntil now weekday) time,false⟩ := by
  have shifted : (now.wall + daysUntil now weekday * day) / day = now.wall / day + daysUntil now weekday := by
    simp only [day]
    omega
  have later := onDay_add (now.wall / day + daysUntil now weekday) 7 time
  rw [later,← shifted]
  rfl

theorem weekly_least (clock : IsClock time) {weekday : Int} (valid : 0 ≤ weekday ∧ weekday ≤ 6) :
    IsLeast (Ahead now.wall time (CivilDate.weekday · = weekday)) (weekly now time weekday).wall := by
  have bounds := onDay_bounds clock (now.wall / day + daysUntil now weekday)
  have until_ : daysUntil now weekday = (weekday - now.wall / day % 7) % 7 := rfl
  rw [weekly_eq]
  split_ifs with gone
  · apply least_of_day
    · simp only [CivilDate.weekday]
      omega
    · rw [onDay_add]
      simp only [day] at bounds ⊢
      omega
    · intro d named before
      simp only [CivilDate.weekday] at named
      have := onDay_mono (by omega : d ≤ now.wall / day + daysUntil now weekday) time
      omega
  · apply least_of_day
    · simp only [CivilDate.weekday]
      omega
    · omega
    · intro d named before
      simp only [CivilDate.weekday] at named
      exact onDay_past clock (by omega)

/-- In a month that has it, one day has the number. -/
theorem dayOfMonth_inMonth {year d monthday : Int} {month : Nat} (valid : 1 ≤ month ∧ month ≤ 12)
    (from_ : monthStart year month ≤ d) (until_ : d < monthStart year month + monthLength year month) :
    dayOfMonth d = monthday ↔ d = monthStart year month + monthday - 1 := by
  obtain ⟨sameYear,sameMonth⟩ := date_eq valid from_ until_
  simp only [dayOfMonth,sameYear,sameMonth]
  omega

theorem monthly_least (clock : IsClock time) {monthday : Int} (valid : 1 ≤ monthday ∧ monthday ≤ 28) :
    IsLeast (Ahead now.wall time (dayOfMonth · = monthday)) (monthly now time monthday).wall := by
  obtain ⟨first,last,from_,until_⟩ := monthOf_spec (now.wall / day)
  simp only [monthly]
  generalize yearOf (now.wall / day) = year at *
  generalize monthOf (now.wall / day) = month at *
  have inThis := @dayOfMonth_inMonth year
  have inNext := @dayOfMonth_inMonth (nextMonth year month).1
  have length := monthLength_bounds year month
  have length' := monthLength_bounds (nextMonth year month).1 (nextMonth year month).2
  have next := monthStart_next year ⟨first,last⟩
  have named : ∀ (y : Int) (m : Nat), inMonth y m monthday time = onDay (monthStart y m + monthday - 1) time := by
    intro y m
    have := monthLength_bounds y m
    rw [inMonth,min_eq_left (by omega)]
  by_cases gone : onDay (monthStart year month + monthday - 1) time ≤ now.wall
  · simp only [named,if_pos gone]
    apply least_of_day
    · exact (inNext (nextMonth_valid year month) (by omega) (by omega)).mpr rfl
    · have := onDay_bounds clock (monthStart (nextMonth year month).1 (nextMonth year month).2 + monthday - 1)
      rw [next] at this ⊢
      simp only [day] at *
      omega
    · intro d named' before
      have same : d ≤ monthStart year month + monthday - 1 := by
        by_contra later
        by_cases this : d < monthStart year month + monthLength year month
        · have := (inThis ⟨first,last⟩ (by omega) this).mp named'
          omega
        · have := (inNext (nextMonth_valid year month) (by omega) (by omega)).mp named'
          omega
      exact (onDay_mono same time).trans gone
  · simp only [named,if_neg gone]
    apply least_of_day
    · exact (inThis ⟨first,last⟩ (by omega) (by omega)).mpr rfl
    · omega
    · intro d named' before
      by_cases this : monthStart year month ≤ d
      · have := (inThis ⟨first,last⟩ this (by omega)).mp named'
        omega
      · exact onDay_past clock (by omega)

end Next

/-- The days that a schedule with a time of the day names. -/
def NamesDay (profile : Profile) (d : Int) : Prop :=
  (profile.scheduleKind = .weekly → profile.columns.scheduleWeekday = some (weekday d)) ∧
    (profile.scheduleKind = .monthly → profile.columns.scheduleMonthday = some (dayOfMonth d))

def Names (profile : Profile) (w : Int) : Prop :=
  ∃ d time, profile.columns.scheduleTime.bind clockTime = some time ∧ NamesDay profile d ∧ w = onDay d time

def Coming (zone : Zone) (profile : Profile) (after : Int) : Set Int :=
  {w | Names profile w ∧ (zone.fromutc after).wall < w}

/-- The instant lies ahead; it has the first wall time to come, if no gap skips this one; and
a tick at the same time or before does nothing. -/
structure Promised (zones : Str → Option Zone) (getNext : GetNext) (zone : Zone) (profile : Profile) (after : Time)
    (r : Int) : Prop where
  later : after < r
  onTheClock : timed profile.scheduleKind = true →
    ∃ w, IsLeast (Coming zone profile after) w ∧ (¬ zone.Skips w → (zone.fromutc r).wall = w)
  idle : ∀ now ≤ after, ∀ (t : Nat) (timezone : Str) (p : ProfileId),
    visit (calendar zones getNext) t now timezone p { profile with nextScheduledAt := some r.toNat } = return (none,none)

/-- A scheduled wall time lies in the rest of the interval that is being repeated, where the
`fold` is dropped on the way to it: always in the branch of a week, in that of a day only if
it is on another date. -/
def Repeats (zone : Zone) (profile : Profile) (after : Int) : Prop :=
  ∃ until_ w, zone.repeatedUntil after = some until_ ∧ w ∈ Coming zone profile after ∧ w < until_ ∧
    (profile.scheduleKind = .weekly ∨
      profile.scheduleKind = .daily ∧ w / day ≠ (zone.fromutc after).wall / day)

section Promise

variable {zones : Str → Option Zone} {getNext : GetNext} {zone : Zone} {profile : Profile} {timezone : Str} {after : Time}

theorem idle_of_later {r : Int} (later : after < r) {now : Time} (early : now ≤ after) (t : Nat) (timezone : Str)
    (p : ProfileId) : visit (calendar zones getNext) t now timezone p
      { profile with nextScheduledAt := some r.toNat } = return (none,none) := by
  have notDue : ¬ r.toNat ≤ now := by
    have : (now : Int) ≤ after := Int.ofNat_le.mpr early
    omega
  exact if_neg notDue

/-- A schedule without a time of the day keeps the promise with any later instant. -/
theorem promised_plain {r : Int} (plain : timed profile.scheduleKind = false) (later : after < r) :
    Promised zones getNext zone profile after r := by
  constructor
  · exact later
  · intro timed
    rw [plain] at timed
    contradiction
  · intro now early t timezone p
    exact idle_of_later later early t timezone p

/-- A schedule with one keeps it exactly if the instant of its wall time is later. -/
theorem promised_iff {l : Local}
    (next : nextScheduledTime zones getNext profile after timezone = .ok (some (zone.utc l)))
    (least : IsLeast (Coming zone profile after) l.wall) :
    (∃ r, nextScheduledTime zones getNext profile after timezone = .ok (some r) ∧
      Promised zones getNext zone profile after r) ↔ after < zone.utc l := by
  constructor
  · rintro ⟨r,same,promised⟩
    rw [next,Except.ok.injEq,Option.some.injEq] at same
    exact same ▸ promised.later
  · intro later
    refine ⟨_,next,later,?_,?_⟩
    · intro _
      exact ⟨l.wall,least,fun exists_ => Zone.fromutc_utc exists_ l.fold⟩
    · intro now early t timezone p
      exact idle_of_later later early t timezone p

theorem coming_eq {time : Int × Int} (clock : profile.columns.scheduleTime.bind clockTime = some time) :
    Coming zone profile after = Ahead (zone.fromutc after).wall time (NamesDay profile) := by
  ext w
  simp only [Coming,Ahead,Names,clock,Set.mem_ofPred_eq,Option.some.injEq,exists_eq_left']

/-- Where the `fold` is dropped, the wall time has its later instant exactly if it is not in
the interval that is being repeated. -/
theorem later_dropped {w : Int} (least : IsLeast (Coming zone profile after) w) :
    after < zone.utc ⟨w,false⟩ ↔
      ∀ until_ w', zone.repeatedUntil after = some until_ → w' ∈ Coming zone profile after → until_ ≤ w' := by
  rw [Zone.utc_reset least.1.2]
  constructor
  · intro outside until_ w' repeats coming
    exact (outside until_ repeats).trans (least.2 coming)
  · intro outside until_ repeats
    exact outside until_ w repeats least.1

theorem daily_promised {text : Str} {time : Int × Int} (kind : profile.scheduleKind = .daily)
    (given : profile.columns.scheduleTime = some text) (read : clockTime text = some time) (clock : IsClock time)
    (known : zones timezone = some zone) :
    (∃ r, nextScheduledTime zones getNext profile after timezone = .ok (some r) ∧
      Promised zones getNext zone profile after r) ↔ ¬ Repeats zone profile after := by
  have next : nextScheduledTime zones getNext profile after timezone =
      .ok (some (zone.utc (daily (zone.fromutc after) time))) := by
    simp only [nextScheduledTime,kind,given,read,known]
  have named : NamesDay profile = fun _ => True := by
    funext d
    simp [NamesDay,kind]
  have coming : Coming zone profile after = Ahead (zone.fromutc after).wall time fun _ => True := by
    rw [coming_eq (by rw [given]; exact read),named]
  have least : IsLeast (Coming zone profile after) (daily (zone.fromutc after) time).wall := by
    rw [coming]
    exact daily_least clock
  rw [promised_iff next least]
  rw [daily_eq] at least ⊢
  split_ifs at least ⊢ with gone
  · -- Today's time is over, and every time to come is on another date.
    rw [later_dropped least]
    simp only [Repeats,kind,reduceCtorEq,true_and,false_or,not_exists,not_and,not_not]
    constructor
    · intro outside until_ w repeats member before
      have := outside until_ w repeats member
      omega
    · intro outside until_ w repeats member
      by_contra before
      have same := outside until_ w repeats member (by omega)
      rw [coming] at member
      obtain ⟨⟨d,_,rfl⟩,later⟩ := member
      rw [onDay_day clock] at same
      subst same
      omega
  · have kept := Zone.utc_kept least.1.2
    constructor
    · rintro _ ⟨until_,w,repeats,member,before,other⟩
      have bound := Zone.repeatedUntil_le repeats
      have other : w / day ≠ (zone.fromutc after).wall / day := by simpa [kind] using other
      have first := least.2 member
      rw [coming] at member
      obtain ⟨⟨d,_,rfl⟩,later⟩ := member
      rw [onDay_day clock] at other
      have : (zone.fromutc after).wall / day + 1 ≤ d := by
        by_contra past
        exact absurd later (not_lt.mpr (onDay_past clock (by omega)))
      have := onDay_mono this time
      rw [onDay_add] at this
      have := least.1.2
      omega
    · intro _
      exact kept

theorem weekly_promised {text : Str} {time : Int × Int} {d : Int} (kind : profile.scheduleKind = .weekly)
    (given : profile.columns.scheduleTime = some text) (read : clockTime text = some time) (clock : IsClock time)
    (weekday : profile.columns.scheduleWeekday = some d) (valid : 0 ≤ d ∧ d ≤ 6) (known : zones timezone = some zone) :
    (∃ r, nextScheduledTime zones getNext profile after timezone = .ok (some r) ∧
      Promised zones getNext zone profile after r) ↔ ¬ Repeats zone profile after := by
  have next : nextScheduledTime zones getNext profile after timezone =
      .ok (some (zone.utc (weekly (zone.fromutc after) time d))) := by
    simp only [nextScheduledTime,kind,given,read,known,weekday]
  have named : NamesDay profile = (CivilDate.weekday · = d) := by
    funext d'
    simp [NamesDay,kind,weekday,eq_comm]
  have least : IsLeast (Coming zone profile after) (weekly (zone.fromutc after) time d).wall := by
    rw [coming_eq (by rw [given]; exact read),named]
    exact weekly_least clock valid
  have dropped : weekly (zone.fromutc after) time d = ⟨(weekly (zone.fromutc after) time d).wall,false⟩ := by
    rw [weekly_eq]
    split_ifs <;> rfl
  rw [promised_iff next least,dropped,later_dropped least]
  simp only [Repeats,kind,true_or,and_true,not_exists,not_and,not_lt]

theorem monthly_promised {text : Str} {time : Int × Int} {d : Int} (kind : profile.scheduleKind = .monthly)
    (given : profile.columns.scheduleTime = some text) (read : clockTime text = some time) (clock : IsClock time)
    (monthday : profile.columns.scheduleMonthday = some d) (valid : 1 ≤ d ∧ d ≤ 28) (known : zones timezone = some zone) :
    (∃ r, nextScheduledTime zones getNext profile after timezone = .ok (some r) ∧
      Promised zones getNext zone profile after r) ↔ ¬ Repeats zone profile after := by
  have next : nextScheduledTime zones getNext profile after timezone =
      .ok (some (zone.utc (monthly (zone.fromutc after) time d))) := by
    simp only [nextScheduledTime,kind,given,read,known,monthday]
  have named : NamesDay profile = (dayOfMonth · = d) := by
    funext d'
    simp [NamesDay,kind,monthday,eq_comm]
  have least : IsLeast (Coming zone profile after) (monthly (zone.fromutc after) time d).wall := by
    rw [coming_eq (by rw [given]; exact read),named]
    exact monthly_least clock valid
  have kept : monthly (zone.fromutc after) time d =
      ⟨(monthly (zone.fromutc after) time d).wall,(zone.fromutc after).fold⟩ := by
    simp only [monthly]
    split_ifs <;> rfl
  rw [promised_iff next least,kept]
  constructor
  · rintro _ ⟨_,_,_,_,_,other⟩
    simp [kind] at other
  · intro _
    exact Zone.utc_kept least.1.2

/-- Without a time of the day nothing is dropped. -/
theorem repeats_timed (repeats : Repeats zone profile after) : timed profile.scheduleKind = true := by
  obtain ⟨_,_,_,_,_,weekly | ⟨daily,_⟩⟩ := repeats
  · simp [timed,weekly]
  · simp [timed,daily]

theorem plain_promised {r : Int} (plain : timed profile.scheduleKind = false) (later : after < r)
    (next : nextScheduledTime zones getNext profile after timezone = .ok (some r)) :
    (∃ r, nextScheduledTime zones getNext profile after timezone = .ok (some r) ∧
      Promised zones getNext zone profile after r) ↔ ¬ Repeats zone profile after := by
  constructor
  · intro _ repeats
    have := repeats_timed repeats
    rw [plain] at this
    contradiction
  · intro _
    exact ⟨r,next,promised_plain plain later⟩

theorem interval_promised {limit i : Int} (kind : intervalLimit profile.scheduleKind = some limit)
    (given : profile.columns.scheduleInterval = some i) (positive : 1 ≤ i) :
    (∃ r, nextScheduledTime zones getNext profile after timezone = .ok (some r) ∧
      Promised zones getNext zone profile after r) ↔ ¬ Repeats zone profile after := by
  have shape : timed profile.scheduleKind = false ∧ 0 < unit profile.scheduleKind ∧
      nextScheduledTime zones getNext profile after timezone = .ok (some (after + unit profile.scheduleKind * i)) := by
    unfold nextScheduledTime
    cases same : profile.scheduleKind with
    | everyNMinutes => exact ⟨rfl,by decide,by simp only [given]⟩
    | everyNHours => exact ⟨rfl,by decide,by simp only [given]⟩
    | everyNDays => exact ⟨rfl,by decide,by simp only [given]⟩
    | manual | once | daily | weekly | monthly | cron => simp [intervalLimit,same] at kind
  obtain ⟨plain,forwards,next⟩ := shape
  have := Int.mul_pos forwards (by omega : 0 < i)
  exact plain_promised plain (by omega) next

end Promise

theorem cron_checked {croniter : Croniter} {schedule schedule' : ScheduleConfig} {raw : Str}
    (valid : schedule.validate croniter = .ok schedule') (given : schedule.cronExpression = some raw) :
    croniter.isValid (normalizeCron raw) = true ∧ croniter.hasNext (normalizeCron raw) = true := by
  simp only [ScheduleConfig.validate,bind_eq_ok,refuse_eq_ok,exists_const,pure_eq_ok] at valid
  obtain ⟨_,_,_,_,_,_,_,_,_,cron,_⟩ := valid
  simp only [ScheduleConfig.validateCron,given,bind_eq_ok,refuse_eq_ok,Bool.or_eq_false_iff,exists_const] at cron
  simpa using And.intro cron.2.2.1.2 cron.2.2.2

/-- The next scheduled time of an accepted recurring schedule keeps its promise exactly if
no wall time is repeated for which the `fold` is dropped. -/
theorem nextScheduledTime_promised_iff {zones : Str → Option Zone} {getNext : GetNext} {croniter : Croniter}
    (matching : ∀ expression zone (t : Int), croniter.isValid expression = true → croniter.hasNext expression = true →
      ∃ l, getNext expression zone (zone.fromutc t) = .ok l ∧ t < zone.utc l)
    {schedule : ScheduleConfig} (valid : schedule.validate croniter = .ok schedule)
    (recurring : schedule.kind ≠ .manual ∧ schedule.kind ≠ .once) {profile : Profile}
    (kind : profile.scheduleKind = schedule.kind) (columns : profile.columns = columnsOf schedule) {timezone : Str}
    {zone : Zone} (known : zones timezone = some zone) (after : Time) :
    (∃ r, nextScheduledTime zones getNext profile after timezone = .ok (some r) ∧
      Promised zones getNext zone profile after r) ↔ ¬ Repeats zone profile after := by
  have accepted := ScheduleConfig.validate_ok valid
  have interval := accepted.interval
  have time := accepted.time
  rw [← kind] at interval time
  by_cases clocked : timed profile.scheduleKind = true
  · rw [if_pos clocked] at time
    obtain ⟨text,given,isTime⟩ := time
    obtain ⟨hour,minute,read,clock⟩ := clockTime_isTime isTime
    have given : profile.columns.scheduleTime = some text := by rw [columns]; exact given
    cases same : profile.scheduleKind with
    | daily => exact daily_promised same given read clock known
    | weekly =>
      obtain ⟨d,weekday⟩ := Option.ne_none_iff_exists'.mp (accepted.weekly.mp (kind.symm.trans same))
      exact weekly_promised same given read clock (by rw [columns]; exact weekday) (accepted.weekday d weekday) known
    | monthly =>
      obtain ⟨d,monthday⟩ := Option.ne_none_iff_exists'.mp (accepted.monthly.mp (kind.symm.trans same))
      exact monthly_promised same given read clock (by rw [columns]; exact monthday) (accepted.monthday d monthday) known
    | manual | once | everyNMinutes | everyNHours | everyNDays | cron => simp [timed,same] at clocked
  · have plain : timed profile.scheduleKind = false := by simpa using clocked
    cases limited : intervalLimit profile.scheduleKind with
    | some limit =>
      simp only [limited] at interval
      obtain ⟨i,given,positive,_⟩ := interval
      exact interval_promised limited (by rw [columns]; exact given) positive
    | none =>
      have cron : schedule.kind = .cron := by
        rw [kind] at plain limited
        cases same : schedule.kind <;> simp_all [timed,intervalLimit]
      obtain ⟨raw,given⟩ := Option.ne_none_iff_exists'.mp (accepted.cron.mp cron)
      have checked := cron_checked valid given
      obtain ⟨l,next,later⟩ := matching (normalizeCron raw) zone after checked.1 checked.2
      apply plain_promised plain later
      have stored : profile.columns.scheduleCron = some (normalizeCron raw) := by
        rw [columns]
        simp only [columnsOf,ScheduleConfig.normalizedCronExpression,given,Option.map_some]
      simp only [nextScheduledTime,kind,cron,stored,known,next]
      rfl

/-- The end of the summer time of 2026. -/
def london : Zone where
  initial := hour
  transitions := [⟨739913 * day + hour,0⟩]
  spaced := by
    simp only [Spaced]
    decide

def onlyLondon (name : Str) : Option Zone := if name = str "Europe/London" then some london else none

def everyMinute : Croniter := ⟨(· == str "* * * * *"),(· == str "* * * * *")⟩

def nextMinute : GetNext := fun _ _ now => .ok ⟨(now.wall / minute + 1) * minute,now.fold⟩

theorem nextMinute_later (expression : Str) (zone : Zone) (t : Int) :
    ∃ l, nextMinute expression zone (zone.fromutc t) = .ok l ∧ t < zone.utc l := by
  refine ⟨_,rfl,Zone.utc_kept ?_⟩
  simp only [minute]
  omega

def sundays : ScheduleConfig := ⟨.weekly,none,some (str "01:30"),some 6,none,none⟩

def sundayProfile : Profile := ⟨true,none,.weekly,none,columnsOf sundays⟩

/-- Ten past one on the last Sunday of October 2026, for the first and the second time. -/
def tenPastOne (second : Bool) : Time := 739913 * 86400000000 + (if second then 3600000000 else 0) + 600000000

theorem nextScheduledTime_promised_iff_small :
    ∃ r, nextScheduledTime onlyLondon nextMinute sundayProfile (tenPastOne false) (str "Europe/London") = .ok (some r) ∧
      Promised onlyLondon nextMinute london sundayProfile (tenPastOne false) r := by
  have once : london.repeatedUntil (tenPastOne false) = none := by decide +kernel
  have plainly : ¬Repeats london sundayProfile (tenPastOne false) := by
    rintro ⟨until_,_,repeated,_⟩
    rw [once] at repeated
    cases repeated
  exact (nextScheduledTime_promised_iff (fun expression zone t _ _ => nextMinute_later expression zone t)
    (by decide +kernel : sundays.validate everyMinute = .ok sundays) (by decide) rfl rfl (if_pos rfl) _).mpr plainly

/-- When it is ten past one for the second time, the next half past one is the first one,
which was forty minutes ago. -/
theorem nextScheduledTime_past : sundays.validate everyMinute = .ok sundays ∧
    nextScheduledTime onlyLondon nextMinute sundayProfile (tenPastOne true) (str "Europe/London") =
      .ok (some (tenPastOne true - 2400000000)) := by
  decide +kernel

end BackupTelebot.Scheduling
