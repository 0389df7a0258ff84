import BackupTelebot.CivilDate
import BackupTelebot.ProfileConfig
import BackupTelebot.ZoneInfo
import Mathlib.Order.Bounds.Basic

/-! The next scheduled time of a profile. Wall times are compared and shifted as if there
were no time zone; `replace` keeps the `fold` of a time and the addition of days drops it. The
bounds that `datetime` sets to the years are left out. -/
namespace BackupTelebot.Scheduling

open PyJson Config Queue ZoneInfo CivilDate

structure ScheduleColumns where
  scheduleInterval : Option Int
  scheduleTime : Option Str
  scheduleWeekday : Option Int
  scheduleMonthday : Option Int
  scheduleCron : Option Str
  deriving DecidableEq

/-- The columns as a valid schedule is stored. -/
def columnsOf (schedule : ScheduleConfig) : ScheduleColumns :=
  ⟨schedule.interval,schedule.time,schedule.weekday,schedule.monthday,schedule.normalizedCronExpression⟩

abbrev Profile := Queue.BackupProfile ScheduleColumns

def minute : Int := 60000000
def hour : Int := 60 * minute

def digitValue (c : Nat) : Option Int :=
  (PyText.decimalZeros.find? fun first => decide (first ≤ c ∧ c ≤ first + 9)).map fun first => (c : Int) - first

/-- `int` of a text of digits. -/
def readInt : Str → Option Int
  | [] => none
  | text => text.foldl (fun value c => value.bind fun value => (digitValue c).map (10 * value + ·)) (some 0)

/-- `hour, minute = (int(value) for value in profile.schedule_time.split(":"))`. -/
def clockTime (text : Str) : Option (Int × Int) :=
  match text.splitOn 58 with
  | [first,second] => do
      let hour ← readInt first
      let minute ← readInt second
      return (hour,minute)
  | _ => none

def valueError : Failure := .builtin "ValueError"

/-- `timedelta` units of the interval kinds. -/
def unit : ScheduleKind → Int
  | .everyNMinutes => minute
  | .everyNHours => hour
  | _ => ZoneInfo.day

/-- The reader of cron expressions as the source uses it: the next matching time in the
zone, of which the instant is taken. -/
abbrev GetNext := Str → Zone → Local → Except Failure Local

def onDay (d : Int) (time : Int × Int) : Int := d * ZoneInfo.day + time.1 * hour + time.2 * minute

/-- `replace(hour=…, minute=…, second=0, microsecond=0)` on the wall time's own day. -/
def replaceTime (wall : Int) (time : Int × Int) : Int := onDay (wall / ZoneInfo.day) time

/-- The branches of the three kinds that name a time of the day. The first keeps the `fold`
unless a day is added. -/
def daily (now : Local) (time : Int × Int) : Local :=
  let candidate : Local := ⟨replaceTime now.wall time,now.fold⟩
  if candidate.wall ≤ now.wall then ⟨candidate.wall + ZoneInfo.day,false⟩ else candidate

def weekly (now : Local) (time : Int × Int) (weekday : Int) : Local :=
  let days := (weekday - CivilDate.weekday (now.wall / ZoneInfo.day)) % 7
  let candidate := replaceTime (now.wall + days * ZoneInfo.day) time
  if candidate ≤ now.wall then ⟨candidate + 7 * ZoneInfo.day,false⟩ else ⟨candidate,false⟩

/-- `replace(year=…, month=…, day=…)` with the day bounded by the month's length. -/
def inMonth (year : Int) (month : Nat) (monthday : Int) (time : Int × Int) : Int :=
  onDay (monthStart year month + min monthday (monthLength year month) - 1) time

def monthly (now : Local) (time : Int × Int) (monthday : Int) : Local :=
  let d := now.wall / ZoneInfo.day
  let candidate := inMonth (yearOf d) (monthOf d) monthday time
  if candidate ≤ now.wall then
    let (year,month) := nextMonth (yearOf d) (monthOf d)
    ⟨inMonth year month monthday time,now.fold⟩
  else ⟨candidate,now.fold⟩

def nextScheduledTime (zones : Str → Option Zone) (getNext : GetNext) (profile : Profile) (after : Int)
    (timezone : Str) : Except Failure (Option Int) :=
  match profile.scheduleKind with
  | .manual | .once => .ok none
  | .everyNMinutes | .everyNHours | .everyNDays =>
      match profile.columns.scheduleInterval with
      | none => .error valueError
      | some interval => .ok (some (after + unit profile.scheduleKind * interval))
  | .cron =>
      match profile.columns.scheduleCron with
      | none => .error valueError
      | some expression =>
        match zones timezone with
        | none => .error (.builtin "ZoneInfoNotFoundError")
        | some zone => (getNext expression zone (zone.fromutc after)).map fun next => some (zone.utc next)
  | kind =>
      match profile.columns.scheduleTime with
      | none => .error valueError
      | some text =>
        match clockTime text with
        | none => .error valueError
        | some time =>
          match zones timezone with
          | none => .error (.builtin "ZoneInfoNotFoundError")
          | some zone =>
            let now := zone.fromutc after
            match kind with
            | .daily => .ok (some (zone.utc (daily now time)))
            | .weekly =>
                match profile.columns.scheduleWeekday with
                | none => .error valueError
                | some weekday => .ok (some (zone.utc (weekly now time weekday)))
            | _ =>
                match profile.columns.scheduleMonthday with
                | none => .error valueError
                | some monthday => .ok (some (zone.utc (monthly now time monthday)))

/-- Only the kinds without recurrence have no next time. -/
theorem nextScheduledTime_none {zones : Str → Option Zone} {getNext : GetNext} {profile : Profile} {after : Int}
    {timezone : Str} (absent : nextScheduledTime zones getNext profile after timezone = .ok none) :
    profile.scheduleKind = .manual ∨ profile.scheduleKind = .once := by
  unfold nextScheduledTime at absent
  split at absent
  · rename_i kind
    exact .inl kind
  · rename_i kind
    exact .inr kind
  · split at absent <;> cases absent
  · split at absent <;> cases absent
  · split at absent <;> cases absent
  · split at absent
    · cases absent
    · split at absent
      · cases absent
      · rename_i expression _ _ zone _
        cases found : getNext expression zone (zone.fromutc after) <;> simp [found,Except.map] at absent
  · split at absent
    · cases absent
    split at absent
    · cases absent
    split at absent
    · cases absent
    dsimp only at absent
    split at absent
    · cases absent
    · split at absent <;> cases absent
    · split at absent <;> cases absent

/-- The instants as the other models count them. -/
def calendar (zones : Str → Option Zone) (getNext : GetNext) : Calendar ScheduleColumns := fun profile after timezone =>
  (nextScheduledTime zones getNext profile after timezone).map (Option.map Int.toNat)

end BackupTelebot.Scheduling
