import Mathlib.Algebra.Order.Group.Unbundled.Int
import Mathlib.Tactic.SplitIfs

/-! Dates of the proleptic Gregorian calendar, as the Python `datetime` module counts
them. Day 0 is the first of January of the year 1, a Monday. -/
namespace CivilDate

def isLeap (year : Int) : Bool := year % 4 = 0 && (year % 100 != 0 || year % 400 = 0)

def leapDay (year : Int) : Int := if isLeap year then 1 else 0

def daysBeforeYear (year : Int) : Int := 365 * (year - 1) + (year - 1) / 4 - (year - 1) / 100 + (year - 1) / 400

/-- `calendar.monthrange(year, month)[1]`. -/
def monthLength (year : Int) (month : Nat) : Int :=
  if month = 2 then 28 + leapDay year
  else if month = 4 ∨ month = 6 ∨ month = 9 ∨ month = 11 then 30 else 31

def daysBeforeMonth (year : Int) : Nat → Int
  | 0 => 0
  | month + 1 => if month = 0 then 0 else daysBeforeMonth year month + monthLength year month

def monthStart (year : Int) (month : Nat) : Int := daysBeforeYear year + daysBeforeMonth year month

/-- The year of a day: the mean length of a year leads to it or to a neighbour. -/
def yearOf (d : Int) : Int :=
  let guess := d * 400 / 146097 + 1
  if daysBeforeYear (guess + 1) ≤ d then guess + 1
  else if d < daysBeforeYear guess then guess - 1
  else guess

/-- The month of the `r`-th day from the first of `month` on, at most `more` months later. -/
def monthFrom (year : Int) (month : Nat) : Nat → Int → Nat
  | 0, _ => month
  | more + 1, r =>
      if r < monthLength year month then month else monthFrom year (month + 1) more (r - monthLength year month)

def monthOf (d : Int) : Nat := monthFrom (yearOf d) 1 11 (d - daysBeforeYear (yearOf d))

/-- `date.day`. -/
def dayOfMonth (d : Int) : Int := d - monthStart (yearOf d) (monthOf d) + 1

/-- `date.weekday()`: Monday is 0. -/
def weekday (d : Int) : Int := d % 7

def nextMonth (year : Int) (month : Nat) : Int × Nat :=
  (if month % 12 + 1 = 1 then year + 1 else year,month % 12 + 1)

theorem leapDay_bounds (year : Int) : 0 ≤ leapDay year ∧ leapDay year ≤ 1 := by
  unfold leapDay
  split_ifs <;> decide

theorem daysBeforeYear_succ (year : Int) : daysBeforeYear (year + 1) = daysBeforeYear year + 365 + leapDay year := by
  have leap : leapDay year = if year % 4 = 0 ∧ (year % 100 ≠ 0 ∨ year % 400 = 0) then 1 else 0 := by
    simp [leapDay,isLeap]
  unfold daysBeforeYear
  rw [leap]
  split_ifs <;> omega

theorem daysBeforeYear_mono {a b : Int} (h : a ≤ b) : daysBeforeYear a ≤ daysBeforeYear b := by
  unfold daysBeforeYear
  omega

theorem yearOf_spec (d : Int) : daysBeforeYear (yearOf d) ≤ d ∧ d < daysBeforeYear (yearOf d + 1) := by
  unfold yearOf
  dsimp only
  unfold daysBeforeYear
  split_ifs <;> omega

theorem yearOf_eq {year d : Int} (from_ : daysBeforeYear year ≤ d) (until_ : d < daysBeforeYear (year + 1)) :
    yearOf d = year := by
  have spec := yearOf_spec d
  rcases lt_trichotomy (yearOf d) year with less | same | more
  · have := daysBeforeYear_mono (Int.add_one_le_iff.mpr less)
    omega
  · exact same
  · have := daysBeforeYear_mono (Int.add_one_le_iff.mpr more)
    omega

theorem monthLength_bounds (year : Int) (month : Nat) : 28 ≤ monthLength year month ∧ monthLength year month ≤ 31 := by
  have := leapDay_bounds year
  unfold monthLength
  split_ifs <;> omega

theorem daysBeforeMonth_succ (year : Int) {month : Nat} (positive : 1 ≤ month) :
    daysBeforeMonth year (month + 1) = daysBeforeMonth year month + monthLength year month := by
  rw [daysBeforeMonth,if_neg (by omega)]

/-- The twelve months fill the year. -/
theorem daysBeforeMonth_end (year : Int) : daysBeforeMonth year 13 = 365 + leapDay year := by
  simp [daysBeforeMonth,monthLength]
  omega

theorem daysBeforeMonth_later (year : Int) {a b : Nat} (positive : 1 ≤ a) (later : a < b) :
    daysBeforeMonth year a + monthLength year a ≤ daysBeforeMonth year b := by
  induction b with
  | zero => omega
  | succ b ih =>
    rw [daysBeforeMonth_succ year (by omega)]
    rcases Nat.lt_or_ge a b with less | same
    · have := monthLength_bounds year b
      have := ih less
      omega
    · obtain rfl : a = b := by omega
      exact le_rfl

theorem monthFrom_spec {year r : Int} {month more : Nat} (positive : 1 ≤ month) (inside : 0 ≤ r)
    (enough : daysBeforeMonth year month + r < daysBeforeMonth year (month + more) + monthLength year (month + more)) :
    month ≤ monthFrom year month more r ∧ monthFrom year month more r ≤ month + more ∧
      daysBeforeMonth year (monthFrom year month more r) ≤ daysBeforeMonth year month + r ∧
      daysBeforeMonth year month + r <
        daysBeforeMonth year (monthFrom year month more r) + monthLength year (monthFrom year month more r) := by
  induction more generalizing month r with
  | zero =>
    simp only [monthFrom]
    simp only [Nat.add_zero] at enough
    omega
  | succ more ih =>
    simp only [monthFrom]
    split_ifs with here
    · omega
    · have next := daysBeforeMonth_succ year positive
      have rearranged : month + (more + 1) = month + 1 + more := by omega
      rw [rearranged] at enough ⊢
      have := @ih (r - monthLength year month) (month + 1) (by omega) (by omega) (by omega)
      omega

/-- A day lies in its month. -/
theorem monthOf_spec (d : Int) : 1 ≤ monthOf d ∧ monthOf d ≤ 12 ∧ monthStart (yearOf d) (monthOf d) ≤ d ∧
    d < monthStart (yearOf d) (monthOf d) + monthLength (yearOf d) (monthOf d) := by
  have year := yearOf_spec d
  rw [daysBeforeYear_succ] at year
  have december := daysBeforeMonth_succ (yearOf d) (by decide : 1 ≤ 12)
  rw [daysBeforeMonth_end] at december
  have january : daysBeforeMonth (yearOf d) 1 = 0 := rfl
  have month := @monthFrom_spec (yearOf d) (d - daysBeforeYear (yearOf d)) 1 11 le_rfl
    (by omega) (by
      have twelve : 1 + 11 = 12 := rfl
      rw [january,twelve]
      omega)
  rw [january] at month
  unfold monthStart monthOf
  omega

/-- The months follow each other, over the years. -/
theorem monthStart_next (year : Int) {month : Nat} (valid : 1 ≤ month ∧ month ≤ 12) :
    monthStart (nextMonth year month).1 (nextMonth year month).2 = monthStart year month + monthLength year month := by
  have succ := daysBeforeMonth_succ year valid.1
  by_cases december : month = 12
  · subst december
    have later := daysBeforeYear_succ year
    rw [daysBeforeMonth_end] at succ
    have january : daysBeforeMonth (year + 1) 1 = 0 := rfl
    have next : nextMonth year 12 = (year + 1,1) := rfl
    rw [next]
    dsimp only [monthStart]
    omega
  · have next : nextMonth year month = (year,month + 1) := by
      have small : month % 12 = month := by omega
      simp only [nextMonth,small,Prod.mk.injEq,and_true]
      exact if_neg (by omega)
    rw [next]
    dsimp only [monthStart]
    omega

theorem nextMonth_valid (year : Int) (month : Nat) :
    1 ≤ (nextMonth year month).2 ∧ (nextMonth year month).2 ≤ 12 := by
  simp only [nextMonth]
  omega

/-- The date of a day that lies in a given month. -/
theorem date_eq {year d : Int} {month : Nat} (valid : 1 ≤ month ∧ month ≤ 12) (from_ : monthStart year month ≤ d)
    (until_ : d < monthStart year month + monthLength year month) : yearOf d = year ∧ monthOf d = month := by
  have start : monthStart year month = daysBeforeYear year + daysBeforeMonth year month := rfl
  have first : 0 ≤ daysBeforeMonth year month := by
    rcases Nat.eq_or_lt_of_le valid.1 with same | later
    · exact same ▸ le_rfl
    · have := daysBeforeMonth_later year le_rfl later
      have january : daysBeforeMonth year 1 = 0 := rfl
      have := monthLength_bounds year 1
      omega
  have last := daysBeforeMonth_later year valid.1 (Nat.lt_of_le_of_lt valid.2 (by decide : 12 < 13))
  rw [daysBeforeMonth_end] at last
  have same : yearOf d = year := by
    apply yearOf_eq
    · omega
    · rw [daysBeforeYear_succ]
      omega
  have spec := monthOf_spec d
  rw [same] at spec
  have other : monthStart year (monthOf d) = daysBeforeYear year + daysBeforeMonth year (monthOf d) := rfl
  refine ⟨same,?_⟩
  rcases lt_trichotomy (monthOf d) month with less | equal | more
  · have := daysBeforeMonth_later year spec.1 less
    omega
  · exact equal
  · have := daysBeforeMonth_later year valid.1 more
    omega

end CivilDate
