import Mathlib.Data.Int.Order.Basic

/-!
# Local time

`calcNextResetTime` counts days, weeks and months in the zone of the server.  `Zone` has the
arithmetic of Go's `time` package for any offsets.  Where a zone skips a local midnight the next day
may begin before the instant it is counted from; in a `Regular` zone every boundary lies ahead
(`lt_nextDay`, `lt_nextMonday`, `lt_nextMonth`).
-/

namespace TokensFlux

/-! ### Days and months -/

/-- A `time.Location`: the seconds by which local time is ahead of UTC at an instant. -/
structure Zone where
  offset : ℤ → ℤ

/-- The day of the month of a day counted from 1970-01-01, in the Gregorian calendar. -/
def dayOfMonth (day : ℤ) : ℤ :=
  -- Years are counted from March in eras of 400, so that the leap day comes last.
  let doe := (day + 719468) % 146097
  let yoe := (doe - doe / 1460 + doe / 36524 - doe / 146096) / 365
  let doy := doe - (365 * yoe + yoe / 4 - yoe / 100)
  let mp := (5 * doy + 2) / 153
  doy - (153 * mp + 2) / 5 + 1

/-- The days since the first of the month. -/
def daysIntoMonth (day : ℤ) : ℕ :=
  ((List.range 31).find? fun i : ℕ => dayOfMonth (day - i) = 1).getD 0

/-- The days to the first of the next month. -/
def daysToMonth (day : ℤ) : ℕ :=
  ((List.range 31).find? fun i : ℕ => dayOfMonth (day + 1 + i) = 1).getD 30 + 1

namespace Zone

variable (zone : Zone) (t : ℤ)

/-- What a local clock shows, in seconds from 1970-01-01 00:00. -/
def wall : ℤ := t + zone.offset t

/-- The local day, counted from 1970-01-01. -/
def day : ℤ := zone.wall t / 86400

/-- `time.Date`.  The offset is looked up as if the local time were UTC, and once more at the
instant that this gives; where a local time is skipped or comes twice, one of the two offsets is
taken. -/
def date (wall : ℤ) : ℤ :=
  if zone.offset wall = 0 then wall
  else wall - zone.offset (wall - zone.offset wall)

/-- `AddDate` of a number of days: the local clock shows the same time. -/
def addDays (days : ℤ) : ℤ := zone.date (zone.wall t + days * 86400)

def nextDay : ℤ := zone.addDays (zone.date (zone.day t * 86400)) 1

def nextMonday : ℤ := zone.addDays (zone.date (zone.day t * 86400)) (7 - (zone.day t + 3) % 7)

def nextMonth : ℤ :=
  let first := zone.date ((zone.day t - daysIntoMonth (zone.day t)) * 86400)
  -- `first` is of another month where its midnight is skipped; the day of the month is kept.
  zone.addDays first (daysIntoMonth (zone.day first) + daysToMonth (zone.day first))

/-- The local date never goes back, and `time.Date` finds every local midnight. -/
structure Regular : Prop where
  day_le : ∀ s t, s ≤ t → zone.day s ≤ zone.day t
  wall_date : ∀ day, zone.wall (zone.date (day * 86400)) = day * 86400

end Zone

/-- The zone of the server. -/
structure Calendar extends Zone where
  regular : toZone.Regular

/-! ### Months -/

theorem daysIntoMonth_spec (day : ℤ) :
    daysIntoMonth day ≤ 30 ∧ ∀ i < daysIntoMonth day, dayOfMonth (day - i) ≠ 1 := by
  unfold daysIntoMonth
  cases hfirst : (List.range 31).find? fun i : ℕ => dayOfMonth (day - i) = 1 with
  | none => simp
  | some i =>
    obtain ⟨-, hmem, hleast⟩ := List.find?_range_eq_some.mp hfirst
    have hi := List.mem_range.mp hmem
    exact ⟨Nat.le_of_lt_succ hi, fun j hj => by simpa using hleast j hj⟩

theorem daysToMonth_spec (day : ℤ) :
    0 < daysToMonth day ∧ (daysToMonth day = 31 ∨ dayOfMonth (day + daysToMonth day) = 1) := by
  unfold daysToMonth
  refine ⟨Nat.succ_pos _, ?_⟩
  cases hnext : (List.range 31).find? fun i : ℕ => dayOfMonth (day + 1 + i) = 1 with
  | none => exact .inl rfl
  | some i =>
    have hday : day + ((i + 1 : ℕ) : ℤ) = day + 1 + i := by omega
    have hi := List.find?_some hnext
    right
    rw [Option.getD_some, hday]
    exact of_decide_eq_true hi

/-- No month begins between the first of a month and a day of it. -/
theorem lt_daysToMonth (day : ℤ) :
    day < day - daysIntoMonth day + daysToMonth (day - daysIntoMonth day) := by
  obtain ⟨hle, hnone⟩ := daysIntoMonth_spec day
  obtain ⟨hpos, hall | hfirst⟩ := daysToMonth_spec (day - daysIntoMonth day)
  · omega
  generalize daysToMonth (day - daysIntoMonth day) = ahead at hpos hfirst ⊢
  by_contra hlate
  -- A first of a month not after `day` would have been found on the way back.
  refine hnone (daysIntoMonth day - ahead) (by omega) ?_
  rw [← hfirst]
  congr 1
  omega

/-! ### Boundaries lie ahead -/

namespace Zone.Regular

variable {zone : Zone} (h : zone.Regular)
include h

theorem day_date (day : ℤ) : zone.day (zone.date (day * 86400)) = day := by
  rw [Zone.day, h.wall_date]
  exact Int.mul_ediv_cancel day (by decide)

/-- Midnight of a later day is a later instant. -/
theorem lt_addDays {t d days : ℤ} (hd : zone.day t < d + days) :
    t < zone.addDays (zone.date (d * 86400)) days := by
  rw [addDays, h.wall_date, ← Int.add_mul]
  by_contra hle
  have hday := h.day_le _ _ (Int.not_lt.mp hle)
  rw [h.day_date] at hday
  omega

theorem lt_nextDay (t : ℤ) : t < zone.nextDay t :=
  h.lt_addDays (by omega)

theorem lt_nextMonday (t : ℤ) : t < zone.nextMonday t :=
  h.lt_addDays (by omega)

theorem lt_nextMonth (t : ℤ) : t < zone.nextMonth t := by
  have hlt := lt_daysToMonth (zone.day t)
  unfold nextMonth
  dsimp only
  rw [h.day_date]
  exact h.lt_addDays (by omega)

end Zone.Regular

def Calendar.utc : Calendar where
  offset _ := 0
  regular := by
    constructor
    · intro s t hle
      simp only [Zone.day, Zone.wall]
      omega
    · intro day
      simp [Zone.wall, Zone.date]

theorem Calendar.utc_nextDay (t : ℤ) : Calendar.utc.nextDay t = (t / 86400 + 1) * 86400 := by
  simp [utc, Zone.nextDay, Zone.addDays, Zone.date, Zone.day, Zone.wall, Int.add_mul]

-- 2024-02-29 is a Thursday; the next Monday is March 4 and the next month begins the day after.
example : (Calendar.utc.nextMonday 1709208000, Calendar.utc.nextMonth 1709208000)
    = (1709510400, 1709251200) := by decide

end TokensFlux
