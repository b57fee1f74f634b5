import MRF.Center.State
import MRF.Library.Calendar

/-!
# Center — Expiry

When a check-out expires.  The query compares `CURRENT_TIMESTAMP` with `checkout_at + value`; MySQL
computes both sides as numbers YYYYMMDDhhmmss, so `value` is not added to the time.

`expiry_iff`: the query selects a row exactly when the seconds have elapsed, unless they have not
and the numbers skipped since the check-out make up for them.
-/

namespace MRF.Center
open MRF.Library

variable {B : Type} {start : Datetime} {checkoutAt now : CalendarTime} {timeThreshold : Int64}
  {t : Tables B} {r : IntervalRetry B}

/-- MySQL's reading of a `DATETIME`, where the year 0 begins at `start`. -/
def MySqlClock.calendar (start : Datetime) : MySqlClock :=
  ⟨calendarNumberFrom start, calendarNumberFrom_mono start⟩

/-- The `Datetime` of a date-time. -/
def datetime (start : Datetime) (t : CalendarTime) : Datetime := start + t.seconds

/-- The seconds that have elapsed from one date-time to another. -/
def elapsed (checkoutAt now : CalendarTime) : Int := now.seconds - checkoutAt.seconds

/-- The numbers skipped between two date-times. -/
def skippedBetween (checkoutAt now : CalendarTime) : Int := now.skipped - checkoutAt.skipped

theorem skippedBetween_nonneg (h : 0 ≤ elapsed checkoutAt now) :
    0 ≤ skippedBetween checkoutAt now := by
  have hle : checkoutAt.seconds ≤ now.seconds := by
    unfold elapsed at h
    omega
  have hskipped := CalendarTime.skipped_mono hle
  unfold skippedBetween
  omega

/-- The query answers the row. -/
def Selects (clock : MySqlClock) (now : Datetime) (timeThreshold : Int64) (t : Tables B)
    (r : IntervalRetry B) : Prop :=
  ∃ rows, IntervalRetryDAO.getIntervalRetriesOutOfThreshold clock now timeThreshold t = some rows ∧
    r ∈ rows

theorem toInt_seconds (h : 0 < timeThreshold) :
    (timeThreshold / 1000).toInt = timeThreshold.toInt / 1000 := by
  have hpos : 0 < timeThreshold.toInt := Int64.lt_iff_toInt_lt.mp h
  rw [Int64.toInt_div_of_ne_right _ _ (by decide)]
  exact Int.tdiv_eq_ediv_of_nonneg (Int.le_of_lt hpos)

/-- The query compares numbers. -/
theorem selects_iff (h : 0 < timeThreshold) (hr : t.intervalRetry.get r.msgID = some r)
    (hs : r.retryState = .inRetry) (hc : r.checkoutAt = some (datetime start checkoutAt)) :
    Selects (.calendar start) (datetime start now) timeThreshold t r ↔
      timeThreshold.toInt / 1000 < elapsed checkoutAt now + skippedBetween checkoutAt now := by
  have hrows : IntervalRetryDAO.getIntervalRetriesOutOfThreshold (.calendar start)
      (datetime start now) timeThreshold t = some (t.intervalRetry.select
        (IntervalRetryDAO.isOutOfThreshold (.calendar start) (datetime start now)
          (timeThreshold / 1000))) := if_neg (Int64.not_le.mpr h)
  have hdigits : ∀ c : CalendarTime,
      (MySqlClock.calendar start).number (datetime start c) = c.seconds + c.skipped := fun c =>
    (c.calendarNumberFrom_seconds start).trans (congrArg Nat.cast c.digits_eq)
  have hwhere : IntervalRetryDAO.isOutOfThreshold (.calendar start) (datetime start now)
      (timeThreshold / 1000) r = true ↔
        timeThreshold.toInt / 1000 < elapsed checkoutAt now + skippedBetween checkoutAt now := by
    simp only [IntervalRetryDAO.isOutOfThreshold, hs, hc, decide_true, Bool.true_and,
      Option.any_some, decide_eq_true_eq, hdigits, toInt_seconds h]
    unfold elapsed skippedBetween
    omega
  rw [← hwhere]
  constructor
  · rintro ⟨rows, he, hmem⟩
    rw [hrows] at he
    cases he
    exact (Table.mem_select.mp hmem).2
  · intro hout
    exact ⟨_, hrows, Table.mem_select.mpr ⟨hr, hout⟩⟩

/-- **A check-out expires when the seconds have elapsed**, unless they have not and the numbers
skipped since `checkout_at` make up for them. -/
theorem expiry_iff (h : 0 < timeThreshold) (hr : t.intervalRetry.get r.msgID = some r)
    (hs : r.retryState = .inRetry) (hc : r.checkoutAt = some (datetime start checkoutAt)) :
    (Selects (.calendar start) (datetime start now) timeThreshold t r ↔
        timeThreshold.toInt / 1000 < elapsed checkoutAt now) ↔
      ¬ (elapsed checkoutAt now ≤ timeThreshold.toInt / 1000 ∧
        timeThreshold.toInt / 1000 < elapsed checkoutAt now + skippedBetween checkoutAt now) := by
  rw [selects_iff h hr hs hc]
  constructor
  · rintro hiff ⟨hle, hlt⟩
    exact absurd (hiff.mp hlt) (Int.not_lt.mpr hle)
  · intro hnot
    have hpos : 0 ≤ timeThreshold.toInt / 1000 :=
      Int.ediv_nonneg (Int.le_of_lt (Int64.lt_iff_toInt_lt.mp h)) (by decide)
    constructor
    · intro hlt
      by_contra hge
      exact hnot ⟨Int.not_lt.mp hge, hlt⟩
    · intro hlt
      have hskipped : 0 ≤ skippedBetween checkoutAt now := skippedBetween_nonneg (by omega)
      omega

/-! ### Samples -/

/-- A full hour of 17 May 2013. -/
def sampleTime (hour : Nat) (hour_lt : hour < 24) : CalendarTime where
  year := 2013
  month := 5
  day := 17
  hour := hour
  minute := 0
  second := 0
  month_mem := ⟨Nat.le_add_left 1 4, Nat.le_add_left 5 7⟩
  day_mem := ⟨Nat.le_add_left 1 16, Nat.le_add_left 17 14⟩
  hour_lt := hour_lt
  minute_lt := Nat.zero_lt_succ 59
  second_lt := Nat.zero_lt_succ 59

theorem elapsed_sampleTime (hour hour' : Nat) (h : hour < 24) (h' : hour' < 24) :
    elapsed (sampleTime hour h) (sampleTime hour' h') = 3600 * hour' - 3600 * hour := by
  have hdays : (sampleTime hour' h').days = (sampleTime hour h).days := rfl
  have hhour : (sampleTime hour h).hour = hour := rfl
  have hhour' : (sampleTime hour' h').hour = hour' := rfl
  simp only [elapsed, CalendarTime.seconds, hdays, hhour, hhour']
  simp only [sampleTime]
  omega

theorem digits_sampleTime (hour : Nat) (h : hour < 24) :
    (sampleTime hour h).digits = 20130517000000 + 10000 * hour := by
  simp only [CalendarTime.digits, sampleTime]
  omega

/-- A row that is out since `checkoutAt`. -/
def sampleRow (checkoutAt : CalendarTime) : IntervalRetry String :=
  { msgID := 1, retryQueueName := "feed_retry", businessMsg := "post 1", retryInterval := 5000,
    retriedTimes := 1, maxRetryTimes := 3, checkoutAt := some (datetime 0 checkoutAt),
    updatedAt := none, createdAt := none, retryState := .inRetry, nextExecAt := 0 }

/-- The tables with that row alone. -/
def sampleTables (checkoutAt : CalendarTime) : Tables String :=
  ⟨⟨[sampleRow checkoutAt], List.nodup_singleton _⟩, .empty⟩

/-- A threshold of two hours, and three that have elapsed. -/
theorem expiry_sample : Selects (.calendar 0) (datetime 0 (sampleTime 13 (by decide))) 7200000
    (sampleTables (sampleTime 10 (by decide))) (sampleRow (sampleTime 10 (by decide))) := by
  have he := elapsed_sampleTime 10 13 (by decide) (by decide)
  have hT : (7200000 : Int64).toInt / 1000 = 7200 := by decide
  refine ((expiry_iff (by decide) rfl rfl rfl).mpr ?_).mpr ?_
  · omega
  · omega

/-- With a threshold of two hours, a check-out at 10:00:00 expires at 11:00:00. -/
theorem expires_early :
    Selects (.calendar 0) (datetime 0 (sampleTime 11 (by decide))) 7200000
        (sampleTables (sampleTime 10 (by decide))) (sampleRow (sampleTime 10 (by decide))) ∧
      elapsed (sampleTime 10 (by decide)) (sampleTime 11 (by decide)) = 3600 ∧
      ¬ (Selects (.calendar 0) (datetime 0 (sampleTime 11 (by decide))) 7200000
          (sampleTables (sampleTime 10 (by decide))) (sampleRow (sampleTime 10 (by decide))) ↔
        (7200000 : Int64).toInt / 1000 <
          elapsed (sampleTime 10 (by decide)) (sampleTime 11 (by decide))) := by
  have he := elapsed_sampleTime 10 11 (by decide) (by decide)
  have hT : (7200000 : Int64).toInt / 1000 = 7200 := by decide
  have hselects : Selects (.calendar 0) (datetime 0 (sampleTime 11 (by decide))) 7200000
      (sampleTables (sampleTime 10 (by decide))) (sampleRow (sampleTime 10 (by decide))) := by
    have hdigits := digits_sampleTime 10 (by decide)
    have hdigits' := digits_sampleTime 11 (by decide)
    rw [CalendarTime.digits_eq] at hdigits hdigits'
    refine (selects_iff (by decide) rfl rfl rfl).mpr ?_
    unfold elapsed skippedBetween
    omega
  refine ⟨hselects, by omega, fun hiff => ?_⟩
  have hlt := hiff.mp hselects
  omega

end MRF.Center
