import Mathlib.Order.Monotone.Basic
import LogSieve.Calendar

/-! Years as spans of days. A year begins where the one before it ends, a day lies in exactly one year, and
the division into centuries and groups of four years finds that one. -/

namespace LogSieve.Calendar

def yearLength (year : Int) : Nat := if isLeap year then 366 else 365

theorem isLeap_iff {year : Int} :
    isLeap year = true ↔ year % 4 = 0 ∧ (year % 100 ≠ 0 ∨ year % 400 = 0) := by
  simp [isLeap]

theorem daysBeforeYear_succ (year : Int) :
    daysBeforeYear (year + 1) = daysBeforeYear year + yearLength year := by
  dsimp only [daysBeforeYear, yearLength]
  split
  next leap =>
    rw [isLeap_iff] at leap
    omega
  next common =>
    rw [isLeap_iff] at common
    omega

theorem daysBeforeYear_mono {year later : Int} (order : year ≤ later) :
    daysBeforeYear year ≤ daysBeforeYear later := by
  have step (year : Int) : daysBeforeYear year ≤ daysBeforeYear (year + 1) := by
    rw [daysBeforeYear_succ]
    omega
  exact monotone_int_of_le_succ step order

section
variable (cycle : Int) {century group single : Nat}

/-- Four centuries have 146097 days, a century 36524, and a group of four years 1461. -/
theorem daysBeforeYear_parts (centuries : century ≤ 3) (groups : group ≤ 24) (singles : single ≤ 3) :
    daysBeforeYear (400 * cycle + (100 * century + 4 * group + single : Nat) + 1) =
      146097 * cycle + (36524 * century + 1461 * group + 365 * single : Nat) := by
  dsimp only [daysBeforeYear]
  omega

/-- The last year of a group is the long one, except in the last group of a century, where it is only if
the century is the last of four. -/
theorem yearLength_parts (centuries : century ≤ 3) (groups : group ≤ 24) (singles : single ≤ 3) :
    yearLength (400 * cycle + (100 * century + 4 * group + single : Nat) + 1) =
      if single = 3 ∧ (group ≠ 24 ∨ century = 3) then 366 else 365 := by
  have same : isLeap (400 * cycle + (100 * century + 4 * group + single : Nat) + 1) = true ↔
      single = 3 ∧ (group ≠ 24 ∨ century = 3) := by
    rw [isLeap_iff]
    omega
  simp only [yearLength, same]

end

theorem daysBeforeYear_yearOfDay (day : Int) :
    daysBeforeYear (yearOfDay day).1 + (yearOfDay day).2 = day ∧
      (yearOfDay day).2 < yearLength (yearOfDay day).1 := by
  dsimp only [yearOfDay]
  have inside : (day % 146097).toNat < 146097 := by omega
  have whole : 146097 * (day / 146097) + (day % 146097).toNat = day := by omega
  generalize (day % 146097).toNat = inCycle at *
  generalize day / 146097 = cycle at *
  generalize centuries : min 3 (inCycle / 36524) = century
  generalize rest : inCycle - century * 36524 = inCentury
  generalize singles : min 3 (inCentury % 1461 / 365) = single
  rw [daysBeforeYear_parts cycle (by omega) (by omega) (by omega),
    yearLength_parts cycle (by omega) (by omega) (by omega)]
  constructor
  · omega
  · split <;> omega

theorem year_le_iff {year other day : Int} {inYear : Nat}
    (place : daysBeforeYear year + inYear = day) (inside : inYear < yearLength year) :
    other ≤ year ↔ daysBeforeYear other ≤ day := by
  have next := daysBeforeYear_succ year
  constructor
  · intro before
    have start := daysBeforeYear_mono before
    omega
  · intro begun
    by_contra after
    have later := daysBeforeYear_mono (Int.add_one_le_of_lt (Int.not_le.mp after))
    omega

end LogSieve.Calendar
