import Mathlib.Algebra.Order.BigOperators.Group.List
import Mathlib.Algebra.Order.Ring.Nat
import Mathlib.Data.List.Lex
import LogSieve.Proofs.Years

/-! Moments as instants. Every instant is that of a moment on the calendar, and of two moments the earlier one
comes first when they are compared by year, month, day, hour, minute and second in turn. -/

namespace LogSieve

namespace Calendar

theorem daysBeforeMonth_eq_sum (year : Int) (month : Nat) :
    daysBeforeMonth year month = ((monthLengths year).take (month - 1)).sum := rfl

theorem sum_monthLengths (year : Int) : (monthLengths year).sum = yearLength year := by
  unfold monthLengths yearLength
  split <;> rfl

/-- The place of a day among months: whole months before it, and no more days than its own month has. -/
theorem monthOfDay_spec {lengths : List Nat} {day : Nat} (inside : day < lengths.sum) :
    ∃ index length, (monthOfDay lengths day).1 = index + 1 ∧ lengths[index]? = some length ∧
      (lengths.take index).sum + (monthOfDay lengths day).2 = day + 1 ∧
      1 ≤ (monthOfDay lengths day).2 ∧ (monthOfDay lengths day).2 ≤ length := by
  induction lengths generalizing day with
  | nil => cases inside
  | cons length lengths ih =>
    rw [monthOfDay]
    split
    next short => exact ⟨0, length, rfl, rfl, by simp, by simp, short⟩
    next long =>
      rw [List.sum_cons] at inside
      have inRest : day - length < lengths.sum := by omega
      obtain ⟨index, own, month, found, place, first, last⟩ := ih inRest
      refine ⟨index + 1, own, congrArg (· + 1) month, found, ?_, first, last⟩
      rw [List.take_succ_cons, List.sum_cons]
      dsimp only
      omega

theorem sum_take_add {lengths : List Nat} {index length : Nat} (found : lengths[index]? = some length) :
    (lengths.take index).sum + length = (lengths.take (index + 1)).sum := by
  rw [List.take_add_one, found, Option.toList_some, List.sum_append, List.sum_singleton]

end Calendar

namespace Moment
open Calendar

/-- There is such a day in the calendar, and such a time on every day. -/
structure Placed (moment : Moment) : Prop where
  day : ∃ index length, moment.month = index + 1 ∧ (monthLengths moment.year)[index]? = some length ∧
    1 ≤ moment.day ∧ moment.day ≤ length
  hour : moment.hour < 24
  minute : moment.minute < 60
  second : moment.second < 60

theorem isValid_iff {moment : Moment} : moment.isValid = true ↔
    moment.Placed ∧ firstYear ≤ moment.year ∧ moment.year ≤ lastYear := by
  simp only [isValid, Bool.and_eq_true, decide_eq_true_eq]
  constructor
  · rintro ⟨⟨⟨⟨⟨⟨⟨⟨first, last⟩, january⟩, december⟩, opens⟩, closes⟩, hour⟩, minute⟩, second⟩
    cases found : (monthLengths moment.year)[moment.month - 1]? with
    | none =>
      rw [found, Option.getD_none] at closes
      omega
    | some length =>
      rw [found, Option.getD_some] at closes
      exact ⟨⟨⟨moment.month - 1, length, by omega, found, opens, closes⟩, hour, minute, second⟩,
        first, last⟩
  · rintro ⟨⟨⟨index, length, month, found, opens, closes⟩, hour, minute, second⟩, first, last⟩
    have within := (List.getElem?_eq_some_iff.mp found).1
    have twelve : (monthLengths moment.year).length = 12 := rfl
    have same : moment.month - 1 = index := by omega
    rw [same, found, Option.getD_some]
    omega

section
variable (seconds : Int)

/-- The date and the clock of an instant: its day lies in its year, and there in its month. -/
theorem ofSeconds_spec : ∃ inYear index length : Nat,
    (daysBeforeYear (ofSeconds seconds).year + inYear = seconds / 86400 ∧
      inYear < yearLength (ofSeconds seconds).year) ∧
    ((ofSeconds seconds).month = index + 1 ∧
      (monthLengths (ofSeconds seconds).year)[index]? = some length ∧
      ((monthLengths (ofSeconds seconds).year).take index).sum + (ofSeconds seconds).day = inYear + 1 ∧
      1 ≤ (ofSeconds seconds).day ∧ (ofSeconds seconds).day ≤ length) ∧
    (ofSeconds seconds).hour = (seconds % 86400).toNat / 3600 ∧
    (ofSeconds seconds).minute = (seconds % 86400).toNat / 60 % 60 ∧
    (ofSeconds seconds).second = (seconds % 86400).toNat % 60 := by
  have place := daysBeforeYear_yearOfDay (seconds / 86400)
  generalize read : ofSeconds seconds = moment
  unfold ofSeconds at read
  split at read
  next year inYear found =>
    rw [found] at place
    have inside : inYear < (monthLengths year).sum := by
      rw [sum_monthLengths]
      exact place.2
    have date := monthOfDay_spec inside
    split at read
    next month day found =>
      rw [found] at date
      obtain ⟨index, length, date⟩ := date
      subst read
      exact ⟨inYear, index, length, place, date, rfl, rfl, rfl⟩

theorem placed_ofSeconds : (ofSeconds seconds).Placed := by
  obtain ⟨inYear, index, length, -, ⟨month, found, -, opens, closes⟩, hour, minute, second⟩ :=
    ofSeconds_spec seconds
  refine ⟨⟨index, length, month, found, opens, closes⟩, ?_, ?_, ?_⟩
  all_goals omega

theorem toSeconds_ofSeconds : (ofSeconds seconds).toSeconds = seconds := by
  obtain ⟨inYear, index, length, ⟨whole, -⟩, ⟨month, -, place, -, -⟩, hour, minute, second⟩ :=
    ofSeconds_spec seconds
  rw [toSeconds, daysBeforeMonth_eq_sum, month, Nat.add_sub_cancel]
  omega

theorem le_year_ofSeconds_iff {year : Int} :
    year ≤ (ofSeconds seconds).year ↔ daysBeforeYear year * 86400 ≤ seconds := by
  obtain ⟨inYear, _, _, ⟨whole, inside⟩, -⟩ := ofSeconds_spec seconds
  rw [year_le_iff whole inside]
  omega

end

def parts (moment : Moment) : List Int :=
  [moment.year, moment.month, moment.day, moment.hour, moment.minute, moment.second]

theorem parts_injective : Function.Injective parts := by
  intro moment other same
  cases moment
  cases other
  simpa only [parts, List.cons.injEq, Int.natCast_inj, and_true, mk.injEq] using same

section
variable {moment other : Moment}

theorem Placed.toSeconds_lt_nextYear (placed : moment.Placed) :
    moment.toSeconds < daysBeforeYear (moment.year + 1) * 86400 := by
  obtain ⟨⟨index, length, month, found, opens, closes⟩, hour, minute, second⟩ := placed
  have through := sum_take_add found
  have all : ((monthLengths moment.year).take (index + 1)).sum ≤ yearLength moment.year := by
    rw [← sum_monthLengths]
    exact (List.take_sublist _ _).sum_le_sum fun _ _ => Nat.zero_le _
  rw [toSeconds, daysBeforeMonth_eq_sum, month, Nat.add_sub_cancel, daysBeforeYear_succ]
  omega

theorem Placed.yearStart_le (placed : moment.Placed) :
    daysBeforeYear moment.year * 86400 ≤ moment.toSeconds := by
  obtain ⟨index, length, month, found, opens, closes⟩ := placed.day
  rw [toSeconds]
  omega

theorem Placed.day_le (placed : moment.Placed) {month : Nat} (later : moment.month < month) :
    daysBeforeMonth moment.year moment.month + moment.day ≤ daysBeforeMonth moment.year month := by
  obtain ⟨index, length, own, found, -, closes⟩ := placed.day
  have through := sum_take_add found
  have onward : ((monthLengths moment.year).take (index + 1)).sum ≤
      ((monthLengths moment.year).take (month - 1)).sum :=
    List.monotone_sum_take _ (by omega)
  rw [daysBeforeMonth_eq_sum, daysBeforeMonth_eq_sum, own, Nat.add_sub_cancel]
  omega

theorem toSeconds_lt_of_parts_lt (first : moment.Placed) (second : other.Placed)
    (order : moment.parts < other.parts) : moment.toSeconds < other.toSeconds := by
  simp only [parts, List.cons_lt_cons_iff, List.not_lt_nil, and_false, or_false, Int.ofNat_lt,
    Int.natCast_inj] at order
  obtain ⟨-, -, -, -, opens, -⟩ := second.day
  have clock := first.hour
  have minutes := first.minute
  have seconds := first.second
  rcases order with year | ⟨year, month | ⟨month, rest⟩⟩
  · have later := daysBeforeYear_mono (Int.add_one_le_of_lt year)
    have ends := first.toSeconds_lt_nextYear
    have begins := second.yearStart_le
    omega
  · have days := first.day_le month
    simp only [toSeconds, year] at days ⊢
    omega
  · simp only [toSeconds, year, month]
    omega

/-- On the calendar the order of the parts is the order in time. -/
theorem parts_lt_iff (first : moment.Placed) (second : other.Placed) :
    moment.parts < other.parts ↔ moment.toSeconds < other.toSeconds := by
  refine ⟨toSeconds_lt_of_parts_lt first second, fun earlier => ?_⟩
  rcases lt_trichotomy moment.parts other.parts with before | same | behind
  · exact before
  · rw [parts_injective same] at earlier
    exact absurd earlier (lt_irrefl _)
  · exact absurd earlier (toSeconds_lt_of_parts_lt second first behind).not_gt

theorem Placed.eq_of_toSeconds_eq (first : moment.Placed) (second : other.Placed)
    (same : moment.toSeconds = other.toSeconds) : moment = other := by
  apply parts_injective
  apply le_antisymm
  · rw [← not_lt, parts_lt_iff second first]
    exact same.not_gt
  · rw [← not_lt, parts_lt_iff first second]
    exact same.not_lt

theorem Placed.ofSeconds_toSeconds (placed : moment.Placed) : ofSeconds moment.toSeconds = moment :=
  (placed_ofSeconds _).eq_of_toSeconds_eq placed (toSeconds_ofSeconds _)

theorem Placed.year_le (first : moment.Placed) (second : other.Placed)
    (before : moment.toSeconds ≤ other.toSeconds) : moment.year ≤ other.year := by
  by_contra after
  have later := daysBeforeYear_mono (Int.add_one_le_of_lt (Int.not_le.mp after))
  have begins := first.yearStart_le
  have ends := second.toSeconds_lt_nextYear
  omega

end

end Moment

end LogSieve
