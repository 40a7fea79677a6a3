import LogSieve.Proofs.PageOffsets
import LogSieve.Proofs.StoredTimes

/-! Ranges that reach back from now. As long as they begin in a year with four digits, the text of the bound
tells the instant to the second, such texts stand in the order of time, and the bound outlasts writing and
reading. No number of hours is refused, though: where they lead out of the calendar, the program breaks off. -/

namespace LogSieve

namespace Moment
open Calendar

def secondsBefore (now : Moment) (hours : UInt32) : Int := now.toSeconds - 3600 * hours.toNat

def HasPast (now : Moment) (hours : UInt32) : Prop :=
  ∃ past : Moment, past.isValid = true ∧ past.toSeconds = now.secondsBefore hours

/-- The moment and the instant so many hours before it are in the years with four digits. -/
structure Recent (now : Moment) (hours : UInt32) : Prop where
  valid : now.isValid = true
  year : 0 ≤ now.year ∧ now.year ≤ 9999
  since : daysBeforeYear 0 * 86400 ≤ now.secondsBefore hours

section
variable {now past : Moment} {hours : UInt32}

theorem secondsBefore_le (now : Moment) (hours : UInt32) : now.secondsBefore hours ≤ now.toSeconds := by
  unfold secondsBefore
  omega

theorem hoursBefore?_eq_some_iff (valid : now.isValid = true) : now.hoursBefore? hours.toNat = some past ↔
    past.isValid = true ∧ past.toSeconds = now.secondsBefore hours := by
  obtain ⟨placed, -, last⟩ := isValid_iff.mp valid
  rw [hoursBefore?, ← secondsBefore, Option.ite_none_right_eq_some, Option.some.injEq, isValid_iff]
  constructor
  · rintro ⟨reached, rfl⟩
    have before : (ofSeconds (now.secondsBefore hours)).toSeconds ≤ now.toSeconds := by
      rw [toSeconds_ofSeconds]
      exact secondsBefore_le now hours
    refine ⟨⟨placed_ofSeconds _, (le_year_ofSeconds_iff _).mpr reached, ?_⟩, toSeconds_ofSeconds _⟩
    exact ((placed_ofSeconds _).year_le placed before).trans last
  · rintro ⟨⟨pastPlaced, first, -⟩, instant⟩
    rw [← instant, pastPlaced.ofSeconds_toSeconds]
    have begun := daysBeforeYear_mono first
    have within := pastPlaced.yearStart_le
    exact ⟨by omega, rfl⟩

theorem hasPast_iff_hoursBefore? (valid : now.isValid = true) :
    now.HasPast hours ↔ ∃ past, now.hoursBefore? hours.toNat = some past := by
  simp only [HasPast, hoursBefore?_eq_some_iff valid]

theorem hasPast_iff (valid : now.isValid = true) :
    now.HasPast hours ↔ daysBeforeYear firstYear * 86400 ≤ now.secondsBefore hours := by
  rw [hasPast_iff_hoursBefore? valid, hoursBefore?, ← secondsBefore]
  simp only [Option.ite_none_right_eq_some, exists_and_left, Option.some.injEq, exists_eq', and_true]

/-- From the moments with four digits in their years the calendar reaches back 2297898336 hours, and no
further from the first of them. -/
theorem forall_hasPast_iff :
    (∀ now : Moment, now.isValid = true → 0 ≤ now.year → now.year ≤ 9999 → now.HasPast hours) ↔
      hours ≤ 2297898336 := by
  have first : daysBeforeYear 0 - daysBeforeYear firstYear = 95745764 := by decide
  have limit : (2297898336 : UInt32).toNat = 2297898336 := rfl
  rw [UInt32.le_iff_toNat_le, limit]
  constructor
  · intro always
    have start : isValid ⟨0, 1, 1, 0, 0, 0⟩ = true := by decide
    have reached := (hasPast_iff start).mp (always _ start (by decide) (by decide))
    have instant : toSeconds ⟨0, 1, 1, 0, 0, 0⟩ = daysBeforeYear 0 * 86400 := by decide
    rw [secondsBefore, instant] at reached
    omega
  · intro few now valid fromZero _
    rw [hasPast_iff valid, secondsBefore]
    have begun := daysBeforeYear_mono fromZero
    have within := (isValid_iff.mp valid).1.yearStart_le
    omega

theorem Recent.exists_past (recent : Recent now hours) :
    ∃ past : Moment, past.Datable ∧ past.toSeconds = now.secondsBefore hours := by
  have instant := toSeconds_ofSeconds (now.secondsBefore hours)
  have placed := placed_ofSeconds (now.secondsBefore hours)
  have before := instant.trans_le (secondsBefore_le now hours)
  refine ⟨_, ⟨placed, (le_year_ofSeconds_iff _).mpr recent.since, ?_⟩, instant⟩
  exact (placed.year_le (isValid_iff.mp recent.valid).1 before).trans recent.year.2

end

end Moment

namespace Filter
open Moment

section
variable {now : Moment} {hours : UInt32}

namespace TimeRange

theorem lastHours?_eq_some_iff (valid : now.isValid = true) {range : TimeRange} :
    lastHours? hours now = some range ↔
      ∃ past : Moment, (past.isValid = true ∧ past.toSeconds = now.secondsBefore hours) ∧
        { start := some past.text } = range := by
  simp only [lastHours?, Option.map_eq_some_iff, hoursBefore?_eq_some_iff valid]

theorem lastHours?_eq_none_iff (valid : now.isValid = true) :
    lastHours? hours now = none ↔ ¬ now.HasPast hours := by
  rw [hasPast_iff_hoursBefore? valid, lastHours?, Option.map_eq_none_iff, Option.eq_none_iff_forall_ne_some,
    not_exists]

theorem exists_past_of_lastHours? (recent : Recent now hours) {start : String}
    (found : lastHours? hours now = some { start := some start }) :
    ∃ past : Moment, past.Datable ∧ past.toSeconds = now.secondsBefore hours ∧ past.text = start := by
  obtain ⟨past, datable, instant⟩ := recent.exists_past
  have same := (lastHours?_eq_some_iff recent.valid).mpr ⟨past, ⟨datable.isValid, instant⟩, rfl⟩
  rw [found] at same
  cases same
  exact ⟨past, datable, instant, rfl⟩

end TimeRange

open TimeRange

theorem expressiblePart_time {range : TimeRange} (nameable : Nameable range) :
    expressiblePart { time := range } = { time := range } := by
  rw [expressiblePart, nameable.expressible]
  rfl

/-- A range that reaches back to a year with four digits begins exactly so many hours before now, with a
text of the layout of the store. The order of the texts is the order of the instants, over all calls: more
hours never give a later bound. Written and read again, the range is the same, alone as well as beside other
fields. -/
theorem lastHours?_of_recent (recent : Recent now hours) : ∃ start : String,
    lastHours? hours now = some { start := some start } ∧
    (start.length = 19 ∧
      ∃ past, Moment.ofText? start = some past ∧ past.toSeconds = now.toSeconds - 3600 * hours.toNat) ∧
    (∀ other more bound, Recent other more → lastHours? more other = some { start := some bound } →
      (start < bound ↔ now.secondsBefore hours < other.secondsBefore more) ∧
      (start = bound ↔ now.secondsBefore hours = other.secondsBefore more)) ∧
    (∀ more bound, Recent now more → hours ≤ more → lastHours? more now = some { start := some bound } →
      bound ≤ start) ∧
    (∀ filter : Filter, filter.time = { start := some start } →
      (∀ method ∈ filter.method.toList, method ∈ knownMethods) →
      (ofText filter.toText).time = { start := some start }) ∧
    ofText (toText { time := { start := some start } }) = { time := { start := some start } } := by
  obtain ⟨past, datable, instant⟩ := recent.exists_past
  have found := (lastHours?_eq_some_iff recent.valid).mpr ⟨past, ⟨datable.isValid, instant⟩, rfl⟩
  refine ⟨past.text, found, ⟨datable.length_text, past, datable.ofText?_text, instant⟩, ?_, ?_, ?_, ?_⟩
  · intro other more bound otherRecent otherFound
    obtain ⟨otherPast, otherDatable, otherInstant, rfl⟩ := exists_past_of_lastHours? otherRecent otherFound
    rw [← instant, ← otherInstant]
    exact ⟨datable.text_lt_iff otherDatable, datable.text_eq_iff otherDatable⟩
  · intro more bound otherRecent fewer otherFound
    obtain ⟨earlier, otherDatable, otherInstant, rfl⟩ := exists_past_of_lastHours? otherRecent otherFound
    have steps := UInt32.le_iff_toNat_le.mp fewer
    rw [← not_lt, datable.text_lt_iff otherDatable, instant, otherInstant, secondsBefore, secondsBefore]
    omega
  · intro filter same known
    rw [time_ofText_toText known, same, datable.nameable.expressible]
  · rw [ofText_toText_eq (List.forall_mem_nil _), expressiblePart_time datable.nameable]

theorem lastHours?_of_recent_century :
    Recent ⟨2000, 3, 1, 0, 59, 7⟩ 876601 ∧
    lastHours? 876601 ⟨2000, 3, 1, 0, 59, 7⟩ = some { start := some "1900-02-28T23:59:07" } ∧
    ofText (toText { time := { start := some "1900-02-28T23:59:07" } }) =
      { time := { start := some "1900-02-28T23:59:07" } } := by
  have recent : Recent ⟨2000, 3, 1, 0, 59, 7⟩ 876601 := ⟨by decide, by decide, by decide⟩
  have named : lastHours? 876601 ⟨2000, 3, 1, 0, 59, 7⟩ = some { start := some "1900-02-28T23:59:07" } := by
    decide
  obtain ⟨start, found, -, -, -, -, kept⟩ := lastHours?_of_recent recent
  rw [named] at found
  cases found
  exact ⟨recent, named, kept⟩

end

end Filter

namespace Command
open Filter.TimeRange

theorem Controls.filter_eq_error_iff (controls : Controls) (now : Moment) {failure : Failure} :
    controls.filter now = .error failure ↔
      failure = .tooLongAgo ∧ ∃ hours, controls.lastHours = some hours ∧ lastHours? hours now = none := by
  unfold filter
  cases controls.lastHours with
  | none => simp [pure, Except.pure, bind, Except.bind]
  | some hours =>
    cases found : lastHours? hours now <;>
      simp [found, pure, Except.pure, bind, Except.bind, throw, throwThe, MonadExceptOf.throw, eq_comm]

/-- Where the time range has no beginning, the program breaks off before it reads the query. -/
theorem runTask_compile_of_tooLongAgo {surroundings : Surroundings} {controls : Controls}
    (failed : controls.filter surroundings.now = .error .tooLongAgo) (common : Common) (profile : Profile) :
    runTask surroundings common profile (.compile controls) = { exit := 101 } := by
  unfold runTask
  simp only [failed]
  rfl

/-- A range that reaches back exists exactly if some moment of the calendar lies so many hours before now,
and it begins with the text of that moment. Otherwise there is no filter, and the program breaks off; nothing
else keeps controls from setting one. From the years with four digits the calendar reaches back 2297898336
hours. -/
theorem recent_ranges_within_calendar {now : Moment} (valid : now.isValid = true) (hours : UInt32) :
    (∀ past : Moment, past.isValid = true → past.toSeconds = now.toSeconds - 3600 * hours.toNat →
      lastHours? hours now = some { start := some past.text }) ∧
    (lastHours? hours now = none ↔ ¬ now.HasPast hours) ∧
    (∀ (controls : Controls) failure, controls.filter now = .error failure ↔
      failure = .tooLongAgo ∧ ∃ hours, controls.lastHours = some hours ∧ ¬ now.HasPast hours) ∧
    (∀ surroundings common profile (controls : Controls), surroundings.now = now →
      controls.lastHours = some hours → ¬ now.HasPast hours →
      runTask surroundings common profile (.compile controls) = { exit := 101 }) ∧
    ((∀ now : Moment, now.isValid = true → 0 ≤ now.year → now.year ≤ 9999 →
      ∃ range, lastHours? hours now = some range) ↔ hours ≤ 2297898336) := by
  have refused (controls : Controls) (failure : Failure) : controls.filter now = .error failure ↔
      failure = .tooLongAgo ∧ ∃ hours, controls.lastHours = some hours ∧ ¬ now.HasPast hours := by
    simp only [controls.filter_eq_error_iff, lastHours?_eq_none_iff valid]
  refine ⟨?_, lastHours?_eq_none_iff valid, refused, ?_, ?_⟩
  · intro past pastValid instant
    exact (lastHours?_eq_some_iff valid).mpr ⟨past, ⟨pastValid, instant⟩, rfl⟩
  · rintro surroundings common profile controls rfl asked lost
    exact runTask_compile_of_tooLongAgo ((refused _ _).mpr ⟨rfl, hours, asked, lost⟩) common profile
  · rw [← Moment.forall_hasPast_iff]
    refine forall₂_congr fun now valid => ?_
    rw [← Option.ne_none_iff_exists', ne_eq, lastHours?_eq_none_iff valid, not_not]

theorem recent_ranges_within_calendar_leap :
    Moment.isValid ⟨2000, 3, 1, 0, 59, 7⟩ = true ∧
      lastHours? 1 ⟨2000, 3, 1, 0, 59, 7⟩ = some { start := some "2000-02-29T23:59:07" } := by
  have valid : Moment.isValid ⟨2000, 3, 1, 0, 59, 7⟩ = true := by decide
  have text : Moment.text ⟨2000, 2, 29, 23, 59, 7⟩ = "2000-02-29T23:59:07" := by decide
  refine ⟨valid, ?_⟩
  rw [← text]
  exact (recent_ranges_within_calendar valid 1).1 ⟨2000, 2, 29, 23, 59, 7⟩ (by decide) (by decide)

/-- The largest number of hours leads out of the calendar, and no filter is set. -/
theorem not_recent_ranges_within_calendar_largest :
    Moment.isValid ⟨2024, 3, 2, 12, 30, 0⟩ = true ∧
      lastHours? 4294967295 ⟨2024, 3, 2, 12, 30, 0⟩ = none ∧
      Controls.filter { lastHours := some 4294967295 } ⟨2024, 3, 2, 12, 30, 0⟩ = .error .tooLongAgo := by
  have lost : lastHours? 4294967295 ⟨2024, 3, 2, 12, 30, 0⟩ = none := by decide
  exact ⟨by decide, lost, (Controls.filter_eq_error_iff _ _).mpr ⟨rfl, _, rfl, lost⟩⟩

end Command

end LogSieve
