import LogSieve.Proofs.FixedWidth
import LogSieve.Proofs.Instants
import LogSieve.Proofs.StableRanges

/-! Times as the log store has them: `2024-05-31T23:59:59`. In the years with four digits all such texts have
one length, each names its moment, and they stand in the order of time. None of them has four digits behind
a colon, so that they can serve as bounds in the text language. -/

namespace LogSieve.Moment
open Text Calendar

def number? (width : Nat) (text : List Char) : Option (Nat × List Char) :=
  if text.length < width then none else (decimal? (text.take width)).map (·, text.drop width)

def marked? (mark : Char) : List Char → Option (Nat × List Char)
  | [] => none
  | c :: text => if c = mark then number? 2 text else none

/-- The moment that a text names, if it has the layout of the store and there is such a moment. -/
def ofText? (text : String) : Option Moment := do
  let year ← number? 4 text.toList
  let month ← marked? '-' year.2
  let day ← marked? '-' month.2
  let hour ← marked? 'T' day.2
  let minute ← marked? ':' hour.2
  let second ← marked? ':' minute.2
  let moment : Moment :=
    { year := year.1, month := month.1, day := day.1, hour := hour.1, minute := minute.1,
      second := second.1 }
  if second.2 = [] ∧ moment.isValid = true then some moment else none

section
variable {width n : Nat}

theorem number?_padded (positive : 0 < width) (fits : n < 10 ^ width) (rest : List Char) :
    number? width (padded width n ++ rest) = some (n, rest) := by
  have length := length_padded positive fits
  have long : ¬ (padded width n ++ rest).length < width := by
    rw [List.length_append, length]
    omega
  rw [number?, if_neg long, List.take_left' length, List.drop_left' length, decimal?_padded]
  rfl

theorem marked?_padded (fits : n < 100) (mark : Char) (rest : List Char) :
    marked? mark (mark :: (padded 2 n ++ rest)) = some (n, rest) := by
  rw [marked?, if_pos rfl, number?_padded (by decide) (by omega)]

end

/-- A moment on the calendar in a year with four digits. -/
structure Datable (moment : Moment) : Prop extends Placed moment where
  year : 0 ≤ moment.year ∧ moment.year ≤ 9999

theorem Placed.month_lt {moment : Moment} (placed : moment.Placed) : moment.month < 100 := by
  obtain ⟨index, length, month, found, -, -⟩ := placed.day
  have within := (List.getElem?_eq_some_iff.mp found).1
  have twelve : (monthLengths moment.year).length = 12 := rfl
  omega

theorem Placed.day_lt {moment : Moment} (placed : moment.Placed) : moment.day < 100 := by
  obtain ⟨index, length, -, found, -, closes⟩ := placed.day
  have short : ∀ length ∈ monthLengths moment.year, length ≤ 31 := by
    unfold monthLengths
    split <;> decide
  have bound := short length (List.mem_of_getElem? found)
  omega

namespace Datable
variable {moment other : Moment}

theorem isValid (datable : moment.Datable) : moment.isValid = true := by
  have first : firstYear ≤ 0 := by decide
  have last : 9999 ≤ lastYear := by decide
  exact isValid_iff.mpr ⟨datable.toPlaced, first.trans datable.year.1, datable.year.2.trans last⟩

theorem toList_text (datable : moment.Datable) : moment.text.toList =
    padded 4 moment.year.toNat ++ ('-' :: (padded 2 moment.month ++ ('-' :: (padded 2 moment.day ++
      ('T' :: (padded 2 moment.hour ++ (':' :: (padded 2 moment.minute ++
        (':' :: (padded 2 moment.second ++ [])))))))))) := by
  rw [text, String.toList_ofList, yearText, if_pos datable.year]
  simp only [List.append_assoc, List.cons_append, List.append_nil]

theorem year_lt (datable : moment.Datable) : moment.year.toNat < 10 ^ 4 := by
  have last := datable.year.2
  omega

theorem length_text (datable : moment.Datable) : moment.text.length = 19 := by
  have two {n : Nat} (fits : n < 100) : (padded 2 n).length = 2 := length_padded (by decide) fits
  have four := length_padded (by decide) datable.year_lt
  rw [← String.length_toList, datable.toList_text]
  simp only [List.length_append, List.length_cons, List.length_nil, four, two datable.month_lt,
    two datable.day_lt, two (datable.hour.trans (by decide)), two (datable.minute.trans (by decide)),
    two (datable.second.trans (by decide))]

theorem ofText?_text (datable : moment.Datable) : ofText? moment.text = some moment := by
  have year : (moment.year.toNat : Int) = moment.year := Int.toNat_of_nonneg datable.year.1
  unfold ofText?
  rw [datable.toList_text, number?_padded (by decide) datable.year_lt]
  simp only [Option.bind_eq_bind, Option.bind_some, marked?_padded datable.month_lt,
    marked?_padded datable.day_lt, marked?_padded (datable.hour.trans (by decide : 24 < 100)),
    marked?_padded (datable.minute.trans (by decide : 60 < 100)),
    marked?_padded (datable.second.trans (by decide : 60 < 100)), year, datable.isValid, and_self,
    if_true]

theorem text_lt_iff_parts (first : moment.Datable) (second : other.Datable) :
    moment.text < other.text ↔ moment.parts < other.parts := by
  have two {n m : Nat} (fits : n < 100) (otherFits : m < 100) (more rest : List Char) :
      padded 2 n ++ more < padded 2 m ++ rest ↔ n < m ∨ n = m ∧ more < rest :=
    padded_append_lt_iff (by decide) fits otherFits more rest
  have mark (c : Char) (more rest : List Char) : c :: more < c :: rest ↔ more < rest := by
    rw [List.cons_lt_cons_iff]
    simp
  have yearOrder : moment.year.toNat < other.year.toNat ↔ moment.year < other.year := by
    have start := first.year.1
    omega
  have sameYear : moment.year.toNat = other.year.toNat ↔ moment.year = other.year := by
    have start := first.year.1
    have otherStart := second.year.1
    omega
  rw [String.lt_iff_toList_lt, first.toList_text, second.toList_text,
    padded_append_lt_iff (by decide) first.year_lt second.year_lt, yearOrder, sameYear,
    mark, two first.month_lt second.month_lt, mark, two first.day_lt second.day_lt,
    mark, two (first.hour.trans (by decide)) (second.hour.trans (by decide)),
    mark, two (first.minute.trans (by decide)) (second.minute.trans (by decide)),
    mark, two (first.second.trans (by decide)) (second.second.trans (by decide))]
  simp only [parts, List.cons_lt_cons_iff, Int.ofNat_lt, Int.natCast_inj, List.not_lt_nil]

/-- Of two texts the one that comes first names the earlier instant. -/
theorem text_lt_iff (first : moment.Datable) (second : other.Datable) :
    moment.text < other.text ↔ moment.toSeconds < other.toSeconds := by
  rw [text_lt_iff_parts first second, parts_lt_iff first.toPlaced second.toPlaced]

theorem text_eq_iff (first : moment.Datable) (second : other.Datable) :
    moment.text = other.text ↔ moment.toSeconds = other.toSeconds := by
  simp only [le_antisymm_iff, ← not_lt, text_lt_iff first second, text_lt_iff second first]

end Datable

end LogSieve.Moment

namespace LogSieve.Filter.TimeRange
open Text Moment

theorem isTimeChar_of_isAsciiDigit {c : Char} (digit : isAsciiDigit c = true) : isTimeChar c = true := by
  simp [isTimeChar, digit]

theorem spelled_of_isAsciiDigit {text : List Char} (nonempty : text ≠ [])
    (digits : ∀ c ∈ text, isAsciiDigit c = true) : Spelled text := by
  have apart (c : Char) (member : c ∈ text) : c ≠ ':' := by
    rintro rfl
    cases digits ':' member
  refine ⟨⟨nonempty, apart _ (List.head_mem nonempty), apart _ (List.getLast_mem nonempty)⟩, ?_⟩
  intro c member
  exact isTimeChar_of_isAsciiDigit (digits c member)

/-- A token keeps in one piece behind a text without colons. -/
theorem splitAtYear?_append_eq_none {front rest : List Char} (apart : ':' ∉ front)
    (whole : splitAtYear? rest = none) : splitAtYear? (front ++ rest) = none := by
  induction front with
  | nil => exact whole
  | cons c front ih =>
    rw [List.mem_cons, not_or] at apart
    rw [List.cons_append, splitAtYear?, ih apart.2, if_neg]
    · rfl
    · rw [Bool.and_eq_true, beq_iff_eq]
      rintro ⟨rfl, -⟩
      exact apart.1 rfl

theorem splitAtYear?_colon_eq_none {rest : List Char} (noYear : beginsWithYear rest = false)
    (whole : splitAtYear? rest = none) : splitAtYear? (':' :: rest) = none := by
  rw [splitAtYear?, noYear, whole, Bool.and_false]
  rfl

end LogSieve.Filter.TimeRange

namespace LogSieve.Moment.Datable
open Text Filter.TimeRange

variable {moment : Moment}

theorem not_colon_mem_padded {width n : Nat} : ':' ∉ padded width n := by
  intro member
  cases isAsciiDigit_of_mem_padded ':' member

theorem spelled_text (datable : moment.Datable) : Spelled moment.text.toList := by
  have digits {width n : Nat} : ∀ c ∈ padded width n, isTimeChar c = true := fun c member =>
    isTimeChar_of_isAsciiDigit (isAsciiDigit_of_mem_padded c member)
  have ends {width n : Nat} : Spelled (padded width n) :=
    spelled_of_isAsciiDigit padded_ne_nil isAsciiDigit_of_mem_padded
  have shape : moment.text.toList = padded 4 moment.year.toNat ++
      ('-' :: (padded 2 moment.month ++ ('-' :: (padded 2 moment.day ++ ('T' :: (padded 2 moment.hour ++
        (':' :: (padded 2 moment.minute ++ [':'])))))))) ++ padded 2 moment.second := by
    rw [datable.toList_text]
    simp only [List.append_assoc, List.cons_append, List.append_nil, List.nil_append]
  rw [shape]
  refine Spelled.join ends ends ?_
  simp only [List.forall_mem_cons, List.forall_mem_append]
  exact ⟨rfl, digits, rfl, digits, rfl, digits, rfl, digits, rfl, nofun⟩

theorem splitAtYear?_text (datable : moment.Datable) : splitAtYear? moment.text.toList = none := by
  have minutes (behind : List Char) :
      beginsWithYear (padded 2 moment.minute ++ (':' :: behind)) = false := by
    obtain ⟨a, b, pair⟩ := List.length_eq_two.mp
      (length_padded (by decide : 0 < 2) (datable.minute.trans (by decide : 60 < 10 ^ 2)))
    rw [pair]
    cases behind with
    | nil => rfl
    | cons d behind => simp [beginsWithYear, isAsciiDigit]
  have seconds : beginsWithYear (padded 2 moment.second ++ []) = false := by
    obtain ⟨a, b, pair⟩ := List.length_eq_two.mp
      (length_padded (by decide : 0 < 2) (datable.second.trans (by decide : 60 < 10 ^ 2)))
    rw [pair]
    rfl
  have lastPart := splitAtYear?_colon_eq_none seconds
    (splitAtYear?_append_eq_none not_colon_mem_padded rfl)
  have clock := splitAtYear?_colon_eq_none (minutes _)
    (splitAtYear?_append_eq_none not_colon_mem_padded lastPart)
  have front : ':' ∉ padded 4 moment.year.toNat ++ ('-' :: (padded 2 moment.month ++
      ('-' :: (padded 2 moment.day ++ ('T' :: padded 2 moment.hour))))) := by
    simp [not_colon_mem_padded]
  have whole := splitAtYear?_append_eq_none front clock
  rw [datable.toList_text]
  simpa only [List.append_assoc, List.cons_append] using whole

/-- A range that begins at the moment is read back from its operand. -/
theorem nameable (datable : moment.Datable) : Nameable { start := some moment.text } :=
  .start datable.spelled_text datable.splitAtYear?_text

end LogSieve.Moment.Datable
