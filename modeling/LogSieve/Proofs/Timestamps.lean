import LogSieve.Proofs.YearSplits

/-! Times hold colons themselves. As long as no four digits follow one of these, they are told apart from
the colons between two bounds: a start with any times in it and a stop that begins with a year are read as
they were written. -/

namespace LogSieve.Filter.TimeRange
open Text

/-- No colon with four digits right behind it. -/
def Clear (text : List Char) : Prop :=
  ∀ front year behind, Year year → text ≠ front ++ ':' :: (year ++ behind)

instance (text : List Char) : Decidable (Clear text) :=
  decidable_of_iff (text.tails.all (fun ending =>
      !(ending.head? == some ':' && decide (Year (ending.tail.take 4)))) = true) <| by
    simp only [List.all_eq_true, List.mem_tails, Bool.not_eq_true', Bool.and_eq_false_iff,
      beq_eq_false_iff_ne, decide_eq_false_iff_not]
    constructor
    · rintro apart front year behind valid rfl
      rcases apart (':' :: (year ++ behind)) (List.suffix_append _ _) with opens | none
      · exact opens rfl
      · rw [List.tail_cons, ← valid.four, List.take_left] at none
        exact none valid
    · rintro clear ending ⟨front, rfl⟩
      by_contra follows
      simp only [not_or, not_not] at follows
      obtain ⟨opens, valid⟩ := follows
      refine clear front (ending.tail.take 4) (ending.tail.drop 4) valid ?_
      rw [List.take_append_drop, List.cons_head?_tail opens]

theorem Clear.concat {text : List Char} (clear : Clear text) : Clear (text ++ [':']) := by
  intro front year behind valid same
  rcases behind.eq_nil_or_concat with rfl | ⟨inner, last, rfl⟩
  · have ends := congrArg List.getLast? same
    rw [List.append_nil, List.getLast?_concat, List.getLast?_append_of_ne_nil _ (List.cons_ne_nil ':' year),
      List.getLast?_cons_of_ne_nil valid.ne_nil] at ends
    exact valid.no_colon (List.mem_of_getLast? ends.symm)
  · have shape : text ++ [':'] = front ++ ':' :: (year ++ inner) ++ [last] := by
      rw [same]
      simp
    exact clear front year inner valid (List.append_inj_left' shape rfl)

theorem Clear.append_replicate {text : List Char} (clear : Clear text) (colons : Nat) :
    Clear (text ++ List.replicate colons ':') := by
  induction colons with
  | zero => rwa [List.replicate_zero, List.append_nil]
  | succ colons ih =>
    rw [List.replicate_succ', ← List.append_assoc]
    exact ih.concat

theorem Clear.splitAtYear?_eq_none {text : List Char} (clear : Clear text) :
    splitAtYear? text = none := by
  rw [splitAtYear?_eq_none_iff]
  intro before after same
  by_contra begins
  obtain ⟨year, tail, valid, rfl, -⟩ := beginsWithYear_iff.mp (Bool.eq_true_of_not_eq_false begins)
  exact clear before year tail valid same

theorem Clear.splitAtYear?_append {before after : List Char} (clear : Clear before)
    (year : beginsWithYear after = true) :
    splitAtYear? (before ++ ':' :: after) = some (before, after) := by
  rw [splitAtYear?_eq_some_iff]
  refine ⟨rfl, year, ?_⟩
  intro front rest same
  by_contra begins
  obtain ⟨year, more, valid, rfl⟩ :=
    beginsWithYear_append_colon.mp (Bool.eq_true_of_not_eq_false begins)
  exact clear front year ('-' :: more) valid same

/-- A start in the alphabet of times: no colon at either end, and none that four digits follow. -/
structure Timestamp (text : List Char) : Prop extends Spelled text where
  clear : Clear text

/-- A stop that begins with a year, alone or with a hyphen and more of a time behind it. -/
structure Dated (text : List Char) : Prop where
  begins : ∃ year tail, Year year ∧ text = year ++ tail ∧
    (tail = [] ∨ ∃ more, tail = '-' :: more ∧ ∀ c ∈ more, isTimeChar c = true)
  closes : ∀ nonempty : text ≠ [], text.getLast nonempty ≠ ':'

namespace Dated
variable {stop : List Char}

theorem beginsWithYear (dated : Dated stop) : TimeRange.beginsWithYear stop = true := by
  obtain ⟨year, tail, valid, shape, ended⟩ := dated.begins
  refine beginsWithYear_iff.mpr ⟨year, tail, valid, shape, ended.imp_right ?_⟩
  rintro ⟨more, hyphen, -⟩
  exact ⟨more, hyphen⟩

theorem spelled (dated : Dated stop) : Spelled stop := by
  refine ⟨tight_of_beginsWithYear dated.beginsWithYear dated.closes, ?_⟩
  obtain ⟨year, tail, valid, rfl, ended⟩ := dated.begins
  intro c member
  rcases List.mem_append.mp member with digit | behind
  · simp [isTimeChar, valid.digits c digit]
  · rcases ended with rfl | ⟨more, rfl, times⟩
    · cases behind
    · rcases List.mem_cons.mp behind with rfl | inside
      · rfl
      · exact times c inside

end Dated

/-- However many colons stand between a start and a dated stop, and whatever colons the times hold, the
two are read as the bounds; each of them alone is read as itself, with colons at its outer side. -/
theorem ofOperand?_timestamps {start stop : List Char} {colons : Nat} (timestamp : Timestamp start)
    (dated : Dated stop) (present : 1 ≤ colons) :
    ofOperand? (start ++ List.replicate colons ':' ++ stop) =
      some { start := some (String.ofList start), stop := some (String.ofList stop) } ∧
    (∀ trailing, ofOperand? (start ++ List.replicate trailing ':') =
      some { start := some (String.ofList start) }) ∧
    ofOperand? (List.replicate colons ':' ++ stop) =
      some { stop := some (String.ofList stop) } := by
  obtain ⟨more, rfl⟩ := Nat.exists_eq_add_of_le' present
  have whole := timestamp.clear.splitAtYear?_eq_none
  have parted := (timestamp.clear.append_replicate more).splitAtYear?_append dated.beginsWithYear
  exact ⟨ofOperand?_both timestamp.toSpelled dated.spelled more parted,
    ofOperand?_start timestamp.toSpelled whole, ofOperand?_stop dated.spelled more⟩

theorem ofOperand?_timestamps_tripled :
    (Timestamp "2024-01-01T10:00".toList ∧ Dated "2024-01-02T08:30".toList) ∧
    ofOperand? "2024-01-01T10:00:::2024-01-02T08:30".toList =
      some { start := some "2024-01-01T10:00", stop := some "2024-01-02T08:30" } := by
  have timestamp : Timestamp "2024-01-01T10:00".toList :=
    { nonempty := by decide
      opens := by decide
      closes := by decide
      times := List.all_eq_true.mp (by decide)
      clear := by decide +kernel }
  have dated : Dated "2024-01-02T08:30".toList :=
    { begins := ⟨"2024".toList, "-01-02T08:30".toList, by decide, by decide,
        .inr ⟨"01-02T08:30".toList, by decide, List.all_eq_true.mp (by decide)⟩⟩
      closes := by decide }
  have read := (ofOperand?_timestamps timestamp dated (by decide : 1 ≤ 3)).1
  rw [String.ofList_toList, String.ofList_toList] at read
  exact ⟨⟨timestamp, dated⟩, read⟩

end LogSieve.Filter.TimeRange
