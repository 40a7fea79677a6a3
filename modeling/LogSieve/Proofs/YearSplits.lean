import LogSieve.Proofs.ReadFilters

/-! Where an operand falls into two bounds: at its first colon with a year behind it. What a well-formed
bound is read as follows from there: one bound alone, or two with any number of colons between them. -/

namespace LogSieve.Filter.TimeRange
open Text

structure Year (text : List Char) : Prop where
  four : text.length = 4
  digits : ∀ c ∈ text, isAsciiDigit c = true

instance (text : List Char) : Decidable (Year text) :=
  decidable_of_iff (text.length = 4 ∧ text.all isAsciiDigit = true)
    ⟨fun ⟨four, digits⟩ => ⟨four, List.all_eq_true.mp digits⟩,
      fun valid => ⟨valid.four, List.all_eq_true.mpr valid.digits⟩⟩

theorem Year.ne_nil {year : List Char} (valid : Year year) : year ≠ [] := by
  rintro rfl
  cases valid.four

theorem Year.no_colon {year : List Char} (valid : Year year) : ':' ∉ year := by
  intro member
  cases valid.digits ':' member

theorem beginsWithYear_iff {text : List Char} : beginsWithYear text = true ↔
    ∃ year tail, Year year ∧ text = year ++ tail ∧ (tail = [] ∨ ∃ more, tail = '-' :: more) := by
  constructor
  · intro begins
    unfold beginsWithYear at begins
    split at begins
    next a b c d tail =>
      simp only [Bool.and_eq_true, List.all_eq_true, Bool.or_eq_true, List.isEmpty_iff,
        beq_iff_eq] at begins
      refine ⟨[a, b, c, d], tail, ⟨rfl, begins.1⟩, rfl, begins.2.imp_right fun hyphen => ?_⟩
      exact ⟨tail.tail, (List.cons_head?_tail hyphen).symm⟩
    next => cases begins
  · rintro ⟨year, tail, valid, rfl, ended⟩
    obtain ⟨a, b, c, d, rfl⟩ := List.length_eq_four.mp valid.four
    have digits : [a, b, c, d].all isAsciiDigit = true := List.all_eq_true.mpr valid.digits
    rcases ended with rfl | ⟨more, rfl⟩
    · simp [beginsWithYear, digits]
    · simp [beginsWithYear, digits]

/-- A year before a colon needs its hyphen: what stands behind the colon is no matter. -/
theorem beginsWithYear_append_colon {text behind : List Char} :
    beginsWithYear (text ++ ':' :: behind) = true ↔
      ∃ year more, Year year ∧ text = year ++ '-' :: more := by
  rw [beginsWithYear_iff]
  constructor
  · rintro ⟨year, tail, valid, same, ended⟩
    rcases List.append_eq_append_iff.mp same with ⟨longer, rfl, rest⟩ | ⟨more, rfl, rfl⟩
    · cases longer with
      | nil =>
        rcases ended with rfl | ⟨more, rfl⟩
        · cases rest
        · cases (List.cons.inj rest).1
      | cons c longer =>
        obtain ⟨rfl, -⟩ := List.cons.inj rest
        exact absurd (List.mem_append_right _ List.mem_cons_self) valid.no_colon
    · cases more with
      | nil =>
        rcases ended with none | ⟨_, hyphen⟩
        · cases none
        · cases (List.cons.inj hyphen).1
      | cons c more =>
        rcases ended with none | ⟨_, hyphen⟩
        · cases none
        · obtain ⟨rfl, -⟩ := List.cons.inj hyphen
          exact ⟨year, more, valid, rfl⟩
  · rintro ⟨year, more, valid, rfl⟩
    refine ⟨year, '-' :: (more ++ ':' :: behind), valid, by simp, .inr ⟨_, rfl⟩⟩

theorem splitAtYear?_eq_none_iff {token : List Char} : splitAtYear? token = none ↔
    ∀ before after, token = before ++ ':' :: after → beginsWithYear after = false := by
  induction token with
  | nil => simp [splitAtYear?]
  | cons c rest ih =>
    rw [splitAtYear?]
    split
    next here =>
      rw [Bool.and_eq_true, beq_iff_eq] at here
      obtain ⟨rfl, year⟩ := here
      refine iff_of_false (Option.some_ne_none _) fun none => ?_
      have absent := none [] rest rfl
      rw [year] at absent
      cases absent
    next elsewhere =>
      rw [Option.map_eq_none_iff, ih]
      constructor
      · intro none before after same
        cases before with
        | nil =>
          obtain ⟨rfl, rfl⟩ := List.cons.inj same
          simpa using elsewhere
        | cons d before => exact none before after (List.cons.inj same).2
      · intro none before after same
        exact none (c :: before) after (congrArg (c :: ·) same)

/-- The colon that parts a token is the first one with a year behind it. -/
theorem splitAtYear?_eq_some_iff {token before after : List Char} :
    splitAtYear? token = some (before, after) ↔
      token = before ++ ':' :: after ∧ beginsWithYear after = true ∧
        ∀ front rest, before = front ++ ':' :: rest →
          beginsWithYear (rest ++ ':' :: after) = false := by
  constructor
  · intro parted
    refine ⟨splitAtYear?_append parted, beginsWithYear_of_splitAtYear? parted, ?_⟩
    induction token generalizing before with
    | nil => cases parted
    | cons c token ih =>
      rw [splitAtYear?] at parted
      split at parted
      next =>
        obtain ⟨rfl, -⟩ := Prod.mk.inj (Option.some.inj parted)
        intro front rest same
        cases front <;> cases same
      next elsewhere =>
        obtain ⟨⟨left, right⟩, below, same⟩ := Option.map_eq_some_iff.mp parted
        obtain ⟨rfl, rfl⟩ := Prod.mk.inj same
        intro front rest shape
        cases front with
        | nil =>
          obtain ⟨rfl, rfl⟩ := List.cons.inj shape
          simpa [splitAtYear?_append below] using elsewhere
        | cons d front => exact ih below front rest (List.cons.inj shape).2
  · rintro ⟨rfl, year, first⟩
    induction before with
    | nil => simp [splitAtYear?, year]
    | cons c before ih =>
      have below := ih fun front rest same => first (c :: front) rest (congrArg (c :: ·) same)
      rw [List.cons_append, splitAtYear?, if_neg, below]
      · rfl
      · rw [Bool.and_eq_true, beq_iff_eq]
        rintro ⟨rfl, earlier⟩
        rw [first [] before rfl] at earlier
        cases earlier

theorem dropEndColons_append_replicate (text : List Char) (colons : Nat) :
    dropEndColons (text ++ List.replicate colons ':') = dropEndColons text := by
  induction colons with
  | zero => rw [List.replicate_zero, List.append_nil]
  | succ colons ih =>
    rw [List.replicate_succ', ← List.append_assoc]
    exact (List.rdropWhile_concat_pos _ _ ':' rfl).trans ih

theorem exists_eq_dropEndColons_append (text : List Char) :
    ∃ colons, text = dropEndColons text ++ List.replicate colons ':' := by
  have ended : text.rdropWhile (· == ':') ++ text.rtakeWhile (· == ':') = text :=
    List.rdropWhile_append_rtakeWhile
  have colons : ∀ c ∈ text.rtakeWhile (· == ':'), c = ':' := by
    intro c member
    have colon := List.mem_rtakeWhile_imp member
    exact beq_iff_eq.mp colon
  refine ⟨(text.rtakeWhile (· == ':')).length, ?_⟩
  rw [← List.eq_replicate_of_mem colons]
  exact ended.symm

theorem Tight.dropEndColons {text : List Char} (tight : Tight text) :
    TimeRange.dropEndColons text = text :=
  List.rdropWhile_eq_self_iff.mpr fun _ colon => tight.closes (beq_iff_eq.mp colon)

theorem Tight.dropWhile {text : List Char} (tight : Tight text) :
    text.dropWhile (· == ':') = text := by
  obtain ⟨c, rest, rfl⟩ := List.exists_cons_of_ne_nil tight.nonempty
  have opens : (c == ':') = false := beq_eq_false_iff_ne.mpr tight.opens
  rw [List.dropWhile_cons, opens]
  rfl

/-- Colons before the parting one can be left out, which parts the token at no earlier place. -/
theorem splitAtYear?_dropEndColons {token before after : List Char}
    (parted : splitAtYear? token = some (before, after)) :
    splitAtYear? (dropEndColons before ++ ':' :: after) = some (dropEndColons before, after) := by
  obtain ⟨-, year, first⟩ := splitAtYear?_eq_some_iff.mp parted
  obtain ⟨colons, shape⟩ := exists_eq_dropEndColons_append before
  refine splitAtYear?_eq_some_iff.mpr ⟨rfl, year, fun front rest same => ?_⟩
  by_contra begins
  obtain ⟨digits, more, valid, rfl⟩ :=
    beginsWithYear_append_colon.mp (Bool.eq_true_of_not_eq_false begins)
  have earlier := first front (digits ++ '-' :: more ++ List.replicate colons ':') (by
    rw [shape, same]
    simp)
  rw [beginsWithYear_append_colon.mpr ⟨digits, more ++ List.replicate colons ':', valid, by simp⟩]
    at earlier
  cases earlier

theorem isTimeChar_of_mem_colons {colons : Nat} :
    ∀ c ∈ List.replicate colons ':', isTimeChar c = true := by
  intro c member
  rw [List.eq_of_mem_replicate member]
  rfl

namespace Spelled

theorem token {text : List Char} (spelled : Spelled text) (trailing : Nat) :
    TimeRange.dropEndColons ((text ++ List.replicate trailing ':').takeWhile isTimeChar) = text := by
  have times : ∀ c ∈ text ++ List.replicate trailing ':', isTimeChar c = true :=
    List.forall_mem_append.mpr ⟨spelled.times, isTimeChar_of_mem_colons⟩
  rw [List.takeWhile_eq_self_iff.mpr times, dropEndColons_append_replicate,
    spelled.toTight.dropEndColons]

theorem join {left middle right : List Char} (first : Spelled left) (last : Spelled right)
    (times : ∀ c ∈ middle, isTimeChar c = true) : Spelled (left ++ middle ++ right) := by
  refine ⟨⟨by simp [first.nonempty], ?_, ?_⟩, ?_⟩
  · simpa [List.head_append_of_ne_nil, first.nonempty] using first.opens
  · simpa [List.getLast_append_of_ne_nil, last.nonempty] using last.closes
  · exact List.forall_mem_append.mpr ⟨List.forall_mem_append.mpr ⟨first.times, times⟩, last.times⟩

end Spelled

section
variable {operand token start stop : List Char}

theorem ofOperand?_of_tight (made : dropEndColons (operand.takeWhile isTimeChar) = token)
    (tight : Tight token) : ofOperand? operand = some ((splitAtYear? token).elim
      { start := some (String.ofList token) } fun parts =>
        { start := some (String.ofList (dropEndColons parts.1)), stop := some (String.ofList parts.2) }) := by
  unfold ofOperand?
  rw [made]
  split
  next => exact absurd rfl tight.nonempty
  next => exact absurd rfl tight.opens
  next =>
    cases splitAtYear? token with
    | none => rfl
    | some parts => rfl

theorem ofOperand?_start (spelled : Spelled start) (whole : splitAtYear? start = none)
    (trailing : Nat) : ofOperand? (start ++ List.replicate trailing ':') =
      some { start := some (String.ofList start) } := by
  rw [ofOperand?_of_tight (spelled.token trailing) spelled.toTight, whole]
  rfl

theorem ofOperand?_stop (spelled : Spelled stop) (colons : Nat) :
    ofOperand? (List.replicate (colons + 1) ':' ++ stop) =
      some { stop := some (String.ofList stop) } := by
  have times : ∀ c ∈ List.replicate (colons + 1) ':' ++ stop, isTimeChar c = true :=
    List.forall_mem_append.mpr ⟨isTimeChar_of_mem_colons, spelled.times⟩
  have made : dropEndColons ((List.replicate (colons + 1) ':' ++ stop).takeWhile isTimeChar) =
      ':' :: (List.replicate colons ':' ++ stop) := by
    rw [List.takeWhile_eq_self_iff.mpr times]
    refine List.rdropWhile_eq_self_iff.mpr fun nonempty colon => ?_
    rw [List.getLast_append_of_ne_nil nonempty spelled.nonempty] at colon
    exact spelled.closes (beq_iff_eq.mp colon)
  have dropped : (List.replicate colons ':' ++ stop).dropWhile (· == ':') = stop := by
    rw [List.dropWhile_append_of_pos fun c member => beq_iff_eq.mpr (List.eq_of_mem_replicate member),
      spelled.toTight.dropWhile]
  unfold ofOperand?
  rw [made]
  simp only [dropped]

/-- Of several colons between two bounds the last one parts them, and the others are dropped. -/
theorem ofOperand?_both (first : Spelled start) (last : Spelled stop) (colons : Nat)
    (parted : splitAtYear? (start ++ List.replicate colons ':' ++ ':' :: stop) =
      some (start ++ List.replicate colons ':', stop)) :
    ofOperand? (start ++ List.replicate (colons + 1) ':' ++ stop) =
      some { start := some (String.ofList start), stop := some (String.ofList stop) } := by
  have shape : start ++ List.replicate (colons + 1) ':' ++ stop =
      start ++ List.replicate colons ':' ++ ':' :: stop := by
    rw [List.replicate_succ']
    simp
  have spelled : Spelled (start ++ List.replicate colons ':' ++ ':' :: stop) := by
    rw [← shape]
    exact first.join last isTimeChar_of_mem_colons
  have made := spelled.token 0
  rw [List.replicate_zero, List.append_nil] at made
  rw [shape, ofOperand?_of_tight made spelled.toTight, parted]
  simp only [Option.elim_some, dropEndColons_append_replicate, first.toTight.dropEndColons]

end

end LogSieve.Filter.TimeRange
