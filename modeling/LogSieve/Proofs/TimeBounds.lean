import LogSieve.Filter.TimeRange
import LogSieve.Proofs.Grammar
import LogSieve.Proofs.Letters
import LogSieve.Proofs.Runs

/-! Bounds read from an operand hold no character beyond the alphabet of times. An operand that reads
back as its own range is therefore a single word and no separator. -/

namespace LogSieve.Filter.TimeRange
open Text

theorem mem_of_mem_dropEndColons {text : List Char} {c : Char} (member : c ∈ dropEndColons text) :
    c ∈ text := by
  rw [dropEndColons, List.mem_reverse] at member
  exact List.mem_reverse.mp ((List.dropWhile_suffix _).subset member)

theorem splitAtYear?_append {token before after : List Char}
    (parted : splitAtYear? token = some (before, after)) : token = before ++ ':' :: after := by
  induction token generalizing before with
  | nil => simp [splitAtYear?] at parted
  | cons c rest ih =>
    rw [splitAtYear?] at parted
    split at parted
    next here =>
      simp only [Bool.and_eq_true, beq_iff_eq] at here
      simp only [Option.some.injEq, Prod.mk.injEq] at parted
      simp [here.1, ← parted.1, ← parted.2]
    next =>
      obtain ⟨⟨left, right⟩, below, same⟩ := Option.map_eq_some_iff.mp parted
      simp only [Prod.mk.injEq] at same
      obtain ⟨rfl, rfl⟩ := same
      simp [ih below]

/-- Both bounds of a range within a class of characters. -/
def Within (inClass : Char → Bool) (range : TimeRange) : Prop :=
  (∀ start ∈ range.start, ∀ c ∈ start.toList, inClass c = true) ∧
    ∀ stop ∈ range.stop, ∀ c ∈ stop.toList, inClass c = true

theorem within_of_ofOperand? {operand : List Char} {range : TimeRange}
    (found : ofOperand? operand = some range) : range.Within isTimeChar := by
  have times : ∀ c ∈ dropEndColons (operand.takeWhile isTimeChar), isTimeChar c = true :=
    fun c member => List.mem_takeWhile_imp (mem_of_mem_dropEndColons member)
  unfold ofOperand? at found
  split at found
  next => cases found
  next rest token =>
    cases found
    refine ⟨by simp, ?_⟩
    rintro _ ⟨⟩ c member
    rw [String.toList_ofList] at member
    rw [token] at times
    exact times c (List.mem_cons_of_mem _ ((List.dropWhile_suffix _).subset member))
  next _ token _ =>
    split at found
    next before after parted =>
      cases found
      rw [splitAtYear?_append parted] at times
      refine ⟨?_, ?_⟩ <;> rintro _ ⟨⟩ c member <;> rw [String.toList_ofList] at member
      · exact times c (List.mem_append_left _ (mem_of_mem_dropEndColons member))
      · exact times c (List.mem_append_right _ (List.mem_cons_of_mem _ member))
    next =>
      cases found
      refine ⟨?_, by simp⟩
      rintro _ ⟨⟩ c member
      exact times c (by simpa using member)

theorem isTimeChar_of_operand? {range : TimeRange} {operand : String}
    (within : range.Within isTimeChar) (written : range.operand? = some operand) :
    ∀ c ∈ operand.toList, isTimeChar c = true := by
  obtain ⟨start, stop⟩ := range
  have colon : isTimeChar ':' = true := by decide
  intro c member
  cases start with
  | none =>
    cases stop with
    | none => cases written
    | some stop =>
      cases written
      simp only [String.toList_append, List.mem_append] at member
      rcases member with sign | inside
      · simp_all
      · exact within.2 stop rfl c inside
  | some start =>
    cases stop with
    | none => cases written; exact within.1 operand rfl c member
    | some stop =>
      cases written
      simp only [String.toList_append, List.mem_append] at member
      rcases member with (inside | sign) | inside
      · exact within.1 start rfl c inside
      · simp_all
      · exact within.2 stop rfl c inside

private theorem toLower_of_isTimeChar {c : Char} (time : isTimeChar c = true) :
    c.toLower = c ∨ c = 'T' := by
  simp only [isTimeChar, Bool.or_eq_true, beq_iff_eq] at time
  rcases time with ((digit | capital) | rfl) | rfl
  · left
    refine Char.toLower_eq_of_not_isUpper ?_
    simp only [isAsciiDigit, Char.isUpper, Char.le_def, UInt32.le_iff_toNat_le, Bool.and_eq_true,
      decide_eq_true_eq, Char.reduceVal, UInt32.reduceToNat] at digit ⊢
    omega
  · exact .inr capital
  · exact .inl (by decide)
  · exact .inl (by decide)

private theorem not_isBlank_of_isTimeChar {c : Char} (time : isTimeChar c = true) :
    isBlank c = false := by
  simp only [isTimeChar, Bool.or_eq_true, beq_iff_eq] at time
  rcases time with ((digit | rfl) | rfl) | rfl
  · exact not_isBlank_of_isDigit (by simp [isDigit, digit])
  all_goals decide

/-- A text in the alphabet of times is one word and no separator. -/
theorem writable_of_isTimeChar {text : List Char} (nonempty : text ≠ [])
    (times : ∀ c ∈ text, isTimeChar c = true) : Grammar.Writable text := by
  have absent (letter : Char) {keyword : List Char} (member : letter ∈ lowerAscii keyword)
      (foreign : isTimeChar letter = false ∧ letter ≠ 't') : sameAscii keyword text = false := by
    by_contra same
    rw [sameAscii_iff.mp (by simpa using same)] at member
    obtain ⟨c, inside, lower⟩ := List.mem_map.mp member
    rcases toLower_of_isTimeChar (times c inside) with kept | rfl
    · simp [← lower, kept, times c inside] at foreign
    · exact foreign.2 lower.symm
  exact
    { nonempty
      solid := fun c member => not_isBlank_of_isTimeChar (times c member)
      notAnd := absent 'a' (by decide) (by decide)
      notOr := absent 'o' (by decide) (by decide) }

theorem writable_of_faithfulOperand? {range : TimeRange} {operand : String}
    (faithful : range.faithfulOperand? = some operand) : Grammar.Writable operand.toList := by
  obtain ⟨written, same⟩ := Option.filter_eq_some_iff.mp faithful
  have found : ofOperand? operand.toList = some range := by simpa using same
  refine writable_of_isTimeChar ?_ (isTimeChar_of_operand? (within_of_ofOperand? found) written)
  intro empty
  rw [empty] at found
  cases found

end LogSieve.Filter.TimeRange
