import LogSieve.Proofs.Letters
import LogSieve.Filter.Clause

/-! Operators inside a single word. A word that stands alone is searched for an operator before it is
taken for a value, so that a value with an operator in it loses all but what stands behind the first
one. An operator at the very end of the word takes nothing away. -/

namespace LogSieve.Filter
open Text

/-- `sign` is an operator between the two texts at its sides: an equality sign anywhere, or `contains`
with no word character next to it. Where `before` is empty, `inside` tells what went by before it. -/
def Operates (inside : Bool) (before sign after : List Char) : Prop :=
  sign = ['='] ∨ isKeyword "contains".toList sign = true ∧
    before.getLast?.elim inside isWordChar = false ∧ after.head?.any isWordChar = false

def HoldsOperator (word : Word) : Prop :=
  ∃ before sign after, word = before ++ (sign ++ after) ∧ after ≠ [] ∧ Operates false before sign after

variable {inside : Bool} {before sign after : List Char}

theorem Operates.cons {c : Char} (operates : Operates (isWordChar c) before sign after) :
    Operates inside (c :: before) sign after := by
  refine operates.imp_right fun ⟨keyword, left, right⟩ => ⟨keyword, ?_, right⟩
  rw [List.getLast?_cons]
  cases last : before.getLast? <;> simpa [last] using left

theorem Operates.of_cons {c : Char} (operates : Operates inside (c :: before) sign after) :
    Operates (isWordChar c) before sign after := by
  refine operates.imp_right fun ⟨keyword, left, right⟩ => ⟨keyword, ?_, right⟩
  rw [List.getLast?_cons] at left
  cases last : before.getLast? <;> simpa [last] using left

theorem Operates.sign_ne_nil (operates : Operates inside before sign after) : sign ≠ [] := by
  rintro rfl
  rcases operates with sign | ⟨keyword, -⟩
  · cases sign
  · cases keyword

theorem afterContains?_eq_some_iff {text : List Char} : afterContains? text = some after ↔
    ∃ sign, text = sign ++ after ∧ isKeyword "contains".toList sign = true ∧
      after.head?.any isWordChar = false := by
  rw [afterContains?, Option.filter_eq_some_iff, Bool.not_eq_true']
  constructor
  · rintro ⟨found, right⟩
    obtain ⟨sign, keyword, rfl⟩ := exists_of_afterKeyword? found
    exact ⟨sign, rfl, keyword, right⟩
  · rintro ⟨sign, rfl, keyword, right⟩
    exact ⟨afterKeyword?_append (beq_iff_eq.mp keyword) after, right⟩

theorem operates_of_afterOperator? {word : Word} (found : afterOperator? inside word = some after) :
    ∃ before sign, word = before ++ (sign ++ after) ∧ Operates inside before sign after := by
  induction word generalizing inside with
  | nil => cases found
  | cons c rest ih =>
    rw [afterOperator?] at found
    split at found
    next equals =>
      obtain rfl := Option.some.inj found
      exact ⟨[], ['='], by simpa using equals, .inl rfl⟩
    next =>
      split at found
      next tail contains =>
        obtain rfl := Option.some.inj found
        split at contains
        next => cases contains
        next outside =>
          obtain ⟨sign, shape, keyword, right⟩ := afterContains?_eq_some_iff.mp contains
          exact ⟨[], sign, shape, .inr ⟨keyword, Bool.eq_false_of_not_eq_true outside, right⟩⟩
      next =>
        obtain ⟨before, sign, rfl, operates⟩ := ih found
        exact ⟨c :: before, sign, rfl, operates.cons⟩

theorem Operates.afterContains?_ne_nil (operates : Operates inside before sign after)
    (more : after ≠ []) : afterContains? (before ++ (sign ++ after)) ≠ some [] := by
  intro found
  obtain ⟨spelling, shape, keyword, -⟩ := afterContains?_eq_some_iff.mp found
  have folded := beq_iff_eq.mp keyword
  rw [List.append_nil] at shape
  rw [← shape, List.map_append, List.map_append] at folded
  rcases operates with rfl | ⟨other, -⟩
  · have foreign : fold '=' ∉ "contains".toList := by decide
    exact foreign (folded ▸ by simp)
  · have lengths := congrArg List.length folded
    rw [beq_iff_eq.mp other] at lengths
    have followed := List.length_pos_iff.mpr more
    simp only [List.length_append, List.length_map] at lengths
    omega

theorem exists_afterOperator? (operates : Operates inside before sign after) (more : after ≠ []) :
    ∃ tail, tail ≠ [] ∧ afterOperator? inside (before ++ (sign ++ after)) = some tail := by
  generalize whole : before ++ (sign ++ after) = word
  induction word generalizing inside before with
  | nil => simp [more] at whole
  | cons c rest ih =>
    rw [afterOperator?]
    split
    next =>
      have long : 1 < (c :: rest).length := by
        have signed := List.length_pos_iff.mpr operates.sign_ne_nil
        have followed := List.length_pos_iff.mpr more
        rw [← whole, List.length_append, List.length_append]
        omega
      exact ⟨rest, List.ne_nil_of_length_pos (Nat.lt_of_succ_lt_succ long), rfl⟩
    next plain =>
      cases contains : if inside then none else afterContains? (c :: rest) with
      | some tail =>
        refine ⟨tail, ?_, rfl⟩
        rintro rfl
        split at contains
        next => cases contains
        next => exact operates.afterContains?_ne_nil more (whole ▸ contains)
      | none =>
        cases before with
        | nil =>
          rcases operates with rfl | ⟨keyword, left, right⟩
          · obtain ⟨rfl, -⟩ := List.cons.inj whole
            exact absurd rfl plain
          · have outside : inside = false := left
            have found := afterContains?_eq_some_iff.mpr ⟨sign, whole.symm, keyword, right⟩
            rw [outside] at contains
            exact absurd (contains.symm.trans found) nofun
        | cons d before =>
          obtain ⟨rfl, shape⟩ := List.cons.inj whole
          exact ih operates.of_cons shape

/-- What a word that stands alone is taken for. -/
def heard (word : Word) : Word := (operand? [word]).getD word

theorem operand?_singleton (word : Word) :
    operand? [word] = (afterOperator? false word).filter fun tail => !tail.isEmpty := by
  rw [operand?]
  cases afterOperator? false word with
  | none => rfl
  | some tail => cases tail <;> rfl

theorem operand?_singleton_isSome_iff {word : Word} :
    (operand? [word]).isSome = true ↔ HoldsOperator word := by
  rw [operand?_singleton, Option.isSome_iff_exists]
  constructor
  · rintro ⟨tail, found⟩
    obtain ⟨found, visible⟩ := Option.filter_eq_some_iff.mp found
    obtain ⟨before, sign, shape, operates⟩ := operates_of_afterOperator? found
    exact ⟨before, sign, tail, shape, by simpa using visible, operates⟩
  · rintro ⟨before, sign, after, rfl, more, operates⟩
    obtain ⟨tail, visible, found⟩ := exists_afterOperator? operates more
    exact ⟨tail, Option.filter_eq_some_iff.mpr ⟨found, by simpa using visible⟩⟩

instance (word : Word) : Decidable (HoldsOperator word) :=
  decidable_of_iff _ operand?_singleton_isSome_iff

/-- A word is taken as it is exactly if it holds no operator, and is shortened otherwise. -/
theorem heard_eq_self_iff {word : Word} : heard word = word ↔ ¬ HoldsOperator word := by
  rw [← operand?_singleton_isSome_iff, heard]
  cases found : operand? [word] with
  | none => simp
  | some tail =>
    refine iff_of_false ?_ (fun absent => absent rfl)
    rw [operand?_singleton] at found
    obtain ⟨before, sign, shape, operates⟩ :=
      operates_of_afterOperator? (Option.filter_eq_some_iff.mp found).1
    intro same
    have lengths := congrArg List.length (same.trans shape)
    have signed := List.length_pos_iff.mpr operates.sign_ne_nil
    simp only [Option.getD_some, List.length_append] at lengths
    omega

/-- Unless it is the keyword of its field, a word that stands alone gives the literal it is taken for. -/
theorem literal?_singleton {field : Field} {word : Word}
    (foreign : sameAscii field.keyword.toList word = false) :
    literal? field [word] = some (String.ofList (heard word)) := by
  unfold literal? heard
  cases operand? [word] with
  | some tail => rfl
  | none => simp [foreign]

end LogSieve.Filter
