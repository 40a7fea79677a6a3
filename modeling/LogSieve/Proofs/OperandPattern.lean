import LogSieve.Proofs.SeparatorPattern
import LogSieve.Proofs.WordOperators

/-! Operands in the text itself. Behind an operator stand any blanks and a token, all that is visible up to
the next blank. Operators are sought from the left, and one without a token behind it counts for nothing.
Reading word by word finds the same operand: no operator has a blank in it, so each lies in one word, and
its token is the rest of this word or, where nothing is left of it, the word that follows. -/

namespace LogSieve.Text

/-- The token behind the blanks in front of a text, and what follows it. -/
def nextToken? (text : List Char) : Option (List Char × List Char) :=
  match text.dropWhile isBlank with
  | [] => none
  | c :: rest => some ((c :: rest).takeWhile isVisible, (c :: rest).dropWhile isVisible)

def token? (text : List Char) : Option (List Char) := (nextToken? text).map Prod.fst

theorem words_dropWhile_isBlank (text : List Char) : words (text.dropWhile isBlank) = words text := by
  have blank : ∀ c ∈ text.takeWhile isBlank, isVisible c = false := fun c member =>
    isVisible_eq_false.mpr (List.mem_takeWhile_imp member)
  have skipped : words (text.takeWhile isBlank ++ text.dropWhile isBlank) =
      words (text.dropWhile isBlank) := runs_skip blank _
  rw [← skipped, List.takeWhile_append_dropWhile]

end LogSieve.Text

namespace LogSieve.Filter
open Text Grammar

section
variable {text token rest : List Char}

theorem words_of_nextToken? (found : nextToken? text = some (token, rest)) :
    words text = token :: words rest := by
  have front := head?_dropWhile_isBlank text
  rw [← words_dropWhile_isBlank text]
  unfold nextToken? at found
  cases bare : text.dropWhile isBlank with
  | nil => simp [bare] at found
  | cons c more =>
    rw [bare] at found front
    obtain ⟨rfl, rfl⟩ := Prod.mk.inj (Option.some.inj found)
    exact words_cons_eq_takeWhile front more

theorem words_of_nextToken?_eq_none (absent : nextToken? text = none) : words text = [] := by
  rw [← words_dropWhile_isBlank text]
  unfold nextToken? at absent
  cases bare : text.dropWhile isBlank with
  | nil => rfl
  | cons c more => simp [bare] at absent

theorem token?_eq_head?_words (text : List Char) : token? text = (words text).head? := by
  unfold token?
  cases found : nextToken? text with
  | none => rw [words_of_nextToken?_eq_none found]; rfl
  | some next => rw [words_of_nextToken? found]; rfl

end

/-- The operand of an operator at the front of a text; `inside` says that a word character has just gone by,
so that no keyword can start. -/
def operandHere? (inside : Bool) (text : List Char) : Option (List Char) :=
  (if text.head? = some '=' then some text.tail
    else if inside then none else afterContains? text).bind token?

/-- The operand of the leftmost operator that has one. -/
def scanOperand? (inside : Bool) : List Char → Option (List Char)
  | [] => none
  | c :: text => (operandHere? inside (c :: text)).or (scanOperand? (isWordChar c) text)

variable {inside : Bool} {c : Char} {text word tail : List Char}

theorem isWordChar_of_isContains {sign : List Char} (same : isKeyword "contains".toList sign = true) :
    ∀ c ∈ sign, isWordChar c = true :=
  isWordChar_of_isKeyword contains_small.letters same

theorem afterContains?_cons_eq_none (foreign : isWordChar c = false) : afterContains? (c :: text) = none := by
  refine Option.eq_none_iff_forall_ne_some.mpr fun after found => ?_
  obtain ⟨sign, shape, same, -⟩ := afterContains?_eq_some_iff.mp found
  cases sign with
  | nil => cases same
  | cons d sign =>
    obtain ⟨rfl, -⟩ := List.cons.inj shape
    rw [isWordChar_of_isContains same c List.mem_cons_self] at foreign
    cases foreign

theorem operandHere?_of_ne (other : c ≠ '=') : operandHere? inside (c :: text) =
    (if inside then none else afterContains? (c :: text)).bind token? := by
  rw [operandHere?, if_neg (by simpa using other)]

theorem ne_sign_of_isBlank (blank : isBlank c = true) : c ≠ '=' := by
  rintro rfl
  revert blank
  decide

theorem ne_sign_of_isWordChar (letter : isWordChar c = true) : c ≠ '=' := by
  rintro rfl
  revert letter
  decide +kernel

theorem scanOperand?_cons_blank (blank : isBlank c = true) :
    scanOperand? inside (c :: text) = scanOperand? false text := by
  have foreign := not_isWordChar_of_isBlank blank
  rw [scanOperand?, operandHere?_of_ne (ne_sign_of_isBlank blank), afterContains?_cons_eq_none foreign,
    foreign, ite_self]
  rfl

theorem scanOperand?_of_words_eq_nil (empty : words text = []) : scanOperand? inside text = none := by
  induction text generalizing inside with
  | nil => rfl
  | cons c text ih =>
    cases blank : isBlank c with
    | true =>
      rw [words_cons_blank blank] at empty
      rw [scanOperand?_cons_blank blank, ih empty]
    | false =>
      rw [words_cons_eq_takeWhile blank] at empty
      cases empty

/-- No operator begins within a word that has begun, unless there is an equality sign in it. -/
theorem scanOperand?_letters (letters : ∀ c ∈ word, isWordChar c = true) (empty : words tail = []) :
    scanOperand? true (word ++ tail) = none := by
  induction word with
  | nil => exact scanOperand?_of_words_eq_nil empty
  | cons c word ih =>
    have letter := letters c List.mem_cons_self
    have below := ih fun d member => letters d (List.mem_cons_of_mem c member)
    rw [List.cons_append, scanOperand?, operandHere?_of_ne (ne_sign_of_isWordChar letter), letter, below]
    rfl

theorem token?_or {later : Option (List Char)} (silent : words text = [] → later = none) :
    (token? text).or later = token? text := by
  rw [token?_eq_head?_words]
  cases held : words text with
  | nil => rw [silent held]; rfl
  | cons word more => rfl

theorem any_isWordChar_head?_append (parted : tail.head?.all isBlank = true) (rest : List Char) :
    (rest ++ tail).head?.any isWordChar = rest.head?.any isWordChar := by
  cases rest with
  | cons c rest => rfl
  | nil =>
    cases tail with
    | nil => rfl
    | cons c tail => exact not_isWordChar_of_isBlank parted

theorem exists_of_begins {rest : List Char}
    (found : (if inside then none else afterContains? (c :: word)) = some rest) :
    ∃ letters, word = letters ++ rest ∧ ∀ d ∈ c :: letters, isWordChar d = true := by
  split at found
  next => cases found
  next =>
    obtain ⟨sign, shape, same, -⟩ := afterContains?_eq_some_iff.mp found
    cases sign with
    | nil => cases same
    | cons d letters =>
      obtain ⟨rfl, split⟩ := List.cons.inj shape
      exact ⟨letters, split, isWordChar_of_isContains same⟩

/-- The keyword is found in a word as it is found in the text that the word begins. -/
theorem afterContains?_append (parted : tail.head?.all isBlank = true) (word : List Char) :
    afterContains? (word ++ tail) = (afterContains? word).map (· ++ tail) := by
  ext after
  rw [afterContains?_eq_some_iff, Option.map_eq_some_iff]
  constructor
  · rintro ⟨sign, shape, same, ends⟩
    rcases List.append_eq_append_iff.mp shape with ⟨more, rfl, rfl⟩ | ⟨more, rfl, rfl⟩
    · cases more with
      | nil => exact ⟨[], afterContains?_eq_some_iff.mpr ⟨word, by simp, by simpa using same, rfl⟩, rfl⟩
      | cons c more =>
        have letter := isWordChar_of_isContains same c (by simp)
        rw [not_isWordChar_of_isBlank parted] at letter
        cases letter
    · rw [any_isWordChar_head?_append parted] at ends
      exact ⟨more, afterContains?_eq_some_iff.mpr ⟨sign, rfl, same, ends⟩, rfl⟩
  · rintro ⟨rest, found, rfl⟩
    obtain ⟨sign, rfl, same, ends⟩ := afterContains?_eq_some_iff.mp found
    refine ⟨sign, List.append_assoc _ _ _, same, ?_⟩
    rw [any_isWordChar_head?_append parted, ends]

/-- A word has the operand that stands behind its own operator, or else none but those behind it. -/
theorem scanOperand?_append (parted : tail.head?.all isBlank = true) (word : List Char) (inside : Bool) :
    scanOperand? inside (word ++ tail) =
      (afterOperator? inside word).elim (scanOperand? false tail) fun rest => token? (rest ++ tail) := by
  induction word generalizing inside with
  | nil =>
    cases tail with
    | nil => rfl
    | cons c tail =>
      rw [List.nil_append, scanOperand?_cons_blank parted, afterOperator?, Option.elim_none,
        scanOperand?_cons_blank parted]
  | cons c word ih =>
    by_cases sign : c = '='
    · subst sign
      exact token?_or scanOperand?_of_words_eq_nil
    · have kept : (if inside then none else afterContains? (c :: (word ++ tail))) =
          (if inside then none else afterContains? (c :: word)).map (· ++ tail) := by
        rw [← List.cons_append, afterContains?_append parted]
        cases inside <;> rfl
      rw [List.cons_append, scanOperand?, operandHere?_of_ne sign, kept, afterOperator?,
        beq_false_of_ne sign, if_neg Bool.false_ne_true]
      cases found : if inside then none else afterContains? (c :: word) with
      | none => exact ih (isWordChar c)
      | some rest =>
        obtain ⟨letters, rfl, spelled⟩ := exists_of_begins found
        refine token?_or fun empty => ?_
        rw [spelled c List.mem_cons_self, List.append_assoc]
        exact scanOperand?_letters (fun d member => spelled d (List.mem_cons_of_mem c member)) empty

/-- Sought in the text or word by word, the operand is the same. -/
theorem scanOperand?_eq_operand?_words (text : List Char) :
    scanOperand? false text = operand? (words text) := by
  cases text with
  | nil => rfl
  | cons c text =>
    cases blank : isBlank c with
    | true =>
      rw [scanOperand?_cons_blank blank, words_cons_blank blank]
      exact scanOperand?_eq_operand?_words text
    | false =>
      obtain ⟨word, tail, cut, solid, parted⟩ := exists_word blank text
      have shorter : tail.length < (c :: text).length := by
        have some := List.length_pos_iff.mpr solid.nonempty
        rw [cut, List.length_append]
        omega
      rw [cut, scanOperand?_append parted, words_append_word solid parted, operand?]
      cases found : afterOperator? false word with
      | none => exact scanOperand?_eq_operand?_words tail
      | some rest =>
        cases rest with
        | nil => exact token?_eq_head?_words tail
        | cons e rest =>
          obtain ⟨before, sign, rfl, -⟩ := operates_of_afterOperator? found
          have own : Solid (e :: rest) := ⟨List.cons_ne_nil e rest, fun d member =>
            solid.noBlank d (by simp [List.mem_cons.mp member])⟩
          rw [Option.elim_some, token?_eq_head?_words, words_append_word own parted]
          rfl
termination_by text.length
decreasing_by
  · exact shorter
  · exact Nat.lt_succ_self _

/-- The sign is the operand of the keyword in front of it. -/
example : scanOperand? false "path contains\u2003=\t".toList = some ['='] := by decide +kernel

end LogSieve.Filter
