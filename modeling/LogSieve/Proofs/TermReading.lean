import LogSieve.Proofs.Grammar
import LogSieve.Proofs.Separators

/-! How one term reads back. Its words depend on where the writer left blanks; the operator that
counts, its operand and the runs taken from it do not. -/

namespace LogSieve.Filter.Grammar
open Text

theorem keyword_small (field : Field) : SmallLetters field.keyword.toList := by
  cases field <;> constructor <;> simp [Field.keyword, isAsciiLetter, lowerAscii]

theorem contains_small : SmallLetters "contains".toList := by
  constructor <;> simp [isAsciiLetter, lowerAscii]

namespace Spelling
variable {keyword : String}

theorem letters (spelling : Spelling keyword) (small : SmallLetters keyword.toList) :
    ∀ c ∈ spelling.text, isAsciiLetter c = true :=
  letters_of_sameAscii spelling.same small.letters

theorem text_ne_nil (spelling : Spelling keyword) (nonempty : keyword ≠ "") :
    spelling.text ≠ [] := by
  intro empty
  have same := sameAscii_iff.mp spelling.same
  rw [empty] at same
  exact nonempty (String.toList_eq_nil_iff.mp (List.map_eq_nil_iff.mp same))

end Spelling

/-- A text that is one word. -/
structure Solid (text : List Char) : Prop where
  nonempty : text ≠ []
  noBlank : ∀ c ∈ text, isBlank c = false

theorem Solid.words {text : List Char} (solid : Solid text) : words text = [text] :=
  runs_eq_singleton solid.nonempty (by simpa using solid.noBlank)

theorem Solid.sign {text : List Char} (noBlank : ∀ c ∈ text, isBlank c = false) :
    Solid ('=' :: text) := by
  refine ⟨by simp, ?_⟩
  intro c member
  rcases List.mem_cons.mp member with rfl | member
  · decide
  · exact noBlank c member

theorem Solid.append {left right : List Char} (first : Solid left) (second : Solid right) :
    Solid (left ++ right) := by
  refine ⟨by simp [first.nonempty], ?_⟩
  intro c member
  rcases List.mem_append.mp member with member | member
  · exact first.noBlank c member
  · exact second.noBlank c member

theorem solid_takeWhile {c : Char} (visible : isBlank c = false) (text : List Char) :
    Solid ((c :: text).takeWhile isVisible) := by
  refine ⟨?_, fun d member => isVisible_eq_true.mp (List.mem_takeWhile_imp member)⟩
  rw [List.takeWhile_cons_of_pos (by simp [visible])]
  exact List.cons_ne_nil c _

theorem head?_dropWhile_isVisible (text : List Char) :
    (text.dropWhile isVisible).head?.all isBlank = true := by
  have ended := List.head?_dropWhile_not isVisible text
  cases first : (text.dropWhile isVisible).head? with
  | none => rfl
  | some c =>
    rw [first] at ended
    exact isVisible_eq_false.mp ended

theorem exists_word {c : Char} (visible : isBlank c = false) (text : List Char) :
    ∃ word tail, c :: text = word ++ tail ∧ Solid word ∧ tail.head?.all isBlank = true :=
  ⟨_, _, List.takeWhile_append_dropWhile.symm, solid_takeWhile visible text,
    head?_dropWhile_isVisible (c :: text)⟩

theorem ne_sign_of_isAsciiLetter {c : Char} (letter : isAsciiLetter c = true) : c ≠ '=' := by
  rintro rfl
  simp [isAsciiLetter] at letter

theorem Spelling.solid {keyword : String} (spelling : Spelling keyword) (nonempty : keyword ≠ "")
    (small : SmallLetters keyword.toList) : Solid spelling.text :=
  ⟨spelling.text_ne_nil nonempty, fun c member =>
    not_isBlank_of_isAsciiLetter (spelling.letters small c member)⟩

theorem Value.solid (value : Value) : Solid value.text :=
  ⟨value.writable.nonempty, value.writable.solid⟩

theorem words_append_blank (before after : List Char) {blanks : List Char} (nonempty : blanks ≠ [])
    (blank : ∀ c ∈ blanks, isBlank c = true) :
    words (before ++ (blanks ++ after)) = words before ++ words after :=
  runs_append_gap before after nonempty (by simpa using blank)

/-- The words that an operator makes with the words on its sides. Blanks around `=` are optional, so
that there are one, two or three of them. -/
def Operator.words (operator : Operator) (left right : Word) : List Word :=
  match operator with
  | equals [] [] _ => [left ++ '=' :: right]
  | equals [] (_ :: _) _ => [left ++ ['='], right]
  | equals (_ :: _) [] _ => [left, '=' :: right]
  | equals (_ :: _) (_ :: _) _ => [left, ['='], right]
  | contains _ keyword _ => [left, keyword.text, right]

theorem Operator.words_text (operator : Operator) {left right : Word} (first : Solid left)
    (last : Solid right) : Text.words (left ++ (operator.text ++ right)) = operator.words left right := by
  have alone : Solid ['='] := Solid.sign (by simp)
  have signed : Solid ('=' :: right) := Solid.sign last.noBlank
  cases operator with
  | equals before after blank =>
    have leftBlank : ∀ c ∈ before, isBlank c = true := fun c member =>
      blank c (List.mem_append_left after member)
    have rightBlank : ∀ c ∈ after, isBlank c = true := fun c member =>
      blank c (List.mem_append_right before member)
    cases before with
    | nil =>
      cases after with
      | nil => simpa [words, text] using (first.append signed).words
      | cons b after =>
        have parted := words_append_blank (left ++ ['=']) right (by simp) rightBlank
        rw [(first.append alone).words, last.words] at parted
        simpa [words, text] using parted
    | cons b before =>
      cases after with
      | nil =>
        have parted := words_append_blank left ('=' :: right) (by simp) leftBlank
        rw [first.words, signed.words] at parted
        simpa [words, text] using parted
      | cons d after =>
        have parted := words_append_blank left (['='] ++ (d :: after ++ right)) (by simp) leftBlank
        rw [words_append_blank ['='] right (by simp) rightBlank, first.words, alone.words,
          last.words] at parted
        simpa [words, text] using parted
  | contains before keyword after =>
    have middle := keyword.solid (by decide) contains_small
    have parted := words_append_blank left (keyword.text ++ (after.text ++ right))
      before.nonempty before.blank
    rw [words_append_blank keyword.text right after.nonempty after.blank, first.words, middle.words,
      last.words] at parted
    simpa [words, text] using parted

/-- A word that is no separator. -/
structure Plain (word : Word) : Prop where
  notAnd : isAnd word = false
  notOr : isOr word = false

theorem Plain.of_sign {word : Word} (sign : '=' ∈ word) : Plain word := by
  refine ⟨?_, ?_⟩ <;> rw [← Bool.not_eq_true] <;> intro separator
  · have letters := letters_of_sameAscii (isAnd_iff.mp separator) (by simp [isAsciiLetter])
    exact ne_sign_of_isAsciiLetter (letters _ sign) rfl
  · have letters := letters_of_sameAscii (isOr_iff.mp separator) (by simp [isAsciiLetter])
    exact ne_sign_of_isAsciiLetter (letters _ sign) rfl

theorem Spelling.plain {keyword : String} (spelling : Spelling keyword)
    (notAnd : sameAscii "and".toList keyword.toList = false)
    (notOr : sameAscii "or".toList keyword.toList = false) : Plain spelling.text := by
  have same := sameAscii_iff.mp spelling.same
  simp only [sameAscii, same] at notAnd notOr
  refine ⟨?_, ?_⟩ <;> rw [← Bool.not_eq_true]
  · rw [isAnd_iff, sameAscii, notAnd]; simp
  · rw [isOr_iff, sameAscii, notOr]; simp

theorem Value.plain (value : Value) : Plain value.text := by
  refine ⟨?_, ?_⟩ <;> rw [← Bool.not_eq_true]
  · rw [isAnd_iff, value.writable.notAnd]; simp
  · rw [isOr_iff, value.writable.notOr]; simp

theorem Operator.words_plain (operator : Operator) {left right : Word} (first : Plain left)
    (last : Plain right) : ∀ word ∈ operator.words left right, Plain word := by
  intro word member
  cases operator with
  | equals before after blank =>
    cases before <;> cases after <;> simp only [words, List.mem_cons, List.not_mem_nil, or_false] at member
    · exact member ▸ Plain.of_sign (by simp)
    · rcases member with rfl | rfl
      · exact Plain.of_sign (by simp)
      · exact last
    · rcases member with rfl | rfl
      · exact first
      · exact Plain.of_sign (by simp)
    · rcases member with rfl | rfl | rfl
      · exact first
      · exact Plain.of_sign (by simp)
      · exact last
  | contains before keyword after =>
    simp only [words, List.mem_cons, List.not_mem_nil, or_false] at member
    rcases member with rfl | rfl | rfl
    · exact first
    · exact keyword.plain (by decide) (by decide)
    · exact last

/-- No operator starts inside a run of letters. -/
private theorem afterOperator?_letters {letters : List Char}
    (inside : ∀ c ∈ letters, isAsciiLetter c = true) :
    afterOperator? true letters = none ∧
      ∀ rest, afterOperator? true (letters ++ '=' :: rest) = some rest := by
  induction letters with
  | nil => simp [afterOperator?]
  | cons c letters ih =>
    have letter := inside c List.mem_cons_self
    have noSign := ne_sign_of_isAsciiLetter letter
    have below := ih fun d member => inside d (List.mem_cons_of_mem c member)
    simpa [afterOperator?, noSign, isWordChar_of_isAsciiLetter letter] using below

/-- A field's keyword does not begin like `contains`. -/
private theorem afterContains?_keyword {field : Field} (keyword : Spelling field.keyword)
    (rest : List Char) : afterContains? (keyword.text ++ rest) = none := by
  have folded := map_fold_of_sameAscii (keyword_small field) keyword.same
  rw [afterContains?, afterKeyword?_eq_none]
  · rfl
  · rw [List.map_append, folded]
    cases field <;> simp [Field.keyword]

theorem afterOperator?_keyword {field : Field} (keyword : Spelling field.keyword) :
    afterOperator? false keyword.text = none ∧
      ∀ rest, afterOperator? false (keyword.text ++ '=' :: rest) = some rest := by
  have noContains := afterContains?_keyword keyword
  have letters := keyword.letters (keyword_small field)
  obtain ⟨c, text, shape⟩ := List.exists_cons_of_ne_nil
    (keyword.text_ne_nil (by cases field <;> decide))
  rw [shape] at noContains letters ⊢
  have letter := letters c List.mem_cons_self
  have noSign := ne_sign_of_isAsciiLetter letter
  have below := afterOperator?_letters fun d member => letters d (List.mem_cons_of_mem c member)
  have start := noContains []
  simp only [List.append_nil, List.cons_append] at start noContains ⊢
  simpa [afterOperator?, noSign, start, noContains, isWordChar_of_isAsciiLetter letter] using below

theorem afterOperator?_contains (keyword : Spelling "contains") :
    afterOperator? false keyword.text = some [] := by
  have folded := map_fold_of_sameAscii contains_small keyword.same
  have found := afterKeyword?_append folded []
  have letters := keyword.letters contains_small
  obtain ⟨c, text, shape⟩ := List.exists_cons_of_ne_nil (keyword.text_ne_nil (by decide))
  rw [List.append_nil] at found
  rw [shape] at found letters ⊢
  have letter := letters c List.mem_cons_self
  have noSign := ne_sign_of_isAsciiLetter letter
  have start : afterContains? (c :: text) = some [] := by
    rw [afterContains?]
    exact Option.filter_eq_some_iff.mpr ⟨found, rfl⟩
  simp [afterOperator?, noSign, start]

namespace Term
variable {field : Field}

theorem keyword_letters (term : Term field) : ∀ c ∈ term.keyword.text, isAsciiLetter c = true :=
  term.keyword.letters (keyword_small field)

theorem keyword_solid (term : Term field) : Solid term.keyword.text :=
  term.keyword.solid (by cases field <;> decide) (keyword_small field)

def words (term : Term field) : List Word := term.operator.words term.keyword.text term.value.text

theorem words_text (term : Term field) : Text.words term.text = term.words :=
  term.operator.words_text term.keyword_solid term.value.solid

theorem words_plain (term : Term field) : ∀ word ∈ term.words, Plain word :=
  term.operator.words_plain
    (term.keyword.plain (by cases field <;> decide) (by cases field <;> decide)) term.value.plain

/-- The leftmost operator of a term is its own, whatever its value holds. -/
theorem operand?_words (term : Term field) : operand? term.words = some term.value.text := by
  obtain ⟨keyword, operator, value⟩ := term
  obtain ⟨none, signed⟩ := afterOperator?_keyword keyword
  obtain ⟨c, rest, shape⟩ := List.exists_cons_of_ne_nil value.writable.nonempty
  cases operator with
  | equals before after blank =>
    cases before <;> cases after <;>
      simp [words, Operator.words, operand?, none, signed, shape, afterOperator?]
  | contains before word after =>
    simp [words, Operator.words, operand?, none, afterOperator?_contains word]

end Term

end LogSieve.Filter.Grammar
