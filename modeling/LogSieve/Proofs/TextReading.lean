import LogSieve.Proofs.OperandPattern
import LogSieve.Proofs.TermValues

/-! The reading of a text character by character. Four readers pass over blanks: separators take up those at
their sides, the field of a segment stands behind those in front, an operator may be parted from its operand
by some, and some part the tokens of an alternative. All of them take the same characters for blanks, so each
finds what stands in the words of the text, and the layout of the text tells none of them anything. -/

namespace LogSieve.Text

theorem takeWhile_takeWhile_of_imp {narrow wide : Char → Bool}
    (within : ∀ c, narrow c = true → wide c = true) (text : List Char) :
    (text.takeWhile wide).takeWhile narrow = text.takeWhile narrow := by
  rw [List.takeWhile_takeWhile]
  congr 1
  funext c
  cases inside : narrow c <;> simp_all

/-- The token of a text that has no other. -/
def onlyToken? (text : List Char) : Option (List Char) :=
  (nextToken? text).bind fun next => if (nextToken? next.2).isSome then none else some next.1

end LogSieve.Text

namespace LogSieve.Filter
open Text Grammar

/-- The field that a text is about: the letters and underscores behind the blanks in front of it. -/
def scanField? (text : List Char) : Option Field :=
  Field.ofKeyword? ((text.dropWhile isBlank).takeWhile isKeywordChar)

def scanStatuses (text : List Char) : List UInt16 := (runs isDigit text).filterMap statusOf?

def scanMethods (text : List Char) : List String := (runs isAsciiLetter text).filterMap knownMethod?

/-- The literal of one alternative: its operand, or the one token it consists of, unless that is the
field's own keyword. -/
def scanLiteral? (field : Field) (text : List Char) : Option String :=
  match scanOperand? false text with
  | some operand => some (String.ofList operand)
  | none =>
    ((onlyToken? text).filter fun token => !sameAscii field.keyword.toList token).map String.ofList

def scanPredicate? (field : Field) (parts : List (List Char)) : Option Predicate :=
  Predicate.ofValues? (parts.filterMap (scanLiteral? field))

def scanTime? (parts : List (List Char)) : Option TimeRange :=
  (parts.head?.bind (scanOperand? false)).bind TimeRange.ofOperand?

/-- What a segment does to a filter, given the texts of its alternatives. -/
def scanParts (filter : Filter) (parts : List (List Char)) : Filter :=
  match parts.head?.bind scanField? with
  | none => filter
  | some .status => { filter with status := filter.status.insertAll (parts.flatMap scanStatuses) }
  | some .method => { filter with method := filter.method.insertAll (parts.flatMap scanMethods) }
  | some .path => { filter with path := (scanPredicate? .path parts).or filter.path }
  | some .crawler => { filter with crawler := (scanPredicate? .crawler parts).or filter.crawler }
  | some .date => { filter with time := filter.time.override ((scanTime? parts).getD {}) }

def scanSegment (filter : Filter) (segment : List Char) : Filter :=
  scanParts filter (pieces "or".toList (trim segment))

/-- The filter of a text, read from its characters. -/
def scanText (text : String) : Filter :=
  (pieces "and".toList (trim text.toList)).foldl scanSegment {}

theorem isWordChar_of_isKeywordChar {c : Char} (letter : isKeywordChar c = true) :
    isWordChar c = true := by
  rw [isKeywordChar, Bool.or_eq_true] at letter
  rcases letter with letter | underscore
  · exact isWordChar_of_isAsciiLetter letter
  · simp [isWordChar, isAsciiWord, underscore]

theorem scanField?_eq (text : List Char) : scanField? text =
    (words text).head?.bind fun word => Field.ofKeyword? (word.takeWhile isKeywordChar) := by
  have visible (c : Char) (letter : isKeywordChar c = true) : isVisible c = true :=
    isVisible_of_isWordChar (isWordChar_of_isKeywordChar letter)
  rw [← token?_eq_head?_words, token?, nextToken?, scanField?]
  cases text.dropWhile isBlank with
  | nil => rfl
  | cons c rest => exact congrArg Field.ofKeyword? (takeWhile_takeWhile_of_imp visible _).symm

theorem onlyToken?_eq_some_iff {text token : List Char} :
    onlyToken? text = some token ↔ words text = [token] := by
  unfold onlyToken?
  cases found : nextToken? text with
  | none => simp [words_of_nextToken?_eq_none found]
  | some next =>
    rw [words_of_nextToken? found, Option.bind_some]
    cases later : nextToken? next.2 with
    | none => simp [words_of_nextToken?_eq_none later]
    | some more => simp [words_of_nextToken? later]

theorem scanLiteral?_eq (field : Field) (text : List Char) :
    scanLiteral? field text = literal? field (words text) := by
  unfold scanLiteral? literal?
  rw [scanOperand?_eq_operand?_words]
  cases operand? (words text) with
  | some operand => rfl
  | none =>
    cases found : onlyToken? text with
    | some token =>
      rw [onlyToken?_eq_some_iff.mp found]
      cases own : sameAscii field.keyword.toList token <;> simp [own]
    | none =>
      dsimp only
      split
      next word single => exact absurd (found.symm.trans (onlyToken?_eq_some_iff.mpr single)) nofun
      next => rfl

theorem flatMap_flatten_words {α : Type} (values : Word → List α) (parts : List (List Char)) :
    (parts.map words).flatten.flatMap values = parts.flatMap fun part => (words part).flatMap values := by
  induction parts with
  | nil => rfl
  | cons part parts ih => rw [List.map_cons, List.flatten_cons, List.flatMap_append, ih, List.flatMap_cons]

section
variable {parts : List (List Char)} {clause : List Word} (cut : parts.map words = alternatives clause)
include cut

theorem flatMap_scanStatuses :
    parts.flatMap scanStatuses = (alternatives clause).flatten.flatMap wordStatuses := by
  simp only [← cut, flatMap_flatten_words, wordStatuses_words]
  rfl

theorem flatMap_scanMethods :
    parts.flatMap scanMethods = (alternatives clause).flatten.flatMap wordMethods := by
  simp only [← cut, flatMap_flatten_words, wordMethods_words]
  rfl

theorem head?_scanField? : parts.head?.bind scanField? = clauseField? clause := by
  rw [clauseField?, ← cut]
  cases parts with
  | nil => rfl
  | cons part parts => exact scanField?_eq part

theorem scanPredicate?_eq (field : Field) : scanPredicate? field parts = clausePredicate? field clause := by
  have same : scanLiteral? field = literal? field ∘ words := funext (scanLiteral?_eq field)
  rw [scanPredicate?, clausePredicate?, ← cut, same, List.filterMap_map]

theorem scanTime?_eq : scanTime? parts = clauseTime? clause := by
  rw [clauseTime?, ← cut]
  cases parts with
  | nil => rfl
  | cons part parts => exact congrArg (·.bind TimeRange.ofOperand?) (scanOperand?_eq_operand?_words part)

theorem scanParts_eq (filter : Filter) : scanParts filter parts = applyClause filter clause := by
  unfold scanParts applyClause
  rw [head?_scanField? cut]
  cases clauseField? clause with
  | none => rfl
  | some field =>
    cases field with
    | status => simp only [flatMap_scanStatuses cut]
    | method => simp only [flatMap_scanMethods cut]
    | path => simp only [scanPredicate?_eq cut]
    | crawler => simp only [scanPredicate?_eq cut]
    | date => simp only [scanTime?_eq cut]

end

theorem scanSegment_eq (filter : Filter) (segment : List Char) :
    scanSegment filter segment = applyClause filter (words segment) :=
  scanParts_eq (map_words_pieces_trim (fun _ => solid_of_isOr) segment) filter

/-- Character by character or word by word, a text has the same filter. -/
theorem scanText_eq_ofText (text : String) : scanText text = ofText text := by
  have cut : clauses text.toList = (pieces "and".toList (trim text.toList)).map words :=
    (map_words_pieces_trim (fun _ => solid_of_isAnd) text.toList).symm
  rw [ofText, cut, List.foldl_map, scanText]
  congr 1
  funext filter segment
  exact scanSegment_eq filter segment

/-- A text means the same in any layout. Without the blanks at its ends, and with one space in the place of
every run of blanks, it has the same filter, with the members of its sets in the same order, be it read
character by character or word by word; and what is then left is the words with one space between them. -/
theorem scanText_collapse_trim (text : String) :
    collapse (trim text.toList) = [' '].intercalate (words text.toList) ∧
    scanText (String.ofList (collapse (trim text.toList))) = scanText text ∧
    scanText text = ofText text ∧
    ofText (String.ofList (collapse (trim text.toList))) = ofText text := by
  have kept : ofText (String.ofList (collapse (trim text.toList))) = ofText text := by
    unfold ofText clauses
    rw [String.toList_ofList, words_collapse_trim]
  refine ⟨collapse_trim text.toList, ?_, scanText_eq_ofText text, kept⟩
  rw [scanText_eq_ofText, scanText_eq_ofText, kept]

end LogSieve.Filter
