import LogSieve.Catalog
import LogSieve.Filter.Basic
import LogSieve.Filter.Separator

/-! Filters from text. The first word of a clause says which field it is about. The operators are `=` and
`contains`: the leftmost one in an alternative counts, and its operand runs from there to the next blank, the
rest of the word it stands in or else the word after it. Reading never fails: a clause that names no field,
or gives no usable value, changes nothing, and the rest of the text still counts. -/

namespace LogSieve.Filter

/-- What follows `contains` where it stands as a whole word at the start of `text`. -/
def afterContains? (text : List Char) : Option (List Char) :=
  (Text.afterKeyword? ['c', 'o', 'n', 't', 'a', 'i', 'n', 's'] text).filter fun rest =>
    !rest.head?.any Text.isWordChar

/-- What follows the leftmost operator of a word; `inside` says that a word character has just gone
by, so that no keyword can start. -/
def afterOperator? (inside : Bool) : Word → Option (List Char)
  | [] => none
  | c :: rest =>
    if c == '=' then some rest
    else
      match if inside then none else afterContains? (c :: rest) with
      | some tail => some tail
      | none => afterOperator? (Text.isWordChar c) rest

def operand? : List Word → Option Word
  | [] => none
  | word :: rest =>
    match afterOperator? false word with
    | some [] => rest.head?
    | some tail => some tail
    | none => operand? rest

def isKeywordChar (c : Char) : Bool := Text.isAsciiLetter c || c == '_'

/-- The field that a clause names: the letters and underscores its first word begins with. -/
def clauseField? (clause : List Word) : Option Field :=
  ((alternatives clause).head?.bind (·.head?)).bind fun word =>
    Field.ofKeyword? (word.takeWhile isKeywordChar)

/-- A status in a run of digits: ASCII digits only, at most 65535. -/
def statusOf? (digits : List Char) : Option UInt16 :=
  (Text.decimal? digits).bind fun n => if n < 65536 then some (UInt16.ofNat n) else none

def wordStatuses (word : Word) : List UInt16 := (Text.runs Text.isDigit word).filterMap statusOf?

def wordMethods (word : Word) : List String :=
  (Text.runs Text.isAsciiLetter word).filterMap knownMethod?

/-- The literal of one alternative: its operand, or the one word it consists of, unless that is the
field's own keyword. -/
def literal? (field : Field) (alternative : List Word) : Option String :=
  match operand? alternative with
  | some operand => some (String.ofList operand)
  | none =>
    match alternative with
    | [word] =>
      if Text.sameAscii field.keyword.toList word then none else some (String.ofList word)
    | _ => none

def clausePredicate? (field : Field) (clause : List Word) : Option Predicate :=
  Predicate.ofValues? ((alternatives clause).filterMap (literal? field))

def clauseTime? (clause : List Word) : Option TimeRange :=
  ((alternatives clause).head?.bind operand?).bind TimeRange.ofOperand?

def applyClause (filter : Filter) (clause : List Word) : Filter :=
  match clauseField? clause with
  | none => filter
  | some .status =>
    { filter with status := filter.status.insertAll ((alternatives clause).flatten.flatMap wordStatuses) }
  | some .method =>
    { filter with method := filter.method.insertAll ((alternatives clause).flatten.flatMap wordMethods) }
  | some .path => { filter with path := (clausePredicate? .path clause).or filter.path }
  | some .crawler => { filter with crawler := (clausePredicate? .crawler clause).or filter.crawler }
  | some .date => { filter with time := filter.time.override ((clauseTime? clause).getD {}) }

/-- The filter of a text: its clauses applied from left to right to the filter that lets all pass. -/
def ofText (text : String) : Filter := (clauses text.toList).foldl applyClause {}

/-- The filter of a text on top of the settings of the controls. -/
def refine (controls : Filter) (text : String) : Filter := controls.merge (ofText text)

end LogSieve.Filter
