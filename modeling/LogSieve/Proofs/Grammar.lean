import LogSieve.Filter.Clause

/-! The text language as a grammar. A query is built from clauses and terms, together with every
freedom that a writer has: the case of keywords and the blanks between words. Its meaning is told
term by term and knows nothing of words, separators or operators in a text. -/

namespace LogSieve.Filter.Grammar

structure Gap where
  text : List Char
  nonempty : text ≠ []
  blank : ∀ c ∈ text, Text.isBlank c = true

/-- A keyword with any of its letters in either case. -/
structure Spelling (keyword : String) where
  text : List Char
  same : Text.sameAscii keyword.toList text = true

/-- Texts that can stand for themselves: one word that no separator is made of. -/
structure Writable (text : List Char) : Prop where
  nonempty : text ≠ []
  solid : ∀ c ∈ text, Text.isBlank c = false
  notAnd : Text.sameAscii "and".toList text = false
  notOr : Text.sameAscii "or".toList text = false

instance (text : List Char) : Decidable (Writable text) :=
  decidable_of_iff (text ≠ [] ∧ text.all (fun c => !Text.isBlank c) = true ∧
      Text.sameAscii "and".toList text = false ∧ Text.sameAscii "or".toList text = false)
    ⟨fun ⟨nonempty, solid, notAnd, notOr⟩ =>
      ⟨nonempty, fun c member => by simpa using List.all_eq_true.mp solid c member, notAnd, notOr⟩,
      fun writable => ⟨writable.nonempty,
        List.all_eq_true.mpr fun c member => by simp [writable.solid c member],
        writable.notAnd, writable.notOr⟩⟩

structure Value where
  text : List Char
  writable : Writable text

/-- What stands between a field and its value. -/
inductive Operator where
  | equals (before after : List Char) (blank : ∀ c ∈ before ++ after, Text.isBlank c = true)
  | contains (before : Gap) (keyword : Spelling "contains") (after : Gap)

def Operator.text : Operator → List Char
  | equals before after _ => before ++ '=' :: after
  | contains before keyword after => before.text ++ (keyword.text ++ after.text)

structure Term (field : Field) where
  keyword : Spelling field.keyword
  operator : Operator
  value : Value

def Term.text {field : Field} (term : Term field) : List Char :=
  term.keyword.text ++ (term.operator.text ++ term.value.text)

structure Separator (keyword : String) where
  before : Gap
  word : Spelling keyword
  after : Gap

structure Chain (keyword : String) (α : Type) where
  first : α
  more : List (Separator keyword × α)

namespace Chain
variable {keyword : String} {α : Type}

def items (chain : Chain keyword α) : List α := chain.first :: chain.more.map Prod.snd

def link (write : α → List Char) (step : Separator keyword × α) : List Char :=
  step.1.before.text ++ (step.1.word.text ++ (step.1.after.text ++ write step.2))

def text (write : α → List Char) (chain : Chain keyword α) : List Char :=
  write chain.first ++ chain.more.flatMap (link write)

end Chain

structure Clause where
  field : Field
  terms : Chain "or" (Term field)

namespace Clause

def text (clause : Clause) : List Char := clause.terms.text Term.text

def values (clause : Clause) : List Word := clause.terms.items.map (·.value.text)

end Clause

abbrev Query := Chain "and" Clause

def Query.text (query : Query) : String := String.ofList (Chain.text Clause.text query)

/-- The runs of decimal digits in a value that are ASCII throughout and at most 65535. -/
def statuses (value : Word) : List UInt16 :=
  ((Text.runs Text.isDigit value).filter fun run =>
    run.all Text.isAsciiDigit && Nat.ofDigitChars 10 run 0 ≤ 65535).map fun run =>
      UInt16.ofNat (Nat.ofDigitChars 10 run 0)

/-- The runs of ASCII letters in a value that are known methods once in capitals. -/
def methods (value : Word) : List String :=
  ((Text.runs Text.isAsciiLetter value).map fun run =>
    String.ofList (run.map Char.toUpper)).filter fun method => method ∈ knownMethods

/-- What a clause does to a filter. Methods and statuses are added behind those present, a text
constraint is replaced, and a time bound is replaced only if the first value names it. -/
def Clause.apply (filter : Filter) (clause : Clause) : Filter :=
  match clause.field with
  | .status => { filter with status := filter.status.insertAll (clause.values.flatMap statuses) }
  | .method => { filter with method := filter.method.insertAll (clause.values.flatMap methods) }
  | .path => { filter with path := Predicate.ofValues? (clause.values.map String.ofList) }
  | .crawler => { filter with crawler := Predicate.ofValues? (clause.values.map String.ofList) }
  | .date =>
    match TimeRange.ofOperand? clause.terms.first.value.text with
    | none => filter
    | some found =>
      { filter with time :=
          { start := found.start.or filter.time.start, stop := found.stop.or filter.time.stop } }

end LogSieve.Filter.Grammar
