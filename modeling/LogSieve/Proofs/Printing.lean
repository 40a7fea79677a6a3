import LogSieve.Filter.QueryText
import LogSieve.Proofs.QueryReading
import LogSieve.Proofs.TimeBounds

/-! A filter is written as a grammatical query: one clause for each field with a value to write, in
single spaces and capital separators. What the filter leaves out has no clause. -/

namespace LogSieve.Filter
open Text Grammar

def written (filter : Filter) : Field → List String
  | .crawler => expressible filter.crawler
  | .path => expressible filter.path
  | .method => filter.method.toList
  | .status => filter.status.toList.map fun status => toString status.toNat
  | .date => filter.time.faithfulOperand?.toList

def sign : Field → String
  | .crawler | .path => " contains "
  | .method | .status | .date => " = "

theorem terms_eq (filter : Filter) (field : Field) : filter.terms field =
    (filter.written field).map fun value => field.keyword ++ sign field ++ value := by
  cases field <;> simp [terms, written, sign, Field.keyword, Function.comp_def]

theorem isExpressible_iff {literal : String} :
    isExpressible literal = true ↔ Writable literal.toList := by
  simp only [isExpressible, Bool.and_eq_true, Bool.not_eq_true', List.any_eq_false,
    Bool.not_eq_true]
  constructor
  · rintro ⟨⟨⟨nonempty, solid⟩, notAnd⟩, notOr⟩
    exact ⟨by simpa using nonempty, solid, notAnd, notOr⟩
  · rintro ⟨nonempty, solid, notAnd, notOr⟩
    exact ⟨⟨⟨by simpa using nonempty, solid⟩, notAnd⟩, notOr⟩

/-- Whatever is written is one word and no separator, provided that the methods are known. -/
theorem writable_of_written {filter : Filter}
    (known : ∀ method ∈ filter.method.toList, method ∈ knownMethods) (field : Field) :
    ∀ value ∈ filter.written field, Writable value.toList := by
  intro value member
  cases field with
  | crawler | path => exact isExpressible_iff.mp (List.mem_filter.mp member).2
  | method =>
    have methods : ∀ method ∈ knownMethods, isExpressible method = true := by decide
    exact isExpressible_iff.mp (methods value (known value member))
  | status =>
    obtain ⟨status, -, rfl⟩ := List.mem_map.mp member
    rw [toList_toString]
    refine TimeRange.writable_of_isTimeChar Nat.toDigits_ne_nil fun c member => ?_
    simp [TimeRange.isTimeChar, isAsciiDigit_of_mem_toDigits member]
  | date => exact TimeRange.writable_of_faithfulOperand? (Option.mem_toList.mp member)

namespace Grammar

theorem isBlank_space : isBlank ' ' = true := by decide

def Value.literal (value : Value) : String := String.ofList value.text

def space : Gap := ⟨[' '], by simp, by simp [isBlank_space]⟩

@[simp] theorem text_space : space.text = [' '] := rfl

/-- Items with single spaces around the separators. -/
def spaced {keyword : String} {α : Type} (word : Spelling keyword) (first : α) (more : List α) :
    Chain keyword α :=
  ⟨first, more.map fun item => (⟨space, word, space⟩, item)⟩

@[simp] theorem items_spaced {keyword : String} {α : Type} (word : Spelling keyword) (first : α)
    (more : List α) : (spaced word first more).items = first :: more := by
  simp [Chain.items, spaced, Function.comp_def]

theorem text_spaced {keyword : String} {α : Type} (word : Spelling keyword)
    (write : α → List Char) (first : α) (more : List α) :
    (spaced word first more).text write =
      (' ' :: word.text ++ [' ']).intercalate (write first :: more.map write) := by
  induction more generalizing first with
  | nil => simp [spaced, Chain.text]
  | cons next more ih =>
    have rest := ih next
    simp only [spaced, Chain.text] at rest ⊢
    simpa [Chain.link] using rest

def plainKeyword (keyword : String) : Spelling keyword := ⟨keyword.toList, by simp [sameAscii]⟩

def plainOperator : Field → Operator
  | .crawler | .path => .contains space (plainKeyword "contains") space
  | .method | .status | .date => .equals [' '] [' '] (by simp [isBlank_space])

def plainTerm (field : Field) (value : Value) : Term field :=
  ⟨plainKeyword field.keyword, plainOperator field, value⟩

theorem text_plainTerm (field : Field) (value : Value) :
    (plainTerm field value).text = (field.keyword ++ sign field ++ value.literal).toList := by
  cases field <;>
    simp [Term.text, plainTerm, plainKeyword, plainOperator, Operator.text, sign, Value.literal]

def capitalOr : Spelling "or" := ⟨['O', 'R'], by decide⟩
def capitalAnd : Spelling "and" := ⟨['A', 'N', 'D'], by decide⟩

theorem exists_values {literals : List String}
    (writable : ∀ literal ∈ literals, Writable literal.toList) :
    ∃ values : List Value, literals = values.map Value.literal := by
  refine ⟨literals.attach.map fun literal => ⟨literal.1.toList, writable literal.1 literal.2⟩, ?_⟩
  simp [Value.literal]

def plainClause? (field : Field) : List Value → Option Clause
  | [] => none
  | first :: more =>
    some ⟨field, spaced capitalOr (plainTerm field first) (more.map (plainTerm field))⟩

theorem clauseText?_eq {filter : Filter} {field : Field} {values : List Value}
    (same : filter.written field = values.map Value.literal) :
    filter.clauseText? field =
      (plainClause? field values).map fun clause => String.ofList clause.text := by
  rw [clauseText?, terms_eq, same]
  cases values with
  | nil => rfl
  | cons first more =>
    have texts : (((first :: more).map Value.literal).map fun value =>
        field.keyword ++ sign field ++ value).map String.toList =
          (first :: more).map fun value => (plainTerm field value).text := by
      simp only [List.map_map]
      exact List.map_congr_left fun value _ => (text_plainTerm field value).symm
    simp only [plainClause?, Option.map_some, Clause.text, text_spaced]
    refine congrArg some (String.toList_inj.mp ?_)
    rw [String.toList_intercalate, texts, List.map_map, String.toList_ofList, String.toList_ofList]
    rfl

end Grammar

end LogSieve.Filter
