import LogSieve.Proofs.Printing
import LogSieve.Proofs.WordOperators

/-! Alternatives that leave out field and operator. Behind the first term of a text clause a value may
stand alone, and it counts like the term it is short for as long as it holds no operator of its own. -/

namespace LogSieve.Filter

namespace Grammar
open Text

/-- A term in full, or a value that goes with the field and operator of the term before it. -/
inductive Alternative (field : Field) where
  | full (term : Term field)
  | bare (value : Value)

namespace Alternative
variable {field : Field}

def text : Alternative field → List Char
  | full term => term.text
  | bare value => value.text

def words : Alternative field → List Word
  | full term => term.words
  | bare value => [value.text]

def literal : Alternative field → String
  | full term => String.ofList term.value.text
  | bare value => String.ofList (heard value.text)

/-- A value that stands alone must not be the keyword of its field, which would say nothing. -/
def Speaks : Alternative field → Prop
  | full _ => True
  | bare value => sameAscii field.keyword.toList value.text = false

theorem words_text (alternative : Alternative field) :
    Text.words alternative.text = alternative.words := by
  cases alternative with
  | full term => exact term.words_text
  | bare value => exact value.solid.words

theorem words_ne_nil (alternative : Alternative field) : alternative.words ≠ [] := by
  cases alternative with
  | full term => exact term.words_ne_nil
  | bare value => exact List.cons_ne_nil value.text []

theorem words_plain (alternative : Alternative field) : ∀ word ∈ alternative.words, Plain word := by
  cases alternative with
  | full term => exact term.words_plain
  | bare value =>
    intro word member
    rw [List.mem_singleton.mp member]
    exact value.plain

theorem literal?_words {alternative : Alternative field} (speaks : alternative.Speaks) :
    literal? field alternative.words = some alternative.literal := by
  cases alternative with
  | full term => exact term.literal?_words
  | bare value => exact literal?_singleton speaks

end Alternative

section
variable {field : Field} (chain : Chain "or" (Alternative field))

theorem alternatives_chain : alternatives (Text.words (chain.text Alternative.text)) =
    chain.items.map Alternative.words := by
  have whole : ∀ item ∈ chain.items, Whole isOr (Text.words item.text) := by
    intro item _
    rw [item.words_text]
    exact ⟨item.words_ne_nil, fun word member => (item.words_plain word member).notOr⟩
  have cuts (spelling : Spelling "or") : isOr spelling.text = true := isOr_iff.mpr spelling.same
  rw [alternatives, Chain.splitAt_words or_small (by decide) cuts Alternative.text chain whole]
  exact List.map_congr_left fun item _ => item.words_text

theorem notAnd_chain : ∀ word ∈ Text.words (chain.text Alternative.text), isAnd word = false := by
  rw [Chain.words_text or_small (by decide)]
  intro word member
  simp only [List.mem_append, List.mem_flatMap, List.mem_map, List.mem_cons] at member
  rcases member with first | ⟨_, ⟨step, -, rfl⟩, rfl | later⟩
  · rw [Alternative.words_text] at first
    exact (chain.first.words_plain word first).notAnd
  · rw [← Bool.not_eq_true, isAnd_iff, sameAscii, ← sameAscii_iff.mp step.1.word.same]
    decide
  · rw [Alternative.words_text] at later
    exact (step.2.words_plain word later).notAnd

theorem clausePredicate?_chain (speak : ∀ item ∈ chain.items, item.Speaks) :
    clausePredicate? field (Text.words (chain.text Alternative.text)) =
      Predicate.ofValues? (chain.items.map Alternative.literal) := by
  rw [clausePredicate?, alternatives_chain, List.filterMap_map, ← List.filterMap_eq_map]
  refine congrArg Predicate.ofValues? (List.filterMap_congr fun item member => ?_)
  exact Alternative.literal?_words (speak item member)

end

end Grammar

open Text Grammar

def onText (field : Field) (predicate : Option Predicate) : Filter :=
  match field with
  | .crawler => { crawler := predicate }
  | .path => { path := predicate }
  | .method | .status | .date => {}

theorem onText_inj {field : Field} (textual : field = .crawler ∨ field = .path)
    {left right : Option Predicate} : onText field left = onText field right ↔ left = right := by
  rcases textual with rfl | rfl
  · exact ⟨congrArg Filter.crawler, congrArg _⟩
  · exact ⟨congrArg Filter.path, congrArg _⟩

/-- Alternatives of a text clause may each be a term or a value alone, except that the first is a
term. -/
theorem ofText_alternatives {field : Field} (textual : field = .crawler ∨ field = .path)
    (first : Term field) (more : List (Separator "or" × Alternative field))
    (speak : ∀ step ∈ more, step.2.Speaks) :
    ofText (String.ofList (Chain.text Alternative.text ⟨.full first, more⟩)) =
      onText field (Predicate.ofValues?
        (String.ofList first.value.text :: more.map fun step => step.2.literal)) := by
  let chain : Chain "or" (Alternative field) := ⟨.full first, more⟩
  have speaks : ∀ item ∈ chain.items, item.Speaks := by
    intro item member
    rcases List.mem_cons.mp member with rfl | later
    · trivial
    · obtain ⟨step, among, rfl⟩ := List.mem_map.mp later
      exact speak step among
  have literals : chain.items.map Alternative.literal =
      String.ofList first.value.text :: more.map fun step => step.2.literal := by
    simp [chain, Chain.items, Alternative.literal]
  have predicate := clausePredicate?_chain chain speaks
  have named : clauseField? (Text.words (chain.text Alternative.text)) = some field := by
    obtain ⟨word, head, keyword⟩ := first.words_head
    simp [clauseField?, alternatives_chain, chain, Chain.items, Alternative.words, head, keyword]
  rw [ofText, String.toList_ofList, clauses, splitAt_eq_singleton (notAnd_chain chain),
    List.foldl_cons, List.foldl_nil, applyClause, named, ← literals, ← predicate]
  rcases textual with rfl | rfl
  · simp only [onText, Option.or_none]
  · simp only [onText, Option.or_none]

def repeated (field : Field) (literals : List String) : String :=
  " OR ".intercalate (literals.map fun literal => field.keyword ++ " contains " ++ literal)

/-- Literals of a text column with field and operator before the first of them only. -/
def continued (field : Field) (literals : List String) : String :=
  field.keyword ++ " contains " ++ " OR ".intercalate literals

theorem append_intercalate (lead separator first : List Char) (more : List (List Char)) :
    lead ++ separator.intercalate (first :: more) = separator.intercalate ((lead ++ first) :: more) := by
  cases more with
  | nil => simp [List.intercalate]
  | cons next more => simp [List.intercalate]

section
variable {field : Field} (textual : field = .crawler ∨ field = .path)
include textual

theorem text_plainTerm_contains (value : Value) : (plainTerm field value).text =
    field.keyword.toList ++ " contains ".toList ++ value.text := by
  rw [text_plainTerm, String.toList_append, String.toList_append, Value.literal, String.toList_ofList]
  rcases textual with rfl | rfl <;> rfl

theorem repeated_eq (first : Value) (more : List Value) :
    repeated field ((first :: more).map Value.literal) = String.ofList (Chain.text Alternative.text
      (spaced capitalOr (.full (plainTerm field first))
        (more.map fun value => .full (plainTerm field value)))) := by
  refine String.toList_inj.mp ?_
  have texts (value : Value) : (field.keyword ++ " contains " ++ value.literal).toList =
      (plainTerm field value).text := by
    rw [text_plainTerm_contains textual, Value.literal]
    simp
  rw [repeated, String.toList_intercalate, text_spaced]
  simp only [List.map_map, Function.comp_def, List.map_cons, texts, Alternative.text,
    String.toList_ofList]
  rfl

theorem continued_eq (first : Value) (more : List Value) :
    continued field ((first :: more).map Value.literal) = String.ofList (Chain.text Alternative.text
      (spaced capitalOr (.full (plainTerm field first)) (more.map .bare))) := by
  refine String.toList_inj.mp ?_
  rw [continued, String.toList_append, String.toList_append, String.toList_intercalate,
    String.toList_ofList, text_spaced]
  simp only [List.map_map, Function.comp_def, List.map_cons, Value.literal, String.toList_ofList,
    Alternative.text, text_plainTerm_contains textual]
  exact append_intercalate _ _ _ _

end

theorem ofText_repeated {field : Field} (textual : field = .crawler ∨ field = .path)
    {literals : List String} (nonempty : literals ≠ [])
    (writable : ∀ literal ∈ literals, Writable literal.toList) :
    ofText (repeated field literals) = onText field (Predicate.ofValues? literals) := by
  obtain ⟨values, rfl⟩ := exists_values writable
  obtain ⟨first, more, rfl⟩ := List.exists_cons_of_ne_nil (List.map_eq_nil_iff.not.mp nonempty)
  rw [repeated_eq textual, spaced, ofText_alternatives textual]
  · simp only [List.map_map, Function.comp_def, Alternative.literal, plainTerm]
    rfl
  · simp [Alternative.Speaks]

def heardAlone (literals : List String) : List String :=
  literals.map fun literal => String.ofList (heard literal.toList)

theorem ofText_continued {field : Field} (textual : field = .crawler ∨ field = .path)
    {first : String} {more : List String}
    (writable : ∀ literal ∈ first :: more, Writable literal.toList)
    (foreign : ∀ literal ∈ more, sameAscii field.keyword.toList literal.toList = false) :
    ofText (continued field (first :: more)) =
      onText field (Predicate.ofValues? (first :: heardAlone more)) := by
  obtain ⟨values, shape⟩ := exists_values writable
  obtain ⟨first, more, rfl⟩ := List.exists_cons_of_ne_nil
    (List.map_eq_nil_iff.not.mp (shape ▸ List.cons_ne_nil first more))
  obtain ⟨rfl, rfl⟩ := List.cons.inj shape
  rw [← List.map_cons, continued_eq textual, spaced, ofText_alternatives textual]
  · simp [Alternative.literal, plainTerm, Value.literal, heardAlone, Function.comp_def]
  · simpa [Alternative.Speaks, Value.literal] using foreign

theorem heardAlone_eq_self_iff {literals : List String} :
    heardAlone literals = literals ↔ ∀ literal ∈ literals, ¬ HoldsOperator literal.toList := by
  have each (literal : String) : String.ofList (heard literal.toList) = literal ↔
      ¬ HoldsOperator literal.toList := by
    rw [← heard_eq_self_iff, ← String.toList_inj, String.toList_ofList]
  conv_lhs => rw [heardAlone, ← List.map_id literals, List.map_map]
  rw [List.map_inj_left]
  exact forall₂_congr fun literal _ => each literal

/-- Leaving out field and operator behind the first literal of a text clause changes nothing as long as no
later literal holds an operator; where the literals are distinct, it changes something otherwise. -/
theorem ofText_continued_eq {field : Field} (textual : field = .crawler ∨ field = .path)
    {first : String} {more : List String}
    (writable : ∀ literal ∈ first :: more, Writable literal.toList)
    (foreign : ∀ literal ∈ first :: more, sameAscii field.keyword.toList literal.toList = false) :
    ofText (repeated field (first :: more)) = onText field (Predicate.ofValues? (first :: more)) ∧
    ((∀ literal ∈ more, ¬ HoldsOperator literal.toList) →
      ofText (continued field (first :: more)) = ofText (repeated field (first :: more))) ∧
    ((first :: more).Nodup →
      ofText (continued field (first :: more)) = ofText (repeated field (first :: more)) →
      ∀ literal ∈ more, ¬ HoldsOperator literal.toList) := by
  have full := ofText_repeated textual (List.cons_ne_nil first more) writable
  have short := ofText_continued textual writable fun literal member =>
    foreign literal (List.mem_cons_of_mem first member)
  refine ⟨full, fun bare => ?_, fun distinct same => ?_⟩
  · rw [full, short, heardAlone_eq_self_iff.mpr bare]
  · rw [full, short, onText_inj textual] at same
    have members := congrArg (Option.elim · [] Predicate.values) same
    simp only [Predicate.values_ofValues?, OrderedSet.toList_ofList distinct] at members
    have shortDistinct : (first :: heardAlone more).Nodup :=
      OrderedSet.nodup_of_toList_ofList members (by simp [heardAlone])
    rw [OrderedSet.toList_ofList shortDistinct] at members
    exact heardAlone_eq_self_iff.mp (List.cons.inj members).2

/-- An operator in the first literal, one at the end of a later one and one that is part of a longer word
make no difference. -/
theorem ofText_continued_eq_harmless :
    ((∀ literal ∈ ["/a?b=c", "x=", "contains", "my_contains/y"], Writable literal.toList) ∧
      (∀ literal ∈ ["/a?b=c", "x=", "contains", "my_contains/y"],
        sameAscii Field.path.keyword.toList literal.toList = false) ∧
      ∀ literal ∈ ["x=", "contains", "my_contains/y"], ¬ HoldsOperator literal.toList) ∧
    ofText (continued .path ["/a?b=c", "x=", "contains", "my_contains/y"]) =
      ofText (repeated .path ["/a?b=c", "x=", "contains", "my_contains/y"]) := by
  have writable : ∀ literal ∈ ["/a?b=c", "x=", "contains", "my_contains/y"],
      Writable literal.toList := by decide +kernel
  have foreign : ∀ literal ∈ ["/a?b=c", "x=", "contains", "my_contains/y"],
      sameAscii Field.path.keyword.toList literal.toList = false := by decide
  have bare : ∀ literal ∈ ["x=", "contains", "my_contains/y"], ¬ HoldsOperator literal.toList := by
    decide +kernel
  exact ⟨⟨writable, foreign, bare⟩, (ofText_continued_eq (.inr rfl) writable foreign).2.1 bare⟩

/-- Of a path with a query string only what stands behind the equality sign is read, unless the field is
named again. -/
theorem not_ofText_continued_eq_query :
    (Writable "/a".toList ∧ Writable "/b?x=1".toList ∧
      sameAscii Field.path.keyword.toList "/a".toList = false ∧
      sameAscii Field.path.keyword.toList "/b?x=1".toList = false) ∧
    ofText (continued .path ["/a", "/b?x=1"]) = { path := some (.anyOf ["/a", "1"]) } ∧
    ofText (repeated .path ["/a", "/b?x=1"]) = { path := some (.anyOf ["/a", "/b?x=1"]) } ∧
    ofText (continued .path ["/a", "/b?x=1"]) ≠ ofText (repeated .path ["/a", "/b?x=1"]) := by
  decide +kernel

end LogSieve.Filter
