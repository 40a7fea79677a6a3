import LogSieve.Proofs.Chips
import LogSieve.Proofs.StableRanges
import LogSieve.Proofs.TextReading

/-! Clauses that begin with no keyword. What counts as the word of a field is cut out by letter: a keyword
with a digit or a letter beyond ASCII behind it is still taken for the keyword. Such a clause is passed over
only if it has no value to give, and every other clause on an unknown field is. -/

namespace LogSieve.Filter
open Text

def leadingName (text : String) : List Char := (text.toList.dropWhile isBlank).takeWhile isWordChar

theorem head?_alternatives (clause : List Word) :
    ((alternatives clause).head?.bind List.head?) = clause.head? := by
  cases clause with
  | nil => rfl
  | cons word rest => exact head?_splitAt isOr word rest

/-- The field of a clause hangs on the word that the clause begins with, and on no more of this than its
ASCII letters and underscores in front. -/
theorem clauseField?_eq_ofKeyword? (text : String) : clauseField? (words text.toList) =
    Field.ofKeyword? ((leadingName text).takeWhile isKeywordChar) := by
  have first : clauseField? (words text.toList) = scanField? text.toList := by
    rw [clauseField?, head?_alternatives, scanField?_eq]
  rw [first, scanField?, leadingName, takeWhile_takeWhile_of_imp fun c => isWordChar_of_isKeywordChar]

/-- A keyword with something behind it that is a word character and neither an ASCII letter nor an
underscore. -/
def Glued (field : Field) (name : List Char) : Prop :=
  ∃ keyword c rest, name = keyword ++ c :: rest ∧
    sameAscii field.keyword.toList keyword = true ∧ isKeywordChar c = false

theorem ofKeyword?_eq_some_iff {field : Field} {word : List Char} :
    Field.ofKeyword? word = some field ↔ sameAscii field.keyword.toList word = true := by
  constructor
  · intro found
    simpa using List.find?_some found
  · intro same
    exact Grammar.ofKeyword?_spelling ⟨word, same⟩

theorem ofKeyword?_takeWhile_eq_some_iff {field : Field} {name : List Char} :
    Field.ofKeyword? (name.takeWhile isKeywordChar) = some field ↔
      sameAscii field.keyword.toList name = true ∨ Glued field name := by
  have letters {keyword : List Char} (same : sameAscii field.keyword.toList keyword = true) :
      ∀ c ∈ keyword, isKeywordChar c = true := by
    intro c member
    rw [isKeywordChar, letters_of_sameAscii same (Grammar.keyword_small field).letters c member]
    rfl
  rw [ofKeyword?_eq_some_iff]
  constructor
  · intro same
    have parts := name.takeWhile_append_dropWhile (p := isKeywordChar)
    cases rest : name.dropWhile isKeywordChar with
    | nil =>
      rw [rest, List.append_nil] at parts
      rw [parts] at same
      exact .inl same
    | cons c tail =>
      rw [rest] at parts
      refine .inr ⟨_, c, tail, parts.symm, same, ?_⟩
      have foreign := List.head_dropWhile_not (p := isKeywordChar) (l := name) (by simp [rest])
      simpa only [rest, List.head_cons] using foreign
  · rintro (same | ⟨keyword, c, rest, rfl, same, foreign⟩)
    · rwa [List.takeWhile_eq_self_iff.mpr (letters same)]
    · rwa [List.takeWhile_append_of_pos (letters same),
        List.takeWhile_cons_of_neg (by simp [foreign]), List.append_nil]

def Mute (clause : List Word) : Field → Prop
  | .status => ∀ alternative ∈ alternatives clause, ∀ word ∈ alternative, wordStatuses word = []
  | .method => ∀ alternative ∈ alternatives clause, ∀ word ∈ alternative, wordMethods word = []
  | .path => ∀ alternative ∈ alternatives clause, literal? .path alternative = none
  | .crawler => ∀ alternative ∈ alternatives clause, literal? .crawler alternative = none
  | .date => ∀ operand, (alternatives clause).head?.bind operand? = some operand →
      TimeRange.ofOperand? operand = none

theorem applyClause_eq_self_iff {clause : List Word} :
    (∀ filter, applyClause filter clause = filter) ↔ applyClause {} clause = {} := by
  constructor
  · intro unchanged
    exact unchanged {}
  · intro silent filter
    rw [applyClause_eq_merge, silent, merge_empty]

theorem insertAll_eq_empty_iff {α : Type} [DecidableEq α] {items : List α} :
    (∅ : OrderedSet α).insertAll items = ∅ ↔ items = [] := by
  constructor
  · intro empty
    refine List.eq_nil_iff_forall_not_mem.mpr fun item member => ?_
    have inside : item ∈ ((∅ : OrderedSet α).insertAll items).toList :=
      OrderedSet.mem_insertAll.mpr (.inr member)
    rw [empty] at inside
    cases inside
  · rintro rfl
    rfl

theorem TimeRange.ofOperand?_ne_empty (operand : List Char) :
    TimeRange.ofOperand? operand ≠ some {} := by
  intro named
  cases TimeRange.nameable_of_ofOperand? named

section
variable {clause : List Word}

theorem flatMap_alternatives_eq_nil_iff {α : Type} {values : Word → List α} :
    (alternatives clause).flatten.flatMap values = [] ↔
      ∀ alternative ∈ alternatives clause, ∀ word ∈ alternative, values word = [] := by
  rw [List.flatMap_eq_nil_iff]
  constructor
  · intro none alternative member word inside
    exact none word (List.mem_flatten.mpr ⟨alternative, member, inside⟩)
  · intro none word inside
    obtain ⟨alternative, member, inside⟩ := List.mem_flatten.mp inside
    exact none alternative member word inside

theorem clausePredicate?_eq_none_iff {field : Field} : clausePredicate? field clause = none ↔
    ∀ alternative ∈ alternatives clause, literal? field alternative = none := by
  rw [clausePredicate?, Predicate.ofValues?_eq_none_iff, List.filterMap_eq_nil_iff]

theorem override_clauseTime?_eq_empty_iff :
    ({} : TimeRange).override ((clauseTime? clause).getD {}) = {} ↔ Mute clause .date := by
  rw [TimeRange.empty_override]
  constructor
  · intro empty operand first
    cases named : TimeRange.ofOperand? operand with
    | none => rfl
    | some range =>
      rw [clauseTime?, first, Option.bind_some, named, Option.getD_some] at empty
      exact absurd (empty ▸ named) (TimeRange.ofOperand?_ne_empty operand)
  · intro mute
    unfold clauseTime?
    cases first : (alternatives clause).head?.bind operand? with
    | none => rfl
    | some operand => rw [Option.bind_some, mute operand first, Option.getD_none]

theorem applyClause_eq_empty_iff {field : Field} (named : clauseField? clause = some field) :
    applyClause {} clause = {} ↔ Mute clause field := by
  unfold applyClause
  rw [named]
  cases field with
  | status =>
    rw [Mute, ← flatMap_alternatives_eq_nil_iff, ← insertAll_eq_empty_iff]
    simp only [Filter.mk.injEq, true_and, and_true]
  | method =>
    rw [Mute, ← flatMap_alternatives_eq_nil_iff, ← insertAll_eq_empty_iff]
    simp only [Filter.mk.injEq, true_and, and_true]
  | path =>
    rw [Mute, ← clausePredicate?_eq_none_iff]
    simp only [Filter.mk.injEq, true_and, and_true, Option.or_none]
  | crawler =>
    rw [Mute, ← clausePredicate?_eq_none_iff]
    simp only [Filter.mk.injEq, and_true, Option.or_none]
  | date =>
    rw [← override_clauseTime?_eq_empty_iff]
    simp only [Filter.mk.injEq, true_and]

end

/-- A clause whose word is no keyword changes no filter, unless the word is a keyword with a digit or a
letter beyond ASCII glued to it and the clause has a value to give to the field of the keyword. -/
theorem ignored_iff_mute {segment : String}
    (unknown : ∀ field : Field, sameAscii field.keyword.toList (leadingName segment) = false) :
    ((∀ filter, applyClause filter (words segment.toList) = filter) ↔
      ∀ field, Glued field (leadingName segment) → Mute (words segment.toList) field) ∧
    ((∀ c ∈ leadingName segment, isKeywordChar c = true) →
      ∀ filter, applyClause filter (words segment.toList) = filter) := by
  have named (field : Field) : clauseField? (words segment.toList) = some field ↔
      Glued field (leadingName segment) := by
    rw [clauseField?_eq_ofKeyword?, ofKeyword?_takeWhile_eq_some_iff, unknown field]
    simp
  have ignored : (∀ filter, applyClause filter (words segment.toList) = filter) ↔
      ∀ field, Glued field (leadingName segment) → Mute (words segment.toList) field := by
    constructor
    · intro unchanged field glued
      exact (applyClause_eq_empty_iff ((named field).mpr glued)).mp (unchanged {})
    · intro mute
      rw [applyClause_eq_self_iff]
      cases found : clauseField? (words segment.toList) with
      | none => rw [applyClause, found]
      | some field => exact (applyClause_eq_empty_iff found).mpr (mute field ((named field).mp found))
  refine ⟨ignored, fun letters => ignored.mpr ?_⟩
  rintro field ⟨keyword, c, rest, shape, -, foreign⟩
  have letter := letters c (shape ▸ List.mem_append_right keyword List.mem_cons_self)
  rw [foreign] at letter
  cases letter

/-- Read as a clause on the status, this one has no status to give. -/
theorem ignored_iff_mute_too_large :
    (∀ field : Field, sameAscii field.keyword.toList (leadingName " Statusé = 70000 OR 99999") = false) ∧
    leadingName " Statusé = 70000 OR 99999" = "Statusé".toList ∧
    ∀ filter, applyClause filter (words " Statusé = 70000 OR 99999".toList) = filter := by
  have unknown (field : Field) :
      sameAscii field.keyword.toList (leadingName " Statusé = 70000 OR 99999") = false := by
    cases field <;> decide
  refine ⟨unknown, by decide +kernel, (ignored_iff_mute unknown).1.mpr fun field glued => ?_⟩
  have read : Field.ofKeyword? ((leadingName " Statusé = 70000 OR 99999").takeWhile isKeywordChar) =
      some .status := by decide
  have same : some Field.status = some field :=
    read.symm.trans (ofKeyword?_takeWhile_eq_some_iff.mpr (.inr glued))
  cases same
  unfold Mute
  decide

/-- The word is no keyword, and yet its digit is taken for a status, as is the number behind it. -/
theorem not_ignored_digit :
    leadingName "status2 = 404" = "status2".toList ∧
    (∀ field : Field, sameAscii field.keyword.toList "status2".toList = false) ∧
    (applyClause {} (words "status2 = 404".toList)).status.toList = [2, 404] ∧
    ¬ ∀ filter, applyClause filter (words "status2 = 404".toList) = filter := by
  have added : (applyClause {} (words "status2 = 404".toList)).status.toList = [2, 404] := by
    decide
  refine ⟨by decide +kernel, fun field => by cases field <;> decide, added, fun ignored => ?_⟩
  rw [ignored {}] at added
  cases added

end LogSieve.Filter
