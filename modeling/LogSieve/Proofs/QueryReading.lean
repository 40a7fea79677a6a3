import LogSieve.Proofs.OrderedSets
import LogSieve.Proofs.TermValues

/-! Grammatical queries mean what the grammar says. The words of a text fall into clauses and these
into terms exactly where the writer joined them, so that reading applies each clause once and in
order. -/

namespace LogSieve.Filter.Grammar
open Text

namespace Chain
variable {keyword : String} {α : Type}

theorem words_text (small : SmallLetters keyword.toList) (nonempty : keyword ≠ "")
    (write : α → List Char) (chain : Chain keyword α) :
    Text.words (chain.text write) = Text.words (write chain.first) ++
      (chain.more.map fun step => (step.1.word.text, Text.words (write step.2))).flatMap
        fun link => link.1 :: link.2 := by
  obtain ⟨first, more⟩ := chain
  unfold text
  induction more generalizing first with
  | nil => simp
  | cons step more ih =>
    have rest := ih step.2
    have word := (step.1.word.solid nonempty small).words
    rw [List.flatMap_cons, link, List.append_assoc, words_append_blank _ _ step.1.before.nonempty
      step.1.before.blank, List.append_assoc, List.append_assoc,
      words_append_blank _ _ step.1.after.nonempty step.1.after.blank, word, rest]
    simp

/-- Cutting at the separators of a chain gives its items back. -/
theorem splitAt_words {separates : Word → Bool} (small : SmallLetters keyword.toList)
    (nonempty : keyword ≠ "") (cuts : ∀ spelling : Spelling keyword, separates spelling.text = true)
    (write : α → List Char) (chain : Chain keyword α)
    (whole : ∀ item ∈ chain.items, Whole separates (Text.words (write item))) :
    splitAt separates (Text.words (chain.text write)) =
      chain.items.map fun item => Text.words (write item) := by
  rw [words_text small nonempty, splitAt_join (whole _ List.mem_cons_self)]
  · simp [items, Function.comp_def]
  · simp only [List.mem_map]
    rintro _ ⟨step, member, rfl⟩
    exact ⟨cuts step.1.word, whole _ (List.mem_cons_of_mem _ (List.mem_map_of_mem member))⟩

end Chain

theorem and_small : SmallLetters "and".toList := by
  constructor <;> simp [isAsciiLetter, lowerAscii]

theorem or_small : SmallLetters "or".toList := by
  constructor <;> simp [isAsciiLetter, lowerAscii]

theorem Term.words_ne_nil {field : Field} (term : Term field) : term.words ≠ [] := by
  obtain ⟨word, head, -⟩ := term.words_head
  intro empty
  simp [empty] at head

namespace Clause

theorem alternatives_words (clause : Clause) :
    alternatives (Text.words clause.text) = clause.terms.items.map Term.words := by
  have whole : ∀ term ∈ clause.terms.items, Whole isOr (Text.words term.text) := by
    intro term _
    rw [term.words_text]
    exact ⟨term.words_ne_nil, fun word member => (term.words_plain word member).notOr⟩
  have cuts (spelling : Spelling "or") : isOr spelling.text = true := isOr_iff.mpr spelling.same
  rw [alternatives, text, Chain.splitAt_words or_small (by decide) cuts Term.text _ whole]
  exact List.map_congr_left fun term _ => term.words_text

theorem whole (clause : Clause) : Whole isAnd (Text.words clause.text) := by
  rw [text, Chain.words_text or_small (by decide)]
  refine ⟨?_, ?_⟩
  · rw [Term.words_text]
    simp [clause.terms.first.words_ne_nil]
  · intro word member
    simp only [List.mem_append, List.mem_flatMap, List.mem_map, List.mem_cons] at member
    rcases member with first | ⟨_, ⟨step, -, rfl⟩, rfl | later⟩
    · exact (clause.terms.first.words_plain word (by rwa [Term.words_text] at first)).notAnd
    · rw [← Bool.not_eq_true, isAnd_iff, sameAscii, ← sameAscii_iff.mp step.1.word.same]
      decide
    · exact (step.2.words_plain word (by rwa [Term.words_text] at later)).notAnd

theorem clauseField?_words (clause : Clause) :
    clauseField? (Text.words clause.text) = some clause.field := by
  obtain ⟨word, head, named⟩ := clause.terms.first.words_head
  simp [clauseField?, alternatives_words, Chain.items, head, named]

theorem literals_words (clause : Clause) :
    clausePredicate? clause.field (Text.words clause.text) =
      Predicate.ofValues? (clause.values.map String.ofList) := by
  rw [clausePredicate?, alternatives_words, values, List.filterMap_map, List.map_map,
    ← List.filterMap_eq_map]
  congr 1
  exact List.filterMap_congr fun term _ => term.literal?_words

theorem gathered_words {β : Type} (clause : Clause) (gather own : Word → List β)
    (agree : ∀ term : Term clause.field, term.words.flatMap gather = own term.value.text) :
    (alternatives (Text.words clause.text)).flatten.flatMap gather = clause.values.flatMap own := by
  rw [alternatives_words, values, List.flatMap_map, List.flatten_eq_flatMap, List.flatMap_assoc,
    List.flatMap_map]
  exact List.flatMap_congr fun term _ => agree term

theorem clauseTime?_words (clause : Clause) : clauseTime? (Text.words clause.text) =
    TimeRange.ofOperand? clause.terms.first.value.text := by
  simp [clauseTime?, alternatives_words, Chain.items, Term.operand?_words]

end Clause

/-- Reading the words of a clause has the effect that the grammar tells. -/
theorem applyClause_words (filter : Filter) (clause : Clause) :
    applyClause filter (Text.words clause.text) = clause.apply filter := by
  have named := clause.clauseField?_words
  have literals := clause.literals_words
  have numbers := clause.gathered_words wordStatuses statuses Term.statuses_words
  have names := clause.gathered_words wordMethods methods Term.methods_words
  have present : Predicate.ofValues? (clause.values.map String.ofList) ≠ none := by
    simp [Predicate.ofValues?_eq_none_iff, Clause.values, Chain.items]
  obtain ⟨predicate, found⟩ := Option.ne_none_iff_exists'.mp present
  have time := clause.clauseTime?_words
  unfold applyClause Clause.apply
  rw [named]
  obtain ⟨field, terms⟩ := clause
  cases field with
  | status => simp only [numbers]
  | method => simp only [names]
  | path => simp only [literals, found, Option.some_or]
  | crawler => simp only [literals, found, Option.some_or]
  | date =>
    simp only [time]
    cases TimeRange.ofOperand? terms.first.value.text with
    | none => simp [TimeRange.override]
    | some range => rfl

theorem foldl_applyClause_query (filter : Filter) (query : Query) :
    (clauses query.text.toList).foldl applyClause filter = query.items.foldl Clause.apply filter := by
  have cuts (spelling : Spelling "and") : isAnd spelling.text = true := isAnd_iff.mpr spelling.same
  rw [Query.text, String.toList_ofList, clauses,
    Chain.splitAt_words and_small (by decide) cuts Clause.text query fun clause _ => clause.whole,
    List.foldl_map]
  congr 1
  funext filter clause
  exact applyClause_words filter clause

/-- Whatever a query is made of and however it is laid out, its text reads as what it means. -/
theorem ofText_query (query : Query) :
    ofText query.text = query.items.foldl Clause.apply {} :=
  foldl_applyClause_query {} query

end LogSieve.Filter.Grammar
