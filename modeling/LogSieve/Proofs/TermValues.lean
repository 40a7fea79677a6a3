import LogSieve.Proofs.TermReading

/-! What a term contributes to a filter. Numbers and methods are gathered from all of its words, yet
only those of its value turn up, because keywords hold no digit and name no method. -/

namespace LogSieve.Filter.Grammar
open Text

theorem ofKeyword?_spelling {field : Field} (keyword : Spelling field.keyword) :
    Field.ofKeyword? keyword.text = some field := by
  have same := sameAscii_iff.mp keyword.same
  have agree : Field.ofKeyword? keyword.text = Field.ofKeyword? field.keyword.toList := by
    simp only [Field.ofKeyword?, sameAscii, same]
  rw [agree, Field.ofKeyword?_keyword]

/-- The first word of a term names its field, with or without a sign behind it. -/
theorem Term.words_head {field : Field} (term : Term field) :
    ∃ word, term.words.head? = some word ∧
      Field.ofKeyword? (word.takeWhile isKeywordChar) = some field := by
  have inside : ∀ c ∈ term.keyword.text, isKeywordChar c = true := fun c member => by
    simp [isKeywordChar, term.keyword_letters c member]
  have sign : isKeywordChar '=' = false := by decide
  have bare : term.keyword.text.takeWhile isKeywordChar = term.keyword.text :=
    List.takeWhile_eq_self_iff.mpr inside
  have signed (rest : List Char) :
      (term.keyword.text ++ '=' :: rest).takeWhile isKeywordChar = term.keyword.text := by
    rw [List.takeWhile_append_of_pos inside]
    simp [sign]
  have named := ofKeyword?_spelling term.keyword
  unfold Term.words
  cases term.operator with
  | equals before after blank =>
    cases before <;> cases after
    · exact ⟨_, rfl, by rw [signed, named]⟩
    · exact ⟨_, rfl, by rw [signed, named]⟩
    · exact ⟨_, rfl, by rw [bare, named]⟩
    · exact ⟨_, rfl, by rw [bare, named]⟩
  | contains before word after => exact ⟨_, rfl, by rw [bare, named]⟩

theorem wordStatuses_words (text : List Char) :
    (words text).flatMap wordStatuses = (runs isDigit text).filterMap statusOf? := by
  have within (c : Char) (digit : isDigit c = true) : isVisible c = true := by
    simp [not_isBlank_of_isDigit digit]
  rw [← runs_flatMap_runs within text, List.filterMap_flatMap]
  rfl

theorem wordMethods_words (text : List Char) :
    (words text).flatMap wordMethods = (runs isAsciiLetter text).filterMap knownMethod? := by
  have within (c : Char) (letter : isAsciiLetter c = true) : isVisible c = true := by
    simp [not_isBlank_of_isAsciiLetter letter]
  rw [← runs_flatMap_runs within text, List.filterMap_flatMap]
  rfl

theorem not_isDigit_of_isBlank {c : Char} (blank : isBlank c = true) : isDigit c = false := by
  by_contra digit
  simp [not_isBlank_of_isDigit (by simpa using digit)] at blank

theorem not_isAsciiLetter_of_isBlank {c : Char} (blank : isBlank c = true) :
    isAsciiLetter c = false := by
  by_contra letter
  simp [not_isBlank_of_isAsciiLetter (by simpa using letter)] at blank

/-- Around an equality sign stand blanks only. -/
theorem eq_sign_or_isBlank {before after : List Char}
    (blank : ∀ c ∈ before ++ after, isBlank c = true) {c : Char} (member : c ∈ before ++ '=' :: after) :
    c = '=' ∨ isBlank c = true := by
  rcases List.mem_append.mp member with left | right
  · exact .inr (blank c (List.mem_append_left after left))
  · rcases List.mem_cons.mp right with sign | right
    · exact .inl sign
    · exact .inr (blank c (List.mem_append_right before right))

theorem Operator.not_isDigit (operator : Operator) : ∀ c ∈ operator.text, isDigit c = false := by
  intro c member
  cases operator with
  | equals before after blank =>
    rcases eq_sign_or_isBlank blank member with rfl | space
    · decide
    · exact not_isDigit_of_isBlank space
  | contains before keyword after =>
    simp only [text, List.mem_append] at member
    rcases member with left | middle | right
    · exact not_isDigit_of_isBlank (before.blank c left)
    · exact not_isDigit_of_isAsciiLetter (keyword.letters contains_small c middle)
    · exact not_isDigit_of_isBlank (after.blank c right)

theorem statusOf?_eq {run : List Char} (nonempty : run ≠ []) : statusOf? run =
    if run.all isAsciiDigit && Nat.ofDigitChars 10 run 0 ≤ 65535
    then some (UInt16.ofNat (Nat.ofDigitChars 10 run 0)) else none := by
  unfold statusOf? decimal?
  by_cases ascii : run.all isAsciiDigit = true
  · simp [nonempty, ascii, Nat.lt_succ_iff]
  · simp [ascii]

theorem Term.statuses_words {field : Field} (term : Term field) :
    term.words.flatMap wordStatuses = statuses term.value.text := by
  have before : ∀ c ∈ term.keyword.text ++ term.operator.text, isDigit c = false := by
    intro c member
    rcases List.mem_append.mp member with keyword | operator
    · exact not_isDigit_of_isAsciiLetter (term.keyword_letters c keyword)
    · exact term.operator.not_isDigit c operator
  rw [← words_text, wordStatuses_words, text, ← List.append_assoc, runs_skip before,
    statuses, ← List.filterMap_eq_filter, List.map_filterMap]
  refine List.filterMap_congr fun run member => ?_
  rw [statusOf?_eq (ne_nil_of_mem_runs member)]
  split
  next fits => simp only [Option.guard_def, if_pos fits, Option.map_some]
  next fails => simp only [Option.guard_def, if_neg fails, Option.map_none]

/-- A keyword that is no method names none however it is written. -/
theorem knownMethod?_spelling {keyword : String} (spelling : Spelling keyword)
    (foreign : String.ofList (keyword.toList.map Char.toUpper) ∉ knownMethods) :
    knownMethod? spelling.text = none := by
  have raised := congrArg (List.map Char.toUpper) (sameAscii_iff.mp spelling.same)
  simp only [lowerAscii, List.map_map, Function.comp_def, Char.toUpper_toLower_eq_toUpper] at raised
  rw [knownMethod?_eq, ← raised, if_neg foreign]

private theorem runs_spelling {keyword : String} (spelling : Spelling keyword)
    (nonempty : keyword ≠ "") (small : SmallLetters keyword.toList) :
    runs isAsciiLetter spelling.text = [spelling.text] :=
  runs_eq_singleton (spelling.text_ne_nil nonempty) (spelling.letters small)

theorem Operator.methods_words (operator : Operator) (left right : List Char) :
    (runs isAsciiLetter (left ++ (operator.text ++ right))).filterMap knownMethod? =
      (runs isAsciiLetter left).filterMap knownMethod? ++
        (runs isAsciiLetter right).filterMap knownMethod? := by
  cases operator with
  | equals before after blank =>
    have outside : ∀ c ∈ before ++ '=' :: after, isAsciiLetter c = false := by
      intro c member
      rcases eq_sign_or_isBlank blank member with rfl | space
      · simp [isAsciiLetter]
      · exact not_isAsciiLetter_of_isBlank space
    rw [text, runs_append_gap left right (by simp) outside, List.filterMap_append]
  | contains before keyword after =>
    have foreign := knownMethod?_spelling keyword (by decide)
    rw [text, List.append_assoc, List.append_assoc,
      runs_append_gap left _ before.nonempty fun c member =>
        not_isAsciiLetter_of_isBlank (before.blank c member),
      runs_append_gap keyword.text right after.nonempty fun c member =>
        not_isAsciiLetter_of_isBlank (after.blank c member),
      runs_spelling keyword (by decide) contains_small]
    simp [foreign]

theorem Term.methods_words {field : Field} (term : Term field) :
    term.words.flatMap wordMethods = methods term.value.text := by
  have foreign := knownMethod?_spelling term.keyword (by cases field <;> decide)
  have own : runs isAsciiLetter term.keyword.text = [term.keyword.text] :=
    runs_spelling term.keyword (by cases field <;> decide) (keyword_small field)
  rw [← words_text, wordMethods_words, text, Operator.methods_words, own, methods,
    ← List.filterMap_eq_filter, List.filterMap_map]
  simp only [List.filterMap_cons, foreign, List.filterMap_nil, List.nil_append]
  refine List.filterMap_congr fun run _ => ?_
  rw [knownMethod?_eq, Function.comp_apply, Option.guard_def]
  simp

theorem Term.literal?_words {field : Field} (term : Term field) :
    literal? field term.words = some (String.ofList term.value.text) := by
  unfold literal?
  rw [term.operand?_words]

end LogSieve.Filter.Grammar
