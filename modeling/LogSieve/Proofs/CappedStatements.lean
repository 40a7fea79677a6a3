import LogSieve.Proofs.Admission
import LogSieve.Proofs.CappedQuery

/-! The row cap on compiled statements. The cap is looked for as a word of the query, and the compiler
writes that word nowhere but in the window of a page: what has no window gets the cap, what has one keeps
it. Only a table that is named like the cap is taken for one. -/

namespace LogSieve.Sql
open Text

def wordCount (keyword : String) (text : List Char) : Nat := (names text).countP (isWord keyword)

theorem hasWord_iff_wordCount_pos {keyword : String} {text : List Char} :
    hasWord keyword text = true ↔ 0 < wordCount keyword text := by
  rw [hasWord, List.any_eq_true, wordCount, List.countP_pos_iff]

theorem hasWord_eq_false_iff {keyword : String} {text : List Char} :
    hasWord keyword text = false ↔ wordCount keyword text = 0 := by
  rw [← Bool.not_eq_true, hasWord_iff_wordCount_pos, Nat.pos_iff_ne_zero, not_not]

theorem wordCount_gapped (keyword first : String) {second : String} (gapped : Gapped second) :
    wordCount keyword (first ++ second).toList =
      wordCount keyword first.toList + wordCount keyword second.toList := by
  rw [wordCount, names_gapped first gapped, List.countP_append]
  rfl

/-- A keyword that the compiler does not write is in a statement if the table is named like it. -/
theorem Composed.wordCount_eq {table : TableName} {text keyword : String}
    (composed : Composed vocabulary table text)
    (foreign : ∀ word ∈ vocabulary, isWord keyword word = false) : wordCount keyword text.toList =
      if sameAscii keyword.toList table.name.toList then 1 else 0 := by
  have none {words : List (List Char)} (own : words ⊆ vocabulary) :
      words.countP (isWord keyword) = 0 :=
    List.countP_eq_zero.mpr fun word member => by simp [foreign word (own member)]
  obtain ⟨before, after, front, behind, parts⟩ := composed.names_parts
  rw [wordCount, parts, List.countP_append, List.countP_cons, none front, none behind,
    table.isWord_name]
  simp

theorem Composed.wordCount_limit {table : TableName} {text : String}
    (composed : Composed vocabulary table text) : wordCount "LIMIT" text.toList =
      if sameAscii "limit".toList table.name.toList then 1 else 0 := by
  have foreign : ∀ word ∈ vocabulary, isWord "LIMIT" word = false := by decide
  have small : lowerAscii "LIMIT".toList = lowerAscii "limit".toList := by decide
  rw [composed.wordCount_eq foreign, sameAscii, small, ← sameAscii]

namespace Request

theorem wordCount_append_cap (text : String) (limit : UInt32) :
    wordCount "LIMIT" (text ++ cap limit).toList = wordCount "LIMIT" text.toList + 1 := by
  have digits : isWord "LIMIT" (Nat.toDigits 10 limit.toNat) = false :=
    not_isWord_toDigits limit.toNat (by decide)
  have word : isWord "LIMIT" "LIMIT".toList = true := by decide
  rw [String.toList_append, wordCount, names_append_apart _ (cap_apart limit), List.countP_append,
    names_cap, List.countP_cons, List.countP_cons, List.countP_nil, digits, word]
  rfl

theorem count_cap (limit : UInt32) : (cap limit).toList.count '?' = 0 := by
  apply List.count_eq_zero.mpr
  intro question
  rcases mem_cap question with keyword | digit
  · exact absurd keyword (by decide)
  · cases digit

/-- The request goes out with `tail` behind its query, with one cap, and with a value for each
placeholder. -/
structure CapsOnce (request : Request) (tail : String) : Prop where
  text : request.cappedQuery = request.query ++ tail
  once : wordCount "LIMIT" request.cappedQuery.toList = 1
  bound : request.cappedQuery.toList.count '?' = request.params.length

/-- A statement without a window gets the cap, whatever the table is named but the cap. -/
theorem capsOnce_of_composed {table : TableName} {statement : Statement} {request : Request}
    {limit : UInt32} (composed : Composed vocabulary table statement.text)
    (bound : statement.placeholders = statement.params.length)
    (free : sameAscii "limit".toList table.name.toList = false)
    (accepted : ofStatement statement limit = .ok request) :
    request.CapsOnce (" LIMIT " ++ toString limit.toNat) := by
  obtain ⟨-, rfl⟩ := ofStatement_eq_ok_iff.mp accepted
  have uncapped : wordCount "LIMIT" statement.text.toList = 0 := by
    rw [composed.wordCount_limit, if_neg (Bool.eq_false_iff.mp free)]
  have capped : cappedQuery ⟨statement.text, statement.params, limit⟩ = statement.text ++ cap limit := by
    rw [cappedQuery_eq, hasWord_eq_false_iff.mpr uncapped]
    rfl
  constructor
  · exact capped
  · rw [capped, wordCount_append_cap, uncapped]
  · rw [capped, String.toList_append, List.count_append, count_cap, Nat.add_zero]
    exact bound

end Request

namespace Compiler
variable (compiler : Compiler) (filter : Filter) (scope : Option String)

theorem placeholders_rows (sort : SortRequest) :
    (compiler.rows filter sort scope).placeholders = (compiler.rows filter sort scope).params.length :=
  (Draft.ReadsAs.sortedRows compiler filter sort scope).count

theorem placeholders_count :
    (compiler.count filter scope).placeholders = (compiler.count filter scope).params.length :=
  (Draft.ReadsAs.select compiler filter scope (by decide)).count

theorem placeholders_histogram (bucket : Bucket) :
    (compiler.histogram filter scope bucket).placeholders =
      (compiler.histogram filter scope bucket).params.length := by
  have head : '?' ∉ ("SELECT " ++ (bucket.expression ++ " AS bucket, COUNT(*) AS hits") ++
      " FROM ").toList := by cases bucket <;> decide
  have tail : '?' ∉ " GROUP BY bucket ORDER BY bucket ASC".toList := by decide
  exact ((Draft.ReadsAs.select compiler filter scope head).sql tail).count

theorem wordCount_page {page : Page} {sort : SortRequest} {statement : Statement}
    (compiled : compiler.page filter sort scope page = .ok statement) :
    wordCount "LIMIT" statement.text.toList =
      wordCount "LIMIT" (compiler.rows filter sort scope).text.toList + 1 := by
  have gapped : Gapped " LIMIT ? OFFSET ?" := by decide
  have window : wordCount "LIMIT" " LIMIT ? OFFSET ?".toList = 1 := by
    rw [wordCount, names_eq_of_ascii (by simp)]
    decide
  obtain ⟨_, -, rfl⟩ := compiler.exists_window_of_page_eq_ok filter scope compiled
  rw [wordCount_gapped "LIMIT" _ gapped, window]

theorem placeholders_page {page : Page} {sort : SortRequest} {statement : Statement}
    (compiled : compiler.page filter sort scope page = .ok statement) :
    statement.placeholders = statement.params.length := by
  have window : " LIMIT ? OFFSET ?".toList.count '?' = 2 := by decide
  have rows := compiler.placeholders_rows filter scope sort
  have params : (compiler.rows filter sort scope).params = compiler.bound filter scope := by
    rw [rows_eq]
  obtain ⟨_, -, rfl⟩ := compiler.exists_window_of_page_eq_ok filter scope compiled
  rw [Statement.placeholders, String.toList_append, List.count_append, window, List.length_append,
    ← params, ← rows]
  rfl

theorem capsOnce_page {page : Page} {sort : SortRequest} {statement : Statement} {request : Request}
    {limit : UInt32} (compiled : compiler.page filter sort scope page = .ok statement)
    (free : sameAscii "limit".toList compiler.table.name.toList = false)
    (accepted : Request.ofStatement statement limit = .ok request) : request.CapsOnce "" := by
  obtain ⟨-, rfl⟩ := Request.ofStatement_eq_ok_iff.mp accepted
  have bound := compiler.placeholders_page filter scope compiled
  have once : wordCount "LIMIT" statement.text.toList = 1 := by
    rw [compiler.wordCount_page filter scope compiled,
      (compiler.composed_rows filter scope sort).wordCount_limit,
      if_neg (Bool.eq_false_iff.mp free)]
  have capped : hasWord "LIMIT" statement.text.toList = true := by
    rw [hasWord_iff_wordCount_pos, once]
    decide
  have kept : Request.cappedQuery ⟨statement.text, statement.params, limit⟩ = statement.text := by
    rw [Request.cappedQuery_eq, if_pos capped]
  constructor
  · rw [kept, String.append_empty]
  · rw [kept, once]
  · rw [kept]
    exact bound

theorem Emits.hasWord_limit {compiler : Compiler} {filter : Filter} {scope : Option String}
    {statement : Statement} (emitted : compiler.Emits filter scope statement)
    (named : sameAscii "limit".toList compiler.table.name.toList = true) :
    hasWord "LIMIT" statement.text.toList = true := by
  have seen {text : String} (composed : Composed vocabulary compiler.table text) :
      0 < wordCount "LIMIT" text.toList := by
    rw [composed.wordCount_limit, if_pos named]
    exact Nat.one_pos
  rw [hasWord_iff_wordCount_pos]
  cases emitted with
  | rows sort => exact seen (compiler.composed_rows filter scope sort)
  | page sort page statement compiled =>
    rw [compiler.wordCount_page filter scope compiled]
    exact Nat.succ_pos _
  | count => exact seen (compiler.composed_count filter scope)
  | histogram bucket => exact seen (compiler.composed_histogram filter scope bucket)

/-- The cap is written behind rows, counts and histograms and not behind pages, so that every request goes
out with one, whatever it asks for and binds. The name of the table alone can keep it from being written. -/
theorem cappedQuery_compiled (limit : UInt32) :
    (sameAscii "limit".toList compiler.table.name.toList = false →
      (∀ sort request, Request.ofStatement (compiler.rows filter sort scope) limit = .ok request →
        request.CapsOnce (" LIMIT " ++ toString limit.toNat)) ∧
      (∀ request, Request.ofStatement (compiler.count filter scope) limit = .ok request →
        request.CapsOnce (" LIMIT " ++ toString limit.toNat)) ∧
      (∀ bucket request,
        Request.ofStatement (compiler.histogram filter scope bucket) limit = .ok request →
        request.CapsOnce (" LIMIT " ++ toString limit.toNat)) ∧
      ∀ sort page, compiler.Accepts page →
        ∃ statement, compiler.page filter sort scope page = .ok statement ∧
          ∀ request, Request.ofStatement statement limit = .ok request → request.CapsOnce "") ∧
    (sameAscii "limit".toList compiler.table.name.toList = true →
      ∀ statement request, compiler.Emits filter scope statement →
        Request.ofStatement statement limit = .ok request → request.cappedQuery = request.query) := by
  constructor
  · intro free
    refine ⟨fun sort request accepted => ?rows, fun request accepted => ?count,
      fun bucket request accepted => ?histogram, fun sort page accepts => ?page⟩
    case rows =>
      exact Request.capsOnce_of_composed (compiler.composed_rows filter scope sort)
        (compiler.placeholders_rows filter scope sort) free accepted
    case count =>
      exact Request.capsOnce_of_composed (compiler.composed_count filter scope)
        (compiler.placeholders_count filter scope) free accepted
    case histogram =>
      exact Request.capsOnce_of_composed (compiler.composed_histogram filter scope bucket)
        (compiler.placeholders_histogram filter scope bucket) free accepted
    case page =>
      have compiled := compiler.page_eq_rows filter scope sort accepts.window
      exact ⟨_, compiled, fun request accepted =>
        compiler.capsOnce_page filter scope compiled free accepted⟩
  · intro named statement request emitted accepted
    obtain ⟨-, rfl⟩ := Request.ofStatement_eq_ok_iff.mp accepted
    rw [Request.cappedQuery_eq, if_pos (emitted.hasWord_limit named)]

/-- Bound values do not count, nor does a table whose name goes on behind the word; one that is the word
keeps the cap away. -/
theorem cappedQuery_compiled_limits :
    (sameAscii "limit".toList "limits".toList = false ∧
      Request.ofStatement (rows ⟨⟨"limits", by decide⟩, false, 500, .latestFirst⟩
          { path := some (.single "LIMIT ?") } {} (some "1 LIMIT 1")) 10 =
        .ok ⟨"SELECT * FROM limits WHERE log_file_id = ? AND path LIKE ? ORDER BY time DESC",
          [.text "1 LIMIT 1", .text "%LIMIT ?%"], 10⟩ ∧
      Request.CapsOnce
        ⟨"SELECT * FROM limits WHERE log_file_id = ? AND path LIKE ? ORDER BY time DESC",
          [.text "1 LIMIT 1", .text "%LIMIT ?%"], 10⟩ " LIMIT 10") ∧
    (Accepts ⟨⟨"limits", by decide⟩, false, 500, .latestFirst⟩ ⟨3, 20⟩ ∧
      ∃ statement, page ⟨⟨"limits", by decide⟩, false, 500, .latestFirst⟩ {} {} none ⟨3, 20⟩ =
          .ok statement ∧
        ∀ request, Request.ofStatement statement 10 = .ok request → request.CapsOnce "") ∧
    (sameAscii "limit".toList "Limit".toList = true ∧
      Emits ⟨⟨"Limit", by decide⟩, false, 500, .latestFirst⟩ {} none
        (count ⟨⟨"Limit", by decide⟩, false, 500, .latestFirst⟩ {} none) ∧
      Request.ofStatement (count ⟨⟨"Limit", by decide⟩, false, 500, .latestFirst⟩ {} none) 10 =
        .ok ⟨"SELECT COUNT(*) AS total FROM Limit", [], 10⟩ ∧
      Request.cappedQuery ⟨"SELECT COUNT(*) AS total FROM Limit", [], 10⟩ =
        "SELECT COUNT(*) AS total FROM Limit") := by
  have free : sameAscii "limit".toList "limits".toList = false := by decide
  have accepted : Request.ofStatement (rows ⟨⟨"limits", by decide⟩, false, 500, .latestFirst⟩
      { path := some (.single "LIMIT ?") } {} (some "1 LIMIT 1")) 10 =
      .ok ⟨"SELECT * FROM limits WHERE log_file_id = ? AND path LIKE ? ORDER BY time DESC",
        [.text "1 LIMIT 1", .text "%LIMIT ?%"], 10⟩ := by decide +kernel
  have accepts : Accepts ⟨⟨"limits", by decide⟩, false, 500, .latestFirst⟩ ⟨3, 20⟩ :=
    ⟨by decide, by decide, by decide, by decide⟩
  have named : sameAscii "limit".toList "Limit".toList = true := by decide
  have emitted : Emits ⟨⟨"Limit", by decide⟩, false, 500, .latestFirst⟩ {} none _ := .count
  have counted : Request.ofStatement
      (count ⟨⟨"Limit", by decide⟩, false, 500, .latestFirst⟩ {} none) 10 =
      .ok ⟨"SELECT COUNT(*) AS total FROM Limit", [], 10⟩ := by decide +kernel
  refine ⟨⟨free, accepted, ?_⟩, ⟨accepts, ?_⟩, named, emitted, counted, ?_⟩
  · exact ((cappedQuery_compiled ⟨⟨"limits", by decide⟩, false, 500, .latestFirst⟩ _ _ 10).1
      free).1 _ _ accepted
  · exact ((cappedQuery_compiled ⟨⟨"limits", by decide⟩, false, 500, .latestFirst⟩ _ _ 10).1
      free).2.2.2 _ _ accepts
  · exact (cappedQuery_compiled ⟨⟨"Limit", by decide⟩, false, 500, .latestFirst⟩ _ _ 10).2
      named _ _ emitted counted

end Compiler

end LogSieve.Sql
