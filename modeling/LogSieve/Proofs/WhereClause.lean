import LogSieve.Proofs.SqlFormula
import LogSieve.Proofs.StatementTokens

/-! What the condition of a compiled statement means. It is read from the text of the statement and
its parameters by the rules of SQL, and turns out to ask for what the filter asks for: every
alternative stays within its parentheses, and nothing is left out or read twice. -/

namespace LogSieve.Sql

def likeComparison (escape : Bool) : Comparison := .like (if escape then some '\\' else none)

/-- What a filter asks of a record, for a given truth of the single comparisons. -/
structure Asked (truth : String → Comparison → Value → Prop) (escape : Bool) (filter : Filter)
    (scope : Option String) : Prop where
  scope : ∀ id ∈ scope, truth "log_file_id" .equals (.text id)
  method : filter.method.toList ≠ [] →
    ∃ name ∈ filter.method.toList, truth "method" .equals (.text name)
  status : filter.status.toList ≠ [] →
    ∃ code ∈ filter.status.toList, truth "status" .equals (.integer (Int64.ofNat code.toNat))
  crawler : ∀ predicate ∈ filter.crawler, ∃ literal ∈ predicate.values,
    truth "crawler_name" (likeComparison escape) (.text (containsPattern escape literal))
  path : ∀ predicate ∈ filter.path, ∃ literal ∈ predicate.values,
    truth "path" (likeComparison escape) (.text (containsPattern escape literal))
  start : ∀ bound ∈ filter.time.start, truth "time" .atLeast (.text bound)
  stop : ∀ bound ∈ filter.time.stop, truth "time" .atMost (.text bound)

/-- The condition of a statement can be read, and is true where `meaning` is. -/
def Statement.Means (statement : Statement)
    (meaning : (String → Comparison → Value → Prop) → Prop) : Prop :=
  ∃ formula, statement.condition? = some formula ∧ ∀ truth, formula.Holds truth ↔ meaning truth

namespace Condition

def likeFormula (escape : Bool) (column : Column) (literal : String) : Formula :=
  .compare column.name (likeComparison escape) (.text (containsPattern escape literal))

def formula (escape : Bool) : Condition → Formula
  | .inScope scope => .compare scopeColumn .equals (.text scope)
  | .among column values => .among column.name values
  | .holds column predicate =>
    match predicate.values with
    | [] => .always
    | first :: others =>
      .joined .either (likeFormula escape column first) (others.map (likeFormula escape column))
  | .atLeast column bound => .compare column.name .atLeast (.text bound)
  | .atMost column bound => .compare column.name .atMost (.text bound)

def Filled : Condition → Prop
  | .among _ values => values ≠ []
  | .holds _ predicate => predicate.values ≠ []
  | .inScope _ | .atLeast _ _ | .atMost _ _ => True

theorem holds_formula {predicate : Filter.Predicate} (filled : predicate.values ≠ [])
    (truth : String → Comparison → Value → Prop) (escape : Bool) (column : Column) :
    ((holds column predicate).formula escape).Holds truth ↔ ∃ literal ∈ predicate.values,
      truth column.name (likeComparison escape) (.text (containsPattern escape literal)) := by
  obtain ⟨first, others, values⟩ := List.exists_cons_of_ne_nil filled
  simp only [formula, values]
  rw [Formula.holds_joined_either, ← List.map_cons]
  simp only [List.mem_map, exists_exists_and_eq_and]
  rfl

end Condition

def conjunction (escape : Bool) : List Condition → Formula
  | [] => .always
  | first :: others =>
    .joined .both (first.formula escape) (others.map (Condition.formula escape))

theorem holds_conjunction (truth : String → Comparison → Value → Prop) (escape : Bool)
    (conditions : List Condition) : (conjunction escape conditions).Holds truth ↔
      ∀ condition ∈ conditions, (condition.formula escape).Holds truth := by
  cases conditions with
  | nil => simp [conjunction, Formula.Holds]
  | cons first others =>
    rw [conjunction, Formula.holds_joined_both, ← List.map_cons, List.forall_mem_map]

section
variable {rest : List Token}

theorem begins_of_ne {name other : String} {tokens : List Token}
    (different : Text.lowerAscii name.toList ≠ Text.lowerAscii other.toList)
    (named : begins name tokens = true) : begins other tokens = false := by
  cases tokens with
  | nil => rfl
  | cons token tokens =>
    cases token with
    | word letters =>
      have same : letters.map Text.fold = Text.lowerAscii name.toList := eq_of_beq named
      refine beq_false_of_ne ?_
      rw [same]
      exact different
    | _ => rfl

theorem begins_of_isOver (finished : isOver rest = true) (name : String)
    (group : Text.lowerAscii "GROUP".toList ≠ Text.lowerAscii name.toList)
    (order : Text.lowerAscii "ORDER".toList ≠ Text.lowerAscii name.toList) :
    begins name rest = false := by
  simp only [isOver, Bool.and_eq_true, Bool.or_eq_true, List.isEmpty_iff] at finished
  obtain ⟨(rfl | grouped) | ordered, -⟩ := finished
  · rfl
  · exact begins_of_ne group grouped
  · exact begins_of_ne order ordered

theorem escapeChar_none (ends : begins "ESCAPE" rest = false) : escapeChar rest = (none, rest) := by
  unfold escapeChar
  split
  · next name c rest =>
    have other : isWord "ESCAPE" name = false := ends
    rw [other]
    rfl
  · rfl

theorem members?_intercalate (first : Value) (others : List Value) :
    members? ([.mark ','].intercalate ((first :: others).map fun value => [.value value]) ++
      .mark ')' :: rest) = some (first :: others, rest) := by
  induction others generalizing first with
  | nil => rfl
  | cons next others ih =>
    have remaining := ih next
    rw [List.map_cons] at remaining
    rw [List.map_cons, List.map_cons, List.intercalate_cons_cons, List.append_assoc,
      List.append_assoc, List.singleton_append, List.singleton_append, members?, remaining]
    rfl

theorem comparison?_like (escape : Bool) (column : Column) (literal : String)
    (ends : begins "ESCAPE" rest = false) :
    comparison? (Condition.likeTokens escape column literal ++ rest) =
      some (Condition.likeFormula escape column literal, rest) := by
  cases escape with
  | true => cases column <;> rfl
  | false =>
    have read : comparison? (Condition.likeTokens false column literal ++ rest) =
        some (.compare column.name (.like (escapeChar rest).1) (.text (containsPattern false literal)),
          (escapeChar rest).2) := by
      cases column <;> rfl
    rw [read, escapeChar_none ends]
    rfl

theorem length_le_intercalate (separator : Token) (first : List Token) (others : List (List Token)) :
    others.length ≤ ([separator].intercalate (first :: others)).length := by
  induction others generalizing first with
  | nil => exact Nat.zero_le _
  | cons next others ih =>
    have remaining := ih next
    rw [List.intercalate_cons_cons]
    simp only [List.length_append, List.length_cons, List.length_nil] at remaining ⊢
    omega

theorem level?_likes {operand : Reader} (escape : Bool) (column : Column)
    (reads : ∀ literal rest, begins "ESCAPE" rest = false →
      operand (Condition.likeTokens escape column literal ++ rest) =
        some (Condition.likeFormula escape column literal, rest))
    (first : String) (others : List String) :
    level? operand ([.keyword "OR"].intercalate
        ((first :: others).map (Condition.likeTokens escape column)) ++ .mark ')' :: rest) =
      some (.joined .either (Condition.likeFormula escape column first)
        (others.map (Condition.likeFormula escape column)), .mark ')' :: rest) := by
  have enough := length_le_intercalate (.keyword "OR") (Condition.likeTokens escape column first)
    (others.map (Condition.likeTokens escape column))
  rw [List.length_map, ← List.map_cons] at enough
  refine chain?_intercalate (fun rest => begins "ESCAPE" rest = false ∧ begins "AND" rest = false)
    ?_ ?_ first others ?_ ?_ ?_ ?_
  · rfl
  · exact fun rest => ⟨rfl, rfl⟩
  · intro literal _ rest ends
    exact chain?_single (reads literal rest ends.1) ends.2 _
  · rw [List.length_append]
    omega
  · exact ⟨rfl, rfl⟩
  · rfl

theorem operand?_like (inner : Reader) (escape : Bool) (column : Column) (literal : String)
    (ends : begins "ESCAPE" rest = false) :
    operand? inner (Condition.likeTokens escape column literal ++ rest) =
      some (Condition.likeFormula escape column literal, rest) :=
  comparison?_like escape column literal ends

theorem expression?_likes (depth : Nat) (escape : Bool) (column : Column) (first : String)
    (others : List String) :
    expression? depth ([.keyword "OR"].intercalate
        ((first :: others).map (Condition.likeTokens escape column)) ++ .mark ')' :: rest) =
      some (.joined .either (Condition.likeFormula escape column first)
        (others.map (Condition.likeFormula escape column)), .mark ')' :: rest) := by
  cases depth with
  | zero =>
    exact level?_likes escape column (fun literal _ => comparison?_like escape column literal)
      first others
  | succ depth =>
    exact level?_likes escape column (fun literal _ => operand?_like _ escape column literal)
      first others

theorem operand?_condition {condition : Condition} (filled : condition.Filled) (escape : Bool)
    (depth : Nat) (ends : begins "ESCAPE" rest = false) :
    operand? (expression? depth) (condition.tokens escape ++ rest) =
      some (condition.formula escape, rest) := by
  cases condition with
  | inScope scope => rfl
  | among column values =>
    obtain ⟨first, others, rfl⟩ := List.exists_cons_of_ne_nil filled
    have member (tokens : List Token) : operand? (expression? depth)
        ([.keyword column.name, .keyword "IN", .mark '('] ++ tokens) =
          (members? tokens).map fun found => (.among column.name found.1, found.2) := by
      cases column <;> rfl
    rw [Condition.tokens, List.append_assoc, List.append_assoc, member, List.singleton_append,
      members?_intercalate]
    rfl
  | holds column predicate =>
    cases predicate with
    | single literal => exact operand?_like _ escape column literal ends
    | anyOf literals =>
      obtain ⟨first, others, rfl⟩ := List.exists_cons_of_ne_nil filled
      rw [Condition.tokens, List.cons_append, List.append_assoc, operand?, List.singleton_append,
        expression?_likes]
      rfl
  | atLeast column bound => cases column <;> rfl
  | atMost column bound => cases column <;> rfl

theorem expression?_conditions {first : Condition} {others : List Condition}
    (filled : ∀ condition ∈ first :: others, condition.Filled) (escape : Bool) (depth : Nat)
    (finished : isOver rest = true) :
    expression? (depth + 1) ([.keyword "AND"].intercalate
        ((first :: others).map (Condition.tokens escape)) ++ rest) =
      some (conjunction escape (first :: others), rest) := by
  have enough := length_le_intercalate (.keyword "AND") (first.tokens escape)
    (others.map (Condition.tokens escape))
  rw [List.length_map, ← List.map_cons] at enough
  refine chain?_single (chain?_intercalate (fun rest => begins "ESCAPE" rest = false) ?_ ?_ first
    others ?_ ?_ ?_ ?_) ?_ _
  · rfl
  · exact fun rest => rfl
  · intro condition member rest apart
    exact operand?_condition (filled condition member) escape depth apart
  · rw [List.length_append]
    omega
  · exact begins_of_isOver finished "ESCAPE" (by decide) (by decide)
  · exact begins_of_isOver finished "AND" (by decide) (by decide)
  · exact begins_of_isOver finished "OR" (by decide) (by decide)

/-- What a statement selects is read on its own, and has no `FROM` in it. -/
structure Heads (selection : String) (head : List Token) : Prop where
  spells : Spells Anything ("SELECT " ++ selection ++ " FROM ").toList [] (head ++ [.keyword "FROM"])
  before : head.all (fun token => !token.isKeyword "FROM") = true

/-- A statement whose text goes on with conditions behind its table has them as its condition. -/
theorem condition?_eq {statement : Statement} {selection : String} {head : List Token}
    {table : Token} (heads : Heads selection head) (escape : Bool) {conditions : List Condition}
    (filled : ∀ condition ∈ conditions, condition.Filled)
    (written : statement.tokens =
      (head ++ [.keyword "FROM"]) ++ table :: whereTokens escape conditions ++ rest)
    (finished : isOver rest = true) : statement.condition? = some (conjunction escape conditions) := by
  have clause : (statement.tokens.dropWhile fun token => !token.isKeyword "FROM").drop 2 =
      whereTokens escape conditions ++ rest := by
    rw [written, List.append_assoc, List.append_assoc,
      List.dropWhile_append_of_pos (List.all_eq_true.mp heads.before)]
    rfl
  unfold Statement.condition?
  rw [clause]
  cases conditions with
  | nil =>
    have unfiltered : begins "WHERE" rest = false :=
      begins_of_isOver finished "WHERE" (by decide) (by decide)
    simp [whereTokens, unfiltered, finished, conjunction]
  | cons first others =>
    have filtered (tokens : List Token) : begins "WHERE" (.keyword "WHERE" :: tokens) = true := rfl
    have read := expression?_conditions filled escape
      ([.keyword "AND"].intercalate ((first :: others).map (Condition.tokens escape)) ++ rest).length
      finished
    simp only [whereTokens, List.cons_append, filtered, if_true, List.tail_cons, List.length_cons,
      read, finished]

end

theorem forall_amongAny {property : Condition → Prop} {column : Column} {values : List Value} :
    (∀ condition ∈ amongAny column values, property condition) ↔
      (values ≠ [] → property (.among column values)) := by
  cases values with
  | nil => simp [amongAny]
  | cons first values => simp [amongAny]

/-- A property of all conditions of a filter, told constraint by constraint. -/
theorem forall_conditions {property : Condition → Prop} {filter : Filter} {scope : Option String} :
    (∀ condition ∈ conditions filter scope, property condition) ↔
      (∀ id ∈ scope, property (.inScope id)) ∧
      (filter.method.toList ≠ [] → property (.among .method (filter.method.toList.map .text))) ∧
      (filter.status.toList ≠ [] → property (.among .status (filter.status.toList.map fun code =>
        .integer (Int64.ofNat code.toNat)))) ∧
      (∀ predicate ∈ filter.crawler, property (.holds .crawlerName predicate)) ∧
      (∀ predicate ∈ filter.path, property (.holds .path predicate)) ∧
      (∀ bound ∈ filter.time.start, property (.atLeast .time bound)) ∧
      ∀ bound ∈ filter.time.stop, property (.atMost .time bound) := by
  have flat (options : List (Option Condition)) :
      (∀ condition ∈ options.filterMap id, property condition) ↔
        ∀ option ∈ options, ∀ condition ∈ option, property condition := by
    simp only [List.mem_filterMap, id]
    exact ⟨fun all option member condition inside => all condition ⟨option, member, inside⟩,
      fun all condition ⟨option, member, inside⟩ => all option member condition inside⟩
  rw [conditions, flat]
  simp only [List.forall_mem_cons, List.not_mem_nil, false_implies, implies_true, and_true,
    forall_amongAny, ne_eq, List.map_eq_nil_iff]
  simp only [Option.mem_def, Option.map_eq_some_iff, forall_exists_index, and_imp,
    forall_apply_eq_imp_iff₂]

theorem filled_conditions {filter : Filter}
    (crawler : ∀ predicate ∈ filter.crawler, predicate.values ≠ [])
    (path : ∀ predicate ∈ filter.path, predicate.values ≠ []) (scope : Option String) :
    ∀ condition ∈ conditions filter scope, condition.Filled := by
  refine forall_conditions.mpr ⟨?_, ?_, ?_, crawler, path, ?_, ?_⟩
  · exact fun id _ => trivial
  · exact fun some empty => some (List.map_eq_nil_iff.mp empty)
  · exact fun some empty => some (List.map_eq_nil_iff.mp empty)
  · exact fun bound _ => trivial
  · exact fun bound _ => trivial

theorem holds_conditions (truth : String → Comparison → Value → Prop) (escape : Bool)
    {filter : Filter} (crawler : ∀ predicate ∈ filter.crawler, predicate.values ≠ [])
    (path : ∀ predicate ∈ filter.path, predicate.values ≠ []) (scope : Option String) :
    (conjunction escape (conditions filter scope)).Holds truth ↔ Asked truth escape filter scope := by
  rw [holds_conjunction, forall_conditions]
  constructor
  · rintro ⟨located, method, status, agent, target, start, stop⟩
    refine ⟨located, ?_, ?_, ?_, ?_, start, stop⟩
    · intro some
      obtain ⟨value, member, holds⟩ := method some
      obtain ⟨name, among, rfl⟩ := List.mem_map.mp member
      exact ⟨name, among, holds⟩
    · intro some
      obtain ⟨value, member, holds⟩ := status some
      obtain ⟨code, among, rfl⟩ := List.mem_map.mp member
      exact ⟨code, among, holds⟩
    · intro predicate present
      exact (Condition.holds_formula (crawler predicate present) truth escape .crawlerName).mp
        (agent predicate present)
    · intro predicate present
      exact (Condition.holds_formula (path predicate present) truth escape .path).mp
        (target predicate present)
  · intro asked
    refine ⟨asked.scope, ?_, ?_, ?_, ?_, asked.start, asked.stop⟩
    · intro some
      obtain ⟨name, among, holds⟩ := asked.method some
      exact ⟨.text name, List.mem_map_of_mem among, holds⟩
    · intro some
      obtain ⟨code, among, holds⟩ := asked.status some
      exact ⟨_, List.mem_map_of_mem among, holds⟩
    · intro predicate present
      exact (Condition.holds_formula (crawler predicate present) truth escape .crawlerName).mpr
        (asked.crawler predicate present)
    · intro predicate present
      exact (Condition.holds_formula (path predicate present) truth escape .path).mpr
        (asked.path predicate present)

theorem heads_rows : Heads "*" [.keyword "SELECT", .mark '*'] :=
  ⟨fun _ _ _ => rfl, rfl⟩

theorem heads_count : Heads "COUNT(*) AS total" [.keyword "SELECT", .keyword "COUNT", .mark '(',
    .mark '*', .mark ')', .keyword "AS", .keyword "total"] :=
  ⟨fun _ _ _ => rfl, rfl⟩

theorem spells_expression (bucket : Bucket) : ∃ format,
    Spells Anything (bucket.expression ++ " ").toList [] [.keyword "strftime", .mark '(', .mark '\'',
      .literal format, .mark '\'', .mark ',', .keyword "time", .mark ')'] := by
  cases bucket with
  | minute => exact ⟨"%Y-%m-%d %H:%M".toList, fun _ _ _ => rfl⟩
  | hour => exact ⟨"%Y-%m-%d %H:00".toList, fun _ _ _ => rfl⟩
  | day => exact ⟨"%Y-%m-%d".toList, fun _ _ _ => rfl⟩
  | month => exact ⟨"%Y-%m".toList, fun _ _ _ => rfl⟩

theorem heads_histogram (bucket : Bucket) :
    ∃ head, Heads (bucket.expression ++ " AS bucket, COUNT(*) AS hits") head := by
  obtain ⟨format, expression⟩ := spells_expression bucket
  have select : Spells Anything "SELECT ".toList [] [.keyword "SELECT"] := fun _ _ _ => rfl
  have labels : Spells Anything "AS bucket, COUNT(*) AS hits FROM ".toList []
      ([.keyword "AS", .keyword "bucket", .mark ',', .keyword "COUNT", .mark '(', .mark '*',
        .mark ')', .keyword "AS", .keyword "hits"] ++ [.keyword "FROM"]) := fun _ _ _ => rfl
  have whole := (select.append (fun _ => trivial) expression).append (fun _ => trivial) labels
  have text : ("SELECT ".toList ++ (bucket.expression ++ " ").toList) ++
      "AS bucket, COUNT(*) AS hits FROM ".toList =
        ("SELECT " ++ (bucket.expression ++ " AS bucket, COUNT(*) AS hits") ++ " FROM ").toList := by
    simp
  rw [text, ← List.append_assoc] at whole
  exact ⟨_, whole, rfl⟩

theorem isOver_orderTokens (order : SortOrder) (rest : List Token)
    (unfiltered : rest.any (Token.isKeyword "WHERE") = false) :
    isOver (orderTokens order ++ rest) = true := by
  obtain ⟨column, direction⟩ := order
  rw [isOver, List.any_append, unfiltered]
  cases column <;> cases direction <;> rfl

namespace Compiler

/-- Rows, count, histogram and page ask for exactly what the filter and the scope ask for. -/
theorem means_asked (compiler : Compiler) {filter : Filter}
    (crawler : ∀ predicate ∈ filter.crawler, predicate.values ≠ [])
    (path : ∀ predicate ∈ filter.path, predicate.values ≠ []) (request : SortRequest)
    (scope : Option String) :
    ((compiler.rows filter request scope).Means fun truth =>
      Asked truth compiler.escapeWildcards filter scope) ∧
    ((compiler.count filter scope).Means fun truth =>
      Asked truth compiler.escapeWildcards filter scope) ∧
    (∀ bucket, (compiler.histogram filter scope bucket).Means fun truth =>
      Asked truth compiler.escapeWildcards filter scope) ∧
    ∀ page, compiler.Accepts page → ∃ statement,
      compiler.page filter request scope page = .ok statement ∧
        statement.Means fun truth => Asked truth compiler.escapeWildcards filter scope := by
  have means {statement : Statement} {selection : String} {head rest : List Token}
      (heads : Heads selection head)
      (written : statement.tokens = (head ++ [.keyword "FROM"]) ++ .keyword compiler.table.name ::
        whereTokens compiler.escapeWildcards (Sql.conditions filter scope) ++ rest)
      (finished : isOver rest = true) :
      statement.Means fun truth => Asked truth compiler.escapeWildcards filter scope :=
    ⟨_, condition?_eq heads _ (filled_conditions crawler path scope) written finished,
      fun truth => holds_conditions truth _ crawler path scope⟩
  refine ⟨?_, ?_, ?_, ?_⟩
  · have spells := Draft.Spells.sortedRows compiler filter scope request heads_rows.spells
    have finished := isOver_orderTokens (request.resolveWith compiler.defaultSort) [] rfl
    rw [List.append_nil] at finished
    exact means heads_rows (spells.tokens_finish rfl) finished
  · have spells := Draft.Spells.select compiler filter scope heads_count.spells
    have written := spells.tokens_finish rfl
    exact means heads_count (written.trans (List.append_nil _).symm) rfl
  · intro bucket
    obtain ⟨head, heads⟩ := heads_histogram bucket
    have grouped : Spells Apart " GROUP BY bucket ORDER BY bucket ASC".toList []
        [.keyword "GROUP", .keyword "BY", .keyword "bucket", .keyword "ORDER", .keyword "BY",
          .keyword "bucket", .keyword "ASC"] := by
      intro values rest apart
      obtain rfl | ⟨after, rfl | rfl | rfl⟩ := apart.cases <;> rfl
    have spells := (Draft.Spells.select compiler filter scope heads.spells).sql_apart rfl grouped
    exact means heads (spells.tokens_finish rfl) rfl
  · intro page accepts
    refine ⟨_, by rw [page_eq, accepts.window]; rfl, ?_⟩
    have spells := Draft.Spells.windowed compiler filter scope request
      { limit := page.size, offset := Int64.ofNat page.rowsBefore } heads_rows.spells
    exact means heads_rows (spells.tokens_finish trivial) (isOver_orderTokens _ _ rfl)

/-- Alternatives stay together between the conditions around them, on a page as well. -/
theorem means_asked_alternatives : Accepts ⟨default, true, 500, .latestFirst⟩ ⟨3, 20⟩ ∧ ∃ statement,
    page ⟨default, true, 500, .latestFirst⟩
        { crawler := some (.anyOf ["bot", "50%"]), path := some (.single "/a"), status := .ofList [404] }
        {} (some "7") ⟨3, 20⟩ = .ok statement ∧
      statement.Means fun truth => Asked truth true
        { crawler := some (.anyOf ["bot", "50%"]), path := some (.single "/a"), status := .ofList [404] }
        (some "7") := by
  have accepts : Accepts ⟨default, true, 500, .latestFirst⟩ ⟨3, 20⟩ :=
    ⟨by decide, by decide, by decide, by decide⟩
  refine ⟨accepts, (means_asked _ ?_ ?_ {} (some "7")).2.2.2 _ accepts⟩
  · rintro predicate ⟨⟩
    decide
  · rintro predicate ⟨⟩
    decide

end Compiler

end LogSieve.Sql
