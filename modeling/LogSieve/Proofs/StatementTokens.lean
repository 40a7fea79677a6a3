import LogSieve.Proofs.SqlTokens
import LogSieve.Proofs.StatementShape

/-! The tokens of compiled statements. A condition has the same tokens wherever it stands, and a
statement has those of its conditions between its head and its order. -/

namespace LogSieve.Sql

namespace Condition

def likeTokens (escape : Bool) (column : Column) (literal : String) : List Token :=
  [.keyword column.name, .keyword "LIKE", .value (.text (containsPattern escape literal))] ++
    if escape then [.keyword "ESCAPE", .mark '\'', .literal ['\\'], .mark '\''] else []

def tokens (escape : Bool) : Condition → List Token
  | .inScope scope => [.keyword scopeColumn, .sign ['='], .value (.text scope)]
  | .among column values =>
    [.keyword column.name, .keyword "IN", .mark '('] ++
      ([.mark ','].intercalate (values.map fun value => [.value value]) ++ [.mark ')'])
  | .holds column (.single literal) => likeTokens escape column literal
  | .holds column (.anyOf literals) =>
    .mark '(' :: ([.keyword "OR"].intercalate (literals.map (likeTokens escape column)) ++ [.mark ')'])
  | .atLeast column bound => [.keyword column.name, .sign ['>', '='], .value (.text bound)]
  | .atMost column bound => [.keyword column.name, .sign ['<', '='], .value (.text bound)]

end Condition

def orderTokens (order : SortOrder) : List Token :=
  [.keyword "ORDER", .keyword "BY", .keyword order.column.name, .keyword order.direction.keyword]

def whereTokens (escape : Bool) : List Condition → List Token
  | [] => []
  | conditions =>
    .keyword "WHERE" :: [.keyword "AND"].intercalate (conditions.map (Condition.tokens escape))

theorem spells_value (value : Value) : Spells Anything "?".toList [value] [.value value] :=
  fun values _ _ => tokens_complete (fun _ => rfl) values _

theorem spells_opening : Spells Anything "(".toList [] [.mark '('] :=
  fun values _ _ => tokens_complete (fun _ => rfl) values _

theorem spells_closing : Spells Anything ")".toList [] [.mark ')'] :=
  fun values _ _ => tokens_complete (fun _ => rfl) values _

theorem spells_escape : Spells Apart " ESCAPE '\\'".toList []
    [.keyword "ESCAPE", .mark '\'', .literal ['\\'], .mark '\''] := by
  intro values rest apart
  obtain rfl | ⟨after, rfl | rfl | rfl⟩ := apart.cases <;> rfl

namespace Draft

def Spells (draft : Draft) (allowed : List Char → Prop) (read : List Token) : Prop :=
  Sql.Spells allowed draft.text.toList draft.params read

namespace Spells
variable {draft : Draft} {allowed : List Char → Prop} {read : List Token}

theorem congr (spells : draft.Spells allowed read) {same : List Token} (equal : read = same) :
    draft.Spells allowed same :=
  equal ▸ spells

theorem empty : ({} : Draft).Spells Anything [] := fun _ _ _ => rfl

theorem apart (spells : draft.Spells Anything read) : draft.Spells Apart read :=
  Sql.Spells.apart spells

/-- What every step does: it appends text that is read on its own. -/
theorem append (spells : draft.Spells allowed read) {next : Draft} {fragment : String}
    {values : List Value} {added : List Token} {behind : List Char → Prop}
    (text : next.text = draft.text ++ fragment) (params : next.params = draft.params ++ values)
    (joined : ∀ rest, allowed (fragment.toList ++ rest))
    (reads : Sql.Spells behind fragment.toList values added) : next.Spells behind (read ++ added) := by
  unfold Spells
  rw [text, params, String.toList_append]
  exact Sql.Spells.append spells joined reads

theorem sql (spells : draft.Spells Anything read) {fragment : String} {added : List Token}
    {behind : List Char → Prop} (reads : Sql.Spells behind fragment.toList [] added) :
    (draft.sql fragment).Spells behind (read ++ added) :=
  spells.append rfl (List.append_nil _).symm (fun _ => trivial) reads

theorem sql_apart (spells : draft.Spells Apart read) {fragment : String} {added : List Token}
    {behind : List Char → Prop} (begins : fragment.toList.head?.any separates = true)
    (reads : Sql.Spells behind fragment.toList [] added) :
    (draft.sql fragment).Spells behind (read ++ added) :=
  spells.append rfl (List.append_nil _).symm (apart_append begins) reads

theorem column (spells : draft.Spells Anything read) (column : Column) :
    (draft.column column).Spells Apart (read ++ [.keyword column.name]) := by
  refine spells.sql (spells_word ?_ ?_)
  · cases column <;> decide
  · rw [← List.all_eq_true]
    cases column <;> decide

theorem table (spells : draft.Spells Anything read) (table : TableName) :
    (draft.table table).Spells Apart (read ++ [.keyword table.name]) :=
  spells.sql (spells_word table.isAsciiWord_toList.1 table.isAsciiWord_toList.2)

theorem bind (spells : draft.Spells Anything read) (value : Value) :
    (draft.bind value).Spells Anything (read ++ [.value value]) :=
  spells.append rfl rfl (fun _ => trivial) (spells_value value)

theorem bindItems (spells : draft.Spells Anything read) (values : List Value) :
    (draft.bindItems values).Spells Anything
      (read ++ [.mark ','].intercalate (values.map fun value => [.value value])) := by
  fun_induction Draft.bindItems draft values generalizing read with
  | case1 draft => simpa using spells
  | case2 draft value => simpa using spells.bind value
  | case3 draft value values more ih =>
    have comma : Sql.Spells Anything ", ".toList [] [.mark ','] := fun _ _ _ => rfl
    have next := ih ((spells.bind value).sql comma)
    rw [List.map_cons, List.intercalate_cons_of_ne_nil (by simpa using more)]
    exact next.congr (by simp only [List.append_assoc])

theorem bindList (spells : draft.Spells Anything read) (values : List Value) :
    (draft.bindList values).Spells Anything (read ++ .mark '(' ::
      ([.mark ','].intercalate (values.map fun value => [.value value]) ++ [.mark ')'])) := by
  have listed := ((spells.sql spells_opening).bindItems values).sql spells_closing
  exact listed.congr (by simp)

theorem like (spells : draft.Spells Anything read) (escape : Bool) (column : Column)
    (literal : String) :
    (draft.like escape column literal).Spells Apart
      (read ++ Condition.likeTokens escape column literal) := by
  have operator : Sql.Spells Anything " LIKE ".toList [] [.keyword "LIKE"] := fun _ _ _ => rfl
  have pattern := ((spells.column column).sql_apart rfl operator).bind
    (.text (containsPattern escape literal))
  cases escape with
  | true => exact (pattern.sql spells_escape).congr (by simp [Condition.likeTokens])
  | false => exact pattern.apart.congr (by simp [Condition.likeTokens])

theorem likeAny (spells : draft.Spells Anything read) (escape : Bool) (column : Column)
    (literals : List String) :
    (draft.likeAny escape column literals).Spells Apart
      (read ++ [.keyword "OR"].intercalate (literals.map (Condition.likeTokens escape column))) := by
  fun_induction Draft.likeAny draft escape column literals generalizing read with
  | case1 draft => simpa using spells.apart
  | case2 draft literal => simpa using spells.like escape column literal
  | case3 draft literal literals more ih =>
    have or : Sql.Spells Anything " OR ".toList [] [.keyword "OR"] := fun _ _ _ => rfl
    have next := ih ((spells.like escape column literal).sql_apart rfl or)
    rw [List.map_cons, List.intercalate_cons_of_ne_nil (by simpa using more)]
    exact next.congr (by simp only [List.append_assoc])

theorem compare (spells : draft.Spells Anything read) {column operator : String}
    {added : List Token} (reads : Sql.Spells Anything (column ++ operator).toList [] added)
    (value : Value) :
    (draft.compare column operator value).Spells Apart (read ++ (added ++ [.value value])) :=
  ((spells.sql reads).bind value).apart.congr (List.append_assoc _ _ _)

theorem condition (spells : draft.Spells Anything read) (escape : Bool) (condition : Condition) :
    (draft.condition escape condition).Spells Apart (read ++ condition.tokens escape) := by
  cases condition with
  | inScope scope =>
    have column : Sql.Spells Anything (scopeColumn ++ " = ").toList []
        [.keyword scopeColumn, .sign ['=']] := fun _ _ _ => rfl
    exact spells.compare column (.text scope)
  | among column values =>
    have operator : Sql.Spells Anything " IN ".toList [] [.keyword "IN"] := fun _ _ _ => rfl
    have listed := ((spells.column column).sql_apart rfl operator).bindList values
    exact listed.apart.congr (by simp [Condition.tokens])
  | holds column predicate =>
    cases predicate with
    | single literal => exact spells.like escape column literal
    | anyOf literals =>
      have grouped := ((spells.sql spells_opening).likeAny escape column literals).sql_apart rfl
        spells_closing
      exact grouped.apart.congr (by simp [Condition.tokens])
  | atLeast column bound =>
    have named : Sql.Spells Anything (column.name ++ " >= ").toList []
        [.keyword column.name, .sign ['>', '=']] := by
      cases column <;> exact fun _ _ _ => rfl
    exact spells.compare named (.text bound)
  | atMost column bound =>
    have named : Sql.Spells Anything (column.name ++ " <= ").toList []
        [.keyword column.name, .sign ['<', '=']] := by
      cases column <;> exact fun _ _ _ => rfl
    exact spells.compare named (.text bound)

/-- Behind an open condition, each further one follows `AND`. -/
theorem more {first : List Token} (spells : draft.Spells Apart (read ++ first))
    (opened : draft.filtered = true) (escape : Bool) (conditions : List Condition) :
    (draft.conditions escape conditions).Spells Apart (read ++
      [.keyword "AND"].intercalate (first :: conditions.map (Condition.tokens escape))) := by
  induction conditions generalizing draft read first with
  | nil => exact spells.congr (by simp)
  | cons condition conditions ih =>
    have and : Sql.Spells Anything " AND ".toList [] [.keyword "AND"] := fun _ _ _ => rfl
    have openedNext : draft.openCondition = draft.sql " AND " := if_pos opened
    have next := ((spells.sql_apart rfl and).condition escape condition)
    rw [← openedNext] at next
    have rest := ih next (by simp)
    rw [List.map_cons, List.intercalate_cons_cons]
    exact rest.congr (by simp only [List.append_assoc])

theorem conditions (spells : draft.Spells Apart read) (unopened : draft.filtered = false)
    (escape : Bool) (conditions : List Condition) :
    (draft.conditions escape conditions).Spells Apart (read ++ whereTokens escape conditions) := by
  cases conditions with
  | nil => exact spells.congr (List.append_nil read).symm
  | cons condition conditions =>
    have opening : draft.openCondition.Spells Anything (read ++ [.keyword "WHERE"]) := by
      unfold openCondition
      rw [unopened]
      exact spells.sql_apart rfl fun _ _ _ => rfl
    have next := (opening.condition escape condition).more (by simp) escape conditions
    exact next.congr (by simp [whereTokens])

section
variable (compiler : Compiler) (filter : Filter) (scope : Option String)

theorem select {selection : String} {head : List Token}
    (reads : Sql.Spells Anything ("SELECT " ++ selection ++ " FROM ").toList [] head) :
    (compiler.select selection filter scope).Spells Apart (head ++ .keyword compiler.table.name ::
      whereTokens compiler.escapeWildcards (Sql.conditions filter scope)) := by
  have opening := (empty.sql reads).table compiler.table
  have whole := opening.conditions rfl compiler.escapeWildcards (Sql.conditions filter scope)
  exact whole.congr (by simp)

theorem sortedRows {head : List Token} (request : SortRequest)
    (reads : Sql.Spells Anything ("SELECT " ++ "*" ++ " FROM ").toList [] head) :
    (compiler.sortedRows filter request scope).Spells Apart
      ((head ++ .keyword compiler.table.name ::
        whereTokens compiler.escapeWildcards (Sql.conditions filter scope)) ++
          orderTokens (request.resolveWith compiler.defaultSort)) := by
  have order : Sql.Spells Anything " ORDER BY ".toList [] [.keyword "ORDER", .keyword "BY"] :=
    fun _ _ _ => rfl
  have space : Sql.Spells Anything " ".toList [] [] := fun _ _ _ => rfl
  have direction (direction : Direction) :
      Sql.Spells Apart direction.keyword.toList [] [.keyword direction.keyword] := by
    refine spells_word ?_ ?_
    · cases direction <;> decide
    · rw [← List.all_eq_true]
      cases direction <;> decide
  have rows := (select compiler filter scope reads).sql_apart rfl order
  have named := rows.column (request.resolveWith compiler.defaultSort).column
  have sorted := (named.sql_apart rfl space).sql
    (direction (request.resolveWith compiler.defaultSort).direction)
  exact sorted.congr (by simp [orderTokens])

/-- The numbers of a page come last, behind the order. -/
theorem windowed {head : List Token} (request : SortRequest) (window : Window)
    (reads : Sql.Spells Anything ("SELECT " ++ "*" ++ " FROM ").toList [] head) :
    (compiler.windowed filter request scope window).Spells Anything
      ((head ++ .keyword compiler.table.name ::
        whereTokens compiler.escapeWildcards (Sql.conditions filter scope)) ++
          (orderTokens (request.resolveWith compiler.defaultSort) ++
            [.keyword "LIMIT", .value (.integer (Int64.ofNat window.limit.toNat)),
              .keyword "OFFSET", .value (.integer window.offset)])) := by
  have limit : Sql.Spells Anything " LIMIT ".toList [] [.keyword "LIMIT"] := fun _ _ _ => rfl
  have offset : Sql.Spells Anything " OFFSET ".toList [] [.keyword "OFFSET"] := fun _ _ _ => rfl
  have limited := ((sortedRows compiler filter scope request reads).sql_apart rfl limit).bind
    (.integer (Int64.ofNat window.limit.toNat))
  have placed := (limited.sql offset).bind (.integer window.offset)
  exact placed.congr (by simp)

end

theorem tokens_finish (spells : draft.Spells allowed read) (finished : allowed []) :
    draft.finish.tokens = read := by
  have whole := spells [] [] finished
  rw [List.append_nil, List.append_nil] at whole
  exact whole.trans (List.append_nil read)

end Spells

end Draft

end LogSieve.Sql
